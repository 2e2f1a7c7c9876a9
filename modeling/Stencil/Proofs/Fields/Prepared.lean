import Mathlib.Data.List.Induction
import Stencil.Proofs.Text.Cleansing
import Stencil.Proofs.Fields.Record

/-!
# What a validator leaves stored

A field that has been prepared is not changed by being prepared once more. Either every
initializer leaves the outcome alone, or texts and lists are both asked for, and then the
outcome is the same whatever was stored. Of the rules only that of a checkbox stores
something else.
-/
namespace Stencil

/-- A fold whose steps all leave the start alone. -/
theorem foldl_eq_self {α β : Type} {f : α → β → α} {start : α} {items : List β}
    (same : ∀ item ∈ items, f start item = start) : items.foldl f start = start := by
  induction items with
  | nil => rfl
  | cons first rest ih =>
    rw [List.foldl_cons, same first List.mem_cons_self]
    exact ih fun item member => same item (List.mem_cons_of_mem _ member)

/-- The text that is stored; anything but a text counts as empty. -/
def storedText : Option Value → List Char
  | some (.string s) => s.toList
  | _ => []

/-- The items of the list that is stored; anything but a list counts as empty. -/
def storedItems : Option Value → List Value
  | some (.array items) => items
  | _ => []

namespace Initializer

/-- What an initializer does to a text, if it is one that leaves a text. -/
def cleansing? : Initializer → Option (List Char → List Char)
  | .ensureString => some id
  | .stripControl keepWhitespace => some (Text.stripControl keepWhitespace)
  | .stripMarkup => some Text.stripMarkup
  | .removeChars chars => some (Text.removeChars chars.toList)
  | .keepChars chars => some (Text.keepChars chars.toList)
  | .getValue | .ensureList | .getFile => none

theorem cleanses {initializer : Initializer} {change : List Char → List Char}
    (given : initializer.cleansing? = some change) : Text.Cleanses change := by
  cases initializer with
  | ensureString =>
    cases given
    exact Text.cleanses_id
  | stripMarkup =>
    cases given
    exact Text.cleanses_stripMarkup
  | stripControl keepWhitespace =>
    cases given
    exact Text.cleanses_filter _
  | removeChars chars =>
    cases given
    exact Text.cleanses_filter _
  | keepChars chars =>
    cases given
    exact Text.cleanses_filter _
  | _ => cases given

/-- What is stored behind an initializer, if the value at hand is the one that is stored. -/
def settle (stored : Option Value) (initializer : Initializer) : Option Value :=
  match initializer.cleansing? with
  | some change => some (.string (String.ofList (change (storedText stored))))
  | none => if initializer = .ensureList then some (.array (storedItems stored)) else stored

/-- What is stored behind some initializers. -/
def settleAll (initializers : List Initializer) (stored : Option Value) : Option Value :=
  initializers.foldl settle stored

variable {initializer : Initializer} {initializers : List Initializer}
  {change : List Char → List Char} {stored : Option Value}

theorem settle_of_cleansing? (given : initializer.cleansing? = some change)
    (stored : Option Value) :
    settle stored initializer = some (.string (String.ofList (change (storedText stored)))) := by
  rw [settle, given]

theorem settle_of_none (none : initializer.cleansing? = none) (noList : initializer ≠ .ensureList)
    (stored : Option Value) : settle stored initializer = stored := by
  rw [settle, none]
  exact if_neg noList

@[simp]
theorem settle_ensureList (stored : Option Value) :
    settle stored .ensureList = some (.array (storedItems stored)) := rfl

@[simp]
theorem storedText_string (text : List Char) :
    storedText (some (.string (String.ofList text))) = text := by
  rw [storedText, String.toList_ofList]

private theorem settleAll_concat (front : List Initializer) (last : Initializer)
    (stored : Option Value) :
    settleAll (front ++ [last]) stored = settle (settleAll front stored) last := by
  rw [settleAll, List.foldl_append]
  rfl

/-- A text that an initializer leaves alone is one its cleansing has nothing to take out of. -/
theorem cleansed_of_settle (given : initializer.cleansing? = some change)
    (same : settle stored initializer = stored) : change (storedText stored) = storedText stored := by
  rw [settle_of_cleansing? given] at same
  have text := congrArg storedText same
  rwa [storedText_string] at text

/-- What cleanses a text behind other initializers does not undo what these are for. -/
private theorem settled_behind_cleansing {last : Initializer} {cleanse : List Char → List Char}
    (given : last.cleansing? = some cleanse) (noList : initializer ≠ .ensureList)
    (same : settle stored initializer = stored) :
    settle (settle stored last) initializer = settle stored last := by
  rw [settle_of_cleansing? given]
  cases own : initializer.cleansing? with
  | none => exact settle_of_none own noList _
  | some change =>
    have part : change (cleanse (storedText stored)) = cleanse (storedText stored) :=
      (cleanses own).part ((cleanses given).sublist _) (cleansed_of_settle own same)
    rw [settle_of_cleansing? own, storedText_string, part]

private theorem settled_again (given : initializer.cleansing? = some change)
    (stored : Option Value) :
    settle (settle stored initializer) initializer = settle stored initializer := by
  rw [settle_of_cleansing? given, settle_of_cleansing? given, storedText_string,
    (cleanses given).again]

/-- Either every initializer leaves the outcome alone, or it does not depend on what was
stored. -/
theorem settled_or_constant (initializers : List Initializer) :
    (∀ stored, ∀ initializer ∈ initializers,
      settle (settleAll initializers stored) initializer = settleAll initializers stored) ∨
    (.ensureList ∈ initializers ∧
      ∀ a b, settleAll initializers a = settleAll initializers b) := by
  -- The initializer that is added comes last, so it meets an outcome of the others.
  induction initializers using List.reverseRecOn with
  | nil => exact .inl fun _ _ => nofun
  | append_singleton front last ih =>
    simp only [settleAll_concat, List.mem_append, List.mem_singleton]
    rcases ih with settled | ⟨list, constant⟩
    · cases given : last.cleansing? with
      | some cleanse =>
        by_cases list : .ensureList ∈ front
        · -- A list counts as empty text.
          refine .inr ⟨.inl list, ?_⟩
          have empty (stored : Option Value) : storedText (settleAll front stored) = [] := by
            rw [← settled stored _ list]
            rfl
          intro a b
          rw [settle_of_cleansing? given, settle_of_cleansing? given, empty, empty]
        · refine .inl ?_
          rintro stored initializer (earlier | rfl)
          · apply settled_behind_cleansing given
            · rintro rfl
              exact list earlier
            · exact settled stored initializer earlier
          · exact settled_again given _
      | none =>
        by_cases isList : last = .ensureList
        · subst isList
          by_cases text : ∃ initializer ∈ front, initializer.cleansing?.isSome
          · -- A text counts as empty list.
            obtain ⟨initializer, earlier, isText⟩ := text
            obtain ⟨change, own⟩ := Option.isSome_iff_exists.mp isText
            refine .inr ⟨.inr rfl, ?_⟩
            have empty (stored : Option Value) : storedItems (settleAll front stored) = [] := by
              rw [← settled stored _ earlier, settle_of_cleansing? own]
              rfl
            intro a b
            rw [settle_ensureList, settle_ensureList, empty, empty]
          · refine .inl ?_
            rintro stored initializer (earlier | rfl)
            · have none : initializer.cleansing? = none := by
                rw [← Option.not_isSome_iff_eq_none]
                exact fun isText => text ⟨initializer, earlier, isText⟩
              by_cases same : initializer = .ensureList
              · subst same
                rfl
              · exact settle_of_none none same _
            · rfl
        · refine .inl ?_
          intro stored initializer member
          rw [settle_of_none given isList]
          rcases member with earlier | rfl
          · exact settled stored initializer earlier
          · exact settle_of_none given isList _
    · refine .inr ⟨.inl list, ?_⟩
      intro a b
      rw [constant a b]

/-- A second time the initializers leave what the first time has left. -/
private theorem settleAll_again (initializers : List Initializer) (stored : Option Value) :
    settleAll initializers (settleAll initializers stored) = settleAll initializers stored := by
  rcases settled_or_constant initializers with settled | ⟨-, constant⟩
  · exact foldl_eq_self (settled stored)
  · exact constant _ _

end Initializer

/-! ### Fields -/

/-- A field whose value at hand is the one that is stored. -/
def FieldState.holding (upload : Option Upload) (stored : Option Value) : FieldState where
  value := stored.getD .null
  upload
  stored

/-- Whether some initializers look up the value before they put one at hand. -/
def Initializer.readValue : List Initializer → Bool
  | .getFile :: rest => readValue rest
  | .getValue :: _ => true
  | _ => false

/-- The upload at hand behind an initializer. -/
def Initializer.uploadBehind (request : Request) (name : String) (upload : Option Upload) :
    Initializer → Option Upload
  | .getFile => request.files.get? name
  | _ => upload

section

variable (request : Request) (name : String) (upload : Option Upload)

private theorem Initializer.apply_holding (stored : Option Value) (initializer : Initializer) :
    initializer.apply request name (.holding upload stored)
      = .holding (initializer.uploadBehind request name upload) (settle stored initializer) := by
  -- A value that is no text counts as the empty one.
  have text : (FieldState.holding upload stored).text = storedText stored := by
    cases stored with
    | none => rfl
    | some value => cases value <;> rfl
  cases initializer with
  | getValue => rfl
  | getFile => rfl
  | ensureList =>
    cases stored with
    | none => rfl
    | some value => cases value <;> rfl
  | ensureString =>
    cases stored with
    | none => rfl
    | some value =>
      cases value with
      | string s =>
        have same : settle (some (.string s)) .ensureString = some (.string s) := by
          simp [settle, cleansing?, storedText]
        rw [same]
        rfl
      | _ => rfl
  | _ =>
    rw [apply, FieldState.changeText, text]
    rfl

private theorem Initializer.foldl_apply_holding (initializers : List Initializer)
    (stored : Option Value) : initializers.foldl (apply request name) (.holding upload stored)
      = .holding (initializers.foldl (uploadBehind request name) upload)
          (settleAll initializers stored) := by
  induction initializers generalizing upload stored with
  | nil => rfl
  | cons first rest ih =>
    rw [List.foldl_cons, apply_holding, ih]
    rfl

/-- Where the value is not looked up, what was stored does not count. -/
theorem Initializer.value_foldl_apply {initializers : List Initializer}
    (unread : readValue initializers = false) (a b : Option Value) :
    (initializers.foldl (apply request name) { value := .null, upload, stored := a }).value
      = (initializers.foldl (apply request name) { value := .null, upload, stored := b }).value := by
  induction initializers generalizing upload with
  | nil => rfl
  | cons first rest ih =>
    cases first with
    | getFile => exact ih _ unread
    | getValue => cases unread
    -- Any other initializer puts a value at hand that it also stores.
    | _ => rfl

/-- Initializers that start over from what they have stored come to the same. -/
theorem Initializer.foldl_apply_again (initializers : List Initializer) (stored : Option Value) :
    let prepare (stored : Option Value) :=
      initializers.foldl (apply request name) { value := .null, upload, stored }
    prepare (prepare stored).stored = prepare stored := by
  induction initializers generalizing upload with
  | nil => rfl
  | cons first rest ih =>
    cases first with
    | getFile => exact ih _
    | getValue =>
      -- From here on the value at hand is the one that is stored.
      intro prepare
      have prepared (stored : Option Value) : prepare stored = .holding
          (rest.foldl (uploadBehind request name) upload) (settleAll rest stored) :=
        foldl_apply_holding request name upload rest stored
      rw [prepared, prepared]
      exact congrArg _ (settleAll_again rest stored)
    -- Any other initializer has no value at hand, so what was stored does not count.
    | _ => rfl

end

/-- To prepare a field once more changes nothing. -/
theorem FieldValidator.prepared_again (validator : FieldValidator) (request : Request)
    (stored : Option Value) :
    validator.prepared request (validator.prepared request stored).stored
      = validator.prepared request stored :=
  Initializer.foldl_apply_again request validator.name none validator.initializers stored

theorem FieldValidator.text_prepared {validator : FieldValidator}
    (unread : Initializer.readValue validator.initializers = false) (request : Request)
    (a b : Option Value) :
    (validator.prepared request a).text = (validator.prepared request b).text := by
  have value : (validator.prepared request a).value = (validator.prepared request b).value :=
    Initializer.value_foldl_apply request validator.name none unread a b
  rw [FieldState.text, FieldState.text, value]

/-- A field that first looks up its value is what its initializers make of that. -/
theorem FieldValidator.prepared_of_getValue {validator : FieldValidator}
    {initializers : List Initializer} (reads : validator.initializers = .getValue :: initializers)
    (request : Request) (stored : Option Value) :
    (validator.prepared request stored).stored = Initializer.settleAll initializers stored := by
  rw [prepared, reads]
  exact congrArg FieldState.stored
    (Initializer.foldl_apply_holding request validator.name none initializers stored)

/-! ### Rules -/

/-- The first rule is asked first. -/
theorem firstVerdict_cons (surroundings : Surroundings) (state : FieldState) (rule : Rule)
    (rest : List Rule) : firstVerdict surroundings state (rule :: rest) =
      match rule.check surroundings state with
      | .passed => firstVerdict surroundings state rest
      | verdict => verdict := rfl

section

variable {surroundings : Surroundings} {state : FieldState} {value : Value}

/-- What is said in the end is said by one of the rules. -/
theorem exists_of_firstVerdict {rules : List Rule} {verdict : Verdict}
    (said : firstVerdict surroundings state rules = verdict) (matched : verdict ≠ .passed) :
    ∃ rule ∈ rules, rule.check surroundings state = verdict := by
  induction rules with
  | nil => exact absurd said.symm matched
  | cons rule rest ih =>
    rw [firstVerdict_cons] at said
    cases checked : rule.check surroundings state with
    | passed =>
      rw [checked] at said
      obtain ⟨later, member, told⟩ := ih said
      exact ⟨later, List.mem_cons_of_mem _ member, told⟩
    | _ =>
      rw [checked] at said
      exact ⟨rule, List.mem_cons_self, checked.trans said⟩

private theorem Verdict.failedIf_ne_replaced (wrong : Bool) (message : String) :
    failedIf wrong message ≠ .replaced value := by
  cases wrong with
  | true => nofun
  | false => nofun

private theorem missing_ne_replaced (demanded : Bool) (group : Option String) (message : String) :
    missing surroundings demanded group message ≠ .replaced value := by
  unfold missing
  split
  · nofun
  · nofun

/-- Only the rule of a checkbox puts another value in place. -/
theorem Rule.replaced_of_check {rule : Rule}
    (replaced : rule.check surroundings state = .replaced value) :
    ∃ on off, rule = .checkboxOnOff on off ∧ value = .string off := by
  cases rule with
  | checkboxOnOff on off =>
    rw [check] at replaced
    split at replaced
    · cases replaced
    · cases replaced
      exact ⟨on, off, rfl, rfl⟩
  | required | fileRequired =>
    rw [check] at replaced
    split at replaced
    · exact absurd replaced (missing_ne_replaced _ _ _)
    · cases replaced
  | pattern | allInOptions =>
    simp only [check] at replaced
    split at replaced
    · exact absurd replaced (Verdict.failedIf_ne_replaced _ _)
    · cases replaced
  | uploadError =>
    rw [check] at replaced
    split at replaced
    all_goals cases replaced
  | _ => exact absurd replaced (Verdict.failedIf_ne_replaced _ _)

end

/-- Without the rule of a checkbox a field keeps what its initializers have left. -/
theorem FieldValidator.value_run {validator : FieldValidator}
    (noCheckbox : ∀ on off, .checkboxOnOff on off ∉ validator.rules) (surroundings : Surroundings)
    (record : FieldRecord) : (validator.run surroundings record).value
      = (validator.prepared surroundings.request record.value).stored := by
  unfold run
  dsimp only
  split
  · rfl
  · rfl
  · rfl
  · next value replaced =>
    obtain ⟨rule, member, checked⟩ := exists_of_firstVerdict replaced nofun
    obtain ⟨on, off, rfl, -⟩ := Rule.replaced_of_check checked
    exact absurd member (noCheckbox on off)

end Stencil
