import Mathlib.Algebra.Order.BigOperators.Group.List
import Mathlib.Algebra.Order.Group.Nat
import Stencil.Proofs.Text.Search
import Stencil.View

/-!
# Error templates

An error template has marks for the name of a field and for its message. The name is put in
first, and the message into what comes of that. This fills in both independently exactly if
the name adds no mark for the message, be it in itself or together with the template.
-/
namespace Stencil.View

open Text (afterStart? occurrences replaceAll)

def nameMark : List Char := "%param".toList

def messageMark : List Char := "%error".toList

/-- A template with a text for every mark in it. What is put in is not looked at. -/
def filledIn (name message : List Char) : List Char → List Char
  | '%' :: 'p' :: 'a' :: 'r' :: 'a' :: 'm' :: rest => name ++ filledIn name message rest
  | '%' :: 'e' :: 'r' :: 'r' :: 'o' :: 'r' :: rest => message ++ filledIn name message rest
  | c :: rest => c :: filledIn name message rest
  | [] => []

/-- An error template with escaped name and message, each where the template has its mark. -/
def filledError (template name message : String) : String :=
  String.ofList (filledIn (Html.escape name).toList (Html.escape message).toList template.toList)

/-- With this name filled in, a template has the marks for the message it had before. -/
def KeepsMarks (template name : String) : Prop :=
  occurrences messageMark (replaceAll nameMark (Html.escape name).toList template.toList)
    = occurrences messageMark template.toList

instance (template name : String) : Decidable (KeepsMarks template name) :=
  inferInstanceAs (Decidable (_ = _))

/-! ### Marks -/

section

variable {name message template : List Char}

private theorem nameMark_eq : nameMark = ['%', 'p', 'a', 'r', 'a', 'm'] := by decide +kernel

private theorem messageMark_eq : messageMark = ['%', 'e', 'r', 'r', 'o', 'r'] := by decide +kernel

private theorem nameMark_ne_nil : nameMark ≠ [] := by simp [nameMark_eq]

private theorem messageMark_ne_nil : messageMark ≠ [] := by simp [messageMark_eq]

/-- A mark for the message holds no other one, of either kind. -/
private theorem occurrences_messageMark (rest : List Char) :
    occurrences messageMark (messageMark ++ rest) = occurrences messageMark rest + 1 := by
  simp [messageMark_eq, occurrences, afterStart?]

private theorem replaceAll_messageMark (rest : List Char) :
    replaceAll nameMark name (messageMark ++ rest)
      = messageMark ++ replaceAll nameMark name rest := by
  simp [messageMark_eq, nameMark_eq, replaceAll, Text.replaceFrom, afterStart?]

private theorem occurrences_nameMark (rest : List Char) :
    occurrences messageMark (nameMark ++ rest) = occurrences messageMark rest := by
  simp [messageMark_eq, nameMark_eq, occurrences, afterStart?]

private theorem filledIn_cons {c : Char} (noName : afterStart? nameMark (c :: template) = none)
    (noMessage : afterStart? messageMark (c :: template) = none) :
    filledIn name message (c :: template) = c :: filledIn name message template := by
  apply filledIn.eq_3
  · rintro rest rfl rfl
    exact absurd noName (by simp [nameMark_eq, afterStart?])
  · rintro rest rfl rfl
    exact absurd noMessage (by simp [messageMark_eq, afterStart?])

/-- A text starts with either mark, or with a character of no mark. -/
private theorem mark_induction {P : List Char → Prop} (nil : P [])
    (ofName : ∀ rest, P rest → P (nameMark ++ rest))
    (ofMessage : ∀ rest, P rest → P (messageMark ++ rest))
    (other : ∀ c rest, afterStart? nameMark (c :: rest) = none →
      afterStart? messageMark (c :: rest) = none → P rest → P (c :: rest))
    (template : List Char) : P template := by
  have none_of {mark text : List Char} (not : ∀ rest, text ≠ mark ++ rest) :
      afterStart? mark text = none := by
    refine Option.eq_none_iff_forall_ne_some.mpr ?_
    intro rest start
    exact not rest (Text.afterStart?_eq_some.mp start)
  fun_induction filledIn [] [] template with
  | case1 rest ih => exact ofName rest ih
  | case2 rest ih => exact ofMessage rest ih
  | case3 c rest noName noMessage ih =>
    refine other c rest (none_of ?_) (none_of ?_) ih
    · intro after same
      obtain ⟨rfl, rfl⟩ := List.cons.inj same
      exact noName after rfl rfl
    · intro after same
      obtain ⟨rfl, rfl⟩ := List.cons.inj same
      exact noMessage after rfl rfl
  | case4 => exact nil

/-! ### One mark after the other -/

/-- A name does not take marks away from the template. If it adds none, then to put in the name
first and the message after it fills in both. -/
theorem replaceAll_named (name template : List Char) :
    occurrences messageMark template ≤ occurrences messageMark (replaceAll nameMark name template) ∧
    (occurrences messageMark (replaceAll nameMark name template)
        = occurrences messageMark template → ∀ message,
      replaceAll messageMark message (replaceAll nameMark name template)
        = filledIn name message template) := by
  induction template using mark_induction with
  | nil => exact ⟨Nat.le_refl _, fun _ _ => rfl⟩
  | ofName rest ih =>
    obtain ⟨fewer, fills⟩ := ih
    rw [occurrences_nameMark, Text.replaceAll_append nameMark_ne_nil]
    have added := Text.occurrences_le_append messageMark name (replaceAll nameMark name rest)
    refine ⟨Nat.le_trans fewer added, fun same message => ?_⟩
    -- Neither the name nor what follows it has a mark more.
    have apart : occurrences messageMark (name ++ replaceAll nameMark name rest)
        = occurrences messageMark (replaceAll nameMark name rest) := by omega
    rw [Text.replaceAll_append_of_occurrences apart, fills (by omega) message]
    rfl
  | ofMessage rest ih =>
    obtain ⟨fewer, fills⟩ := ih
    rw [replaceAll_messageMark, occurrences_messageMark, occurrences_messageMark]
    refine ⟨Nat.succ_le_succ fewer, fun same message => ?_⟩
    rw [Text.replaceAll_append messageMark_ne_nil, fills (by omega) message]
    rfl
  | other c rest noName noMessage ih =>
    obtain ⟨fewer, fills⟩ := ih
    rw [Text.replaceAll_cons noName, Text.occurrences_cons noMessage]
    have added : occurrences messageMark (replaceAll nameMark name rest)
        ≤ occurrences messageMark (c :: replaceAll nameMark name rest) :=
      Text.occurrences_le_append messageMark [c] _
    refine ⟨Nat.le_trans fewer added, fun same message => ?_⟩
    -- A mark could start in the template and end in the name, but then there would be more.
    have apart : occurrences messageMark ([c] ++ replaceAll nameMark name rest)
        = occurrences messageMark (replaceAll nameMark name rest) := by
      change occurrences messageMark (c :: replaceAll nameMark name rest) = _
      omega
    rw [filledIn_cons noName noMessage, ← fills (by omega) message]
    exact Text.replaceAll_append_of_occurrences apart

/-- Putting in an empty message makes a text shorter by its marks. -/
theorem length_replaceAll_messageMark (text : List Char) :
    (replaceAll messageMark [] text).length + 6 * occurrences messageMark text = text.length := by
  induction text using Text.search_induction messageMark_ne_nil with
  | nil => rfl
  | found rest ih =>
    have six : messageMark.length = 6 := by simp [messageMark_eq]
    rw [Text.replaceAll_append messageMark_ne_nil, occurrences_messageMark, List.length_append,
      List.length_append, six, List.length_nil]
    omega
  | other c rest missing ih =>
    rw [Text.replaceAll_cons missing, Text.occurrences_cons missing, List.length_cons,
      List.length_cons]
    omega

private theorem length_filledIn (name template : List Char) :
    (filledIn name [] template).length + 6 * occurrences messageMark template
      = (replaceAll nameMark name template).length := by
  induction template using mark_induction with
  | nil => rfl
  | ofName rest ih =>
    rw [occurrences_nameMark, Text.replaceAll_append nameMark_ne_nil, List.length_append, ← ih]
    change (name ++ filledIn name [] rest).length + _ = _
    rw [List.length_append, Nat.add_assoc]
  | ofMessage rest ih =>
    have six : messageMark.length = 6 := by simp [messageMark_eq]
    rw [occurrences_messageMark, replaceAll_messageMark, List.length_append, six, ← ih]
    change (filledIn name [] rest).length + _ = _
    omega
  | other c rest noName noMessage ih =>
    rw [filledIn_cons noName noMessage, Text.occurrences_cons noMessage,
      Text.replaceAll_cons noName, List.length_cons, List.length_cons, ← ih]
    omega

end

/-! ### Errors -/

variable {template name : String}

private theorem fillError_eq (keeps : KeepsMarks template name) (message : String) :
    fillError template name message = filledError template name message := by
  rw [fillError, filledError]
  exact congrArg String.ofList ((replaceAll_named _ _).2 keeps _)

/-- The lengths of an error with an empty message. -/
theorem length_fillError (template name : String) :
    (fillError template name "").length
        + 6 * occurrences messageMark
            (replaceAll nameMark (Html.escape name).toList template.toList)
      = (filledError template name "").length + 6 * occurrences messageMark template.toList := by
  have named := length_replaceAll_messageMark
    (replaceAll nameMark (Html.escape name).toList template.toList)
  have both := length_filledIn (Html.escape name).toList template.toList
  have first : (fillError template name "").length = (replaceAll messageMark []
    (replaceAll nameMark (Html.escape name).toList template.toList)).length := String.length_ofList
  have second : (filledError template name "").length
    = (filledIn (Html.escape name).toList [] template.toList).length := String.length_ofList
  omega

private theorem length_fillError_le (template name : String) :
    (fillError template name "").length ≤ (filledError template name "").length := by
  have lengths := length_fillError template name
  have fewer := (replaceAll_named (Html.escape name).toList template.toList).1
  omega

private theorem length_fillError_lt (gains : ¬ KeepsMarks template name) :
    (fillError template name "").length < (filledError template name "").length := by
  have lengths := length_fillError template name
  have fewer := (replaceAll_named (Html.escape name).toList template.toList).1
  unfold KeepsMarks at gains
  omega

/-- For any template and the names of any errors: errors with these names are shown in the order
of the names, the template filled in for each of them independently, exactly if none of the
names adds a mark for the message to the template. -/
theorem renderSegment_eachError_iff (template : String) (errors : Dict String) :
    (∀ context locals, context.errors.keys = errors.keys →
      renderSegment context locals (.eachError template) =
        (String.join (context.errors.entries.map fun error =>
          filledError template error.1 error.2), locals)) ↔
    ∀ name ∈ errors.keys, KeepsMarks template name := by
  constructor
  · intro independent name known
    by_contra gains
    -- With empty messages what is shown would be shorter by the marks that are too many.
    let context : Context := ⟨default, errors.map fun _ _ => ""⟩
    have same : context.errors.keys = errors.keys := by
      simp [context, Dict.keys, Dict.map, Function.comp_def]
    have shown : (errors.entries.map fun error => (fillError template error.1 "").length).sum
        = (errors.entries.map fun error => (filledError template error.1 "").length).sum := by
      have lengths := congrArg (fun shown => shown.1.length) (independent context .empty same)
      simpa [renderSegment, context, Dict.map, String.length_join, Function.comp_def] using lengths
    obtain ⟨error, member, rfl⟩ := List.mem_map.mp known
    refine Nat.ne_of_lt (List.sum_lt_sum _ _ ?_ ?_) shown
    · exact fun error _ => length_fillError_le template error.1
    · exact ⟨error, member, length_fillError_lt gains⟩
  · intro keeps context locals same
    rw [renderSegment]
    congr 2
    apply List.map_congr_left
    intro error member
    have known : error.1 ∈ errors.keys := by
      rw [← same]
      exact List.mem_map_of_mem member
    exact fillError_eq (keeps error.1 known) error.2

example : KeepsMarks "%param (%param%): %error" "<50%>" := by decide +kernel

/-- A field whose name is the mark for the message: what is shown for it is the message, twice,
where its name was to be put in. -/
theorem renderSegment_eachError_refilled :
    let context : Context := ⟨default, .ofList [("%error", "Required")]⟩
    (renderSegment context .empty (.eachError "%param: %error")).1 = "Required: Required" ∧
    String.join (context.errors.entries.map fun error =>
      filledError "%param: %error" error.1 error.2) = "%error: Required" := by
  decide +kernel

end Stencil.View
