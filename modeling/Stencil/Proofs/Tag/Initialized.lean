import Stencil.Proofs.Tag.Init

/-!
# Initialized tags

What can be relied on once a tag has been initialized: forms have an id and stand in no
other form, fields and groups stand in a form, and every field says whether it is
required. To the form around it a tag can only add the id of a field.
-/
namespace Stencil

def TagKind.isGroup : TagKind → Bool
  | .group _ => true
  | _ => false

theorem TagKind.validates_of_isGroup {kind : TagKind} (group : kind.isGroup) :
    kind.validates = false := by
  cases kind <;> first | rfl | cases group

theorem TagKind.isForm_of_validates {kind : TagKind} (field : kind.validates) :
    kind.isForm = false := by
  cases kind <;> first | rfl | cases field

namespace Head

theorem attr?_setAttr (head : Head) (key value other : String) :
    (head.setAttr key value).attr? other = if other = key then some value else head.attr? other :=
  Dict.get?_insert head.attributes key value other

theorem attr?_setDefault (head : Head) (key value other : String) :
    (head.setDefault key value).attr? other
      = if other = key then some (head.attrD key value) else head.attr? other := by
  unfold setDefault
  cases present : head.attr? key with
  | none => simp [attr?_setAttr, attrD, present]
  | some given =>
    by_cases same : other = key
    · simp [same, attrD, present]
    · simp [same]

theorem required_eq_ok {head : Head} {key value : String} (done : head.required key = .ok value) :
    head.attr? key = some value := by
  unfold required at done
  split at done
  · next given here =>
    cases done
    exact here
  · cases done

end Head

namespace Opening

variable {config : Config} {a b : Opening}

theorem isForm_of_form? {formId : NodeId} {form : Node} (around : a.form? = some (formId, form)) :
    form.kind.isForm := by
  simp only [form?, Option.bind_eq_some_iff, Option.map_eq_some_iff] at around
  obtain ⟨id, first, node, found, same⟩ := around
  cases same
  simpa [found] using List.find?_some first

/-- Registering a tag adds an id to those of the form around it, and does nothing else. -/
theorem register_eq_ok {form : Head} (done : a.register = .ok (form, b)) :
    a.form?.isSome ∧ ∃ ids, b = { a with arena := a.withForm (some (.form ids)) } := by
  unfold register at done
  split at done
  · cases done
  · next formId node around =>
    obtain ⟨id, -, done⟩ := bind_eq_ok.mp done
    have isForm := isForm_of_form? around
    split at done
    · cases done
    · next kind registered =>
      cases done
      cases known : node.kind with
      | form ids =>
        rw [known, TagKind.registerField?] at registered
        split at registered
        · cases registered
        · cases registered
          exact ⟨by rw [around]; rfl, ids ++ [id], by simp only [withForm, around]⟩
      | _ =>
        rw [known] at isForm
        cases isForm

/-- What is known of an opening `b` after the initialization of `a`. -/
structure Completed (a b : Opening) : Prop where
  /-- The form around it may have got another list of ids. -/
  arena : ∃ ids : Option (List String), b.arena = a.withForm (ids.map .form)
  outermost : b.kind.isForm → a.form? = none
  identified : b.kind.isForm → (b.head.attr? "id").isSome
  enclosed : b.kind.validates ∨ b.kind.isGroup → a.form?.isSome
  required : b.kind.validates → (b.head.attr? "x:required").isSome

/-- What is known of a tag of which nothing is demanded. -/
theorem completed_of_arena (same : b.arena = a.arena) (noForm : b.kind.isForm = false)
    (noField : b.kind.validates = false) (noGroup : b.kind.isGroup = false) : Completed a b := by
  constructor
  · exact ⟨none, same⟩
  all_goals simp [noForm, noField, noGroup]

theorem initForm_eq_ok (done : a.initForm config = .ok b) :
    b.arena = a.arena ∧ a.form? = none ∧ (b.head.attr? "id").isSome ∧ b.kind = a.kind := by
  simp only [initForm] at done
  split at done
  · cases done
  · next alone =>
    have outermost : a.form? = none := by simpa using alone
    obtain ⟨id, given, done⟩ := bind_eq_ok.mp done
    have given := Head.required_eq_ok given
    split at done
    · split at done
      · cases done
      · cases done
        exact ⟨rfl, outermost, by simp [Head.attr?_setDefault, given], rfl⟩
    · cases done
      exact ⟨rfl, outermost, by simp [Head.attr?_setDefault, given], rfl⟩

theorem completed_of_initField {messages : FieldMessages} (field : a.kind.validates)
    (done : a.initField messages = .ok b) : Completed a b ∧ b.kind = a.kind := by
  obtain ⟨⟨form, registered⟩, register, done⟩ := bind_eq_ok.mp done
  obtain ⟨around, ids, rfl⟩ := register_eq_ok register
  obtain ⟨id, -, done⟩ := bind_eq_ok.mp done
  cases done
  have noForm := TagKind.isForm_of_validates field
  constructor
  · constructor
    · exact ⟨some ids, rfl⟩
    · simp [noForm]
    · simp [noForm]
    · intro _
      exact around
    · intro _
      simp [Head.attr?_setDefault]
  · rfl

private theorem completed_of_initText {style : TextKind} (field : a.kind.validates)
    (done : a.initText config style = .ok b) : Completed a b := by
  obtain ⟨opening, init, done⟩ := bind_eq_ok.mp done
  obtain ⟨⟨arena, outermost, identified, enclosed, required⟩, kind⟩ :=
    completed_of_initField field init
  cases done
  -- The head may get a pattern, which none of this is about.
  constructor
  · exact arena
  · exact outermost
  · simp [kind, TagKind.isForm_of_validates field]
  · exact enclosed
  · intro validates
    have present := required validates
    cases style <;> simp [Head.attr?_setAttr, present]

private theorem completed_of_initCheckbox (field : a.kind.validates)
    (done : a.initCheckbox config = .ok b) : Completed a b := by
  obtain ⟨opening, init, done⟩ := bind_eq_ok.mp done
  obtain ⟨-, -, done⟩ := bind_eq_ok.mp done
  obtain ⟨-, -, done⟩ := bind_eq_ok.mp done
  cases done
  exact (completed_of_initField field init).1

private theorem completed_of_initGroup (done : a.initGroup = .ok b) : Completed a b := by
  obtain ⟨⟨form, registered⟩, register, done⟩ := bind_eq_ok.mp done
  obtain ⟨around, ids, rfl⟩ := register_eq_ok register
  obtain ⟨source, -, done⟩ := bind_eq_ok.mp done
  split at done
  · cases done
    constructor
    · exact ⟨some ids, rfl⟩
    · simp [TagKind.isForm]
    · simp [TagKind.isForm]
    · intro _
      exact around
    · simp [TagKind.validates]
  · cases done

theorem completed_of_init (done : a.init config = .ok b) : Completed a b := by
  obtain ⟨head, kind, parent, arena, statics⟩ := a
  unfold init at done
  cases kind with
  | root =>
    cases done
    exact completed_of_arena rfl rfl rfl rfl
  | button style =>
    cases done
    exact completed_of_arena rfl rfl rfl rfl
  | errors =>
    cases done
    exact completed_of_arena rfl rfl rfl rfl
  | form ids =>
    -- A form has an id and stands in no other form.
    obtain ⟨arena, outermost, identified, kind⟩ := initForm_eq_ok done
    constructor
    · exact ⟨none, arena⟩
    · intro _
      exact outermost
    · intro _
      exact identified
    · simp [kind, TagKind.validates, TagKind.isGroup]
    · simp [kind, TagKind.validates]
  | text style => exact completed_of_initText rfl done
  | checkbox => exact completed_of_initCheckbox rfl done
  | select multiple => exact (completed_of_initField rfl done).1
  | radio => exact (completed_of_initField rfl done).1
  | file => exact (completed_of_initField rfl done).1
  | group condition => exact completed_of_initGroup done
  | staticIf comparison =>
    obtain ⟨condition, -, done⟩ := bind_eq_ok.mp done
    cases done
    exact completed_of_arena rfl rfl rfl rfl
  | staticSet =>
    obtain ⟨set, -, done⟩ := bind_eq_ok.mp done
    cases done
    exact completed_of_arena rfl rfl rfl rfl

end Opening

end Stencil
