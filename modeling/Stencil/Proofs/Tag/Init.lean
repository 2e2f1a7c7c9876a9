import Stencil.Proofs.Tag.Head
import Stencil.Tag.Init

/-!
# What the initialization of a tag depends on

Of the tags around it a tag looks at one only, the form it is in, and it changes at
most the kind of that form. Two openings that agree on their tag, on the static
attributes and on that form are therefore initialized alike, wherever the form is kept.
-/
namespace Stencil

variable {p : Location → Location → Prop}

/-- The same comparison, or the same error. -/
theorem Comparison.ofHead_alike {a b : Head} (alike : a.Alike p b) :
    Related (ContentErrors p) (· = ·) (ofHead a) (ofHead b) := by
  have attr {f g : String → Comparison} (same : f = g) : Related (ContentErrors p) (· = ·)
      ((a.required "attr").map f) ((b.required "attr").map g) :=
    (alike.required "attr").map fun _ _ equal => by rw [same, equal]
  rw [ofHead, ofHead, alike.attr?]
  split
  · exact attr rfl
  · exact attr rfl
  · exact attr rfl
  · exact attr rfl
  · exact .ok rfl
  · exact .ok rfl
  · exact .error (.missingComparison alike.ref)

private theorem Statics.set_alike {a b : Head} (alike : a.Alike p b) (statics : Statics) :
    Related (ContentErrors p) (· = ·) (statics.set a) (statics.set b) := by
  rw [Statics.set, Statics.set, alike.attrD]
  exact (alike.required "name").map fun _ _ equal => by rw [equal]

private theorem urlProtocols_alike {a b : Head} (alike : a.Alike p b) :
    urlProtocols a = urlProtocols b := by
  rw [urlProtocols, urlProtocols, alike.flag]

namespace Opening

/-- What a tag sees of a form around it is alike. -/
def FormsAlike (p : Location → Location → Prop) (a b : NodeId × Node) : Prop :=
  a.2.head.Alike p b.2.head ∧ a.2.kind = b.2.kind

/-- The same tag is being opened, in the same form. -/
structure Alike (p : Location → Location → Prop) (a b : Opening) : Prop where
  head : a.head.Alike p b.head
  kind : a.kind = b.kind
  statics : a.statics = b.statics
  form : Option.Rel (FormsAlike p) a.form? b.form?

/-- The arena after the form around a tag has got a new kind, or none. -/
def withForm (opening : Opening) : Option TagKind → Arena
  | none => opening.arena
  | some kind =>
    match opening.form? with
    | some (formId, _) => opening.arena.update formId fun node => { node with kind }
    | none => opening.arena

theorem withForm_of_none {opening : Opening} (alone : opening.form? = none)
    (change : Option TagKind) : opening.withForm change = opening.arena := by
  cases change with
  | none => rfl
  | some kind => simp only [withForm, alone]

theorem withForm_of_some {opening : Opening} {formId : NodeId} {form : Node}
    (around : opening.form? = some (formId, form)) (kind : TagKind) :
    opening.withForm (some kind) = opening.arena.update formId fun node => { node with kind } := by
  simp only [withForm, around]

/-- What is left of two openings `a` and `b` has the same tag, and the same has been
done to the forms around `a` and `b`. -/
structure Initialized (p : Location → Location → Prop) (a b a' b' : Opening) : Prop where
  head : a'.head.Alike p b'.head
  kind : a'.kind = b'.kind
  statics : a'.statics = b'.statics
  forms : ∃ change, a'.arena = a.withForm change ∧ b'.arena = b.withForm change

variable {a b a' b' : Opening}

theorem Alike.initialized (alike : Alike p a b) : Initialized p a b a b :=
  ⟨alike.head, alike.kind, alike.statics, none, rfl, rfl⟩

/-- A new head changes nothing else. -/
theorem Initialized.withHead (done : Initialized p a b a' b') {head head' : Head}
    (alike : head.Alike p head') :
    Initialized p a b { a' with head := head } { b' with head := head' } :=
  ⟨alike, done.kind, done.statics, done.forms⟩

private theorem register_alike (alike : Alike p a b) :
    Related (ContentErrors p) (fun x y => x.1.Alike p y.1 ∧ Initialized p a b x.2 y.2)
      a.register b.register := by
  have around := alike.form
  unfold register
  split
  next absent =>
    rw [absent] at around
    cases found : b.form? with
    | some form => rw [found] at around; cases around
    | none => exact .error (.fieldOutsideForm alike.head.ref)
  next formId form here =>
    rw [here] at around
    cases found : b.form? with
    | none => rw [found] at around; cases around
    | some other =>
      rw [found] at around
      cases around with
      | some same =>
        refine (alike.head.required "id").bind fun id _ equal => ?_
        subst equal
        obtain ⟨heads, kinds⟩ := same
        rw [kinds]
        -- Both forms know the same fields, so both take the tag or neither does.
        cases registered : other.2.kind.registerField? id with
        | none => exact .error (.duplicateFieldId id heads.ref)
        | some kind =>
          refine .ok ⟨heads, alike.head, alike.kind, alike.statics, some kind, ?_, ?_⟩
          · exact (withForm_of_some here kind).symm
          · exact (withForm_of_some found kind).symm

private theorem initField_alike (messages : FieldMessages) (alike : Alike p a b) :
    Related (ContentErrors p) (Initialized p a b)
      (a.initField messages) (b.initField messages) := by
  refine (register_alike alike).bind fun x y registered => ?_
  obtain ⟨forms, done⟩ := registered
  refine (done.head.required "id").bind fun id _ equal => ?_
  subst equal
  rw [forms.attrD]
  have named := done.head.setDefault "name" id
  have required := named.setDefault "x:required" (y.1.attrD "x:required" "1")
  have worded := required.setDefault "x:required-err" messages.required
  exact .ok (done.withHead (worded.setDefault "x:invalid-err" messages.invalid))

private theorem initForm_alike (config : Config) (alike : Alike p a b) :
    Related (ContentErrors p) (Initialized p a b) (a.initForm config) (b.initForm config) := by
  have around : a.form?.isSome = b.form?.isSome := by
    have related := alike.form
    revert related
    generalize a.form? = form, b.form? = form'
    rintro (_ | _) <;> rfl
  unfold initForm
  rw [around, alike.head.attr?]
  cases b.form?.isSome with
  | true => exact .error (.nestedForm alike.head.ref)
  | false =>
    refine (alike.head.required "id").bind fun _ _ _ => ?_
    have done := alike.initialized.withHead (alike.head.setDefault "x:required" "1")
    cases b.head.attr? "x:extend" with
    | none => exact .ok done
    | some base =>
      cases known : config.baseModels.contains base with
      | false => simpa [known] using .error (.unknownBaseType base alike.head.ref)
      | true => simpa [known] using .ok done

private theorem initText_alike (config : Config) (kind : TextKind) (alike : Alike p a b) :
    Related (ContentErrors p) (Initialized p a b)
      (a.initText config kind) (b.initText config kind) := by
  refine (initField_alike _ alike).bind fun x y done => .ok (done.withHead ?_)
  cases kind with
  | email => exact done.head.setAttr _ _
  | url =>
    simp only [urlProtocols_alike done.head, done.head.flag]
    exact done.head.setAttr _ _
  | text => exact done.head
  | password => exact done.head
  | hidden => exact done.head
  | textarea => exact done.head

private theorem initCheckbox_alike (config : Config) (alike : Alike p a b) :
    Related (ContentErrors p) (Initialized p a b)
      (a.initCheckbox config) (b.initCheckbox config) := by
  refine (initField_alike _ alike).bind fun x y done => ?_
  refine (done.head.required "x:on").bind fun _ _ _ => ?_
  exact (done.head.required "x:off").bind fun _ _ _ => .ok done

private theorem initGroup_alike (alike : Alike p a b) :
    Related (ContentErrors p) (Initialized p a b) a.initGroup b.initGroup := by
  refine (register_alike alike).bind fun x y registered => ?_
  obtain ⟨-, done⟩ := registered
  refine (done.head.required "cond").bind fun source _ equal => ?_
  subst equal
  cases Expr.parse source.toList with
  | ok condition => exact .ok ⟨done.head, rfl, done.statics, done.forms⟩
  | error error => exact .error (.expression source error done.head.location)

/-- Initialization depends on the tag, the static attributes and the form around the
tag only. -/
theorem init_alike (config : Config) (alike : Alike p a b) :
    Related (ContentErrors p) (Initialized p a b) (a.init config) (b.init config) := by
  have unchanged := alike.initialized
  unfold init
  rw [alike.kind]
  cases b.kind with
  | root => exact .ok unchanged
  | button _ => exact .ok unchanged
  | errors => exact .ok unchanged
  | form _ => exact initForm_alike config alike
  | text kind => exact initText_alike config kind alike
  | checkbox => exact initCheckbox_alike config alike
  | select _ => exact initField_alike _ alike
  | radio => exact initField_alike _ alike
  | file => exact initField_alike _ alike
  | group _ => exact initGroup_alike alike
  -- Of the attributes a condition reads none but those that are alike.
  | staticIf _ =>
    refine (Comparison.ofHead_alike alike.head).bind fun _ _ equal => .ok ?_
    subst equal
    exact ⟨alike.head, rfl, alike.statics, unchanged.forms⟩
  | staticSet =>
    rw [alike.statics]
    refine (Statics.set_alike alike.head _).bind fun _ _ equal => .ok ?_
    exact ⟨alike.head, rfl, equal, unchanged.forms⟩

/-- Registering a tag leaves it as it is. -/
theorem head_of_register {form : Head} (done : a.register = .ok (form, b)) : b.head = a.head := by
  unfold register at done
  split at done
  · cases done
  · obtain ⟨id, -, done⟩ := bind_eq_ok.mp done
    split at done
    · cases done
    · cases done
      rfl

private theorem ref_of_initField {messages : FieldMessages} (done : a.initField messages = .ok b) :
    b.head.ref = a.head.ref := by
  obtain ⟨⟨form, registered⟩, register, done⟩ := bind_eq_ok.mp done
  obtain ⟨id, -, done⟩ := bind_eq_ok.mp done
  cases done
  simp only [Head.ref_setDefault, head_of_register register]

private theorem ref_of_initForm {config : Config} (done : a.initForm config = .ok b) :
    b.head.ref = a.head.ref := by
  simp only [initForm] at done
  split at done
  · cases done
  · obtain ⟨id, -, done⟩ := bind_eq_ok.mp done
    split at done
    · split at done
      · cases done
      · cases done
        exact Head.ref_setDefault _ _ _
    · cases done
      exact Head.ref_setDefault _ _ _

/-- A tag keeps its name and its place. -/
theorem ref_of_init {config : Config} (done : a.init config = .ok b) : b.head.ref = a.head.ref := by
  -- No kind of tag changes its own name, whatever else it does to the head.
  unfold init at done
  split at done
  · cases done; rfl
  · cases done; rfl
  · cases done; rfl
  · exact ref_of_initForm done
  · obtain ⟨field, init, done⟩ := bind_eq_ok.mp done
    cases done
    rw [← ref_of_initField init]
    dsimp only
    split <;> rfl
  · obtain ⟨field, init, done⟩ := bind_eq_ok.mp done
    obtain ⟨-, -, done⟩ := bind_eq_ok.mp done
    obtain ⟨-, -, done⟩ := bind_eq_ok.mp done
    cases done
    exact ref_of_initField init
  · exact ref_of_initField done
  · exact ref_of_initField done
  · exact ref_of_initField done
  · obtain ⟨⟨form, registered⟩, register, done⟩ := bind_eq_ok.mp done
    obtain ⟨source, -, done⟩ := bind_eq_ok.mp done
    split at done
    · cases done
      rw [head_of_register register]
    · cases done
  · obtain ⟨comparison, -, done⟩ := bind_eq_ok.mp done
    cases done
    rfl
  · obtain ⟨statics, -, done⟩ := bind_eq_ok.mp done
    cases done
    rfl

end Opening

end Stencil
