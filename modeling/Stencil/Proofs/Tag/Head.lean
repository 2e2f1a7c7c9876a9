import Stencil.Proofs.Related
import Stencil.Tag.Head

/-!
# Heads at different places

What tags do depends on the place they stand at only in the errors they raise. Heads
are alike if they agree but for their places, and those are related; the errors raised
about them are then alike too. With equal places this is equality.
-/
namespace Stencil

variable {p : Location → Location → Prop}

/-- The same tag, at places that are related. -/
structure TagRef.Alike (p : Location → Location → Prop) (a b : TagRef) : Prop where
  namespaceName : a.namespaceName = b.namespaceName
  name : a.name = b.name
  location : p a.location b.location

/-- The same head, at places that are related. -/
structure Head.Alike (p : Location → Location → Prop) (a b : Head) : Prop where
  namespaceName : a.namespaceName = b.namespaceName
  name : a.name = b.name
  attributes : a.attributes = b.attributes
  location : p a.location b.location

/-- The errors about what is in a tag, as opposed to how tags are nested; the same
error on both sides, at places that are related. -/
inductive ContentErrors (p : Location → Location → Prop) : CompileError → CompileError → Prop where
  | missingAttribute {a b : TagRef} (key : String) : a.Alike p b →
      ContentErrors p (.missingAttribute a key) (.missingAttribute b key)
  | missingComparison {a b : TagRef} : a.Alike p b →
      ContentErrors p (.missingComparison a) (.missingComparison b)
  | invalidAttribute {a b : TagRef} (key : String) (fault : AttributeFault) : a.Alike p b →
      ContentErrors p (.invalidAttribute a key fault) (.invalidAttribute b key fault)
  | duplicateFieldId {a b : TagRef} (id : String) : a.Alike p b →
      ContentErrors p (.duplicateFieldId a id) (.duplicateFieldId b id)
  | fieldOutsideForm {a b : TagRef} : a.Alike p b →
      ContentErrors p (.fieldOutsideForm a) (.fieldOutsideForm b)
  | nestedForm {a b : TagRef} : a.Alike p b → ContentErrors p (.nestedForm a) (.nestedForm b)
  | unknownBaseType {a b : TagRef} (base : String) : a.Alike p b →
      ContentErrors p (.unknownBaseType a base) (.unknownBaseType b base)
  | expression {a b : Location} (source : String) (error : Expr.ParseError) : p a b →
      ContentErrors p (.expression a source error) (.expression b source error)

theorem TagRef.Alike.eq {a b : TagRef} (alike : a.Alike (· = ·) b) : a = b := by
  cases a
  cases b
  simpa using ⟨alike.namespaceName, alike.name, alike.location⟩

/-- At equal places the errors are equal. -/
theorem ContentErrors.eq {e f : CompileError} (alike : ContentErrors (· = ·) e f) : e = f := by
  cases alike with
  | missingAttribute key alike => rw [alike.eq]
  | missingComparison alike => rw [alike.eq]
  | invalidAttribute key fault alike => rw [alike.eq]
  | duplicateFieldId id alike => rw [alike.eq]
  | fieldOutsideForm alike => rw [alike.eq]
  | nestedForm alike => rw [alike.eq]
  | unknownBaseType base alike => rw [alike.eq]
  | expression source error same => rw [same]

/-- At equal places computations with the same results are equal. -/
theorem Related.eq_of_content {α : Type} {x y : Except CompileError α}
    (related : Related (ContentErrors (· = ·)) (· = ·) x y) : x = y :=
  (related.mono (fun _ _ => ContentErrors.eq) fun _ _ => id).eq

/-- What fails like itself fails with an error about what is in a tag. -/
theorem Related.content_of_error {α β : Type} {R : α → β → Prop} {x : Except CompileError α}
    {y : Except CompileError β} (related : Related (ContentErrors (· = ·)) R x y)
    {error : CompileError} (failed : x = .error error) : ContentErrors (· = ·) error error := by
  obtain ⟨other, -, content⟩ := related.exists_of_error failed
  have same := content.eq
  exact same ▸ content

theorem Head.ref_setDefault (head : Head) (key value : String) :
    (head.setDefault key value).ref = head.ref := by
  rw [Head.setDefault]
  split <;> rfl

namespace Head.Alike

variable {a b : Head}

theorem refl (head : Head) : head.Alike (· = ·) head := ⟨rfl, rfl, rfl, rfl⟩

/-- At the same place heads that are alike are equal. -/
theorem eq (alike : a.Alike (· = ·) b) : a = b := by
  cases a
  cases b
  simpa using ⟨alike.namespaceName, alike.name, alike.attributes, alike.location⟩

/-- Only the place differs. -/
theorem eq_moved (alike : a.Alike p b) : b = { a with location := b.location } := by
  cases a
  cases b
  simpa using ⟨alike.namespaceName.symm, alike.name.symm, alike.attributes.symm⟩

theorem ref (alike : a.Alike p b) : a.ref.Alike p b.ref :=
  ⟨alike.namespaceName, alike.name, alike.location⟩

theorem attr? (alike : a.Alike p b) : a.attr? = b.attr? := by
  funext key
  rw [Head.attr?, Head.attr?, alike.attributes]

theorem attrD (alike : a.Alike p b) : a.attrD = b.attrD := by
  funext key fallback
  rw [Head.attrD, Head.attrD, alike.attr?]

theorem flag (alike : a.Alike p b) : a.flag = b.flag := by
  funext key fallback
  rw [Head.flag, Head.flag, alike.attr?]

theorem htmlAttributes (alike : a.Alike p b) : a.htmlAttributes = b.htmlAttributes := by
  funext changes
  rw [Head.htmlAttributes, Head.htmlAttributes, alike.attributes]

theorem setAttr (alike : a.Alike p b) (key value : String) :
    (a.setAttr key value).Alike p (b.setAttr key value) where
  namespaceName := alike.namespaceName
  name := alike.name
  attributes := by simp only [Head.setAttr, alike.attributes]
  location := alike.location

theorem setDefault (alike : a.Alike p b) (key value : String) :
    (a.setDefault key value).Alike p (b.setDefault key value) := by
  rw [Head.setDefault, Head.setDefault, alike.attr?]
  split
  · exact alike
  · exact alike.setAttr key value

theorem required (alike : a.Alike p b) (key : String) :
    Related (ContentErrors p) (· = ·) (a.required key) (b.required key) := by
  rw [Head.required, Head.required, alike.attr?]
  split
  · exact .ok rfl
  · exact .error (.missingAttribute key alike.ref)

end Head.Alike

end Stencil
