import Stencil.Proofs.Tag.Head
import Stencil.Tag.Render

/-!
# What validation and rendering of a tag depend on

The validator a tag contributes to its form and the fragment it leaves behind follow
from its head, its kind and its body. Where it is kept, and what stands in it or
around it, does not matter.
-/
namespace Stencil

variable {p : Location → Location → Prop}

namespace Head

variable {a b : Head}

private theorem bound?_alike {α β : Type} (read : List Char → Except β α)
    (fault : String → β → AttributeFault) (alike : a.Alike p b) (key : String) :
    Related (ContentErrors p) (· = ·) (a.bound? read fault key) (b.bound? read fault key) := by
  unfold bound?
  rw [alike.attr?]
  cases b.attr? key with
  | none => exact .ok rfl
  | some written =>
    dsimp only
    cases read (Text.trim written.toList) with
    | ok bound => exact .ok rfl
    | error error => exact .error (.invalidAttribute key _ alike.ref)

private theorem patternRules_alike (alike : a.Alike p b) :
    Related (ContentErrors p) (· = ·) a.patternRules b.patternRules := by
  unfold patternRules
  simp only [alike.attr?, message, alike.attrD]
  cases b.attr? "x:pattern" with
  | none => exact .ok rfl
  | some written =>
    dsimp only
    cases Pattern.regex? written with
    | some _ => exact .ok rfl
    | none => exact .error (.invalidAttribute _ _ alike.ref)

private theorem textValidator_alike (kind : TextKind) (alike : a.Alike p b) :
    Related (ContentErrors p) (· = ·) (a.textValidator kind) (b.textValidator kind) := by
  refine (bound?_alike _ _ alike _).bind fun minLength _ equal => ?_
  subst equal
  refine (bound?_alike _ _ alike _).bind fun maxLength _ equal => ?_
  subst equal
  refine (bound?_alike _ _ alike _).bind fun minSize _ equal => ?_
  subst equal
  refine (bound?_alike _ _ alike _).bind fun maxSize _ equal => ?_
  subst equal
  refine (patternRules_alike alike).bind fun rules _ equal => ?_
  subst equal
  rw [alike.eq_moved]
  exact .ok rfl

/-- The validator of a text field asks for a value, and then for what the attributes
state. -/
theorem textValidator_eq_ok {head : Head} {kind : TextKind} {validator : FieldValidator}
    (made : head.textValidator kind = .ok validator) :
    ∃ minLength maxLength minSize maxSize patternRules,
      head.naturalBound? "x:minlen" = .ok minLength ∧
      head.naturalBound? "x:maxlen" = .ok maxLength ∧
      head.doubleBound? "x:minsize" = .ok minSize ∧
      head.doubleBound? "x:maxsize" = .ok maxSize ∧
      head.patternRules = .ok patternRules ∧
      validator.name = head.fieldName ∧
      validator.rules = head.requiredRule
        :: head.boundRule .minLength "x:minlen-err" "Minimum of % characters" minLength
        ++ head.boundRule .maxLength "x:maxlen-err" "Maximum of % characters" maxLength
        ++ head.numberRules (minSize.isSome || maxSize.isSome)
        ++ head.boundRule .minSize "x:minsize-err" "Minimum size of %" minSize
        ++ head.boundRule .maxSize "x:maxsize-err" "Maximum size of %" maxSize
        ++ patternRules := by
  obtain ⟨minLength, readMinLength, made⟩ := bind_eq_ok.mp made
  obtain ⟨maxLength, readMaxLength, made⟩ := bind_eq_ok.mp made
  obtain ⟨minSize, readMinSize, made⟩ := bind_eq_ok.mp made
  obtain ⟨maxSize, readMaxSize, made⟩ := bind_eq_ok.mp made
  obtain ⟨patternRules, readPattern, made⟩ := bind_eq_ok.mp made
  cases made
  exact ⟨minLength, maxLength, minSize, maxSize, patternRules, readMinLength, readMaxLength,
    readMinSize, readMaxSize, readPattern, rfl, rfl⟩

/-- The validator of an upload asks for one, for its arrival and for its size. -/
theorem fileValidator_eq_ok {head : Head} {messages : Messages} {validator : FieldValidator}
    (made : head.fileValidator messages = .ok validator) :
    ∃ minSize maxSize,
      head.naturalBound? "x:minsize" = .ok minSize ∧
      head.naturalBound? "x:maxsize" = .ok maxSize ∧
      validator.name = head.fieldName ∧ validator.initializers = [.getFile] ∧
      validator.rules =
        .fileRequired (head.flag "x:required" true || (head.attr? "x:group").isSome)
            (head.attr? "x:group") (head.attrD "x:required-err" messages.fileRequired)
        :: .uploadError (head.attrD "x:upload-err" messages.fileInvalid)
            (head.attrD "x:maxsize-err" "File is too big")
        :: head.boundRule .minFileSize "x:minsize-err" "File is too small" minSize
        ++ head.boundRule .maxFileSize "x:maxsize-err" "File is too big" maxSize := by
  obtain ⟨minSize, readMin, made⟩ := bind_eq_ok.mp made
  obtain ⟨maxSize, readMax, made⟩ := bind_eq_ok.mp made
  cases made
  exact ⟨minSize, maxSize, readMin, readMax, rfl, rfl, rfl⟩

private theorem fileValidator_alike (messages : Messages) (alike : a.Alike p b) :
    Related (ContentErrors p) (· = ·) (a.fileValidator messages) (b.fileValidator messages) := by
  refine (bound?_alike _ _ alike _).bind fun minSize _ equal => ?_
  subst equal
  refine (bound?_alike _ _ alike _).bind fun maxSize _ equal => ?_
  subst equal
  rw [alike.eq_moved]
  exact .ok rfl

end Head

/-- The same tag with the same body. -/
structure Node.Alike (p : Location → Location → Prop) (a b : Node) : Prop where
  head : a.head.Alike p b.head
  kind : a.kind = b.kind
  body : a.body = b.body

namespace Node

variable {a b : Node}

private theorem selectSource_alike (alike : a.Alike p b) : a.selectSource = b.selectSource := by
  simp only [selectSource, alike.head.attr?, alike.head.attrD, alike.body]

private theorem radioSource_alike (alike : a.Alike p b) : a.radioSource = b.radioSource := by
  simp only [radioSource, alike.body]

private theorem validator?_alike (messages : Messages) (alike : a.Alike p b) :
    Related (ContentErrors p) (· = ·) (a.validator? messages) (b.validator? messages) := by
  have moved := alike.head.eq_moved
  unfold validator?
  rw [alike.kind, selectSource_alike alike, radioSource_alike alike]
  cases b.kind with
  | text kind => exact (Head.textValidator_alike kind alike.head).map fun _ _ equal => by rw [equal]
  | checkbox => rw [moved]; exact .ok rfl
  | select multiple => rw [moved]; cases multiple <;> exact .ok rfl
  | radio => rw [moved]; exact .ok rfl
  | file => exact (Head.fileValidator_alike messages alike.head).map fun _ _ equal => by rw [equal]
  | _ => exact .ok rfl

private theorem group?_alike (alike : a.Alike p b) :
    Related (ContentErrors p) (· = ·) a.group? b.group? := by
  unfold group?
  rw [alike.kind, alike.head.attrD]
  cases b.kind with
  | group condition =>
    cases condition with
    | some condition => exact .ok rfl
    | none => exact .error (.missingAttribute _ alike.head.ref)
  | _ => exact .ok rfl

private theorem radioText_alike {a b : Head} (alike : a.Alike p b) : radioText a = radioText b := by
  have button : radioButton a = radioButton b := by
    rw [alike.eq_moved]
    rfl
  funext index fragment parts tail
  induction parts generalizing index fragment with
  | nil => rfl
  | cons part rest ih =>
    rw [radioText, radioText, button]
    exact ih _ _

private theorem radioFrom_alike {a b : Head} (alike : a.Alike p b) : radioFrom a = radioFrom b := by
  funext index fragment body
  induction body generalizing index fragment with
  | nil => rfl
  | cons segment rest ih =>
    cases segment with
    | text s =>
      rw [radioFrom, radioFrom, radioText_alike alike]
      exact ih _ _
    | _ => exact ih _ _

/-- A tag leaves the same behind wherever it is kept. -/
theorem render_alike (messages : Messages) (alike : a.Alike p b) :
    a.render messages = b.render messages := by
  have moved := alike.head.eq_moved
  unfold render
  rw [alike.kind]
  cases b.kind with
  | root => exact alike.body
  | staticIf _ => exact alike.body
  | staticSet => exact alike.body
  | form _ => simp only [renderForm, alike.body, alike.head.htmlAttributes]
  | text kind => rw [moved]; rfl
  | checkbox => rw [moved]; rfl
  | select multiple => simp only [renderSelect, selectSource_alike alike]; rw [moved]; rfl
  | radio => simp only [renderRadio, radioFrom_alike alike.head, alike.body]
  | file => rw [moved]; rfl
  | group _ => rfl
  | button _ => rw [moved]; rfl
  | errors => simp only [renderErrors, alike.body]

end Node

namespace Form

theorem addNode_alike (messages : Messages) (form : Form) {a b : Node} (alike : a.Alike p b) :
    Related (ContentErrors p) (· = ·) (addNode messages form a) (addNode messages form b) := by
  refine (Node.group?_alike alike).bind fun group _ equal => ?_
  subst equal
  cases group with
  | some group => exact .ok rfl
  | none =>
    refine (Node.validator?_alike messages alike).bind fun validator _ equal => ?_
    subst equal
    cases validator with
    | some validator => exact .ok rfl
    | none => exact .ok rfl

end Form

end Stencil
