import Stencil.Proofs.Dynamics
import Stencil.Proofs.Json.Text
import Stencil.View.Codec

/-!
# Views read back

A view that was compiled is the same after it has been written as JSON text and read again
(`compileTemplate_readsBack`). What could get in the way are the values in expressions: an
object with members in another order, or a number that is no integer. Templates can write
neither.
-/
namespace Stencil

namespace Json

/-- A list is decoded item by item. -/
theorem mapM_map {α β γ : Type} {encode : α → β} {decode : β → Option γ} {f : α → γ}
    {items : List α} (back : ∀ item ∈ items, decode (encode item) = some (f item)) :
    (items.map encode).mapM decode = some (items.map f) := by
  induction items with
  | nil => rfl
  | cons item rest ih =>
    rw [List.map_cons, List.mapM_cons, back item (by simp),
      ih fun other member => back other (by simp [member])]
    rfl

theorem list?_map {α : Type} {encode : α → Value} {decode : Value → Option α} {items : List α}
    (back : ∀ item ∈ items, decode (encode item) = some item) :
    list? decode (.array (items.map encode)) = some items := by
  have read : (items.map encode).mapM decode = some (items.map id) := mapM_map back
  rwa [List.map_id] at read

private theorem member?_of_mem {members : List (String × Value)}
    (distinct : (members.map Prod.fst).Nodup) {entry : String × Value} (member : entry ∈ members) :
    member? members entry.1 = some (some entry.2) := by
  -- With distinct keys no other member is kept.
  have only : (members.filter fun other => other.1 = entry.1) = [entry] := by
    induction members with
    | nil => cases member
    | cons first rest ih =>
      rw [List.map_cons, List.nodup_cons] at distinct
      rcases List.mem_cons.mp member with rfl | later
      · have others : (rest.filter fun other => other.1 = entry.1) = [] := by
          refine List.filter_eq_nil_iff.mpr ?_
          intro other within
          have different : other.1 ≠ entry.1 := fun same =>
            distinct.1 (same ▸ List.mem_map_of_mem within)
          simpa using different
        simp [others]
      · have different : first.1 ≠ entry.1 := fun same =>
          distinct.1 (same ▸ List.mem_map_of_mem later)
        rw [List.filter_cons_of_neg (by simpa using different), ih distinct.2 later]
  rw [member?, only]

/-- A record that is written with all of its fields. -/
theorem fields?_object (hasDefaults : Bool) (members : List (String × Value))
    (distinct : (members.map Prod.fst).Nodup) :
    fields? hasDefaults (members.map Prod.fst) (.object members)
      = some (members.map fun member => some member.2) :=
  mapM_map fun _ member => member?_of_mem distinct member

theorem nullable?_encodeOptional (s : Option String) :
    nullable? string? (some (encodeOptional s)) = some s := by
  cases s <;> rfl

end Json

open Json

namespace Expr

private theorem ofName?_name (op : BinaryOp) : BinaryOp.ofName? op.name = some op := by
  cases op <;> rfl

theorem decode?_encode {expr : Expr}
    (canonical : ∀ value ∈ expr.literals, value.canonical = value) :
    decode? expr.encode = some expr := by
  induction expr with
  | literal value =>
    have same := canonical value (List.mem_singleton_self value)
    simp [encode, decode?, same]
  | var path =>
    have back : list? string? (encodeStrings path) = some path := list?_map fun _ _ => rfl
    simp [encode, decode?, back]
  | not operand ih =>
    simp [encode, decode?, ih canonical]
  | neg operand ih =>
    simp [encode, decode?, ih canonical]
  | binary op left right first second =>
    have ofLeft := first fun value member => canonical value (List.mem_append_left _ member)
    have ofRight := second fun value member => canonical value (List.mem_append_right _ member)
    simp [encode, decode?, choice?, ofName?_name, ofLeft, ofRight]

end Expr

theorem SelectOption.decode?_encode (option : SelectOption) :
    decode? option.encode = some option := by
  have read : fields? false ["title", "value"] option.encode
      = some [some (.string option.title), some (.string option.value)] :=
    fields?_object false [("title", .string option.title), ("value", .string option.value)] (by simp)
  rw [decode?, read]
  rfl

theorem OptionSource.decode?_encode (source : OptionSource) :
    decode? source.encode = some source := by
  cases source with
  | fixed options =>
    have back : list? SelectOption.decode? (.array (options.map SelectOption.encode)) = some options :=
      list?_map fun option _ => SelectOption.decode?_encode option
    simp [encode, decode?, back]
  | bound attrib titleKey valueKey =>
    have read := fields?_object false [("attrib", .string attrib), ("title_key", .string titleKey),
      ("value_key", .string valueKey)] (by simp)
    simp only [List.map_cons, List.map_nil] at read
    simp only [encode, decode?, read]
    rfl

/-! ### Segments -/

mutual
/-- A segment is decoded as it was encoded, if the values in its expressions are. -/
theorem Segment.decode?_encode (segment : Segment)
    (canonical : ∀ inner ∈ segment.dynamics, ∀ value ∈ inner.literals, value.canonical = value) :
    Segment.decode? segment.encode = some segment := by
  cases segment with
  | text s => rfl
  | eachError template => rfl
  | echo expr =>
    have back := Expr.decode?_encode (canonical _ (List.mem_singleton_self _))
    simp [Segment.encode, Segment.decode?, Segment.decodeLeaf?, back]
  | assign name expr =>
    have back := Expr.decode?_encode (canonical _ (List.mem_singleton_self _))
    simp [Segment.encode, Segment.decode?, Segment.decodeLeaf?, back, string?]
  | fieldValue name fallback =>
    have read := fields?_object false [("name", .string name), ("default", encodeOptional fallback)]
      (by simp)
    simp only [List.map_cons, List.map_nil] at read
    simp [Segment.encode, Segment.decode?, Segment.decodeLeaf?, read, required?, string?,
      nullable?_encodeOptional]
  | checked name on fallback =>
    have read := fields?_object false [("name", .string name), ("on", .string on),
      ("default", encodeOptional fallback)] (by simp)
    simp only [List.map_cons, List.map_nil] at read
    simp [Segment.encode, Segment.decode?, Segment.decodeLeaf?, read, required?, string?,
      nullable?_encodeOptional]
  | radioChecked name value fallback =>
    have read := fields?_object false [("name", .string name), ("value", .string value),
      ("default", encodeOptional fallback)] (by simp)
    simp only [List.map_cons, List.map_nil] at read
    simp [Segment.encode, Segment.decode?, Segment.decodeLeaf?, read, required?, string?,
      nullable?_encodeOptional]
  | options name source fallback multiple =>
    have read := fields?_object false [("name", .string name), ("source", source.encode),
      ("default", encodeOptional fallback), ("multiple", .bool multiple)] (by simp)
    simp only [List.map_cons, List.map_nil] at read
    simp [Segment.encode, Segment.decode?, Segment.decodeLeaf?, read, required?, string?, bool?,
      nullable?_encodeOptional, OptionSource.decode?_encode]
  | ifErrors body =>
    have back := decodeSegments?_encodeSegments body canonical
    simp [Segment.encode, Segment.decode?, back]

private theorem decodeSegments?_encodeSegments (segments : List Segment)
    (canonical : ∀ inner ∈ Segment.dynamicsIn segments, ∀ value ∈ inner.literals,
      value.canonical = value) :
    decodeSegments? (encodeSegments segments) = some segments := by
  cases segments with
  | nil => rfl
  | cons segment rest =>
    have first := Segment.decode?_encode segment
      fun inner member => canonical inner (List.mem_append_left _ member)
    have later := decodeSegments?_encodeSegments rest
      fun inner member => canonical inner (List.mem_append_right _ member)
    simp [encodeSegments, decodeSegments?, first, later]
end

theorem View.decode?_encode {view : View}
    (canonical : ∀ inner ∈ Segment.dynamicsIn view.body, ∀ value ∈ inner.literals,
      value.canonical = value) : View.decode? view.encode = some view := by
  have read := fields?_object false [("source", .string view.source), ("body", view.body.encode)]
    (by simp)
  simp only [List.map_cons, List.map_nil] at read
  have body : Fragment.decode? view.body.encode = some view.body :=
    decodeSegments?_encodeSegments view.body canonical
  simp [View.encode, View.decode?, read, required?, string?, body]

/-! ### Numbers -/

section

open Value

theorem encodeOptional_numbers (s : Option String) : (encodeOptional s).numbers = [] := by
  cases s <;> rfl

theorem encodeStrings_numbers (strings : List String) : (encodeStrings strings).numbers = [] := by
  change numbersOfItems (strings.map .string) = []
  induction strings with
  | nil => rfl
  | cons s rest ih => simpa [numbersOfItems, numbers] using ih

theorem SelectOption.encode_numbers (option : SelectOption) : option.encode.numbers = [] := rfl

theorem OptionSource.encode_numbers (source : OptionSource) : source.encode.numbers = [] := by
  cases source with
  | bound attrib titleKey valueKey => rfl
  | fixed options =>
    have none : numbersOfItems (options.map SelectOption.encode) = [] := by
      induction options with
      | nil => rfl
      | cons option rest ih => simpa [numbersOfItems, SelectOption.encode_numbers] using ih
    simp [OptionSource.encode, numbers, numbersOfMembers, none]

/-- The only numbers in an encoded expression are those of its values. -/
theorem Expr.encode_numbers (expr : Expr) :
    expr.encode.numbers = expr.literals.flatMap numbers := by
  induction expr with
  | literal value => simp [encode, literals, numbers, numbersOfMembers]
  | var path => simp [encode, literals, numbers, numbersOfMembers, encodeStrings_numbers]
  | not operand ih | neg operand ih => simp [encode, literals, numbers, numbersOfMembers, ih]
  | binary op left right first second =>
    simp [encode, literals, numbers, numbersOfMembers, numbersOfItems, first, second]

mutual
/-- The only numbers in an encoded segment are those of its expressions. -/
theorem Segment.encode_numbers (segment : Segment) : segment.encode.numbers
    = (segment.dynamics.flatMap Segment.literals).flatMap numbers := by
  cases segment with
  | ifErrors body =>
    simpa [Segment.encode, Segment.dynamics, numbers, numbersOfMembers]
      using encodeSegments_numbers body
  | _ =>
    simp [Segment.encode, Segment.dynamics, Segment.literals, Segment.expr?, numbers,
      numbersOfMembers, numbersOfItems, Expr.encode_numbers, encodeOptional_numbers,
      OptionSource.encode_numbers]

private theorem encodeSegments_numbers (segments : List Segment) : numbersOfItems
    (encodeSegments segments)
    = ((Segment.dynamicsIn segments).flatMap Segment.literals).flatMap numbers := by
  cases segments with
  | nil => rfl
  | cons segment rest =>
    simp [encodeSegments, numbersOfItems, Segment.dynamicsIn, Segment.encode_numbers segment,
      encodeSegments_numbers rest]
end

theorem View.encode_numbers (view : View) : view.encode.numbers
    = ((Segment.dynamicsIn view.body).flatMap Segment.literals).flatMap numbers := by
  simp [View.encode, Fragment.encode, numbers, numbersOfMembers, encodeSegments_numbers]

end

/-! ### Compiled views -/

namespace Expr.IsConstant

variable {value : Value}

theorem canonical_eq (constant : IsConstant value) : value.canonical = value := by
  cases constant <;> rfl

theorem readsBack (constant : IsConstant value) : ∀ number ∈ value.numbers, number.ReadsBack := by
  cases constant with
  | integer below =>
    intro number member
    obtain rfl := List.mem_singleton.mp member
    unfold Text.signedLimit64 at below
    exact Number.readsBack_integer (by omega) (by unfold Text.limit64; omega)
  | _ => exact nofun

end Expr.IsConstant

/-- A view whose expressions hold constants only is read back from its text. -/
theorem View.ofJson?_toJson {view : View}
    (constants : ∀ segment ∈ Segment.dynamicsIn view.body, ∀ value ∈ segment.literals,
      Expr.IsConstant value)
    (shallow : view.encode.depth ≤ depthLimit) : View.ofJson? view.toJson = some view := by
  -- Names, texts and marks are no numbers, so all numbers are those of expressions.
  have readBack : ∀ number ∈ view.encode.numbers, number.ReadsBack := by
    intro number member
    rw [View.encode_numbers] at member
    obtain ⟨value, stands, own⟩ := List.mem_flatMap.mp member
    obtain ⟨segment, within, stands⟩ := List.mem_flatMap.mp stands
    exact (constants segment within value stands).readsBack number own
  have decoded : View.decode? view.encode = some view := View.decode?_encode
    fun segment within value stands => (constants segment within value stands).canonical_eq
  rw [View.ofJson?, View.toJson, Json.read_text readBack shallow, Option.bind_some, decoded]

/-- A compiled view is read back from its text, so the view that is read renders what the
compiled one does. -/
theorem compileTemplate_readsBack {setting : Setting} {text : String} {compiled : Compiled}
    (compiles : compileTemplate setting text = .ok compiled)
    (shallow : compiled.view.encode.depth ≤ 127) :
    View.ofJson? compiled.view.toJson = some compiled.view ∧
      ∀ read, View.ofJson? compiled.view.toJson = some read →
        ∀ request errors, read.render request errors = compiled.view.render request errors := by
  obtain ⟨site, grown, -⟩ := compileTemplate_grows compiles
  have back : View.ofJson? compiled.view.toJson = some compiled.view :=
    View.ofJson?_toJson (fun _ within _ stands => grown.isConstant within stands) shallow
  refine ⟨back, ?_⟩
  intro read same request errors
  cases back.symm.trans same
  rfl

/-- Quotes, a control character, a letter that is not ASCII, an assignment and the parts of a
form are read back. -/
theorem compileTemplate_readsBack_form :
    let text := "<p title='\"\x01ä\\'>\x7b%$n = $a + 9223372036854775807%\x7d" ++
      "\x7b\x7b!$n == 'é\"' && -1 < null\x7d\x7d</p>" ++
      "<form:form id=\"f\"><form:select id=\"s\" x:default=\"1\">[A,1][B,2]</form:select>" ++
      "<form:checkbox id=\"c\" x:on=\"yes\" x:off=\"no\"/></form:form>"
    ∃ compiled, compileTemplate ⟨.builtin, {}, "page"⟩ text = .ok compiled ∧
      compiled.view.encode.depth = 10 ∧ compiled.view.body.length = 8 ∧
      View.ofJson? compiled.view.toJson = some compiled.view ∧
      ∀ read, View.ofJson? compiled.view.toJson = some read →
        ∀ request errors, read.render request errors = compiled.view.render request errors := by
  intro text
  have evaluated : ((compileTemplate ⟨.builtin, {}, "page"⟩ text).toOption.any
      fun compiled : Compiled =>
        compiled.view.encode.depth = 10 ∧ compiled.view.body.length = 8) = true := by
    rw [compileTemplate, String.toList_append, String.toList_append, String.toList_append,
      String.toList_ofList, String.toList_ofList, String.toList_ofList, String.toList_ofList]
    decide +kernel
  obtain ⟨compiled, compiles, depth, length⟩ := exists_of_any evaluated
  have shallow : compiled.view.encode.depth ≤ 127 := by omega
  exact ⟨compiled, compiles, depth, length, compileTemplate_readsBack compiles shallow⟩

end Stencil
