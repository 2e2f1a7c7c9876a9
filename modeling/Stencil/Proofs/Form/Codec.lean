import Stencil.Form.Codec
import Stencil.Proofs.Double.Whole
import Stencil.Proofs.Form.Contents
import Stencil.Proofs.View.Codec
import Stencil.Submission

/-!
# Forms read back

A form that was compiled is read from its JSON text with each bound on a size replaced by what
the text of the bound is read as (`compileTemplate_rereads`). So it is the same form exactly if
its size bounds are. Whole numbers are unless they are large (`Form.reread?_of_whole`), and
bounds that are not finite never are.
-/
namespace Stencil

open Json

/-- What the text of a double is read as, if that is a number. -/
def Double.reread? (d : Double) : Option Double := (Value.double d).reread?.bind double?

namespace Rule

/-- The bound on a size. -/
def sizeBound? : Rule → Option Double
  | .minSize bound _ | .maxSize bound _ => some bound
  | _ => none

/-- The rule with its size bound read from its text. -/
def reread? : Rule → Option Rule
  | .minSize min message => min.reread?.map (.minSize · message)
  | .maxSize max message => max.reread?.map (.maxSize · message)
  | rule => some rule

private theorem reread?_eq_self {rule : Rule} :
    rule.reread? = some rule ↔ ∀ bound ∈ rule.sizeBound?, bound.reread? = some bound := by
  cases rule <;> simp [reread?, sizeBound?]

end Rule

namespace FieldValidator

def sizeBounds (validator : FieldValidator) : List Double :=
  validator.rules.filterMap Rule.sizeBound?

def reread? (validator : FieldValidator) : Option FieldValidator :=
  (validator.rules.mapM Rule.reread?).map fun rules => { validator with rules }

end FieldValidator

namespace Form

def sizeBounds (form : Form) : List Double := form.validators.flatMap FieldValidator.sizeBounds

/-- The form with its size bounds read from their texts. -/
def reread? (form : Form) : Option Form :=
  (form.validators.mapM FieldValidator.reread?).map fun validators => { form with validators }

end Form

/-! ### Forms that are the same -/

private theorem mapM_eq_self {α : Type} {f : α → Option α} {items : List α} :
    items.mapM f = some items ↔ ∀ item ∈ items, f item = some item := by
  induction items with
  | nil => simp
  | cons item rest ih =>
    rw [List.mapM_cons, List.forall_mem_cons, ← ih]
    cases f item with
    | none => simp
    | some first => cases rest.mapM f <;> simp

private theorem FieldValidator.reread?_eq_self {validator : FieldValidator} :
    validator.reread? = some validator ↔
      ∀ bound ∈ validator.sizeBounds, bound.reread? = some bound := by
  have rules : validator.reread? = some validator ↔
      validator.rules.mapM Rule.reread? = some validator.rules := by
    obtain ⟨name, initializers, rules⟩ := validator
    unfold reread?
    cases rules.mapM Rule.reread? <;> simp
  rw [rules, mapM_eq_self]
  simp only [Rule.reread?_eq_self, sizeBounds, List.mem_filterMap]
  exact ⟨fun each bound ⟨rule, member, holds⟩ => each rule member bound holds,
    fun all rule member bound holds => all bound ⟨rule, member, holds⟩⟩

private theorem Form.reread?_eq_self {form : Form} :
    form.reread? = some form ↔ ∀ bound ∈ form.sizeBounds, bound.reread? = some bound := by
  have validators : form.reread? = some form ↔
      form.validators.mapM FieldValidator.reread? = some form.validators := by
    obtain ⟨typeName, id, base, fields, groups, validators⟩ := form
    unfold reread?
    cases validators.mapM FieldValidator.reread? <;> simp
  rw [validators, mapM_eq_self]
  simp only [FieldValidator.reread?_eq_self, sizeBounds, List.mem_flatMap]
  exact ⟨fun each bound ⟨validator, member, holds⟩ => each validator member bound holds,
    fun all validator member bound holds => all bound ⟨validator, member, holds⟩⟩

theorem Double.reread?_of_readsBack {d : Double} (readsBack : (Number.double d).ReadsBack) :
    d.reread? = some d := by
  cases d with
  | finite negative code =>
    rw [Double.reread?, Value.double, Value.reread?, readsBack]
    rfl
  | infinite | nan =>
    -- These are written as the word for nothing.
    simp [Number.ReadsBack, Number.reread?, Number.text, text?] at readsBack

/-- A form is the same if its size bounds are whole numbers of at most 14 digits, and a little
beyond. -/
theorem Form.reread?_of_whole {form : Form}
    (whole : ∀ bound ∈ form.sizeBounds, ∃ negative n,
      n * 10 < 2 ^ 53 ∧ bound = signed negative (.ofNat n)) : form.reread? = some form := by
  refine Form.reread?_eq_self.mpr fun bound member => ?_
  obtain ⟨negative, n, small, rfl⟩ := whole bound member
  exact Double.reread?_of_readsBack (Number.readsBack_whole negative small)

/-- A greater bound can be read as its neighbour. -/
example : (Double.ofNat 9007199254740991).reread? = some (.ofNat 9007199254740990) := by
  decide +kernel

/-! ### Reading and decoding -/

namespace Json

/-- What is written without numbers that change is decoded as it is. -/
private theorem bind_reread?_of_readsBack {α : Type} {decode : Value → Option α} {value : Value}
    (readBack : ∀ number ∈ value.numbers, number.ReadsBack) :
    value.reread?.bind decode = decode value := by
  rw [Value.reread?_of_readsBack readBack, Option.bind_some]

/-- A list is read and decoded item by item. -/
private theorem bind_rereadItems? {α β : Type} {encode : α → Value} {decode : Value → Option β}
    {f : α → Option β} (items : List α)
    (each : ∀ item ∈ items, (encode item).reread?.bind decode = f item) :
    (Value.rereadItems? (items.map encode)).bind (·.mapM decode) = items.mapM f := by
  induction items with
  | nil => rfl
  | cons item rest ih =>
    have first := each item List.mem_cons_self
    have later := ih fun other member => each other (List.mem_cons_of_mem item member)
    rw [List.map_cons, Value.rereadItems?_cons, List.mapM_cons, ← first, ← later]
    cases (encode item).reread? with
    | none => rfl
    | some value =>
      cases Value.rereadItems? (rest.map encode) with
      | none => cases decode value <;> simp
      | some values => simp [List.mapM_cons]

private theorem natural64?_integer {n : Nat} (fits : n < Text.limit64) :
    natural64? (.integer n) = some n := by
  have inRange : (0 : Int) ≤ n ∧ (n : Int) < Text.limit64 := by omega
  rw [natural64?, Value.integer, natural?, if_pos inRange, Int.toNat_natCast]

end Json

/-! ### Rules -/

namespace Initializer

theorem decode?_encode (initializer : Initializer) :
    decode? initializer.encode = some initializer := by
  cases initializer <;> rfl

theorem encode_numbers (initializer : Initializer) : initializer.encode.numbers = [] := by
  cases initializer <;> rfl

end Initializer

namespace Rule

/-- A rule with one field of its own. -/
private theorem decodeWith?_object {α : Type} (key : String) (other : key ≠ "message")
    (decode : Value → Option α) (make : α → String → Rule) (own : Value) (message : String) :
    decodeWith? key decode make (.object [(key, own), ("message", .string message)])
      = (decode own).map (make · message) := by
  have read := fields?_object false [(key, own), ("message", .string message)] (by simpa using other)
  simp only [List.map_cons, List.map_nil] at read
  rw [decodeWith?, read]
  change (do return make (← decode own) (← some message)) = _
  cases decode own <;> rfl

private theorem decodeRequired?_object (make : Bool → Option String → String → Rule)
    (demanded : Bool) (group : Option String) (message : String) :
    decodeRequired? make (.object [("required", .bool demanded), ("group", encodeOptional group),
      ("message", .string message)]) = some (make demanded group message) := by
  have read := fields?_object false [("required", .bool demanded), ("group", encodeOptional group),
    ("message", .string message)] (by simp)
  simp only [List.map_cons, List.map_nil] at read
  rw [decodeRequired?, read]
  simp [required?, bool?, string?, nullable?_encodeOptional]

private theorem decodeTexts?_object (first second : String) (other : first ≠ second)
    (make : String → String → Rule) (a b : String) :
    decodeTexts? first second make (.object [(first, .string a), (second, .string b)])
      = some (make a b) := by
  have read := fields?_object false [(first, .string a), (second, .string b)] (by simpa using other)
  simp only [List.map_cons, List.map_nil] at read
  rw [decodeTexts?, read]
  rfl

/-- A rule without size bound and without numbers beyond 64 bits reads back. -/
theorem numbers_readBack {rule : Rule} (bounded : ∀ n ∈ rule.natural?, n < Text.limit64)
    (noSize : rule.sizeBound? = none) : ∀ number ∈ rule.encode.numbers, number.ReadsBack := by
  have ofNatural {n : Nat} (fits : n < Text.limit64) : (Number.integer n).ReadsBack :=
    Number.readsBack_integer (by omega) (by omega)
  intro number member
  cases rule with
  | minSize | maxSize => cases noSize
  | minLength n message | maxLength n message | minFileSize n message | maxFileSize n message =>
    obtain rfl : number = .integer n := by
      simpa [encode, named, Value.integer, Value.numbers, Value.numbersOfMembers] using member
    exact ofNatural (bounded n rfl)
  | _ =>
    simp [encode, named, Value.numbers, Value.numbersOfMembers, encodeOptional_numbers,
      OptionSource.encode_numbers] at member

theorem decode?_encode {rule : Rule} (bounded : ∀ n ∈ rule.natural?, n < Text.limit64)
    (noSize : rule.sizeBound? = none) : decode? rule.encode = some rule := by
  have ofNatural {n : Nat} (fits : n < Text.limit64) (key : String) (other : key ≠ "message")
      (make : Nat → String → Rule) (message : String) : decodeWith? key natural64? make
        (.object [(key, .integer n), ("message", .string message)]) = some (make n message) := by
    rw [decodeWith?_object key other, natural64?_integer fits, Option.map_some]
  have ofSource (source : OptionSource) (make : OptionSource → String → Rule) (message : String) :
      decodeWith? "source" OptionSource.decode? make
        (.object [("source", source.encode), ("message", .string message)])
          = some (make source message) := by
    rw [decodeWith?_object "source" (by decide), OptionSource.decode?_encode, Option.map_some]
  cases rule with
  | minSize | maxSize => cases noSize
  | number message => rfl
  | required demanded group message => exact decodeRequired?_object .required demanded group message
  | fileRequired demanded group message =>
    exact decodeRequired?_object .fileRequired demanded group message
  | minLength n message => exact ofNatural (bounded n rfl) "min" (by decide) .minLength message
  | maxLength n message => exact ofNatural (bounded n rfl) "max" (by decide) .maxLength message
  | minFileSize n message => exact ofNatural (bounded n rfl) "min" (by decide) .minFileSize message
  | maxFileSize n message => exact ofNatural (bounded n rfl) "max" (by decide) .maxFileSize message
  | pattern written message =>
    exact decodeTexts?_object "pattern" "message" (by decide) .pattern written message
  | checkboxOnOff on off => exact decodeTexts?_object "on" "off" (by decide) .checkboxOnOff on off
  | inOptions source message => exact ofSource source .inOptions message
  | allInOptions source message => exact ofSource source .allInOptions message
  | uploadError message sizeMessage =>
    exact decodeTexts?_object "message" "size_message" (by decide) .uploadError message sizeMessage

/-- A rule on a size is read with the bound its text is read as. -/
private theorem reread?_named (name key : String) (own : Value) (message : String) :
    (named name [(key, own), ("message", .string message)]).reread?
      = own.reread?.map fun read =>
        .object [(name, .object [(key, read), ("message", .string message)])] := by
  have rest : Value.rereadMembers? [("message", .string message)]
      = some [("message", .string message)] := rfl
  have none : Value.rereadMembers? [] = some [] := rfl
  rw [named, Value.reread?, Value.rereadMembers?_cons, Value.reread?, Value.rereadMembers?_cons, rest,
    none]
  cases own.reread? <;> rfl

private theorem decode?_reread {rule : Rule} (bounded : ∀ n ∈ rule.natural?, n < Text.limit64) :
    rule.encode.reread?.bind decode? = rule.reread? := by
  cases size : rule.sizeBound? with
  | none =>
    have same : rule.reread? = some rule := reread?_eq_self.mpr (by rw [size]; exact nofun)
    rw [bind_reread?_of_readsBack (numbers_readBack bounded size), decode?_encode bounded size, same]
  | some bound =>
    cases rule with
    | minSize bound message =>
      rw [encode, reread?_named, Option.bind_map, reread?, Double.reread?, Option.map_bind]
      refine congrArg _ (funext fun read => ?_)
      exact decodeWith?_object "min" (by decide) double? .minSize read message
    | maxSize bound message =>
      rw [encode, reread?_named, Option.bind_map, reread?, Double.reread?, Option.map_bind]
      refine congrArg _ (funext fun read => ?_)
      exact decodeWith?_object "max" (by decide) double? .maxSize read message
    | _ => cases size

end Rule

/-! ### Validators and groups -/

namespace Json

/-- A list without numbers is read as it is. -/
private theorem rereadItems?_map {α : Type} {encode : α → Value} {items : List α}
    (readBack : ∀ item ∈ items, ∀ number ∈ (encode item).numbers, number.ReadsBack) :
    Value.rereadItems? (items.map encode) = some (items.map encode) := by
  refine Value.rereadItems?_of_readsBack ?_
  induction items with
  | nil => exact nofun
  | cons item rest ih =>
    intro number member
    rcases List.mem_append.mp member with here | later
    · exact readBack item List.mem_cons_self number here
    · exact ih (fun other isIn => readBack other (List.mem_cons_of_mem item isIn)) number later

end Json

private theorem FieldValidator.decode?_reread {validator : FieldValidator}
    (bounded : validator.IsBounded) :
    validator.encode.reread?.bind decode? = validator.reread? := by
  have initializers : Value.rereadItems? (validator.initializers.map Initializer.encode)
      = some (validator.initializers.map Initializer.encode) := by
    refine rereadItems?_map fun initializer _ => ?_
    rw [Initializer.encode_numbers]
    exact nofun
  -- Only the rules hold bounds, so the initializers are decoded as they were encoded.
  have decoded : list? Initializer.decode? (.array (validator.initializers.map Initializer.encode))
      = some validator.initializers :=
    list?_map fun initializer _ => Initializer.decode?_encode initializer
  have rules := bind_rereadItems? validator.rules fun rule member =>
    Rule.decode?_reread (bounded rule member)
  have whole : validator.encode.reread?
      = (Value.rereadItems? (validator.rules.map Rule.encode)).map fun rules =>
        .object [("name", .string validator.name),
          ("initializers", .array (validator.initializers.map Initializer.encode)),
          ("rules", .array rules)] := by
    have name : (Value.string validator.name).reread? = some (.string validator.name) := rfl
    have none : Value.rereadMembers? [] = some [] := rfl
    rw [encode, Value.reread?, Value.rereadMembers?_cons, Value.rereadMembers?_cons,
      Value.rereadMembers?_cons, name, Value.reread?, initializers, Value.reread?, none]
    cases Value.rereadItems? (validator.rules.map Rule.encode) <;> rfl
  -- It remains to read the rules, and either side fails where these do.
  rw [whole, Option.bind_map, reread?, ← rules, Option.map_bind]
  refine congrArg _ (funext fun read => ?_)
  have fields := fields?_object false [("name", .string validator.name),
    ("initializers", .array (validator.initializers.map Initializer.encode)),
    ("rules", .array read)] (by simp)
  simp only [List.map_cons, List.map_nil] at fields
  rw [Function.comp, decode?, fields]
  simp only [required?, string?, decoded]
  change ((read.mapM Rule.decode?).bind fun rules => _) = (read.mapM Rule.decode?).map _
  cases read.mapM Rule.decode? <;> rfl

namespace Group

variable {group : Group} (parsed : group.condition.Parsed)
include parsed

theorem decode?_encode : decode? group.encode = some group := by
  have condition : Expr.decode? group.condition.encode = some group.condition :=
    Expr.decode?_encode fun value member => (parsed.isConstant member).canonical_eq
  have fields := fields?_object false [("id", .string group.id),
    ("condition", group.condition.encode)] (by simp)
  simp only [List.map_cons, List.map_nil] at fields
  rw [encode, decode?, fields]
  simp [required?, string?, condition]

private theorem numbers_readBack : ∀ number ∈ group.encode.numbers, number.ReadsBack := by
  intro number member
  have member : number ∈ group.condition.literals.flatMap Value.numbers := by
    simpa [encode, Value.numbers, Value.numbersOfMembers, Expr.encode_numbers] using member
  obtain ⟨value, stands, own⟩ := List.mem_flatMap.mp member
  exact (parsed.isConstant stands).readsBack number own

end Group

/-! ### Forms -/

private theorem Form.decode?_reread {form : Form} (plain : form.Plain) :
    form.encode.reread?.bind decode? = form.reread? := by
  have groups : Value.rereadItems? (form.groups.map Group.encode)
      = some (form.groups.map Group.encode) :=
    rereadItems?_map fun group member => Group.numbers_readBack (plain.conditions group member)
  -- Only the validators hold bounds, so everything else is decoded as it was encoded.
  have decoded : list? Group.decode? (.array (form.groups.map Group.encode)) = some form.groups :=
    list?_map fun group member => Group.decode?_encode (plain.conditions group member)
  have fields : list? string? (encodeStrings form.fields) = some form.fields :=
    list?_map fun _ _ => rfl
  have validators := bind_rereadItems? form.validators fun validator member =>
    FieldValidator.decode?_reread (plain.validators validator member)
  have whole : form.encode.reread?
      = (Value.rereadItems? (form.validators.map FieldValidator.encode)).map fun validators =>
        .object [("type_name", .string form.typeName), ("form_id", .string form.id),
          ("extends", encodeOptional form.base), ("fields", encodeStrings form.fields),
          ("groups", .array (form.groups.map Group.encode)), ("validators", .array validators)] := by
    have name (s : String) : (Value.string s).reread? = some (.string s) := rfl
    have none : Value.rereadMembers? [] = some [] := rfl
    have base : (encodeOptional form.base).reread? = some (encodeOptional form.base) :=
      Value.reread?_of_readsBack (by rw [encodeOptional_numbers]; exact nofun)
    have names : (encodeStrings form.fields).reread? = some (encodeStrings form.fields) :=
      Value.reread?_of_readsBack (by rw [encodeStrings_numbers]; exact nofun)
    rw [encode, Value.reread?, Value.rereadMembers?_cons, Value.rereadMembers?_cons,
      Value.rereadMembers?_cons, Value.rereadMembers?_cons, Value.rereadMembers?_cons,
      Value.rereadMembers?_cons, name, name, base, names, Value.reread?, groups, Value.reread?, none]
    cases Value.rereadItems? (form.validators.map FieldValidator.encode) <;> rfl
  rw [whole, Option.bind_map, reread?, ← validators, Option.map_bind]
  refine congrArg _ (funext fun read => ?_)
  have record := fields?_object false [("type_name", .string form.typeName),
    ("form_id", .string form.id), ("extends", encodeOptional form.base),
    ("fields", encodeStrings form.fields), ("groups", .array (form.groups.map Group.encode)),
    ("validators", .array read)] (by simp)
  simp only [List.map_cons, List.map_nil] at record
  rw [Function.comp, decode?, record]
  simp only [required?, string?, decoded, fields, nullable?_encodeOptional]
  change ((read.mapM FieldValidator.decode?).bind fun validators => _)
    = (read.mapM FieldValidator.decode?).map _
  cases read.mapM FieldValidator.decode? <;> rfl

theorem Form.ofJson?_toJson {form : Form} (plain : form.Plain)
    (shallow : form.encode.depth ≤ depthLimit) : ofJson? form.toJson = form.reread? := by
  rw [ofJson?, toJson, read_text_eq shallow, decode?_reread plain]

/-- A form that was compiled is read from its text with its size bounds read from theirs. So
it is the form that was compiled exactly if each of its size bounds is read as it was, and then
it validates every request as that one does. -/
theorem compileTemplate_rereads {setting : Setting} {text : String} {compiled : Compiled}
    (compiles : compileTemplate setting text = .ok compiled) {form : Form}
    (member : form ∈ compiled.forms) (shallow : form.encode.depth ≤ 127) :
    Form.ofJson? form.toJson = form.reread? ∧
      (Form.ofJson? form.toJson = some form ↔
        ∀ bound ∈ form.sizeBounds, bound.reread? = some bound) ∧
      ∀ read, Form.ofJson? form.toJson = some read →
        (∀ bound ∈ form.sizeBounds, bound.reread? = some bound) →
          ∀ request initial, (Submission.new read request initial).validate
            = (Submission.new form request initial).validate := by
  have reread : Form.ofJson? form.toJson = form.reread? :=
    Form.ofJson?_toJson (plain_of_compileTemplate compiles member) shallow
  have same : Form.ofJson? form.toJson = some form ↔
      ∀ bound ∈ form.sizeBounds, bound.reread? = some bound := by
    rw [reread, Form.reread?_eq_self]
  refine ⟨reread, same, ?_⟩
  intro read found bounds request initial
  cases (same.mpr bounds).symm.trans found
  rfl

/-- A form with a condition, bounds on length and on size and options is read back. -/
theorem compileTemplate_rereads_bounds :
    let text := "<form:form id=\"f\"><form:group id=\"g\" cond=\"$a == 1 && 'x' < $b\"/>" ++
      "<form:text id=\"n\" x:group=\"g\" x:minlen=\"2\" x:minsize=\"-1.5\" x:maxsize=\"1e3\"/>" ++
      "<form:select id=\"s\">[A,1]</form:select></form:form>"
    ∃ compiled form, compileTemplate ⟨.builtin, {}, "page"⟩ text = .ok compiled ∧
      form ∈ compiled.forms ∧ form.sizeBounds.length = 2 ∧ form.encode.depth ≤ 127 ∧
      Form.ofJson? form.toJson = some form ∧
      ∀ read, Form.ofJson? form.toJson = some read → ∀ request initial,
        (Submission.new read request initial).validate
          = (Submission.new form request initial).validate := by
  intro text
  have evaluated : ((compileTemplate ⟨.builtin, {}, "page"⟩ text).toOption.any
      fun compiled : Compiled => ∃ form ∈ compiled.forms, form.sizeBounds.length = 2 ∧
        form.encode.depth ≤ 127 ∧ ∀ bound ∈ form.sizeBounds, bound.reread? = some bound) = true := by
    rw [compileTemplate, String.toList_append, String.toList_append, String.toList_ofList,
      String.toList_ofList, String.toList_ofList]
    decide +kernel
  obtain ⟨compiled, compiles, form, member, size, shallow, bounds⟩ := exists_of_any evaluated
  obtain ⟨-, same, validates⟩ := compileTemplate_rereads compiles member shallow
  exact ⟨compiled, form, compiles, member, size, shallow, same.mpr bounds,
    fun read found => validates read found bounds⟩

/-- A bound that is infinite compiles, but the form that has it cannot be read. -/
theorem compileTemplate_infinite_bound :
    let text := "<form:form id=\"f\"><form:text id=\"n\" x:maxsize=\"inf\"/></form:form>"
    ∃ compiled form, compileTemplate ⟨.builtin, {}, "page"⟩ text = .ok compiled ∧
      form ∈ compiled.forms ∧ form.encode.depth ≤ 127 ∧ Form.ofJson? form.toJson = none := by
  intro text
  have evaluated : ((compileTemplate ⟨.builtin, {}, "page"⟩ text).toOption.any
      fun compiled : Compiled => ∃ form ∈ compiled.forms,
        form.encode.depth ≤ 127 ∧ form.reread?.isNone = true) = true := by
    rw [compileTemplate, String.toList_ofList]
    decide +kernel
  obtain ⟨compiled, compiles, form, member, shallow, unread⟩ := exists_of_any evaluated
  refine ⟨compiled, form, compiles, member, shallow, ?_⟩
  rw [Form.ofJson?_toJson (plain_of_compileTemplate compiles member) shallow]
  exact Option.isNone_iff_eq_none.mp unread

end Stencil
