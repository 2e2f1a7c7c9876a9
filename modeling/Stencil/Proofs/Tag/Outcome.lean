import Stencil.Proofs.Tag.Initialized

/-!
# What becomes of a tag that is opened

All that initialization can do with a tag, kind by kind. A form must not be in another
one, fields and groups need one, and the form takes the id of each of them at most once;
a tag that is at odds with this is rejected with the error that says so, and there is no
other reason for such an error. What a field is not given in its tag comes from the form,
the configuration and its kind.
-/
namespace Stencil

/-- Tags whose id is registered with the form around them. -/
def TagKind.registers (kind : TagKind) : Bool := kind.validates || kind.isGroup

/-- Errors about where forms, fields and groups stand. -/
def CompileError.isPlacement : CompileError → Bool
  | .nestedForm _ | .fieldOutsideForm _ | .duplicateFieldId _ _ => true
  | _ => false

/-- The messages of a field of this kind. -/
def TagKind.fieldMessages (messages : Messages) : TagKind → FieldMessages
  | .select _ | .radio => messages.forSelect
  | .file => messages.forFile
  | _ => messages.forInput

/-- The style of a text field. -/
def TagKind.style? : TagKind → Option TextKind
  | .text style => some style
  | _ => none

theorem TagKind.style?_eq_some {kind : TagKind} {style : TextKind} :
    kind.style? = some style ↔ kind = .text style := by
  cases kind <;> simp [style?]

def TagKind.isFile : TagKind → Bool
  | .file => true
  | _ => false

theorem TagKind.isFile_iff {kind : TagKind} : kind.isFile ↔ kind = .file := by
  cases kind <;> simp [isFile]

/-- What a tag is, without what it holds. -/
def TagKind.bare : TagKind → TagKind
  | .form _ => .form []
  | .group _ => .group none
  | .staticIf _ => .staticIf none
  | kind => kind

@[simp]
theorem TagKind.isForm_bare (kind : TagKind) : kind.bare.isForm = kind.isForm := by
  cases kind <;> rfl

@[simp]
theorem TagKind.registers_bare (kind : TagKind) : kind.bare.registers = kind.registers := by
  cases kind <;> rfl

@[simp]
theorem TagKind.validates_bare (kind : TagKind) : kind.bare.validates = kind.validates := by
  cases kind <;> rfl

private theorem TagKind.bare_of_validates {kind : TagKind} (field : kind.validates) :
    kind.bare = kind := by
  cases kind <;> first | rfl | cases field

/-- The kind of a field is known without the ids that a form holds. -/
theorem TagKind.eq_of_bare {a b : TagKind} (same : a.bare = b.bare) (field : a.validates) :
    a = b := by
  have field' : b.validates := by
    rw [← validates_bare, ← same, validates_bare]
    exact field
  rw [← bare_of_validates field, same, bare_of_validates field']

private theorem TagKind.isForm_of_registers {kind : TagKind} (registers : kind.registers) :
    kind.isForm = false := by
  cases kind <;> first | rfl | cases registers

private theorem TagKind.isForm_of_isGroup {kind : TagKind} (group : kind.isGroup) :
    kind.isForm = false := by
  cases kind <;> first | rfl | cases group

private theorem TagKind.isForm_of_isConditional {kind : TagKind}
    (conditional : kind.isConditional) : kind.isForm = false := by
  cases kind <;> first | rfl | cases conditional

private theorem TagKind.validates_of_isConditional {kind : TagKind}
    (conditional : kind.isConditional) : kind.validates = false := by
  cases kind <;> first | rfl | cases conditional

theorem TagKind.exists_ids_of_isForm {kind : TagKind} (isForm : kind.isForm) :
    ∃ ids, kind = .form ids := by
  cases kind with
  | form ids => exact ⟨ids, rfl⟩
  | _ => cases isForm

/-! ### Heads -/

namespace Head

private theorem required_eq_error {head : Head} {key : String} {error : CompileError}
    (failed : head.required key = .error error) : error = .missingAttribute head.ref key := by
  unfold required at failed
  split at failed
  · cases failed
  · cases failed
    rfl

private theorem required_of_attr? {head : Head} {key value : String}
    (given : head.attr? key = some value) : head.required key = .ok value := by
  rw [required, given]

/-- The pattern a field of this kind comes with. -/
def builtinPattern? (head : Head) : TagKind → Option String
  | .text .email => some emailPattern
  | .text .url => some (urlPattern (urlProtocols head) (head.flag "x:noprotocol" false))
  | _ => none

/-- The head of a field with this id in a form, with all that its tag does not say. -/
def ofField (messages : Messages) (head form : Head) (kind : TagKind) (id : String) : Head :=
  let fallback := head
    |>.setDefault "name" id
    |>.setDefault "x:required" (form.attrD "x:required" "1")
    |>.setDefault "x:required-err" (kind.fieldMessages messages).required
    |>.setDefault "x:invalid-err" (kind.fieldMessages messages).invalid
  match fallback.builtinPattern? kind with
  | some pattern => fallback.setAttr "x:pattern" pattern
  | none => fallback

variable {a b : Head}

private theorem flag_of_attr? {key : String} (same : a.attr? key = b.attr? key) (fallback : Bool) :
    a.flag key fallback = b.flag key fallback := by
  rw [flag, flag, same]

/-- A pattern depends on the protocols a tag names only. -/
theorem builtinPattern?_of_attr? (kind : TagKind)
    (same : ∀ key ∈ ["x:ftp", "x:http", "x:https", "x:noprotocol"], a.attr? key = b.attr? key) :
    a.builtinPattern? kind = b.builtinPattern? kind := by
  have ftp := flag_of_attr? (same "x:ftp" (by simp)) false
  have http := flag_of_attr? (same "x:http" (by simp)) true
  have https := flag_of_attr? (same "x:https" (by simp)) true
  have bare := flag_of_attr? (same "x:noprotocol" (by simp)) false
  have protocols : urlProtocols a = urlProtocols b := by
    simp only [urlProtocols, List.filterMap_cons, List.filterMap_nil, ftp, http, https]
  unfold builtinPattern?
  rw [protocols, bare]

/-- The attributes of a field: those of its tag, but for a name, the texts of two messages
and whether it is required, which there always are, and for the pattern of its kind. -/
theorem attr?_ofField (messages : Messages) (head form : Head) (kind : TagKind)
    (id key : String) :
    (head.ofField messages form kind id).attr? key =
      if key = "x:pattern" then (head.builtinPattern? kind).or (head.attr? key)
      else if key = "x:invalid-err" then
        some (head.attrD key (kind.fieldMessages messages).invalid)
      else if key = "x:required-err" then
        some (head.attrD key (kind.fieldMessages messages).required)
      else if key = "x:required" then
        some (head.attrD key (form.attrD "x:required" "1"))
      else if key = "name" then some (head.attrD key id)
      else head.attr? key := by
  unfold ofField
  -- None of the defaults is one of the protocols that make the pattern of an address.
  have pattern := builtinPattern?_of_attr? (a := (((head.setDefault "name" id).setDefault
    "x:required" (form.attrD "x:required" "1")).setDefault "x:required-err"
      (kind.fieldMessages messages).required).setDefault "x:invalid-err"
        (kind.fieldMessages messages).invalid) (b := head) kind (by simp [attr?_setDefault])
  dsimp only
  rw [pattern]
  by_cases isPattern : key = "x:pattern"
  · subst isPattern
    cases head.builtinPattern? kind with
    | none => simp [attr?_setDefault]
    | some pattern => simp [attr?_setAttr]
  · rw [if_neg isPattern]
    have same (other : Head) : (match head.builtinPattern? kind with
        | some pattern => other.setAttr "x:pattern" pattern
        | none => other).attr? key = other.attr? key := by
      cases head.builtinPattern? kind with
      | none => rfl
      | some pattern => rw [attr?_setAttr, if_neg isPattern]
    rw [same]
    simp only [attr?_setDefault]
    by_cases invalid : key = "x:invalid-err"
    · subst invalid
      simp [attrD, attr?_setDefault]
    · rw [if_neg invalid, if_neg invalid]
      by_cases missing : key = "x:required-err"
      · subst missing
        simp [attrD, attr?_setDefault]
      · rw [if_neg missing, if_neg missing]
        by_cases required : key = "x:required"
        · subst required
          simp [attrD, attr?_setDefault]
        · rw [if_neg required, if_neg required]
          by_cases name : key = "name"
          · subst name
            rfl
          · rw [if_neg name, if_neg name]

end Head

namespace Opening

variable {config : Config} {a b : Opening} {error : CompileError}

/-! ### Registering -/

/-- A tag has been added to the ids of the form around it, which this is the head of. -/
inductive Registered (a : Opening) : Head → String → Arena → Prop where
  | intro {formId form ids id} : a.form? = some (formId, form) → form.kind = .form ids →
    a.head.attr? "id" = some id → id ∉ ids →
    Registered a form.head id (a.withForm (some (.form (ids ++ [id]))))

/-- How a tag is at odds with the form around it, and the error that says so. -/
inductive Misplaced (a : Opening) : CompileError → Prop where
  | nested : a.kind.isForm → a.form?.isSome → Misplaced a (.nestedForm a.head.ref)
  | outside : a.kind.registers → a.form? = none → Misplaced a (.fieldOutsideForm a.head.ref)
  | duplicate {formId form ids id} : a.kind.registers → a.form? = some (formId, form) →
    form.kind = .form ids → a.head.attr? "id" = some id → id ∈ ids →
    Misplaced a (.duplicateFieldId form.head.ref id)

/-- All that can become of a tag that registers with the form around it. -/
inductive Registering (a : Opening) : Except CompileError (Head × Opening) → Prop where
  | done {form id arena} : Registered a form id arena →
    Registering a (.ok (form, { a with arena }))
  | misplaced {reason} : (a.kind.registers → Misplaced a reason) →
    Registering a (.error reason)
  | nameless : Registering a (.error (.missingAttribute a.head.ref "id"))

private theorem registering (a : Opening) : Registering a a.register := by
  unfold register
  split
  · next alone => exact .misplaced fun registers => .outside registers alone
  · next formId form around =>
    -- What is found as the form around a tag is one.
    obtain ⟨ids, kind⟩ := TagKind.exists_ids_of_isForm (isForm_of_form? around)
    unfold Head.required
    cases given : a.head.attr? "id" with
    | none => exact .nameless
    | some id =>
      simp only [bind, Except.bind, kind, TagKind.registerField?, List.contains_eq_mem]
      by_cases taken : id ∈ ids
      · simp only [taken, decide_true, if_true]
        exact .misplaced fun registers => .duplicate registers around kind given taken
      · simp only [taken, decide_false, Bool.false_eq_true, if_false]
        rw [← withForm_of_some around (.form (ids ++ [id]))]
        exact .done (.intro around kind given taken)

private theorem registered_of_register {form : Head} (done : a.register = .ok (form, b)) :
    ∃ id, Registered a form id b.arena ∧ b = { a with arena := b.arena } := by
  have cases := registering a
  rw [done] at cases
  cases cases with
  | done registered => exact ⟨_, registered, rfl⟩

theorem Registered.inForm {form : Head} {id : String} {arena : Arena}
    (registered : Registered a form id arena) :
    ∃ formId node ids, a.form? = some (formId, node) ∧ node.head = form ∧ node.kind = .form ids ∧
      id ∉ ids ∧ arena = a.withForm (some (.form (ids ++ [id]))) := by
  cases registered with
  | intro around kind _ fresh => exact ⟨_, _, _, around, rfl, kind, fresh, rfl⟩

theorem Registered.given {form : Head} {id : String} {arena : Arena}
    (registered : Registered a form id arena) : a.head.attr? "id" = some id := by
  cases registered with
  | intro _ _ given _ => exact given

/-- Registering a tag fails for its placement only if it is misplaced. -/
theorem misplaced_of_register (registers : a.kind.registers) (failed : a.register = .error error)
    (placement : error.isPlacement) : Misplaced a error := by
  have cases := registering a
  rw [failed] at cases
  cases cases with
  | misplaced here => exact here registers
  | nameless => cases placement

/-! ### Errors -/

private theorem misplaced_of_initField {messages : FieldMessages} (registers : a.kind.registers)
    (failed : a.initField messages = .error error) (placement : error.isPlacement) :
    Misplaced a error := by
  rcases bind_eq_error failed with failed | ⟨⟨form, opening⟩, -, failed⟩
  · exact misplaced_of_register registers failed placement
  · rcases bind_eq_error failed with failed | ⟨id, -, failed⟩
    · rw [Head.required_eq_error failed] at placement
      cases placement
    · cases failed

private theorem misplaced_of_initForm (isForm : a.kind.isForm)
    (failed : a.initForm config = .error error)
    (placement : error.isPlacement) : Misplaced a error := by
  simp only [initForm] at failed
  split at failed
  · next around =>
    cases failed
    exact .nested isForm around
  · rcases bind_eq_error failed with failed | ⟨id, -, failed⟩
    · rw [Head.required_eq_error failed] at placement
      cases placement
    · split at failed
      · split at failed
        · cases failed
          cases placement
        · cases failed
      · cases failed

private theorem misplaced_of_initGroup (registers : a.kind.registers)
    (failed : a.initGroup = .error error) (placement : error.isPlacement) : Misplaced a error := by
  rcases bind_eq_error failed with failed | ⟨⟨form, opening⟩, -, failed⟩
  · exact misplaced_of_register registers failed placement
  · rcases bind_eq_error failed with failed | ⟨source, -, failed⟩
    · rw [Head.required_eq_error failed] at placement
      cases placement
    · split at failed
      · cases failed
      · cases failed
        cases placement

/-- A comparison that cannot be read is not about placement. -/
theorem not_isPlacement_of_ofHead {head : Head} (failed : Comparison.ofHead head = .error error) :
    error.isPlacement = false := by
  have attr {f : String → Comparison} (failed : (head.required "attr").map f = .error error) :
      error.isPlacement = false := by
    rw [Head.required_eq_error (map_eq_error failed)]
    rfl
  unfold Comparison.ofHead at failed
  split at failed
  · exact attr failed
  · exact attr failed
  · exact attr failed
  · exact attr failed
  · cases failed
  · cases failed
  · cases failed
    rfl

/-- Initialization fails for the placement of a tag only if the tag is misplaced. -/
theorem misplaced_of_init (failed : a.init config = .error error)
    (placement : error.isPlacement) : Misplaced a error := by
  unfold init at failed
  split at failed
  · cases failed
  · cases failed
  · cases failed
  · next kind => exact misplaced_of_initForm (by rw [kind]; rfl) failed placement
  · next kind =>
    rcases bind_eq_error failed with failed | ⟨opening, -, failed⟩
    · exact misplaced_of_initField (by rw [kind]; rfl) failed placement
    · cases failed
  · next kind =>
    rcases bind_eq_error failed with failed | ⟨opening, -, failed⟩
    · exact misplaced_of_initField (by rw [kind]; rfl) failed placement
    · -- What a checkbox asks for besides are attributes of its own.
      rcases bind_eq_error failed with failed | ⟨on, -, failed⟩
      · rw [Head.required_eq_error failed] at placement
        cases placement
      · rcases bind_eq_error failed with failed | ⟨off, -, failed⟩
        · rw [Head.required_eq_error failed] at placement
          cases placement
        · cases failed
  · next kind => exact misplaced_of_initField (by rw [kind]; rfl) failed placement
  · next kind => exact misplaced_of_initField (by rw [kind]; rfl) failed placement
  · next kind => exact misplaced_of_initField (by rw [kind]; rfl) failed placement
  · next kind => exact misplaced_of_initGroup (by rw [kind]; rfl) failed placement
  · rcases bind_eq_error failed with failed | ⟨comparison, -, failed⟩
    · rw [not_isPlacement_of_ofHead failed] at placement
      cases placement
    · cases failed
  · rcases bind_eq_error failed with failed | ⟨statics, -, failed⟩
    · rw [Head.required_eq_error (map_eq_error failed)] at placement
      cases placement
    · cases failed

/-! ### Results -/

/-- All that initialization can make of a tag. -/
inductive Outcome (config : Config) (a : Opening) : Opening → Prop where
  /-- Buttons, lists of errors and what holds the whole template. -/
  | plain : a.kind.isForm = false → a.kind.registers = false → a.kind.isConditional = false →
    a.kind ≠ .staticSet → Outcome config a a
  | form {id} : a.kind.isForm → a.form? = none → a.head.attr? "id" = some id →
    Outcome config a { a with head := a.head.setDefault "x:required" "1" }
  | field {form id arena} : a.kind.validates → Registered a form id arena →
    Outcome config a
      { a with head := a.head.ofField config.messages form a.kind id, arena }
  | group {form id arena condition} : a.kind.isGroup → Registered a form id arena →
    Outcome config a { a with kind := .group (some condition), arena }
  | staticIf {comparison} : a.kind.isConditional → Comparison.ofHead a.head = .ok comparison →
    Outcome config a { a with kind := .staticIf (some comparison) }
  | staticSet {statics} : a.kind = .staticSet → a.statics.set a.head = .ok statics →
    Outcome config a { a with statics }

/-- A field without a pattern of its own. -/
theorem outcome_of_initField (field : a.kind.validates)
    (plain : ∀ head : Head, head.builtinPattern? a.kind = none)
    (done : a.initField (a.kind.fieldMessages config.messages) = .ok b) :
    Outcome config a b := by
  obtain ⟨⟨form, opening⟩, register, done⟩ := bind_eq_ok.mp done
  obtain ⟨id, registered, same⟩ := registered_of_register register
  dsimp only at done
  rw [same, Head.required_of_attr? registered.given] at done
  cases done
  have outcome : Outcome config a _ := .field field registered
  simp only [Head.ofField, plain] at outcome
  exact outcome

private theorem outcome_of_initText {style : TextKind} (kind : a.kind = .text style)
    (done : a.initText config style = .ok b) : Outcome config a b := by
  obtain ⟨head, _, parent, arena, statics⟩ := a
  cases kind
  obtain ⟨opening, init, done⟩ := bind_eq_ok.mp done
  obtain ⟨⟨form, next⟩, register, init⟩ := bind_eq_ok.mp init
  obtain ⟨id, registered, same⟩ := registered_of_register register
  dsimp only at init
  rw [same, Head.required_of_attr? registered.given] at init
  cases init
  cases done
  have outcome : Outcome config ⟨head, .text style, parent, arena, statics⟩ _ :=
    .field rfl registered
  -- Addresses are given their pattern last, over one that is written.
  cases style <;> exact outcome

private theorem outcome_of_initForm (isForm : a.kind.isForm) (done : a.initForm config = .ok b) :
    Outcome config a b := by
  simp only [initForm] at done
  split at done
  · cases done
  · next alone =>
    have outermost : a.form? = none := by simpa using alone
    obtain ⟨id, given, done⟩ := bind_eq_ok.mp done
    have outcome : Outcome config a _ := .form isForm outermost (Head.required_eq_ok given)
    split at done
    · split at done
      · cases done
      · cases done
        exact outcome
    · cases done
      exact outcome

private theorem outcome_of_initGroup (group : a.kind.isGroup) (done : a.initGroup = .ok b) :
    Outcome config a b := by
  obtain ⟨⟨form, opening⟩, register, done⟩ := bind_eq_ok.mp done
  obtain ⟨id, registered, same⟩ := registered_of_register register
  obtain ⟨source, -, done⟩ := bind_eq_ok.mp done
  split at done
  · cases done
    rw [same]
    exact .group group registered
  · cases done

/-- What initialization makes of a tag is one of its outcomes. -/
theorem outcome_of_init (done : a.init config = .ok b) : Outcome config a b := by
  unfold init at done
  split at done
  · -- The root, a button and the errors change nothing.
    next kind =>
    cases done
    exact .plain (by rw [kind]; rfl) (by rw [kind]; rfl) (by rw [kind]; rfl) (by rw [kind]; nofun)
  · next kind =>
    cases done
    exact .plain (by rw [kind]; rfl) (by rw [kind]; rfl) (by rw [kind]; rfl) (by rw [kind]; nofun)
  · next kind =>
    cases done
    exact .plain (by rw [kind]; rfl) (by rw [kind]; rfl) (by rw [kind]; rfl) (by rw [kind]; nofun)
  · next kind => exact outcome_of_initForm (by rw [kind]; rfl) done
  · next kind => exact outcome_of_initText kind done
  · -- A checkbox checks its two values besides what every field does.
    next kind =>
    obtain ⟨opening, init, done⟩ := bind_eq_ok.mp done
    obtain ⟨-, -, done⟩ := bind_eq_ok.mp done
    obtain ⟨-, -, done⟩ := bind_eq_ok.mp done
    cases done
    refine outcome_of_initField (by rw [kind]; rfl) (fun head => by rw [kind]; rfl) ?_
    rw [kind]
    exact init
  · next kind =>
    refine outcome_of_initField (by rw [kind]; rfl) (fun head => by rw [kind]; rfl) ?_
    rw [kind]
    exact done
  · next kind =>
    refine outcome_of_initField (by rw [kind]; rfl) (fun head => by rw [kind]; rfl) ?_
    rw [kind]
    exact done
  · next kind =>
    refine outcome_of_initField (by rw [kind]; rfl) (fun head => by rw [kind]; rfl) ?_
    rw [kind]
    exact done
  · next kind => exact outcome_of_initGroup (by rw [kind]; rfl) done
  · -- A condition that cannot be compared fails, as does an attribute that cannot be set.
    next kind =>
    obtain ⟨comparison, compared, done⟩ := bind_eq_ok.mp done
    cases done
    exact .staticIf (by rw [kind]; rfl) compared
  · next kind =>
    obtain ⟨statics, set, done⟩ := bind_eq_ok.mp done
    cases done
    exact .staticSet kind set

/-- A tag stays what it is, and keeps its id. -/
theorem Outcome.kept (outcome : Outcome config a b) :
    b.kind.bare = a.kind.bare ∧ b.head.attr? "id" = a.head.attr? "id" := by
  cases outcome with
  | plain => exact ⟨rfl, rfl⟩
  | form => exact ⟨rfl, by simp [Head.attr?_setDefault]⟩
  | field => exact ⟨rfl, by simp [Head.attr?_ofField]⟩
  | group group =>
    refine ⟨?_, rfl⟩
    generalize a.kind = kind at group
    cases kind <;> first | rfl | cases group
  | staticIf conditional =>
    refine ⟨?_, rfl⟩
    generalize a.kind = kind at conditional
    cases kind <;> first | rfl | cases conditional
  | staticSet => exact ⟨rfl, rfl⟩

/-- A field is registered, and then completed from the form it is in. -/
theorem Outcome.registered (outcome : Outcome config a b) (field : a.kind.validates) :
    b.kind = a.kind ∧ ∃ form id, Registered a form id b.arena ∧
      b.head = a.head.ofField config.messages form a.kind id := by
  cases outcome with
  | field _ registered => exact ⟨rfl, _, _, registered, rfl⟩
  -- What else can come of a tag comes of no field.
  | plain _ noField =>
    rw [TagKind.registers, field] at noField
    cases noField
  | form isForm =>
    rw [TagKind.isForm_of_validates field] at isForm
    cases isForm
  | group group =>
    rw [TagKind.validates_of_isGroup group] at field
    cases field
  | staticIf conditional =>
    rw [TagKind.validates_of_isConditional conditional] at field
    cases field
  | staticSet isSet =>
    rw [isSet] at field
    cases field

/-- Fields and groups are registered with the form around them, and other tags leave it
alone. -/
theorem Outcome.arena (outcome : Outcome config a b) :
    if a.kind.registers then ∃ form id, Registered a form id b.arena else b.arena = a.arena := by
  -- Only fields and groups register, and none of the others touches the fields of a form.
  have others (other : a.kind.registers = false) (same : b.arena = a.arena) :
      if a.kind.registers then ∃ form id, Registered a form id b.arena
      else b.arena = a.arena := by
    rw [other]
    exact same
  cases outcome with
  | plain _ other => exact others other rfl
  | form isForm =>
    refine others ?_ rfl
    cases registers : a.kind.registers with
    | false => rfl
    | true =>
      rw [TagKind.isForm_of_registers registers] at isForm
      cases isForm
  | field field registered =>
    rw [TagKind.registers, field, Bool.true_or, if_pos rfl]
    exact ⟨_, _, registered⟩
  | group group registered =>
    rw [TagKind.registers, group, Bool.or_true, if_pos rfl]
    exact ⟨_, _, registered⟩
  | staticIf conditional =>
    refine others ?_ rfl
    generalize a.kind = kind at conditional
    cases kind <;> first | rfl | cases conditional
  | staticSet isSet =>
    refine others ?_ rfl
    rw [isSet]
    rfl

theorem Outcome.head_of_isForm (outcome : Outcome config a b) (isForm : a.kind.isForm) :
    a.form? = none ∧ b.head = a.head.setDefault "x:required" "1" := by
  cases outcome with
  | form _ alone => exact ⟨alone, rfl⟩
  | plain noForm =>
    rw [noForm] at isForm
    cases isForm
  | field field =>
    rw [TagKind.isForm_of_validates field] at isForm
    cases isForm
  | group group =>
    rw [TagKind.isForm_of_isGroup group] at isForm
    cases isForm
  | staticIf conditional =>
    rw [TagKind.isForm_of_isConditional conditional] at isForm
    cases isForm
  | staticSet isSet =>
    rw [isSet] at isForm
    cases isForm

/-- Other tags keep their attributes. -/
theorem Outcome.head_eq (outcome : Outcome config a b) (noField : a.kind.validates = false)
    (noForm : a.kind.isForm = false) : b.head = a.head := by
  cases outcome with
  | field field =>
    rw [noField] at field
    cases field
  | form isForm =>
    rw [noForm] at isForm
    cases isForm
  | _ => rfl

/-- A form has the ids that it was opened with. -/
theorem Outcome.kind_of_form {ids : List String} (outcome : Outcome config a b)
    (isForm : b.kind = .form ids) : a.kind = .form ids := by
  cases outcome with
  | group => cases isForm
  | staticIf => cases isForm
  | _ => exact isForm

end Opening

end Stencil
