import Stencil.Proofs.Outline.Places
import Stencil.Proofs.Tag.Initialized

/-!
# Tags in trees

The tags of a tree in document order, each with the tags around it, and in the order they
are closed. The form of a form tag is read off the former: it has a validator for every
field and the groups in it, but for what is inside of a value tag.
-/
namespace Stencil

/-- A tag, and the tags around it from the inside out. -/
structure Entry where
  around : List Node
  tag : Node

/-- Whether no value tag is around a tag. -/
def Entry.isListed (entry : Entry) : Bool := entry.around.all fun tag => !tag.kind.isValueTag

theorem Entry.isListed_of_subset {entry inside : Entry} (listed : entry.isListed)
    (enclosed : inside.around ⊆ entry.around) : inside.isListed := by
  unfold Entry.isListed at *
  rw [List.all_eq_true] at *
  intro tag member
  exact listed tag (enclosed member)

namespace Tree

def tag : Tree → Node
  | .node head kind body _ => ⟨head, kind, none, body, [], false⟩

def inner : Tree → List Tree
  | .node _ _ _ inner => inner

mutual
/-- A tag and the tags in it, in document order. -/
def entries (around : List Node) : Tree → List Entry
  | .node head kind body inner =>
    ⟨around, ⟨head, kind, none, body, [], false⟩⟩
      :: entriesIn (⟨head, kind, none, body, [], false⟩ :: around) inner

def entriesIn (around : List Node) : List Tree → List Entry
  | [] => []
  | tree :: rest => tree.entries around ++ entriesIn around rest
end

mutual
/-- A tag and the tags in it, in the order they are closed. -/
def closed : Tree → List Tree
  | .node head kind body inner => closedIn inner ++ [.node head kind body inner]

def closedIn : List Tree → List Tree
  | [] => []
  | tree :: rest => tree.closed ++ closedIn rest
end

/-- The form tags among trees, in the order they are closed. -/
def formsIn (trees : List Tree) : List Tree := (closedIn trees).filter (·.tag.kind.isForm)

/-- The tags of some kinds inside a tag that are in no other value tag, in document
order. -/
def listed (kinds : TagKind → Bool) (tree : Tree) : List Node :=
  (((entriesIn [] tree.inner).filter Entry.isListed).map Entry.tag).filter (kinds ·.kind)

/-! ### Entries -/

@[simp]
theorem entriesIn_append (around : List Node) (trees more : List Tree) :
    entriesIn around (trees ++ more) = entriesIn around trees ++ entriesIn around more := by
  induction trees with
  | nil => rfl
  | cons tree rest ih => rw [List.cons_append, entriesIn, entriesIn, ih, List.append_assoc]

@[simp]
theorem closedIn_append (trees more : List Tree) :
    closedIn (trees ++ more) = closedIn trees ++ closedIn more := by
  induction trees with
  | nil => rfl
  | cons tree rest ih => rw [List.cons_append, closedIn, closedIn, ih, List.append_assoc]

theorem entriesIn_singleton (around : List Node) (tree : Tree) :
    entriesIn around [tree] = tree.entries around := List.append_nil _

private theorem closedIn_singleton (tree : Tree) : closedIn
    [tree] = tree.closed := List.append_nil _

theorem formsIn_append (trees more : List Tree) :
    formsIn (trees ++ more) = formsIn trees ++ formsIn more := by
  rw [formsIn, closedIn_append, List.filter_append]
  rfl

/-- The forms in a tag are closed before it. -/
theorem formsIn_singleton (tree : Tree) :
    formsIn [tree] = formsIn tree.inner ++ if tree.tag.kind.isForm then [tree] else [] := by
  obtain ⟨head, kind, body, inner⟩ := tree
  rw [formsIn, closedIn_singleton, closed, List.filter_append, List.filter_singleton, cond_eq_ite]
  rfl

mutual

/-- The tags around a tree are around every tag in it. -/
theorem entries_around (around : List Node) (tree : Tree) :
    tree.entries around
      = (tree.entries []).map fun entry => { entry with around := entry.around ++ around } := by
  obtain ⟨head, kind, body, inner⟩ := tree
  rw [entries, entries, entriesIn_around (_ :: around), entriesIn_around [_], List.map_cons,
    List.map_map]
  refine congrArg _ (List.map_congr_left fun entry _ => ?_)
  simp

theorem entriesIn_around (around : List Node) (trees : List Tree) :
    entriesIn around trees
      = (entriesIn [] trees).map fun entry => { entry with around := entry.around ++ around } := by
  cases trees with
  | nil => rfl
  | cons tree rest =>
    rw [entriesIn, entriesIn, entries_around around tree, entriesIn_around around rest,
      List.map_append]

end

private theorem mem_entriesIn_around {around : List Node} {trees : List Tree} {entry : Entry} :
    entry ∈ entriesIn around trees ↔
      ∃ inside ∈ entriesIn [] trees, entry = ⟨inside.around ++ around, inside.tag⟩ := by
  rw [entriesIn_around, List.mem_map]
  exact exists_congr fun inside => and_congr_right fun _ => eq_comm

/-- A tag is among the tags of its tree, with nothing around it, and the others are
inside of it. -/
theorem mem_entries {tree : Tree} {entry : Entry} :
    entry ∈ tree.entries [] ↔ entry = ⟨[], tree.tag⟩ ∨
      ∃ inside ∈ entriesIn [] tree.inner, entry = ⟨inside.around ++ [tree.tag], inside.tag⟩ := by
  obtain ⟨head, kind, body, inner⟩ := tree
  rw [entries, List.mem_cons, mem_entriesIn_around]
  rfl

mutual

/-- The innermost form around a tag is among those that are closed. -/
theorem exists_form_of_mem_entries {tree : Tree} {entry : Entry} {form : Node}
    (member : entry ∈ tree.entries []) (around : form ∈ entry.around) (isForm : form.kind.isForm) :
    ∃ outer ∈ formsIn [tree], ∃ inside ∈ entriesIn [] outer.inner,
      inside.tag = entry.tag ∧ inside.around ⊆ entry.around := by
  rcases mem_entries.mp member with rfl | ⟨inside, later, rfl⟩
  · cases around
  · obtain ⟨head, kind, body, inner⟩ := tree
    rcases List.mem_append.mp around with within | here
    · obtain ⟨outer, closed, found, member, same, enclosed⟩ :=
        exists_form_of_mem_entriesIn later within isForm
      refine ⟨outer, ?_, found, member, same, ?_⟩
      · rw [formsIn_singleton]
        exact List.mem_append_left _ closed
      · intro tag isIn
        exact List.mem_append_left _ (enclosed isIn)
    · obtain rfl := List.mem_singleton.mp here
      refine ⟨.node head kind body inner, ?_, inside, later, rfl, List.subset_append_left _ _⟩
      rw [formsIn_singleton, if_pos isForm]
      exact List.mem_append_right _ (List.mem_singleton_self _)

theorem exists_form_of_mem_entriesIn {trees : List Tree} {entry : Entry} {form : Node}
    (member : entry ∈ entriesIn [] trees) (around : form ∈ entry.around)
    (isForm : form.kind.isForm) :
    ∃ outer ∈ formsIn trees, ∃ inside ∈ entriesIn [] outer.inner,
      inside.tag = entry.tag ∧ inside.around ⊆ entry.around := by
  cases trees with
  | nil => cases member
  | cons tree rest =>
    have split : formsIn (tree :: rest) = formsIn [tree] ++ formsIn rest :=
      formsIn_append [tree] rest
    rw [split]
    rcases List.mem_append.mp member with first | later
    · obtain ⟨outer, closed, found⟩ := exists_form_of_mem_entries first around isForm
      exact ⟨outer, List.mem_append_left _ closed, found⟩
    · obtain ⟨outer, closed, found⟩ := exists_form_of_mem_entriesIn later around isForm
      exact ⟨outer, List.mem_append_right _ closed, found⟩

end

mutual

/-- What a form looks at are the tags that are in no value tag. -/
theorem visible_eq (around : List Node) (tree : Tree) :
    ((tree.entries around).filter Entry.isListed).map Entry.tag
      = if around.all fun tag => !tag.kind.isValueTag then tree.visible else [] := by
  obtain ⟨head, kind, body, inner⟩ := tree
  have inside := visibleIn_eq (⟨head, kind, none, body, [], false⟩ :: around) inner
  rw [List.all_cons, Bool.and_comm] at inside
  rw [entries, List.filter_cons, visible, Entry.isListed]
  cases here : around.all fun tag => !tag.kind.isValueTag with
  | true =>
    rw [if_pos rfl, if_pos rfl, List.map_cons, inside, here]
    cases kind.isValueTag <;> rfl
  | false =>
    rw [here] at inside
    exact inside

private theorem visibleIn_eq (around : List Node) (trees : List Tree) :
    ((entriesIn around trees).filter Entry.isListed).map Entry.tag
      = if around.all fun tag => !tag.kind.isValueTag then visibleIn trees else [] := by
  cases trees with
  | nil => simp [entriesIn, visibleIn]
  | cons tree rest =>
    rw [entriesIn, List.filter_append, List.map_append, visible_eq around tree,
      visibleIn_eq around rest, visibleIn]
    split
    · rfl
    · rfl

end

private theorem listed_eq (kinds : TagKind → Bool) (tree : Tree) :
    tree.listed kinds = (visibleIn tree.inner).filter (kinds ·.kind) := by
  rw [listed, visibleIn_eq]
  rfl

end Tree

/-! ### Forms -/

/-- What a form tag defines: the form of its id, with a validator for every field in it
that is in no other value tag, and with the groups in it. -/
structure Form.DefinedBy (messages : Messages) (tree : Tree) (form : Form) : Prop where
  id : tree.tag.head.attr? "id" = some form.id
  typeName : form.typeName = Form.typeNameOf form.id
  base : form.base = tree.tag.head.attr? "x:extend"
  validators : List.Forall₂ (fun tag validator => tag.validator? messages = .ok (some validator))
    (tree.listed TagKind.validates) form.validators
  fields : form.fields = (tree.listed TagKind.validates).map (·.head.fieldName)
  groups : List.Forall₂ (fun tag group => tag.group? = .ok (some group))
    (tree.listed TagKind.isGroup) form.groups

namespace Node

variable {messages : Messages} {node : Node}

/-- The group tags are those with a group. -/
theorem isSome_of_group? {group : Option Group} (made : node.group? = .ok group) :
    group.isSome = node.kind.isGroup := by
  unfold group? at made
  split at made
  next condition kind =>
    cases made
    simp [kind, TagKind.isGroup]
  next => cases made
  next initialized uninitialized =>
    cases made
    cases kind : node.kind with
    | group condition =>
      cases condition with
      | some condition => exact (initialized condition kind).elim
      | none => exact (uninitialized kind).elim
    | _ => rfl

private theorem name_of_textValidator {head : Head} {kind : TextKind} {validator : FieldValidator}
    (made : head.textValidator kind = .ok validator) : validator.name = head.fieldName := by
  obtain ⟨_, _, _, _, _, -, -, -, -, -, name, -⟩ := Head.textValidator_eq_ok made
  exact name

private theorem name_of_fileValidator {head : Head} {validator : FieldValidator}
    (made : head.fileValidator messages = .ok validator) : validator.name = head.fieldName := by
  obtain ⟨_, _, -, -, name, -⟩ := Head.fileValidator_eq_ok made
  exact name

/-- The fields are the tags with a validator. -/
theorem isSome_of_validator? {validator : Option FieldValidator}
    (made : node.validator? messages = .ok validator) :
    validator.isSome = node.kind.validates := by
  unfold validator? at made
  cases kind : node.kind with
  | text kind' =>
    simp only [kind] at made
    obtain ⟨built, -, rfl⟩ := map_eq_ok.mp made
    rfl
  | file =>
    simp only [kind] at made
    obtain ⟨built, -, rfl⟩ := map_eq_ok.mp made
    rfl
  | select multiple =>
    cases multiple <;> simp only [kind] at made <;> cases made <;> rfl
  | _ =>
    simp only [kind] at made
    cases made
    rfl

/-- A validator goes by the name of its field. -/
theorem name_of_validator? {validator : FieldValidator}
    (made : node.validator? messages = .ok (some validator)) :
    validator.name = node.head.fieldName := by
  unfold validator? at made
  cases kind : node.kind with
  | text kind' =>
    simp only [kind] at made
    obtain ⟨built, done, same⟩ := map_eq_ok.mp made
    cases same
    exact name_of_textValidator done
  | file =>
    simp only [kind] at made
    obtain ⟨built, done, same⟩ := map_eq_ok.mp made
    cases same
    exact name_of_fileValidator done
  | select multiple =>
    cases multiple <;> simp only [kind] at made <;> cases made <;> rfl
  | _ =>
    simp only [kind] at made
    cases made
    try rfl

end Node

namespace Form

variable {messages : Messages} {form next : Form}

/-- What a run over tags adds to a form: a validator per field and the groups. -/
theorem addNodes_eq_ok {nodes : List Node}
    (done : nodes.foldlM (addNode messages) form = .ok next) :
    ∃ validators groups,
      next = { form with
        fields := form.fields ++ (nodes.filter (·.kind.validates)).map (·.head.fieldName)
        groups := form.groups ++ groups
        validators := form.validators ++ validators } ∧
      List.Forall₂ (fun tag validator => tag.validator? messages = .ok (some validator))
        (nodes.filter (·.kind.validates)) validators ∧
      List.Forall₂ (fun tag group => tag.group? = .ok (some group))
        (nodes.filter (·.kind.isGroup)) groups := by
  induction nodes generalizing form with
  | nil =>
    cases done
    exact ⟨[], [], by simp, .nil, .nil⟩
  | cons node rest ih =>
    rw [List.foldlM_cons] at done
    obtain ⟨middle, here, later⟩ := bind_eq_ok.mp done
    obtain ⟨validators, groups, same, validated, grouped⟩ := ih later
    -- The tag is a group, a field, or nothing to the form.
    obtain ⟨group, madeGroup, here⟩ := bind_eq_ok.mp here
    have isGroup := Node.isSome_of_group? madeGroup
    rw [List.filter_cons, List.filter_cons, ← isGroup]
    cases group with
    | some group =>
      have notField : node.kind.validates = false := TagKind.validates_of_isGroup isGroup.symm
      rw [notField]
      cases here
      exact ⟨validators, group :: groups, by simp [same, addGroup], validated,
        .cons madeGroup grouped⟩
    | none =>
      obtain ⟨validator, madeValidator, here⟩ := bind_eq_ok.mp here
      have validates := Node.isSome_of_validator? madeValidator
      rw [← validates]
      cases validator with
      | some validator =>
        have name := Node.name_of_validator? madeValidator
        cases here
        exact ⟨validator :: validators, groups, by simp [same, addField, name],
          .cons madeValidator validated, grouped⟩
      | none =>
        cases here
        exact ⟨validators, groups, same, validated, grouped⟩

/-- The form of a form tag is what it defines. -/
theorem definedBy_of_ofTrees {tree : Tree} {id : String}
    (given : tree.tag.head.attr? "id" = some id)
    (done : ofTrees messages tree.tag.head tree.inner = .ok form) :
    form.DefinedBy messages tree := by
  obtain ⟨validators, groups, rfl, validated, grouped⟩ := addNodes_eq_ok done
  have identity : tree.tag.head.attrD "id" "" = id := by simp [Head.attrD, given]
  simp only [identity, List.nil_append]
  constructor
  · exact given
  · rfl
  · rfl
  · rwa [Tree.listed_eq]
  · rw [Tree.listed_eq]
  · rwa [Tree.listed_eq]

/-- The fields of a form are the names of its validators. -/
theorem DefinedBy.names {tree : Tree} (defined : form.DefinedBy messages tree) :
    form.fields = form.validators.map FieldValidator.name := by
  have related := defined.validators
  rw [defined.fields]
  generalize tree.listed TagKind.validates = tags, form.validators = validators at related ⊢
  induction related with
  | nil => rfl
  | cons here _ ih => rw [List.map_cons, List.map_cons, ih, Node.name_of_validator? here]

end Form

end Stencil
