import Stencil.Proofs.Forms
import Stencil.Proofs.Tag.Outcome

/-!
# The ids in a form

Fields and groups in one form have different ids, also those that the definition of the
form does not list. A form in its definition therefore has at most one group of an id.
-/
namespace Stencil

open Markup (Occurrence)

/-- The ids of the fields and groups in some trees, in document order. -/
def Tree.ids (trees : List Tree) : List String :=
  ((entriesIn [] trees).filter (·.tag.kind.registers)).map fun entry => entry.tag.head.attrD "id" ""

private theorem Tree.ids_append (trees more : List Tree) : ids
    (trees ++ more) = ids trees ++ ids more := by
  rw [ids, entriesIn_append, List.filter_append, List.map_append]
  rfl

/-- A tag comes before what is in it. -/
theorem Tree.ids_singleton (tree : Tree) :
    ids [tree] = (if tree.tag.kind.registers then [tree.tag.head.attrD "id" ""] else [])
      ++ ids tree.inner := by
  obtain ⟨head, kind, body, inner⟩ := tree
  have within : ((entriesIn [⟨head, kind, none, body, [], false⟩] inner).filter
      (·.tag.kind.registers)).map (fun entry => entry.tag.head.attrD "id" "") = ids inner := by
    rw [entriesIn_around, List.filter_map, List.map_map]
    rfl
  rw [ids, entriesIn_singleton, entries]
  change _ = (if kind.registers then [head.attrD "id" ""] else []) ++ ids inner
  rw [List.filter_cons, ← within]
  dsimp only
  cases kind.registers with
  | true => rfl
  | false => rfl

/-! ### The form around -/

namespace OpenForm

/-- An open form is known by its head and by the ids in it. -/
theorem eq_of_maps {a b : Option OpenForm} (heads : a.map OpenForm.head = b.map OpenForm.head)
    (kinds : a.map OpenForm.kind = b.map OpenForm.kind) : a = b := by
  cases a with
  | none =>
    cases b with
    | none => rfl
    | some _ => cases heads
  | some a =>
    cases b with
    | none => cases heads
    | some b =>
      obtain ⟨head, fieldIds⟩ := a
      obtain ⟨head', fieldIds'⟩ := b
      cases heads
      cases kinds
      rfl

/-- A form has been given some ids, all of them different and new to it. -/
structure Gains (form next : OpenForm) (ids : List String) : Prop where
  kept : form.fieldIds ⊆ next.fieldIds
  nodup : ids.Nodup
  known : ids ⊆ next.fieldIds
  new : ∀ id ∈ ids, id ∉ form.fieldIds

namespace Gains

variable {form between next : OpenForm} {ids more : List String}

theorem nil (kept : form.fieldIds ⊆ next.fieldIds) : form.Gains next [] :=
  ⟨kept, .nil, List.nil_subset _, nofun⟩

theorem singleton {id : String} (new : id ∉ form.fieldIds) :
    form.Gains { form with fieldIds := form.fieldIds ++ [id] } [id] := by
  refine ⟨List.subset_append_left _ _, List.pairwise_singleton _ id, List.subset_append_right _ _, ?_⟩
  intro other member
  rw [List.mem_singleton.mp member]
  exact new

theorem trans (first : form.Gains between ids) (second : between.Gains next more) :
    form.Gains next (ids ++ more) := by
  constructor
  · exact List.Subset.trans first.kept second.kept
  · rw [List.nodup_append]
    refine ⟨first.nodup, second.nodup, ?_⟩
    rintro id before _ after rfl
    exact second.new id after (first.known before)
  · exact List.append_subset.mpr ⟨List.Subset.trans first.known second.kept, second.known⟩
  · intro id member
    rcases List.mem_append.mp member with before | after
    · exact first.new id before
    · exact fun earlier => second.new id after (first.kept earlier)

end Gains

end OpenForm

namespace Site

variable {setting : Setting} {site around within next : Site} {occurrence : Occurrence}
  {tag : Node}

/-- No form is opened inside of another one. -/
theorem outermost_of_openTag (done : site.openTag setting occurrence = .ok (tag, around))
    (isForm : tag.kind.isForm) : site.form = none := by
  obtain ⟨kind, attributes, opening, -, -, init, rfl, -⟩ := openTag_eq_ok done
  have outcome := Opening.outcome_of_init init
  have isForm : opening.kind.isForm := isForm
  rw [← TagKind.isForm_bare, outcome.kept.1, TagKind.isForm_bare] at isForm
  obtain ⟨alone, -⟩ := outcome.head_of_isForm isForm
  rw [form?_opening] at alone
  exact Option.map_eq_none_iff.mp alone

/-- What opening a tag does to the form around it. -/
theorem form_of_openTag (done : site.openTag setting occurrence = .ok (tag, around)) :
    if tag.kind.registers then
      ∃ form id, site.form = some form ∧ tag.head.attr? "id" = some id ∧ id ∉ form.fieldIds ∧
        around.form = some { form with fieldIds := form.fieldIds ++ [id] }
    else around.form = site.form := by
  obtain ⟨kind, attributes, opening, -, -, init, rfl, form, formed, heads, rfl⟩ :=
    openTag_eq_ok done
  generalize (⟨occurrence.namespaceName, occurrence.name, attributes,
    setting.location occurrence⟩ : Head) = head at init
  have outcome := Opening.outcome_of_init init
  obtain ⟨bare, id⟩ := outcome.kept
  have arena := outcome.arena
  change if kind.registers then _ else _ at arena
  have registers : opening.kind.registers = kind.registers := by
    rw [← TagKind.registers_bare, bare]
    exact TagKind.registers_bare kind
  dsimp only
  rw [registers]
  -- The form keeps its head, so all is said by what becomes of its ids.
  have kinds (change : Option TagKind)
      (changed : opening.arena = Opening.withForm (site.opening head kind) change) :
      form.map OpenForm.kind = site.form.map fun form => change.getD form.kind := by
    have kinds := site.kind_withForm_opening head kind change
    rw [← changed, formed] at kinds
    cases form <;> exact kinds
  split at arena
  · next field =>
    obtain ⟨outer, given, registered⟩ := arena
    obtain ⟨formId, node, ids, found, rfl, isForm, fresh, changed⟩ := registered.inForm
    rw [form?_opening] at found
    obtain ⟨here, around, same⟩ := Option.map_eq_some_iff.mp found
    cases same
    cases isForm
    rw [if_pos field]
    refine ⟨here, given, around, id.trans registered.given, fresh, ?_⟩
    have kind := kinds _ changed
    rw [around] at kind heads
    exact OpenForm.eq_of_maps heads kind
  · next field =>
    rw [if_neg field]
    exact OpenForm.eq_of_maps heads (kinds none arena)

private theorem form_inside (around : Site) (form : tag.kind.isForm = false) :
    (around.inside tag).form = around.form := by
  rw [inside, OpenForm.of?_of_not_isForm _ form]
  rfl

private theorem form_behind (around within : Site) (messages : Messages)
    (form : tag.kind.isForm = false) : (around.behind messages tag within).form = within.form := by
  rw [behind, form]
  rfl

/-- Trees have been added to a place. The fields and groups among them have different ids
that are new to the form around them, and likewise in every form among them. -/
structure Adds (site next : Site) (more : List Tree) : Prop where
  trees : next.trees = site.trees ++ more
  distinct : ∀ tree ∈ Tree.formsIn more, (Tree.ids tree.inner).Nodup
  gains : ∀ form, site.form = some form →
    ∃ form', next.form = some form' ∧ form.Gains form' (Tree.ids more)

namespace Adds

theorem pushText (site : Site) (text : List Char) : site.Adds (site.pushText text) [] := by
  refine ⟨(List.append_nil _).symm, nofun, ?_⟩
  intro form here
  exact ⟨form, here, .nil (List.Subset.refl _)⟩

theorem trans {more later : List Tree} (first : site.Adds around more)
    (second : around.Adds next later) : site.Adds next (more ++ later) := by
  constructor
  · rw [second.trees, first.trees, List.append_assoc]
  · intro tree member
    rw [Tree.formsIn_append] at member
    rcases List.mem_append.mp member with before | after
    · exact first.distinct tree before
    · exact second.distinct tree after
  · intro form here
    obtain ⟨between, there, gains⟩ := first.gains form here
    obtain ⟨form', behind, gains'⟩ := second.gains between there
    rw [Tree.ids_append]
    exact ⟨form', behind, gains.trans gains'⟩

/-- A tag that leaves nothing. -/
theorem opens (done : site.openTag setting occurrence = .ok (tag, around)) :
    site.Adds around [] := by
  have form := form_of_openTag done
  refine ⟨by rw [trees_of_openTag done, List.append_nil], nofun, ?_⟩
  intro outer here
  split at form
  · obtain ⟨form, id, given, -, -, changed⟩ := form
    cases given.symm.trans here
    exact ⟨_, changed, .nil (List.subset_append_left _ _)⟩
  · exact ⟨outer, form.trans here, .nil (List.Subset.refl _)⟩

/-- A form that is closed has fields and groups of different ids in it. -/
theorem distinct_closed (inner : (around.inside tag).Adds within within.trees) :
    ∀ tree ∈ Tree.formsIn [within.closed tag], (Tree.ids tree.inner).Nodup := by
  obtain ⟨kind, closed, cases⟩ := within.closed_tag tag
  have isForm : (within.closed tag).tag.kind.isForm = tag.kind.isForm := by
    rw [closed]
    rcases cases with rfl | ⟨isForm, isForm'⟩
    · rfl
    · exact isForm.trans isForm'.symm
  have innerTrees : (within.closed tag).inner = within.trees := rfl
  intro tree member
  rw [Tree.formsIn_singleton, innerTrees, isForm] at member
  rcases List.mem_append.mp member with deeper | here
  · exact inner.distinct tree deeper
  · split at here
    · next form =>
      -- A form starts without ids, and gains those of the tags inside.
      obtain ⟨ids, -, opened⟩ := OpenForm.of?_of_isForm tag.head form
      have place : (around.inside tag).form = some ⟨tag.head, ids⟩ := by
        rw [Site.inside, opened]
        rfl
      obtain ⟨_, -, gains⟩ := inner.gains _ place
      rw [List.mem_singleton.mp here, innerTrees]
      exact gains.nodup
    · cases here

/-- The form around a tag is given the id of the tag, if it is a field or a group, and then
those of what is in the tag. -/
theorem gains_closed {messages : Messages} {form : OpenForm}
    (done : site.openTag setting occurrence = .ok (tag, around))
    (inner : (around.inside tag).Adds within within.trees) (here : site.form = some form) :
    ∃ form', (around.behind messages tag within).form = some form' ∧
      form.Gains form' (Tree.ids [within.closed tag]) := by
  -- A form stands in no other, so the tag is none where one is around it.
  have noForm : tag.kind.isForm = false := by
    cases form : tag.kind.isForm with
    | false => rfl
    | true =>
      rw [outermost_of_openTag done form] at here
      cases here
  obtain ⟨kind, closed, cases⟩ := within.closed_tag tag
  have same : kind = tag.kind := by
    rcases cases with same | ⟨-, contrary⟩
    · exact same
    · rw [noForm] at contrary
      cases contrary
  have innerTrees : (within.closed tag).inner = within.trees := rfl
  have place := around.form_inside noForm
  have registered := form_of_openTag done
  rw [form_behind around within messages noForm, Tree.ids_singleton, closed, same, innerTrees]
  cases registers : tag.kind.registers with
  | false =>
    rw [registers, if_neg Bool.false_ne_true] at registered
    rw [if_neg Bool.false_ne_true]
    exact inner.gains form (place.trans (registered.trans here))
  | true =>
    rw [registers, if_pos rfl] at registered
    obtain ⟨form', id, here', given, new, changed⟩ := registered
    cases here'.symm.trans here
    -- The tag's own id comes before those inside of it.
    obtain ⟨next, behind, gains⟩ := inner.gains _ (place.trans changed)
    have isId : tag.head.attrD "id" "" = id := by rw [Head.attrD, given, Option.getD_some]
    rw [if_pos rfl]
    dsimp only
    rw [isId]
    exact ⟨next, behind, (OpenForm.Gains.singleton new).trans gains⟩

/-- A tag with something in it. -/
theorem closes {messages : Messages}
    (done : site.openTag setting occurrence = .ok (tag, around))
    (inner : (around.inside tag).Adds within within.trees) :
    site.Adds (around.behind messages tag within) [within.closed tag] :=
  ⟨congrArg (· ++ _) (trees_of_openTag done), distinct_closed inner,
    fun _ here => gains_closed done inner here⟩

end Adds

end Site

/-- Growing adds trees with different ids. -/
theorem Forest.adds_of_grow {setting : Setting} {forest : Forest} {site next : Site}
    (done : forest.grow setting site = .ok next) : ∃ more, site.Adds next more := by
  induction forest generalizing site next with
  | text behind =>
    cases done
    exact ⟨_, .pushText site behind⟩
  | single gap opening rest ih =>
    obtain ⟨⟨tag, around⟩, opened, done⟩ := bind_eq_ok.mp done
    have pushed := Site.Adds.pushText site gap
    dsimp only at done
    split at done
    · obtain ⟨more, later⟩ := ih done
      exact ⟨_, pushed.trans ((Site.Adds.opens opened).trans later)⟩
    · obtain ⟨more, later⟩ := ih done
      -- A tag that ends at once has an empty inside.
      have inside : (around.inside tag).Adds (around.inside tag) (around.inside tag).trees :=
        .pushText (around.inside tag) []
      exact ⟨_, pushed.trans ((Site.Adds.closes opened inside).trans later)⟩
  | element gap opening inner closing rest ihInner ihRest =>
    obtain ⟨⟨tag, around⟩, opened, done⟩ := bind_eq_ok.mp done
    have pushed := Site.Adds.pushText site gap
    dsimp only at done
    split at done
    · obtain ⟨more, later⟩ := ihRest done
      exact ⟨_, pushed.trans ((Site.Adds.opens opened).trans later)⟩
    · obtain ⟨within, grown, done⟩ := bind_eq_ok.mp done
      obtain ⟨more, later⟩ := ihRest done
      obtain ⟨inside, adds⟩ := ihInner grown
      have same : within.trees = inside := adds.trees
      rw [← same] at adds
      exact ⟨_, pushed.trans ((Site.Adds.closes opened adds).trans later)⟩

private theorem Node.id_of_group? {node : Node} {group : Group}
    (made : node.group? = .ok (some group)) : group.id = node.head.attrD "id" "" := by
  unfold group? at made
  split at made
  · cases made
    rfl
  · cases made
  · cases made

/-- A form defines at most one group of an id. -/
theorem Form.DefinedBy.nodup_groups {messages : Messages} {tree : Tree} {form : Form}
    (defined : form.DefinedBy messages tree) (distinct : (Tree.ids tree.inner).Nodup) :
    (form.groups.map Group.id).Nodup := by
  have ids : form.groups.map Group.id
      = (tree.listed TagKind.isGroup).map fun tag => tag.head.attrD "id" "" := by
    have related := defined.groups
    generalize tree.listed TagKind.isGroup = tags, form.groups = groups at related
    induction related with
    | nil => rfl
    | cons here _ ih => rw [List.map_cons, List.map_cons, ih, Node.id_of_group? here]
  have registered (entry : Entry) :
      (entry.tag.kind.isGroup && entry.isListed) ≤ entry.tag.kind.registers := by
    rw [TagKind.registers]
    cases entry.tag.kind.isGroup with
    | true => simp
    | false => simp
  rw [ids, Tree.listed, List.filter_map, List.map_map, List.filter_filter]
  refine List.Nodup.sublist (List.Sublist.map _ ?_) distinct
  exact List.monotone_filter_right _ registered

end Stencil
