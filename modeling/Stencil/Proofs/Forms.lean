import Stencil.Proofs.Growth

/-!
# The forms of a template

A template that compiles has one form for every form tag that is not left out, in the
order these are closed. The form has a validator for every field in the form tag that is
in no other value tag, in document order, and its groups likewise.
-/
namespace Stencil

/-- What initialization demands of a tag among those that have grown at a place. -/
structure Entry.Complete (site : Site) (entry : Entry) : Prop where
  identified : entry.tag.kind.isForm → (entry.tag.head.attr? "id").isSome
  /-- Fields and groups stand in a form. -/
  enclosed : entry.tag.kind.validates ∨ entry.tag.kind.isGroup →
    (∃ form ∈ entry.around, form.kind.isForm) ∨ site.form.isSome
  required : entry.tag.kind.validates → (entry.tag.head.attr? "x:required").isSome

namespace Site

variable {setting : Setting} {site around within : Site} {occurrence : Markup.Occurrence}
  {tag : Node}

/-- All tags at a place are complete. -/
def Complete (site : Site) : Prop := ∀ entry ∈ Tree.entriesIn [] site.trees, entry.Complete site

private theorem isSome_of_follows (follows : site.Follows around) :
    around.form.isSome = site.form.isSome := by
  have same := congrArg Option.isSome follows
  rwa [Option.isSome_map, Option.isSome_map] at same

/-- A tag that is closed is what it was when it was opened, with a body. Only the ids of a
form may be others. -/
theorem closed_tag (within : Site) (tag : Node) :
    ∃ kind, (within.closed tag).tag = ⟨tag.head, kind, none, within.body, [], false⟩ ∧
      (kind = tag.kind ∨ kind.isForm ∧ tag.kind.isForm) := by
  refine ⟨_, rfl, ?_⟩
  cases isForm : tag.kind.isForm with
  | true =>
    rw [if_pos rfl]
    cases within.form with
    | none => exact .inl rfl
    | some form => exact .inr ⟨rfl, rfl⟩
  | false => exact .inl rfl

/-- A form registers no field with the form around it, and no field is a form. -/
theorem complete_closed (opened : site.openTag setting occurrence = .ok (tag, around))
    (within : Site) : (⟨[], (within.closed tag).tag⟩ : Entry).Complete around := by
  obtain ⟨kind, attributes, opening, -, -, init, rfl, form, -, follows, rfl⟩ :=
    openTag_eq_ok opened
  obtain ⟨-, -, identified, enclosed, required⟩ := Opening.completed_of_init init
  obtain ⟨kind', same, cases⟩ :=
    within.closed_tag ⟨opening.head, opening.kind, none, [], [], false⟩
  rw [same]
  have placed : (site.opening ⟨occurrence.namespaceName, occurrence.name, attributes,
      setting.location occurrence⟩ kind).form?.isSome = form.isSome := by
    rw [form?_opening, Option.isSome_map, ← Option.isSome_map, ← follows, Option.isSome_map]
  rw [placed] at enclosed
  rcases cases with rfl | ⟨isForm, isForm'⟩
  · exact ⟨identified, fun value => .inr (enclosed value), required⟩
  · constructor
    · intro _
      exact identified isForm'
    · intro value
      cases kind' <;> simp_all [TagKind.isForm, TagKind.validates, TagKind.isGroup]
    · intro field
      simp [TagKind.isForm_of_validates field] at isForm

private theorem complete_behind {messages : Messages}
    (opened : site.openTag setting occurrence = .ok (tag, around))
    (follows : (around.inside tag).Follows within) (before : around.Complete)
    (inside : within.Complete) : (around.behind messages tag within).Complete := by
  have placed : around.Follows (around.behind messages tag within) := follows_behind follows
  have same := isSome_of_follows placed
  intro entry member
  have member : entry ∈ Tree.entriesIn [] (around.trees ++ [within.closed tag]) := member
  rw [Tree.entriesIn_append, Tree.entriesIn_singleton] at member
  have keep {entry : Entry} (complete : entry.Complete around) :
      entry.Complete (around.behind messages tag within) :=
    ⟨complete.identified, same ▸ complete.enclosed, complete.required⟩
  rcases List.mem_append.mp member with earlier | here
  · exact keep (before entry earlier)
  · rcases Tree.mem_entries.mp here with rfl | ⟨inner, later, rfl⟩
    · exact keep (complete_closed opened within)
    · obtain ⟨identified, enclosed, required⟩ := inside inner later
      refine ⟨identified, ?_, required⟩
      intro value
      rcases enclosed value with ⟨form, member, isForm⟩ | outside
      · exact .inl ⟨form, List.mem_append_left _ member, isForm⟩
      · -- The form around the inside is the tag itself, or the one around the tag.
        rw [isSome_of_follows follows, Site.inside] at outside
        obtain ⟨kind, closed, cases⟩ := within.closed_tag tag
        cases isForm : tag.kind.isForm with
        | true =>
          refine .inl ⟨(within.closed tag).tag, by simp, ?_⟩
          rw [closed]
          rcases cases with rfl | ⟨isForm', -⟩
          · exact isForm
          · exact isForm'
        | false =>
          rw [OpenForm.of?_of_not_isForm _ isForm, Option.none_or] at outside
          exact .inr (same ▸ outside)

end Site

/-- All tags of a template are complete. -/
theorem Forest.complete_of_grow {setting : Setting} {forest : Forest} {site : Site}
    (grown : forest.grow setting {} = .ok site) : site.Complete := by
  refine Forest.grow_invariant ?_ ?_ ?_ grown nofun
  · intro site text complete entry member
    obtain ⟨identified, enclosed, required⟩ := complete entry member
    exact ⟨identified, enclosed, required⟩
  · intro site around occurrence tag opened complete entry member
    have same := Site.isSome_of_follows (Site.follows_of_openTag opened)
    obtain ⟨_, _, _, _, _, _, _, form, _, _, rfl⟩ := Site.openTag_eq_ok opened
    obtain ⟨identified, enclosed, required⟩ := complete entry member
    exact ⟨identified, same ▸ enclosed, required⟩
  · intro site around within occurrence tag opened follows inside before
    exact Site.complete_behind opened follows before (inside nofun)

namespace Tree

mutual

private theorem exists_entry_of_mem_closed {tree closed : Tree} (member : closed ∈ tree.closed) :
    ∃ entry ∈ tree.entries [], entry.tag = closed.tag := by
  obtain ⟨head, kind, body, inner⟩ := tree
  rcases List.mem_append.mp member with within | here
  · obtain ⟨entry, member, same⟩ := exists_entry_of_mem_closedIn within
    exact ⟨_, mem_entries.mpr (.inr ⟨entry, member, rfl⟩), same⟩
  · obtain rfl := List.mem_singleton.mp here
    exact ⟨_, mem_entries.mpr (.inl rfl), rfl⟩

/-- A tag that is closed is among the tags in document order. -/
theorem exists_entry_of_mem_closedIn {trees : List Tree} {closed : Tree}
    (member : closed ∈ closedIn trees) : ∃ entry ∈ entriesIn [] trees, entry.tag = closed.tag := by
  cases trees with
  | nil => cases member
  | cons tree rest =>
    rcases List.mem_append.mp member with first | later
    · obtain ⟨entry, member, same⟩ := exists_entry_of_mem_closed first
      exact ⟨entry, List.mem_append_left _ member, same⟩
    · obtain ⟨entry, member, same⟩ := exists_entry_of_mem_closedIn later
      exact ⟨entry, List.mem_append_right _ member, same⟩

end

mutual

private theorem exists_entry_of_mem_inner {tree closed : Tree} (member : closed ∈ tree.closed)
    {inside : Entry} (within : inside ∈ entriesIn [] closed.inner) :
    ∃ entry ∈ tree.entries [], entry.tag = inside.tag := by
  obtain ⟨head, kind, body, inner⟩ := tree
  rcases List.mem_append.mp member with deeper | here
  · obtain ⟨entry, member, same⟩ := exists_entry_of_mem_innerIn deeper within
    exact ⟨_, mem_entries.mpr (.inr ⟨entry, member, rfl⟩), same⟩
  · obtain rfl := List.mem_singleton.mp here
    exact ⟨_, mem_entries.mpr (.inr ⟨inside, within, rfl⟩), rfl⟩

/-- The tags in a tag that is closed are among the tags in document order. -/
theorem exists_entry_of_mem_innerIn {trees : List Tree} {closed : Tree}
    (member : closed ∈ closedIn trees) {inside : Entry}
    (within : inside ∈ entriesIn [] closed.inner) :
    ∃ entry ∈ entriesIn [] trees, entry.tag = inside.tag := by
  cases trees with
  | nil => cases member
  | cons tree rest =>
    rcases List.mem_append.mp member with first | later
    · obtain ⟨entry, member, same⟩ := exists_entry_of_mem_inner first within
      exact ⟨entry, List.mem_append_left _ member, same⟩
    · obtain ⟨entry, member, same⟩ := exists_entry_of_mem_innerIn later within
      exact ⟨entry, List.mem_append_right _ member, same⟩

end

end Tree

/-- What a template defines: the forms of its form tags, each with the fields and groups
in it. -/
theorem definedBy_of_grown {setting : Setting} {text : String} {compiled : Compiled} {site : Site}
    (grown : compiled.GrownFrom setting text site)
    (formed : Form.OfTrees setting.config.messages site.trees compiled.forms) :
    List.Forall₂ (fun tree form => form.DefinedBy setting.config.messages tree)
      (Tree.formsIn site.trees) compiled.forms := by
  obtain ⟨⟨forest, -, -, grown⟩, -, -⟩ := grown
  have identified : ∀ tree ∈ Tree.formsIn site.trees, (tree.tag.head.attr? "id").isSome := by
    intro tree member
    obtain ⟨closed, isForm⟩ := List.mem_filter.mp member
    obtain ⟨entry, member, same⟩ := Tree.exists_entry_of_mem_closedIn closed
    have complete := (Forest.complete_of_grow grown entry member).identified
    rw [same] at complete
    exact complete isForm
  refine ((List.forall₂_and_left _ _).mpr ⟨identified, formed⟩).imp ?_
  intro tree form related
  obtain ⟨id, given⟩ := Option.isSome_iff_exists.mp related.1
  exact Form.definedBy_of_ofTrees given related.2

/-- A form that was defined by one of these trees has the field of a tag, with this
validator. -/
structure Form.Validates (messages : Messages) (trees : List Tree) (form : Form) (tag : Node)
    (validator : FieldValidator) : Prop where
  defined : ∃ tree ∈ Tree.formsIn trees, form.DefinedBy messages tree ∧
    tag ∈ tree.listed TagKind.validates
  member : validator ∈ form.validators
  made : tag.validator? messages = .ok (some validator)

theorem Form.Validates.names {messages : Messages} {trees : List Tree} {form : Form} {tag : Node}
    {validator : FieldValidator} (validates : form.Validates messages trees tag validator) :
    form.fields = form.validators.map FieldValidator.name ∧
      validator.name = tag.head.fieldName := by
  obtain ⟨tree, -, defined, -⟩ := validates.defined
  exact ⟨defined.names, Node.name_of_validator? validates.made⟩

/-- A field of a template that is in no other value tag belongs to one of the forms. -/
theorem exists_validates_of_listed {setting : Setting} {text : String} {compiled : Compiled}
    {site : Site} (grown : compiled.GrownFrom setting text site)
    (formed : Form.OfTrees setting.config.messages site.trees compiled.forms)
    {entry : Entry} (member : entry ∈ Tree.entriesIn [] site.trees) (listed : entry.isListed)
    (field : entry.tag.kind.validates) :
    ∃ form ∈ compiled.forms, ∃ validator,
      form.Validates setting.config.messages site.trees entry.tag validator := by
  have defined := definedBy_of_grown grown formed
  obtain ⟨⟨forest, -, -, grown⟩, -, -⟩ := grown
  have outermost : site.form = none := Option.map_eq_none_iff.mp (Forest.follows_of_grow grown)
  have enclosed := (Forest.complete_of_grow grown entry member).enclosed (.inl field)
  simp only [outermost, Option.isSome_none, Bool.false_eq_true, or_false] at enclosed
  obtain ⟨around, isAround, isForm⟩ := enclosed
  obtain ⟨outer, closed, inside, found, same, within⟩ :=
    Tree.exists_form_of_mem_entriesIn member isAround isForm
  -- What is in no value tag of the template is in no value tag of its form.
  have listed' := Entry.isListed_of_subset listed within
  have tag : entry.tag ∈ outer.listed TagKind.validates := by
    refine List.mem_filter.mpr ⟨List.mem_map.mpr ⟨inside, ?_, same⟩, field⟩
    exact List.mem_filter.mpr ⟨found, listed'⟩
  obtain ⟨form, isOutput, here⟩ := exists_of_forall₂ defined closed
  obtain ⟨validator, isIn, made⟩ := exists_of_forall₂ here.validators tag
  exact ⟨form, isOutput, validator, ⟨outer, closed, here, tag⟩, isIn, made⟩

/-- A template that compiles defines one form for every form tag that is not left out, in
the order they are closed, with the fields and groups in it that are in no other value
tag, in document order. -/
theorem compileTemplate_forms {setting : Setting} {text : String} {compiled : Compiled}
    (compiles : compileTemplate setting text = .ok compiled) :
    ∃ site, compiled.GrownFrom setting text site ∧
      List.Forall₂ (fun tree form => form.DefinedBy setting.config.messages tree)
        (Tree.formsIn site.trees) compiled.forms := by
  obtain ⟨site, grown, formed⟩ := compileTemplate_grows compiles
  exact ⟨site, grown, definedBy_of_grown grown formed⟩

/-- Of three fields one is left out, and one is in another field. -/
theorem compileTemplate_forms_page :
    let setting : Setting := ⟨.builtin, {}, "page"⟩
    let text := "<form:form id=\"f\"><static:if isset=\"a\"><form:text id=\"x\"/></static:if>" ++
      "<form:radio id=\"y\"><form:text id=\"z\"/></form:radio></form:form>"
    ∃ compiled, compileTemplate setting text = .ok compiled ∧
      compiled.forms.map Form.fields = [["y"]] ∧
      ∃ site, compiled.GrownFrom setting text site ∧
        List.Forall₂ (fun tree form => form.DefinedBy setting.config.messages tree)
          (Tree.formsIn site.trees) compiled.forms := by
  intro setting text
  have evaluated : ((compileTemplate setting text).toOption.any fun compiled : Compiled =>
      compiled.forms.map Form.fields = [["y"]]) = true := by
    rw [compileTemplate, String.toList_append, String.toList_ofList, String.toList_ofList]
    decide +kernel
  obtain ⟨compiled, compiles, fields⟩ := exists_of_any evaluated
  exact ⟨compiled, compiles, fields, compileTemplate_forms compiles⟩

end Stencil
