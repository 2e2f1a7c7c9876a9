import Stencil.Proofs.Outline.Basic
import Stencil.Proofs.Tag.Outcome

/-!
# Where forms and fields may stand

The rules for forms, fields and groups, and a walk over the tags of a text that finds the
tags they are about. It keeps track of static attributes and open tags, and of nothing
else.
-/
namespace Stencil

open Markup (Occurrence)

/-- A tag outside of what is left out, with its attributes as they are read where it
stands. -/
structure LiveTag where
  /-- How many of these tags there are before it. -/
  number : Nat
  kind : TagKind
  head : Head

/-- The static attributes behind a tag, and whether it leaves out what is in it. -/
def LiveTag.effect? (statics : Statics) (tag : LiveTag) : Option (Statics × Bool) :=
  match tag.kind with
  | .staticSet => (statics.set tag.head).toOption.map fun statics => (statics, false)
  | .staticIf _ => (Comparison.ofHead tag.head).toOption.map fun comparison =>
    (statics, !comparison.holds statics)
  | _ => some (statics, false)

/-- A tag with the open tags around it, from the inside out. -/
structure Mark where
  tag : LiveTag
  around : List LiveTag

namespace Mark

/-- The forms a tag is in. -/
def forms (mark : Mark) : List LiveTag := mark.around.filter (·.kind.isForm)

/-- Whether it is a field or a group. -/
def registers (mark : Mark) : Bool := mark.tag.kind.registers

def id? (mark : Mark) : Option String := mark.tag.head.attr? "id"

end Mark

/-- The rules for forms, fields and groups. -/
structure WellPlaced (marks : List Mark) : Prop where
  /-- No form is in another one. -/
  outermost : ∀ mark ∈ marks, mark.tag.kind.isForm → mark.forms = []
  /-- Fields and groups are in one form each. -/
  enclosed : ∀ mark ∈ marks, mark.registers → ∃ form, mark.forms = [form]
  identified : ∀ mark ∈ marks, mark.registers → mark.id?.isSome
  /-- Those in the same form have different ids, whatever else they are in. -/
  distinct : marks.Pairwise fun a b => a.registers → b.registers →
    ∀ form ∈ a.forms, form ∈ b.forms → a.id? ≠ b.id?

/-- How a tag behind others breaks one of the rules, and the error that says so. -/
inductive Mark.Breaks (before : List Mark) (mark : Mark) : CompileError → Prop where
  | nested {form} : mark.tag.kind.isForm → form ∈ mark.forms →
    Breaks before mark (.nestedForm mark.tag.head.ref)
  | outside : mark.registers → mark.forms = [] →
    Breaks before mark (.fieldOutsideForm mark.tag.head.ref)
  | duplicate {form other id} : mark.registers → other ∈ before → other.registers →
    form ∈ mark.forms → form ∈ other.forms → other.id? = some id → mark.id? = some id →
    Breaks before mark (.duplicateFieldId form.head.ref id)

/-- What is kept in mind along the tags of a text. -/
structure Walk where
  statics : Statics := .empty
  /-- The open tags, from the inside out, without those that are left out. -/
  opened : List LiveTag := []
  /-- How many open tags there are from a conditional that fails inwards. -/
  left : Nat := 0
  /-- The tags so far that are not left out. -/
  marks : List Mark := []

namespace Walk

/-- The next tag, if it opens something and is not left out. -/
def mark? (setting : Setting) (walk : Walk) (tag : Occurrence) : Option Mark :=
  if tag.closing || walk.left != 0 then none
  else do
    let kind ← setting.registry.tag? tag.namespaceName tag.name
    let attributes ← (setting.attributesOf walk.statics true tag).toOption
    let head : Head := ⟨tag.namespaceName, tag.name, attributes, setting.location tag⟩
    return ⟨⟨walk.marks.length, kind, head⟩, walk.opened⟩

/-- The walk behind a tag that is not left out. -/
def enter (walk : Walk) (mark : Mark) (selfClosing : Bool) : Option Walk :=
  (mark.tag.effect? walk.statics).map fun (statics, leavesOut) => {
    statics
    opened := if selfClosing || leavesOut then walk.opened else mark.tag :: walk.opened
    left := if !selfClosing && leavesOut then 1 else 0
    marks := walk.marks ++ [mark] }

def close (walk : Walk) : Option Walk :=
  match walk.left, walk.opened with
  | left + 1, _ => some { walk with left }
  | 0, _ :: opened => some { walk with opened }
  | 0, [] => none

/-- The walk behind the next tag. -/
def step (setting : Setting) (walk : Walk) (tag : Occurrence) : Option Walk :=
  if tag.closing then walk.close
  else if walk.left ≠ 0 then
    some (if tag.selfClosing then walk else { walk with left := walk.left + 1 })
  else (walk.mark? setting tag).bind fun mark => walk.enter mark tag.selfClosing

/-- The walk over the first tags of a text. -/
def run (setting : Setting) (tags : List Occurrence) : Option Walk :=
  tags.foldlM (step setting) {}

end Walk

/-! ### Steps -/

/-- The static attributes behind a tag, and whether it leaves something out, as
initialization has them. -/
theorem LiveTag.effect?_of_outcome {config : Config} {tag : LiveTag} {a b : Opening}
    (outcome : Opening.Outcome config a b) (kind : a.kind = tag.kind) (head : a.head = tag.head) :
    tag.effect? a.statics = some (b.statics, b.kind.passes? b.statics == some false) := by
  unfold effect?
  rw [← kind, ← head]
  cases outcome with
  | plain _ _ noConditional noSet =>
    cases here : a.kind <;> first | rfl | simp [here, TagKind.isConditional] at noConditional noSet
  | form isForm => cases here : a.kind <;> first | rfl | simp [here, TagKind.isForm] at isForm
  | field field =>
    cases here : a.kind <;> first | rfl | simp [here, TagKind.validates] at field
  | group group =>
    cases here : a.kind <;> first | rfl | simp [here, TagKind.isGroup] at group
  | @staticIf comparison conditional compared =>
    cases here : a.kind with
    | staticIf _ =>
      simp only [compared, TagKind.passes?, Option.any_some, Except.toOption, Option.map_some]
      cases comparison.holds a.statics <;> rfl
    | _ =>
      rw [here] at conditional
      cases conditional
  | staticSet isSet set =>
    rw [isSet]
    simp only [set]
    rfl

namespace Walk

variable {setting : Setting} {walk : Walk} {tag : Occurrence} {mark : Mark}

/-- What the walk meets is the tag with its attributes as they are read there. -/
theorem exists_mark {kind : TagKind} {attributes : Dict String} (live : walk.left = 0)
    (known : setting.registry.tag? tag.namespaceName tag.name = some kind)
    (opens : tag.closing = false)
    (read : setting.attributesOf walk.statics true tag = .ok attributes) :
    ∃ mark, walk.mark? setting tag = some mark ∧ mark.tag.number = walk.marks.length ∧
      mark.tag.kind = kind ∧
      mark.tag.head = ⟨tag.namespaceName, tag.name, attributes, setting.location tag⟩ ∧
      mark.around = walk.opened := by
  refine ⟨⟨⟨walk.marks.length, kind, _⟩, walk.opened⟩, ?_, rfl, rfl, rfl, rfl⟩
  simp only [mark?, opens, live, known, read]
  rfl

/-- The walk goes on behind a tag that is initialized. -/
theorem step_of_outcome {config : Config} {a b : Opening}
    (marked : walk.mark? setting tag = some mark) (outcome : Opening.Outcome config a b)
    (kind : a.kind = mark.tag.kind) (head : a.head = mark.tag.head)
    (statics : a.statics = walk.statics) :
    let leavesOut := b.kind.passes? b.statics == some false
    walk.step setting tag = some {
      statics := b.statics
      opened := if tag.selfClosing || leavesOut then walk.opened else mark.tag :: walk.opened
      left := if !tag.selfClosing && leavesOut then 1 else 0
      marks := walk.marks ++ [mark] } := by
  intro leavesOut
  have looked : (tag.closing || walk.left != 0) = false := by
    cases here : tag.closing || walk.left != 0 with
    | false => rfl
    | true =>
      rw [mark?, here] at marked
      cases marked
  obtain ⟨opens, live⟩ := Bool.or_eq_false_iff.mp looked
  have effect := mark.tag.effect?_of_outcome outcome kind head
  rw [statics] at effect
  rw [step, opens, if_neg Bool.false_ne_true, if_neg (by simpa using live), marked,
    Option.bind_some, enter, effect, Option.map_some]

/-- All tags that a walk knows of have been met before. -/
structure Numbered (walk : Walk) : Prop where
  opened : ∀ tag ∈ walk.opened, tag.number < walk.marks.length
  around : ∀ mark ∈ walk.marks, ∀ tag ∈ mark.around, tag.number < walk.marks.length

namespace Numbered

variable {next : Walk}

theorem mono (numbered : walk.Numbered) (marks : next.marks = walk.marks)
    (opened : next.opened ⊆ walk.opened) : next.Numbered := by
  constructor
  · intro tag member
    rw [marks]
    exact numbered.opened tag (opened member)
  · rw [marks]
    exact numbered.around

/-- The next tag comes after all that are around a tag. -/
theorem before (numbered : walk.Numbered) (number : mark.tag.number = walk.marks.length)
    (around : mark.around = walk.opened) :
    ∀ mark' ∈ walk.marks ++ [mark], ∀ tag ∈ mark'.around, tag.number < mark.tag.number := by
  intro mark' member tag inside
  rw [number]
  rcases List.mem_append.mp member with earlier | last
  · exact numbered.around mark' earlier tag inside
  · rw [List.mem_singleton.mp last, around] at inside
    exact numbered.opened tag inside

theorem concat (numbered : walk.Numbered) (number : mark.tag.number = walk.marks.length)
    (around : mark.around = walk.opened) (marks : next.marks = walk.marks ++ [mark])
    (opened : next.opened ⊆ mark.tag :: walk.opened) : next.Numbered := by
  have before := numbered.before number around
  have longer : next.marks.length = mark.tag.number + 1 := by
    rw [marks, List.length_append, number, List.length_singleton]
  constructor
  · intro tag member
    rw [longer]
    rcases List.mem_cons.mp (opened member) with rfl | earlier
    · exact Nat.lt_succ_self _
    · exact Nat.lt_succ_of_lt (before mark (by simp) tag (around ▸ earlier))
  · intro mark' member tag inside
    rw [longer]
    rw [marks] at member
    exact Nat.lt_succ_of_lt (before mark' member tag inside)

end Numbered

end Walk

/-! ### Open tags -/

/-- These are the ids of the fields and groups in a form so far. -/
def LiveTag.Holds (marks : List Mark) (form : LiveTag) (ids : List String) : Prop :=
  ∀ id, id ∈ ids ↔ ∃ mark ∈ marks, mark.registers ∧ form ∈ mark.around ∧ mark.id? = some id

namespace LiveTag.Holds

variable {marks : List Mark} {mark : Mark} {form : LiveTag} {ids : List String}

theorem pass (holds : form.Holds marks ids) (other : mark.registers = false) :
    form.Holds (marks ++ [mark]) ids := by
  intro id
  rw [holds id]
  constructor
  · rintro ⟨mark', earlier, found⟩
    exact ⟨mark', List.mem_append_left _ earlier, found⟩
  · rintro ⟨mark', member, registers, found⟩
    rcases List.mem_append.mp member with earlier | last
    · exact ⟨mark', earlier, registers, found⟩
    · rw [List.mem_singleton.mp last, other] at registers
      cases registers

theorem register {id : String} (holds : form.Holds marks ids) (registers : mark.registers)
    (inside : form ∈ mark.around) (given : mark.id? = some id) :
    form.Holds (marks ++ [mark]) (ids ++ [id]) := by
  intro other
  rw [List.mem_append, holds other, List.mem_singleton]
  constructor
  · rintro (⟨mark', earlier, found⟩ | rfl)
    · exact ⟨mark', List.mem_append_left _ earlier, found⟩
    · exact ⟨mark, by simp, registers, inside, given⟩
  · rintro ⟨mark', member, registers', inside', given'⟩
    rcases List.mem_append.mp member with earlier | last
    · exact .inl ⟨mark', earlier, registers', inside', given'⟩
    · rw [List.mem_singleton.mp last, given] at given'
      exact .inr (Option.some.inj given').symm

end LiveTag.Holds

/-- The open tags of an outline are those of a walk, and no form is open in another one. -/
inductive Traced (marks : List Mark) : List Frame → List LiveTag → Prop where
  | root {frame} : frame.kind = .root → frame.skipping = false → Traced marks [frame] []
  | inside {frame tag outer around} : frame.skipping = false → frame.head.ref = tag.head.ref →
    frame.kind.bare = tag.kind.bare →
    (∀ ids, frame.kind = .form ids →
      tag.Holds marks ids ∧ ∀ other ∈ around, other.kind.isForm = false) →
    Traced marks outer around → Traced marks (frame :: outer) (tag :: around)

namespace Traced

variable {marks : List Mark} {frames : List Frame} {around : List LiveTag} {form : Frame}
  {mark : Mark}

private theorem isForm_eq {frame : Frame} {tag : LiveTag} (bare : frame.kind.bare = tag.kind.bare) :
    frame.kind.isForm = tag.kind.isForm := by
  rw [← TagKind.isForm_bare, bare, TagKind.isForm_bare]

/-- Nothing that a walk knows of is left out. -/
theorem countP_skipping (traced : Traced marks frames around) :
    frames.countP (·.skipping) = 0 := by
  induction traced with
  | root kind shown => simp [shown]
  | inside shown _ _ _ _ ih => simp [shown, ih]

theorem no_form (traced : Traced marks frames around)
    (absent : frames.find? (·.kind.isForm) = none) : around.filter (·.kind.isForm) = [] := by
  induction traced with
  | root kind shown => rfl
  | @inside frame tag outer around shown ref bare ids traced ih =>
    rw [List.find?_cons] at absent
    cases isForm : frame.kind.isForm with
    | true =>
      rw [isForm] at absent
      cases absent
    | false =>
      rw [isForm] at absent
      rw [List.filter_cons, ← isForm_eq bare, isForm]
      exact ih absent

/-- The innermost open form is the only one. -/
theorem innermost (traced : Traced marks frames around)
    (found : frames.find? (·.kind.isForm) = some form) :
    ∃ tag, around.filter (·.kind.isForm) = [tag] ∧ form.head.ref = tag.head.ref ∧
      ∀ ids, form.kind = .form ids → tag.Holds marks ids := by
  induction traced with
  | @root frame kind shown =>
    rw [List.find?_cons, kind] at found
    cases found
  | @inside frame tag outer around shown ref bare ids traced ih =>
    rw [List.find?_cons] at found
    cases isForm : frame.kind.isForm with
    | true =>
      -- A form knows that none is around it, however deep in it the search began.
      rw [isForm] at found
      cases found
      obtain ⟨held, kind⟩ := TagKind.exists_ids_of_isForm isForm
      have alone : around.filter (·.kind.isForm) = [] := by
        rw [List.filter_eq_nil_iff]
        intro other member
        simp [(ids held kind).2 other member]
      refine ⟨tag, ?_, ref, fun other kind => (ids other kind).1⟩
      rw [List.filter_cons, ← isForm_eq bare, isForm, alone]
      rfl
    | false =>
      rw [isForm] at found
      rw [List.filter_cons, ← isForm_eq bare, isForm]
      exact ih found

/-- Where no form is open it does not matter which tags there were. -/
theorem of_no_form {marks' : List Mark} (traced : Traced marks frames around)
    (alone : ∀ tag ∈ around, tag.kind.isForm = false) : Traced marks' frames around := by
  induction traced with
  | root kind shown => exact .root kind shown
  | @inside frame tag outer around shown ref bare ids traced ih =>
    refine .inside shown ref bare ?_ (ih fun other member => alone other (by simp [member]))
    intro held kind
    have contrary := alone tag List.mem_cons_self
    rw [← isForm_eq bare, kind] at contrary
    cases contrary

/-- A tag that is neither a field nor a group changes no form. -/
theorem pass (traced : Traced marks frames around) (other : mark.registers = false) :
    Traced (marks ++ [mark]) frames around := by
  induction traced with
  | root kind shown => exact .root kind shown
  | inside shown ref bare ids traced ih =>
    refine .inside shown ref bare ?_ ih
    intro held kind
    obtain ⟨holds, alone⟩ := ids held kind
    exact ⟨holds.pass other, alone⟩

/-- A field or group adds its id to the innermost form. -/
theorem register {ids : List String} {id : String} (traced : Traced marks frames around)
    (found : frames.find? (·.kind.isForm) = some form) (kind : form.kind = .form ids)
    (registers : mark.registers) (inside : around ⊆ mark.around) (given : mark.id? = some id) :
    Traced (marks ++ [mark]) (Frame.changeForm (.form (ids ++ [id])) frames) around := by
  induction traced with
  | @root frame isRoot shown =>
    rw [List.find?_cons, isRoot] at found
    cases found
  | @inside frame tag outer around shown ref bare held traced ih =>
    rw [List.find?_cons] at found
    rw [Frame.changeForm]
    cases isForm : frame.kind.isForm with
    | true =>
      -- There is no other form around this one whose ids would have to be accounted for.
      rw [isForm] at found
      cases found
      rw [if_pos rfl]
      obtain ⟨holds, alone⟩ := held ids kind
      refine .inside shown ref ?_ ?_ (traced.of_no_form alone)
      · rw [← bare, kind]
        rfl
      · rintro _ ⟨⟩
        exact ⟨holds.register registers (inside List.mem_cons_self) given, alone⟩
    | false =>
      rw [isForm] at found
      rw [if_neg Bool.false_ne_true]
      refine .inside shown ref bare ?_ (ih found (List.subset_of_cons_subset inside))
      intro held kind
      rw [kind] at isForm
      cases isForm

/-- A form that is entered has nothing in it yet. -/
theorem enter {frame : Frame} (traced : Traced (marks ++ [mark]) frames mark.around)
    (rules : WellPlaced (marks ++ [mark])) (shown : frame.skipping = false)
    (ref : frame.head.ref = mark.tag.head.ref) (bare : frame.kind.bare = mark.tag.kind.bare)
    (empty : ∀ ids, frame.kind = .form ids → ids = [])
    (new : ∀ mark' ∈ marks ++ [mark], ∀ tag ∈ mark'.around, tag.number < mark.tag.number) :
    Traced (marks ++ [mark]) (frame :: frames) (mark.tag :: mark.around) := by
  refine .inside shown ref bare ?_ traced
  intro ids kind
  constructor
  · rw [empty ids kind]
    intro id
    constructor
    · exact nofun
    · -- No tag so far is inside of this one, or it would have come after itself.
      rintro ⟨mark', member, -, inside, -⟩
      exact absurd (new mark' member mark.tag inside) (Nat.lt_irrefl _)
  · have isForm : mark.tag.kind.isForm := by
      rw [← isForm_eq bare, kind]
      rfl
    have alone := rules.outermost mark (by simp) isForm
    rw [Mark.forms, List.filter_eq_nil_iff] at alone
    intro other member
    simpa using alone other member

end Traced

namespace WellPlaced

variable {marks : List Mark} {mark : Mark}

/-- The rules are kept by a tag that keeps them. -/
theorem concat (rules : WellPlaced marks) (outermost : mark.tag.kind.isForm → mark.forms = [])
    (enclosed : mark.registers → ∃ form id, mark.forms = [form] ∧ mark.id? = some id ∧
      ∀ other ∈ marks, other.registers → form ∈ other.around → other.id? ≠ some id) :
    WellPlaced (marks ++ [mark]) := by
  constructor
  · intro other member
    rcases List.mem_append.mp member with earlier | last
    · exact rules.outermost other earlier
    · rw [List.mem_singleton.mp last]
      exact outermost
  · intro other member
    rcases List.mem_append.mp member with earlier | last
    · exact rules.enclosed other earlier
    · rw [List.mem_singleton.mp last]
      intro registers
      obtain ⟨form, id, inside, -⟩ := enclosed registers
      exact ⟨form, inside⟩
  · intro other member
    rcases List.mem_append.mp member with earlier | last
    · exact rules.identified other earlier
    · rw [List.mem_singleton.mp last]
      intro registers
      obtain ⟨form, id, -, given, -⟩ := enclosed registers
      rw [given]
      rfl
  · rw [List.pairwise_append]
    refine ⟨rules.distinct, List.pairwise_singleton _ _, ?_⟩
    intro other earlier last member registers registers' shared inside inside'
    -- The form in common is the one around the last tag.
    obtain rfl := List.mem_singleton.mp member
    obtain ⟨form, id, alone, given, fresh⟩ := enclosed registers'
    rw [alone] at inside'
    obtain rfl := List.mem_singleton.mp inside'
    rw [given]
    exact fresh other earlier registers (List.mem_filter.mp inside).1

end WellPlaced

end Stencil
