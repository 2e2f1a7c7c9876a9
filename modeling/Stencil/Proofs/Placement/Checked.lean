import Stencil.Proofs.Outline.Shells
import Stencil.Proofs.Placement.Rules
import Stencil.Proofs.Registry

/-!
# Compiling checks where forms and fields stand

A walk over the tags and the compile of a template go side by side. A template that
compiles keeps the rules, and in one that is rejected for a misplaced tag this is the
first tag that breaks them (`compileTemplate_placement`).
-/
namespace Stencil

open Markup (Occurrence)

/-- A walk is where a compile is. All tags so far keep the rules. -/
structure Tracks (walk : Walk) (outline : Outline) : Prop where
  statics : outline.statics = walk.statics
  shells : ∃ left live, outline.shells = left ++ live ∧ left.length = walk.left ∧
    (∀ last ∈ left.getLast?, last.skipping) ∧ Traced walk.marks live walk.opened
  skip : outline.skip = outline.shells.countP (·.skipping)
  rules : WellPlaced walk.marks
  numbered : walk.Numbered

namespace Tracks

variable {setting : Setting} {walk : Walk} {outline next : Outline} {tag : Occurrence}
  {error : CompileError}

theorem start (setting : Setting) : Tracks {} (Outline.start setting) := by
  constructor
  · rfl
  · exact ⟨[], _, rfl, rfl, nofun, .root rfl rfl⟩
  · rfl
  · exact ⟨nofun, nofun, nofun, .nil⟩
  · exact ⟨nofun, nofun⟩

theorem pushText (tracks : Tracks walk outline) (text : List Char) :
    Tracks walk (outline.pushText text) :=
  ⟨tracks.statics, tracks.shells, tracks.skip, tracks.rules, tracks.numbered⟩

/-- Where nothing is left out all open tags are those of the walk. -/
theorem traced (tracks : Tracks walk outline) (live : walk.left = 0) :
    Traced walk.marks outline.shells walk.opened := by
  obtain ⟨left, shown, split, length, -, traced⟩ := tracks.shells
  rw [live, List.length_eq_zero_iff] at length
  rw [split, length]
  exact traced

/-- A compile leaves something out where the walk does. -/
theorem skip_eq_zero_iff (tracks : Tracks walk outline) : outline.skip = 0 ↔ walk.left = 0 := by
  constructor
  · intro active
    obtain ⟨left, live, split, length, failing, -⟩ := tracks.shells
    rw [← length]
    by_contra open_
    have nonempty : left ≠ [] := fun none => open_ (by rw [none]; rfl)
    have skipping := failing (left.getLast nonempty) (List.getLast?_eq_getLast_of_ne_nil nonempty)
    have counted := tracks.skip
    rw [active, split, eq_comm, List.countP_eq_zero] at counted
    exact counted _ (List.mem_append_left _ (List.getLast_mem nonempty)) skipping
  · intro live
    rw [tracks.skip]
    exact (tracks.traced live).countP_skipping

/-- Where something is left out, a tag is closed that is left out as well, or the conditional
that fails. -/
theorem closeTag_left_out (tracks : Tracks walk outline) {count : Nat}
    (left : walk.left = count + 1) (done : outline.closeTag setting tag = .ok next) :
    Tracks { walk with left := count } next := by
  obtain ⟨shells, statics, skip⟩ := Outline.shells_closeTag done
  have skipping : outline.skip ≠ 0 := by
    intro active
    rw [tracks.skip_eq_zero_iff, left] at active
    cases active
  obtain ⟨inner, live, split, length, failing, traced⟩ := tracks.shells
  rw [left] at length
  obtain ⟨first, rest, rfl⟩ := List.exists_cons_of_length_eq_add_one length
  rw [shells, List.cons_append] at split
  constructor
  · exact statics.trans tracks.statics
  · refine ⟨rest, live, (List.cons.inj split).2, Nat.succ.inj length, ?_, traced⟩
    cases rest with
    | nil => exact nofun
    | cons second rest =>
      rw [List.getLast?_cons_cons] at failing
      exact failing
  · -- The count falls by one with a conditional, and with nothing else.
    have counted := tracks.skip
    have same : outline.top.shell.skipping = outline.top.skipping := rfl
    rw [shells, List.countP_cons, same] at counted
    rw [skip, if_neg skipping]
    cases closed : outline.top.skipping with
    | true =>
      rw [closed, if_pos rfl] at counted
      change outline.skip - 1 = _
      omega
    | false =>
      rw [closed, if_neg Bool.false_ne_true] at counted
      exact counted
  · exact tracks.rules
  · exact tracks.numbered.mono rfl (List.Subset.refl _)

/-- Where nothing is left out, the innermost open tag of the walk is closed. -/
theorem closeTag_live (tracks : Tracks walk outline) (live : walk.left = 0)
    (done : outline.closeTag setting tag = .ok next) :
    ∃ first rest, walk.opened = first :: rest ∧ Tracks { walk with opened := rest } next := by
  obtain ⟨shells, statics, skip⟩ := Outline.shells_closeTag done
  have traced := tracks.traced live
  rw [shells] at traced
  cases opened : walk.opened with
  | nil =>
    -- Only the root is open, but something is around the tag that was closed.
    rw [opened] at traced
    generalize around : next.shells = frames at traced
    cases traced
    cases around
  | cons first rest =>
    rw [opened] at traced
    cases traced with
    | inside _ _ _ _ traced =>
      have traced : Traced walk.marks next.shells rest := traced
      refine ⟨first, rest, rfl, ?_⟩
      constructor
      · exact statics.trans tracks.statics
      · exact ⟨[], _, rfl, live.symm, nofun, traced⟩
      · rw [skip, tracks.skip_eq_zero_iff.mpr live, traced.countP_skipping, Nat.zero_sub]
      · exact tracks.rules
      · refine tracks.numbered.mono rfl ?_
        rw [opened]
        exact List.subset_cons_self first rest

theorem closeTag (tracks : Tracks walk outline) (done : outline.closeTag setting tag = .ok next) :
    ∃ walk', walk.close = some walk' ∧ Tracks walk' next := by
  cases left : walk.left with
  | succ count =>
    refine ⟨{ walk with left := count }, ?_, tracks.closeTag_left_out left done⟩
    rw [Walk.close, left]
  | zero =>
    obtain ⟨first, rest, opened, tracks⟩ := tracks.closeTag_live left done
    refine ⟨{ walk with opened := rest }, ?_, tracks⟩
    rw [Walk.close, left, opened]

/-- Tags inside of what is left out are counted only. -/
theorem openTag_left_out (tracks : Tracks walk outline) (left : walk.left ≠ 0) {kind : TagKind}
    (done : outline.openTag setting tag kind = .ok next) :
    Tracks (if tag.selfClosing then walk else { walk with left := walk.left + 1 }) next := by
  have skipping : outline.skip ≠ 0 := fun active => left (tracks.skip_eq_zero_iff.mp active)
  have inactive : outline.active = false := by simpa [Outline.active] using skipping
  obtain ⟨attributes, opened⟩ := Outline.openTag_inactive setting tag kind inactive
  rw [opened] at done
  cases closes : tag.selfClosing with
  | true =>
    rw [closes] at done
    cases done
    exact tracks
  | false =>
    rw [closes] at done
    cases done
    obtain ⟨inner, live, split, length, failing, traced⟩ := tracks.shells
    -- One more tag is open among those left out, and the failing one stays the outermost of them.
    refine ⟨tracks.statics, ?_, ?_, tracks.rules,
      tracks.numbered.mono rfl (List.Subset.refl _)⟩
    · refine ⟨_ :: inner, live, congrArg _ split, congrArg Nat.succ length, ?_, traced⟩
      cases inner with
      | nil => exact absurd length.symm left
      | cons second rest =>
        rw [List.getLast?_cons_cons]
        exact failing
    · change outline.skip + _ = List.countP _ (_ :: outline.shells)
      rw [List.countP_cons, ← tracks.skip]
      congr 1
      cases (kind.passes? outline.statics).map fun _ => false with
      | none => rfl
      | some passed => cases passed <;> rfl

end Tracks

/-! ### Tags that are not left out -/

namespace Tracks

variable {setting : Setting} {walk : Walk} {outline next : Outline} {tag : Occurrence}
  {kind : TagKind} {attributes : Dict String} {opening : Opening} {error : CompileError}

/-- What initialization finds around a tag. -/
theorem form?_opening (outline : Outline) (head : Head) (kind : TagKind) :
    (outline.opening head kind).form?.map (fun form => (form.2.head, form.2.kind))
      = (outline.shells.find? (·.kind.isForm)).map fun form => (form.head, form.kind) := by
  rw [Outline.form?_opening, Outline.shells, Frame.find?_map_shell, Outline.form?]
  cases outline.frames.find? (·.kind.isForm) <;> rfl

/-- A tag that is initialized keeps the rules, and its id is one more in the form it was
registered with. -/
theorem initialized {mark : Mark} (tracks : Tracks walk outline) (live : walk.left = 0)
    (around : mark.around = walk.opened)
    (init : (outline.opening mark.tag.head mark.tag.kind).init setting.config = .ok opening) :
    WellPlaced (walk.marks ++ [mark]) ∧
      Traced (walk.marks ++ [mark]) (outline.opened opening).shells walk.opened := by
  have traced := tracks.traced live
  have opened := Outline.shells_opened init
  -- A form that is accepted stands in no other.
  have outermost : mark.tag.kind.isForm → mark.forms = [] := by
    intro isForm
    have alone : (outline.opening mark.tag.head mark.tag.kind).form? = none := by
      have completed := Opening.completed_of_init init
      refine completed.outermost ?_
      have kept := (Opening.outcome_of_init init).kept.1
      rw [← TagKind.isForm_bare, kept, TagKind.isForm_bare]
      exact isForm
    have found := form?_opening outline mark.tag.head mark.tag.kind
    rw [alone, eq_comm, Option.map_none, Option.map_eq_none_iff] at found
    rw [Mark.forms, around]
    exact traced.no_form found
  cases registers : mark.tag.kind.registers with
  | false =>
    rw [registers, if_neg Bool.false_ne_true] at opened
    rw [opened]
    refine ⟨tracks.rules.concat outermost ?_, traced.pass registers⟩
    intro contrary
    rw [Mark.registers, registers] at contrary
    cases contrary
  | true =>
    rw [registers, if_pos rfl] at opened
    obtain ⟨form, ids, id, found, isForm, given, fresh, shells⟩ := opened
    rw [shells]
    obtain ⟨tag, alone, -, holds⟩ := traced.innermost found
    have inside : walk.opened ⊆ mark.around := around ▸ List.Subset.refl _
    refine ⟨tracks.rules.concat outermost ?_,
      traced.register found isForm registers inside given⟩
    intro _
    refine ⟨tag, id, ?_, given, ?_⟩
    · rw [Mark.forms, around]
      exact alone
    · -- The form would have refused an id that a tag in it has already.
      intro other earlier registered within same
      exact fresh ((holds ids isForm id).mpr ⟨other, earlier, registered, within, same⟩)

/-- A tag is the innermost one behind it, unless it closes itself; what is left out starts
with a conditional that fails. -/
theorem settled {marks : List Mark} {shell : Frame} {outer : List Frame} {around : List LiveTag}
    {mark : LiveTag} {selfClosing fails : Bool} (traced : Traced marks outer around)
    (settled : if selfClosing then next.shells = outer ∧ next.skip = 0
      else next.shells = { shell with skipping := fails } :: outer ∧ next.skip = fails.toNat)
    (enters : Traced marks ({ shell with skipping := false } :: outer) (mark :: around)) :
    (∃ left live, next.shells = left ++ live ∧
      left.length = (if !selfClosing && fails then 1 else 0) ∧
      (∀ last ∈ left.getLast?, last.skipping) ∧
      Traced marks live (if selfClosing || fails then around else mark :: around)) ∧
    next.skip = next.shells.countP (·.skipping) := by
  -- Among the open tags around nothing is left out.
  have counted := traced.countP_skipping
  cases selfClosing with
  | true =>
    obtain ⟨shells, skip⟩ := settled
    exact ⟨⟨[], outer, shells, rfl, nofun, traced⟩, by rw [skip, shells, counted]⟩
  | false =>
    obtain ⟨shells, skip⟩ := settled
    cases fails with
    | true =>
      -- The failing tag is the first that is left out.
      refine ⟨⟨[_], outer, shells, rfl, ?_, traced⟩, ?_⟩
      · rintro _ ⟨⟩
        rfl
      · rw [skip, shells, List.countP_cons, counted]
        rfl
    | false =>
      refine ⟨⟨[], _, shells, rfl, nofun, enters⟩, ?_⟩
      rw [skip, shells, enters.countP_skipping]
      rfl

/-- A tag that has been opened is where the walk says it is. -/
theorem openTag (tracks : Tracks walk outline) (live : walk.left = 0)
    (bare : kind.bare = kind)
    (known : setting.registry.tag? tag.namespaceName tag.name = some kind)
    (opens : tag.closing = false) (done : outline.openTag setting tag kind = .ok next) :
    ∃ walk', walk.step setting tag = some walk' ∧ Tracks walk' next := by
  have skip : outline.skip = 0 := tracks.skip_eq_zero_iff.mpr live
  have active : outline.active = true := by simpa [Outline.active] using skip
  obtain ⟨attributes, read, done⟩ := bind_eq_ok.mp done
  obtain ⟨opening, init, settles⟩ := bind_eq_ok.mp done
  rw [active] at read
  rw [Outline.initOpening, active, if_pos rfl] at init
  rw [tracks.statics] at read
  obtain ⟨mark, marked, number, rfl, head, around⟩ := Walk.exists_mark live known opens read
  rw [← head] at init
  have outcome := Opening.outcome_of_init init
  obtain ⟨rules, traced⟩ := tracks.initialized live around init
  -- The open tags behind the tag are compared with those of the walk.
  have passed : (opening.kind.passes? opening.statics).map (fun holds => outline.active && holds)
      = opening.kind.passes? opening.statics := by
    rw [active]
    exact congrFun Option.map_id _
  rw [passed] at settles
  obtain ⟨sameStatics, shells⟩ := Outline.shells_settle settles
  have sameSkip : (outline.opened opening).skip = 0 := skip
  rw [sameSkip, Nat.zero_add] at shells
  have enters : Traced (walk.marks ++ [mark])
      ({ head := opening.head, kind := opening.kind } :: (outline.opened opening).shells)
      (mark.tag :: walk.opened) := by
    rw [← around] at traced ⊢
    refine traced.enter rules rfl (Opening.ref_of_init init) outcome.kept.1 ?_
      (tracks.numbered.before number around)
    intro ids isForm
    have written : mark.tag.kind = .form ids := outcome.kind_of_form isForm
    rw [written] at bare
    cases bare
    rfl
  obtain ⟨behind, counted⟩ := settled traced shells enters
  refine ⟨_, Walk.step_of_outcome marked outcome rfl rfl tracks.statics, ?_⟩
  refine ⟨sameStatics, behind, counted, rules, tracks.numbered.concat number around rfl ?_⟩
  dsimp only
  split
  · exact List.subset_cons_self _ _
  · exact List.Subset.refl _

/-- A tag that is rejected for its placement breaks the rule that the error is about. -/
theorem openTag_error (tracks : Tracks walk outline) (live : walk.left = 0)
    (known : setting.registry.tag? tag.namespaceName tag.name = some kind)
    (opens : tag.closing = false) (failed : outline.openTag setting tag kind = .error error)
    (placement : error.isPlacement) :
    ∃ mark, walk.mark? setting tag = some mark ∧ mark.Breaks walk.marks error := by
  have active : outline.active = true := by
    simpa [Outline.active] using tracks.skip_eq_zero_iff.mpr live
  -- Attributes that cannot be read are no fault of placement.
  rcases bind_eq_error failed with failed | ⟨attributes, read, failed⟩
  · rw [Setting.not_isPlacement_of_attributesOf failed] at placement
    cases placement
  rcases bind_eq_error failed with failed | ⟨opening, -, failed⟩
  · rw [active] at read
    rw [Outline.initOpening, active, if_pos rfl] at failed
    rw [tracks.statics] at read
    obtain ⟨mark, marked, -, rfl, head, around⟩ := Walk.exists_mark live known opens read
    rw [← head] at failed
    refine ⟨mark, marked, ?_⟩
    -- What the outline knows of its innermost form is what the walk knows of it.
    have traced := tracks.traced live
    have found := form?_opening outline mark.tag.head mark.tag.kind
    rw [← around] at traced
    cases Opening.misplaced_of_init failed placement with
    | nested isForm inside =>
      obtain ⟨around, within⟩ := Option.isSome_iff_exists.mp inside
      rw [within, Option.map_some, eq_comm, Option.map_eq_some_iff] at found
      obtain ⟨frame, found, -⟩ := found
      obtain ⟨form, forms, -⟩ := traced.innermost found
      have enclosing : form ∈ mark.forms := by
        rw [Mark.forms, forms]
        exact List.mem_singleton_self form
      exact .nested isForm enclosing
    | outside registers alone =>
      rw [alone, Option.map_none, eq_comm, Option.map_eq_none_iff] at found
      exact .outside registers (traced.no_form found)
    | @duplicate formId node ids id registers within isForm given taken =>
      rw [within, Option.map_some, eq_comm, Option.map_eq_some_iff] at found
      obtain ⟨frame, found, same⟩ := found
      obtain ⟨head, kind'⟩ := Prod.mk.inj same
      obtain ⟨form, forms, ref, holds⟩ := traced.innermost found
      obtain ⟨other, earlier, registered, inside, same⟩ :=
        (holds ids (kind'.trans isForm) id).mp taken
      have isForm' : form ∈ mark.around.filter (·.kind.isForm) := by
        rw [forms]
        exact List.mem_singleton_self form
      rw [← head, ref]
      refine .duplicate registers earlier registered isForm' ?_ same given
      exact List.mem_filter.mpr ⟨inside, (List.mem_filter.mp isForm').2⟩
  · rw [Outline.not_isPlacement_of_settle failed] at placement
    cases placement

/-- Behind a tag the walk and the compile are at the same place again. -/
theorem visit (bare : setting.registry.Bare) (tracks : Tracks walk outline) {part : Markup.Part}
    (done : outline.visit setting part = .ok next) :
    ∃ walk', walk.step setting part.tag = some walk' ∧ Tracks walk' next := by
  have pushed := tracks.pushText part.gap
  obtain ⟨kind, known, ⟨closes, -, done⟩ | ⟨opens, done⟩⟩ := Outline.visit_eq_ok done
  · rw [Walk.step, if_pos closes]
    exact pushed.closeTag done
  · by_cases live : walk.left = 0
    · exact pushed.openTag live (bare _ _ _ known) known opens done
    · rw [Walk.step, opens, if_neg Bool.false_ne_true, if_pos live]
      exact ⟨_, rfl, pushed.openTag_left_out live done⟩

private theorem visit_error (tracks : Tracks walk outline) {part : Markup.Part}
    (failed : outline.visit setting part = .error error) (placement : error.isPlacement) :
    ∃ mark, walk.mark? setting part.tag = some mark ∧ mark.Breaks walk.marks error := by
  have pushed := tracks.pushText part.gap
  simp only [Outline.visit] at failed
  split at failed
  · cases failed
    cases placement
  · split at failed
    · cases failed
      cases placement
    · next kind known =>
      split at failed
      · rw [Outline.not_isPlacement_of_closeTag failed] at placement
        cases placement
      · next opens =>
        by_cases live : walk.left = 0
        · exact pushed.openTag_error live known (by simpa using opens) failed placement
        · -- Nothing is demanded of tags that are left out.
          have inactive : (outline.pushText part.gap).active = false := by
            simpa [Outline.active] using fun active => live (pushed.skip_eq_zero_iff.mp active)
          obtain ⟨attributes, opened⟩ :=
            Outline.openTag_inactive setting part.tag kind inactive
          rw [opened] at failed
          cases failed

theorem run (bare : setting.registry.Bare) (tracks : Tracks walk outline)
    {parts : List Markup.Part}
    (done : parts.foldlM (Outline.visit setting) outline = .ok next) :
    ∃ walk', (parts.map (·.tag)).foldlM (Walk.step setting) walk = some walk' ∧
      Tracks walk' next := by
  induction parts generalizing walk outline with
  | nil =>
    cases done
    exact ⟨walk, rfl, tracks⟩
  | cons part rest ih =>
    rw [List.foldlM_cons] at done
    obtain ⟨middle, here, later⟩ := bind_eq_ok.mp done
    obtain ⟨between, stepped, tracks'⟩ := tracks.visit bare here
    obtain ⟨walk', ran, tracks''⟩ := ih tracks' later
    refine ⟨walk', ?_, tracks''⟩
    rw [List.map_cons, List.foldlM_cons, stepped]
    exact ran

/-- A compile that ends at a misplaced tag has come to the first one that breaks a
rule. -/
theorem run_error (bare : setting.registry.Bare) (tracks : Tracks walk outline)
    {parts : List Markup.Part}
    (failed : parts.foldlM (Outline.visit setting) outline = .error error)
    (placement : error.isPlacement) :
    ∃ before tag after walk' mark, parts.map (·.tag) = before ++ tag :: after ∧
      before.foldlM (Walk.step setting) walk = some walk' ∧ WellPlaced walk'.marks ∧
      walk'.mark? setting tag = some mark ∧ mark.Breaks walk'.marks error := by
  induction parts generalizing walk outline with
  | nil => cases failed
  | cons part rest ih =>
    rw [List.foldlM_cons] at failed
    rcases bind_eq_error failed with failed | ⟨middle, here, failed⟩
    · obtain ⟨mark, marked, breaks⟩ := tracks.visit_error failed placement
      exact ⟨[], part.tag, rest.map (·.tag), walk, mark, rfl, rfl, tracks.rules, marked, breaks⟩
    · obtain ⟨between, stepped, tracks'⟩ := tracks.visit bare here
      obtain ⟨before, tag, after, walk', mark, split, ran, rules, marked, breaks⟩ :=
        ih tracks' failed
      refine ⟨part.tag :: before, tag, after, walk', mark, ?_, ?_, rules, marked, breaks⟩
      · rw [List.map_cons, split]
        rfl
      · rw [List.foldlM_cons, stepped]
        exact ran

end Tracks

/-- Where forms, fields and groups stand is checked exactly. In a template that compiles
all tags keep the rules. In one that is rejected for a misplaced tag, all tags before
that one keep them, and it breaks the rule that the error is about. -/
theorem compileTemplate_placement {setting : Setting} (bare : setting.registry.Bare)
    (text : String) :
    (∀ compiled, compileTemplate setting text = .ok compiled →
      ∃ walk, Walk.run setting (setting.tags text) = some walk ∧ WellPlaced walk.marks) ∧
    ∀ error, compileTemplate setting text = .error error → error.isPlacement →
      ∃ before tag after walk mark, setting.tags text = before ++ tag :: after ∧
        Walk.run setting before = some walk ∧ WellPlaced walk.marks ∧
        walk.mark? setting tag = some mark ∧ mark.Breaks walk.marks error := by
  rw [compileTemplate_eq_outline, Outline.compile, Setting.tags]
  have start := Tracks.start setting
  constructor
  · intro compiled compiles
    obtain ⟨outline, ran, -⟩ := bind_eq_ok.mp compiles
    obtain ⟨walk, walked, tracks⟩ := start.run bare ran
    exact ⟨walk, walked, tracks.rules⟩
  · intro error failed placement
    rcases bind_eq_error failed with failed | ⟨outline, -, failed⟩
    · exact start.run_error bare failed placement
    · rw [Outline.not_isPlacement_of_finish failed] at placement
      cases placement

/-- Two forms may have fields of one id, and what is left out is not looked at. A field
must not have the id of the field that it is in. -/
theorem compileTemplate_placement_page :
    let setting : Setting := ⟨.builtin, {}, "page"⟩
    let text := "<form:form id=\"f\"><form:text id=\"a\"/></form:form>" ++
      "<form:form id=\"g\"><form:file id=\"a\"/></form:form>" ++
      "<static:if isset=\"x\"><form:text/></static:if>"
    let twice := "<form:form id=\"f\"><form:radio id=\"a\"><form:text id=\"a\"/></form:radio>" ++
      "</form:form>"
    let form : TagRef := ⟨"form", "form", ⟨"page", 1, 1⟩⟩
    setting.registry.Bare ∧
    (∃ compiled, compileTemplate setting text = .ok compiled ∧
      ∃ walk, Walk.run setting (setting.tags text) = some walk ∧ WellPlaced walk.marks ∧
        walk.marks.map Mark.id? = [some "f", some "a", some "g", some "a", none]) ∧
    compileTemplate setting twice = .error (.duplicateFieldId form "a") ∧
    ∃ before tag after walk mark, setting.tags twice = before ++ tag :: after ∧
      Walk.run setting before = some walk ∧ WellPlaced walk.marks ∧
      walk.mark? setting tag = some mark ∧
      mark.Breaks walk.marks (.duplicateFieldId form "a") := by
  intro setting text twice form
  have bare : setting.registry.Bare := Registry.bare_builtin
  have accepted : ((compileTemplate setting text).toOption.any fun compiled : Compiled =>
      compiled.forms.length = 2) = true := by
    rw [compileTemplate, String.toList_append, String.toList_append, String.toList_ofList,
      String.toList_ofList, String.toList_ofList]
    decide +kernel
  have walked : (Walk.run setting (setting.tags text)).map (·.marks.map Mark.id?)
      = some [some "f", some "a", some "g", some "a", none] := by
    rw [Setting.tags, String.toList_append, String.toList_append, String.toList_ofList,
      String.toList_ofList, String.toList_ofList]
    decide +kernel
  have rejected : error? (compileTemplate setting twice) = some (.duplicateFieldId form "a") := by
    rw [compileTemplate, String.toList_append, String.toList_ofList, String.toList_ofList]
    decide +kernel
  obtain ⟨compiled, compiles, -⟩ := exists_of_any accepted
  obtain ⟨walk, ran, rules⟩ := (compileTemplate_placement bare text).1 compiled compiles
  rw [ran] at walked
  have failed := error?_eq_some.mp rejected
  exact ⟨bare, ⟨compiled, compiles, walk, ran, rules, Option.some.inj walked⟩, failed,
    (compileTemplate_placement bare twice).2 _ failed rfl⟩

end Stencil
