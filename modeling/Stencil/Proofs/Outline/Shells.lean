import Stencil.Proofs.Outline.Skipping
import Stencil.Proofs.Tag.Outcome

/-!
# Open tags without what is in them

What is in the open tags has no influence on how tags are opened, closed and left out.
Without it, opening a tag adds one to them, closing a tag takes the innermost one away,
and the form around a tag may get another kind.
-/
namespace Stencil

open Markup (Occurrence)

namespace Frame

/-- An open tag without what is in it. -/
def shell (frame : Frame) : Frame := { frame with body := [], inner := [] }

private theorem map_shell_changeForm (kind : TagKind) (frames : List Frame) :
    (changeForm kind frames).map shell = changeForm kind (frames.map shell) := by
  induction frames with
  | nil => rfl
  | cons frame outer ih =>
    have same : frame.shell.kind = frame.kind := rfl
    rw [changeForm, List.map_cons, changeForm, same]
    split
    · rfl
    · rw [List.map_cons, ih]

theorem find?_map_shell (frames : List Frame) :
    (frames.map shell).find? (·.kind.isForm) = (frames.find? (·.kind.isForm)).map shell := by
  rw [List.find?_map]
  rfl

end Frame

/-! ### Errors -/

section

variable {setting : Setting} {error : CompileError}

private theorem CompileError.not_isPlacement_of_bound? {α β : Type} {read : List Char → Except β α}
    {fault : String → β → AttributeFault} {head : Head} {key : String}
    (failed : head.bound? read fault key = .error error) : error.isPlacement = false := by
  unfold Head.bound? at failed
  split at failed
  · cases failed
  · split at failed
    · cases failed
    · cases failed
      rfl

private theorem CompileError.not_isPlacement_of_patternRules {head : Head}
    (failed : head.patternRules = .error error) : error.isPlacement = false := by
  unfold Head.patternRules at failed
  split at failed
  · cases failed
  · split at failed
    · cases failed
    · cases failed
      rfl

/-- What is wrong with the attributes of a field is not about placement. -/
theorem Node.not_isPlacement_of_validator? {messages : Messages} {node : Node}
    (failed : node.validator? messages = .error error) : error.isPlacement = false := by
  unfold validator? at failed
  split at failed
  · -- The bounds are read in their order, and then the pattern.
    rcases bind_eq_error (map_eq_error failed) with failed | ⟨_, -, failed⟩
    · exact CompileError.not_isPlacement_of_bound? failed
    rcases bind_eq_error failed with failed | ⟨_, -, failed⟩
    · exact CompileError.not_isPlacement_of_bound? failed
    rcases bind_eq_error failed with failed | ⟨_, -, failed⟩
    · exact CompileError.not_isPlacement_of_bound? failed
    rcases bind_eq_error failed with failed | ⟨_, -, failed⟩
    · exact CompileError.not_isPlacement_of_bound? failed
    rcases bind_eq_error failed with failed | ⟨_, -, failed⟩
    · exact CompileError.not_isPlacement_of_patternRules failed
    · cases failed
  · cases failed
  · cases failed
  · cases failed
  · cases failed
  · rcases bind_eq_error (map_eq_error failed) with failed | ⟨_, -, failed⟩
    · exact CompileError.not_isPlacement_of_bound? failed
    rcases bind_eq_error failed with failed | ⟨_, -, failed⟩
    · exact CompileError.not_isPlacement_of_bound? failed
    · cases failed
  · cases failed

private theorem Node.not_isPlacement_of_group? {node : Node} (failed : node.group? = .error error) :
    error.isPlacement = false := by
  unfold group? at failed
  split at failed
  · cases failed
  · cases failed
    rfl
  · cases failed

/-- A form that cannot be defined is not misplaced. -/
theorem Form.not_isPlacement_of_ofTrees {messages : Messages} {head : Head} {inner : List Tree}
    (failed : ofTrees messages head inner = .error error) : error.isPlacement = false := by
  obtain ⟨form, node, -, failed⟩ := foldlM_eq_error failed
  rcases bind_eq_error failed with failed | ⟨group, -, failed⟩
  · exact Node.not_isPlacement_of_group? failed
  · split at failed
    · cases failed
    · rcases bind_eq_error failed with failed | ⟨validator, -, failed⟩
      · exact Node.not_isPlacement_of_validator? failed
      · split at failed <;> cases failed

/-- Attributes that cannot be read are not about placement. -/
theorem Setting.not_isPlacement_of_attributesOf {statics : Statics} {active : Bool}
    {tag : Occurrence} (failed : setting.attributesOf statics active tag = .error error) :
    error.isPlacement = false := by
  -- Expanding an attribute fails only for its placeholders.
  have run (entries : List (String × String)) (failed : entries.mapM (fun entry =>
      (if active then (setting.bindings statics).expandAttribute (setting.location tag) entry.2
        else .ok entry.2).map fun value => (entry.1, value)) = .error error) :
      error.isPlacement = false := by
    induction entries with
    | nil => cases failed
    | cons entry rest ih =>
      rw [List.mapM_cons] at failed
      rcases bind_eq_error failed with failed | ⟨value, -, failed⟩
      · have failed := map_eq_error failed
        split at failed
        · unfold Bindings.expandAttribute at failed
          split at failed
          · cases failed
          · cases failed
            rfl
        · cases failed
      · rcases bind_eq_error failed with failed | ⟨values, -, failed⟩
        · exact ih failed
        · cases failed
  rcases bind_eq_error failed with failed | ⟨entries, -, failed⟩
  · exact run _ failed
  · cases failed

end

namespace Outline

variable {setting : Setting} {outline next : Outline} {error : CompileError}

/-- The open tags, innermost first, without what is in them. -/
def shells (outline : Outline) : List Frame := outline.frames.map Frame.shell

private theorem not_isPlacement_of_draw {frame : Frame}
    (failed : outline.draw setting frame = .error error) : error.isPlacement = false := by
  rcases bind_eq_error failed with failed | ⟨form, -, failed⟩
  · unfold Frame.form? at failed
    split at failed
    · exact Form.not_isPlacement_of_ofTrees (map_eq_error failed)
    · cases failed
  · cases failed

theorem not_isPlacement_of_settle {frame : Frame} {selfClosing : Bool} {passed : Option Bool}
    (failed : outline.settle setting frame selfClosing passed = .error error) :
    error.isPlacement = false := by
  unfold settle at failed
  split at failed
  · cases failed
  · split at failed
    · exact not_isPlacement_of_draw failed
    · cases failed

theorem not_isPlacement_of_closeTag {tag : Occurrence}
    (failed : outline.closeTag setting tag = .error error) : error.isPlacement = false := by
  cases around : outline.outer with
  | nil =>
    rw [closeTag, around] at failed
    cases failed
    rfl
  | cons parent outer =>
    rw [closeTag_cons setting tag around] at failed
    split at failed
    · cases failed
      rfl
    · split at failed
      · exact not_isPlacement_of_draw failed
      · cases failed

theorem not_isPlacement_of_finish {text : String}
    (failed : outline.finish setting text = .error error) : error.isPlacement = false := by
  cases around : outline.outer with
  | cons parent outer =>
    rw [finish_cons setting text around] at failed
    cases failed
    rfl
  | nil =>
    rw [finish_nil setting text around] at failed
    split at failed
    · cases failed
      rfl
    · obtain ⟨location, written, reason, rfl⟩ := Bindings.expand_eq_error (map_eq_error failed)
      rfl

/-! ### Steps -/

private theorem shells_draw {frame : Frame} (done : outline.draw setting frame = .ok next) :
    next.shells = outline.shells ∧ next.skip = outline.skip ∧ next.statics = outline.statics := by
  obtain ⟨form, -, done⟩ := bind_eq_ok.mp done
  cases done
  exact ⟨rfl, rfl, rfl⟩

/-- A tag that has been opened is the innermost one, unless it closes itself. -/
theorem shells_settle {frame : Frame} {selfClosing : Bool} {passed : Option Bool}
    (done : outline.settle setting frame selfClosing passed = .ok next) :
    next.statics = outline.statics ∧
      if selfClosing then next.shells = outline.shells ∧ next.skip = outline.skip
      else next.shells = { frame.shell with skipping := passed == some false } :: outline.shells ∧
        next.skip = outline.skip + (passed == some false).toNat := by
  unfold settle at done
  cases selfClosing with
  | false =>
    cases done
    exact ⟨rfl, rfl, rfl⟩
  | true =>
    simp only [Bool.not_true, Bool.false_eq_true, if_false] at done
    split at done
    · obtain ⟨shells, skip, statics⟩ := shells_draw done
      exact ⟨statics, shells, skip⟩
    · cases done
      exact ⟨rfl, rfl, rfl⟩

/-- Closing a tag takes it away. -/
theorem shells_closeTag {tag : Occurrence} (done : outline.closeTag setting tag = .ok next) :
    outline.shells = outline.top.shell :: next.shells ∧ next.statics = outline.statics ∧
      next.skip = outline.skip - if outline.skip = 0 then 0 else outline.top.skipping.toNat := by
  cases around : outline.outer with
  | nil =>
    rw [closeTag, around] at done
    cases done
  | cons parent outer =>
    rw [closeTag_cons setting tag around] at done
    have split : outline.shells = outline.top.shell :: (parent :: outer).map Frame.shell := by
      rw [shells, frames, around, List.map_cons]
    split at done
    · cases done
    · split at done
      · -- Where nothing is left out the tag is drawn, elsewhere it is only taken off.
        next active =>
        obtain ⟨shells, skip, statics⟩ := shells_draw done
        have active : outline.skip = 0 := by simpa using active
        refine ⟨?_, statics, ?_⟩
        · rw [split, shells]
          rfl
        · rw [if_pos active]
          exact skip
      · next inactive =>
        cases done
        have inactive : outline.skip ≠ 0 := by simpa using inactive
        refine ⟨split, rfl, ?_⟩
        rw [if_neg inactive]

/-- What an outline has opened in it when a tag has been initialized: the same tags, but
for the ids of a form that the tag was registered with. -/
theorem shells_opened {config : Config} {head : Head} {kind : TagKind} {opening : Opening}
    (init : (outline.opening head kind).init config = .ok opening) :
    if kind.registers then
      ∃ form ids id, outline.shells.find? (·.kind.isForm) = some form ∧ form.kind = .form ids ∧
        head.attr? "id" = some id ∧ id ∉ ids ∧
        (outline.opened opening).shells = Frame.changeForm (.form (ids ++ [id])) outline.shells
    else (outline.opened opening).shells = outline.shells := by
  have arena := (Opening.outcome_of_init init).arena
  change if kind.registers then _ else _ at arena
  cases registers : kind.registers with
  | false =>
    rw [registers, if_neg Bool.false_ne_true] at arena
    rw [if_neg Bool.false_ne_true, outline.opened_of_arena head kind arena]
    rfl
  | true =>
    rw [registers, if_pos rfl] at arena
    obtain ⟨form, id, registered⟩ := arena
    obtain ⟨formId, node, ids, around, rfl, isForm, fresh, changed⟩ := registered.inForm
    rw [form?_opening] at around
    obtain ⟨frame, found, same⟩ := Option.map_eq_some_iff.mp around
    cases same
    rw [if_pos rfl]
    refine ⟨frame.shell, ids, id, ?_, isForm, registered.given, fresh, ?_⟩
    · rw [shells, Frame.find?_map_shell]
      exact congrArg (Option.map Frame.shell) found
    · -- The opening has its own copy of the form, from which the kind is taken back.
      have kinds := outline.kind_withForm_opening head kind (some (.form (ids ++ [id])))
      rw [found, ← changed] at kinds
      have kinds : (opening.arena.node? 0).map Node.kind = some (.form (ids ++ [id])) := kinds
      have frames := outline.frames_changeForm (.form (ids ++ [id]))
      rw [shells, shells, ← Frame.map_shell_changeForm, ← frames, opened, kinds]
      rfl

end Outline

end Stencil
