import Stencil.Proofs.Outline.Places
import Stencil.Proofs.Outline.Refinement
import Stencil.Proofs.Placeholder

/-!
# Matching of tags

The tags of a text are matched on their own, by a walk that looks at nothing but names
and slashes. Compiling finds the same faults in them at the same tags, unless something
else in the template ends it before (`compileTemplate_matches`).
-/
namespace Stencil

open Markup (Occurrence)

/-- The tags of a text, in document order. -/
def Setting.tags (setting : Setting) (text : String) : List Occurrence :=
  (Markup.scan setting.registry.namespaces text.toList).parts.map (·.tag)

/-- Why tags are not matched, with the tags at fault. -/
inductive MatchFault where
  /-- A closing tag that closes itself. -/
  | malformed (tag : Occurrence)
  | unknown (tag : Occurrence)
  /-- A closing tag where none is open. -/
  | unexpected (tag : Occurrence)
  | mismatched (expected found : Occurrence)
  /-- The innermost tag that is open at the end. -/
  | unterminated (tag : Occurrence)

/-- The compile error that reports a fault. -/
def MatchFault.error (setting : Setting) : MatchFault → CompileError
  | .malformed tag => .malformedTag (setting.ref tag)
  | .unknown tag => .unknownTag (setting.ref tag)
  | .unexpected tag => .unexpectedClosingTag (setting.ref tag)
  | .mismatched expected found => .mismatchedClosingTag (setting.ref expected) (setting.ref found)
  | .unterminated tag => .unterminatedTag (setting.ref tag)

/-- Whether an error is about how tags are matched. -/
def CompileError.isMatching : CompileError → Bool
  | .malformedTag _ | .unknownTag _ | .unexpectedClosingTag _ | .mismatchedClosingTag _ _
  | .unterminatedTag _ => true
  | _ => false

/-- Whether a tag opens something that has to be closed. -/
def Markup.Occurrence.opens (tag : Occurrence) : Bool := !tag.closing && !tag.selfClosing

/-- A closing tag has to close the innermost open one. -/
def matchClosing (opened : List Occurrence) (tag : Occurrence) :
    Except MatchFault (List Occurrence) :=
  match opened with
  | [] => .error (.unexpected tag)
  | top :: rest =>
    if top.namespaceName = tag.namespaceName ∧ top.name = tag.name then .ok rest
    else .error (.mismatched top tag)

/-- Match the next tag, inside of these open ones, the innermost first. -/
def matchTag (registry : Registry) (opened : List Occurrence) (tag : Occurrence) :
    Except MatchFault (List Occurrence) :=
  if tag.closing && tag.selfClosing then .error (.malformed tag)
  else if !registry.containsTag tag.namespaceName tag.name then .error (.unknown tag)
  else if tag.selfClosing then .ok opened
  else if !tag.closing then .ok (tag :: opened)
  else matchClosing opened tag

/-- Match all tags of a text. -/
def matchTags (registry : Registry) (tags : List Occurrence) : Except MatchFault Unit := do
  match ← tags.foldlM (matchTag registry) [] with
  | [] => .ok ()
  | tag :: _ => .error (.unterminated tag)

/-- A tag that is matched closes itself, opens something, or closes the innermost open
tag. -/
theorem matchTag_eq_ok {registry : Registry} {opened opened' : List Occurrence} {tag : Occurrence}
    (fits : matchTag registry opened tag = .ok opened') :
    registry.containsTag tag.namespaceName tag.name ∧
      ((tag.closing = false ∧ tag.selfClosing = true ∧ opened' = opened) ∨
        (tag.closing = false ∧ tag.selfClosing = false ∧ opened' = tag :: opened) ∨
        (tag.closing = true ∧ tag.selfClosing = false ∧ ∃ top, opened = top :: opened' ∧
          top.namespaceName = tag.namespaceName ∧ top.name = tag.name)) := by
  unfold matchTag at fits
  -- The checks are gone through in their order.
  split at fits
  · cases fits
  next wellFormed =>
    split at fits
    · cases fits
    next known =>
      refine ⟨by simpa using known, ?_⟩
      split at fits
      next closes =>
        cases fits
        exact .inl ⟨by simpa [closes] using wellFormed, closes, rfl⟩
      next plain =>
        split at fits
        next opens =>
          cases fits
          exact .inr (.inl ⟨by simpa using opens, by simpa using plain, rfl⟩)
        next closing =>
          refine .inr (.inr ⟨by simpa using closing, by simpa using plain, ?_⟩)
          unfold matchClosing at fits
          split at fits
          · cases fits
          next top rest =>
            split at fits
            next names =>
              cases fits
              exact ⟨top, rfl, names⟩
            · cases fits

/-! ### Agreement of a compile with a matching -/

/-- A compile and a matching that agree: both go on, both stop at the same fault, or the
compile is cut short by an error about something else. -/
inductive Agreeing {α β : Type} (setting : Setting) (results : α → β → Prop) :
    Except CompileError α → Except MatchFault β → Prop where
  | ok {a : α} {b : β} : results a b → Agreeing setting results (.ok a) (.ok b)
  | fault (fault : MatchFault) :
      Agreeing setting results (.error (fault.error setting)) (.error fault)
  | cut {error : CompileError} (other : Except MatchFault β) : error.isMatching = false →
      Agreeing setting results (.error error) other

namespace Agreeing

variable {α β γ δ : Type} {setting : Setting} {R : α → β → Prop} {S : γ → δ → Prop}
  {x : Except CompileError α} {y : Except MatchFault β}

theorem bind {f : α → Except CompileError γ} {g : β → Except MatchFault δ}
    (first : Agreeing setting R x y) (next : ∀ a b, R a b → Agreeing setting S (f a) (g b)) :
    Agreeing setting S (x >>= f) (y >>= g) := by
  cases first with
  | ok related => exact next _ _ related
  | fault fault => exact .fault fault
  | cut _ content => exact .cut _ content

/-- What goes on is what the compile gives. -/
theorem retrace (agreeing : Agreeing setting R x y) :
    Agreeing setting (fun a b => R a b ∧ x = .ok a) x y := by
  cases agreeing with
  | ok related => exact .ok ⟨related, rfl⟩
  | fault fault => exact .fault fault
  | cut _ content => exact .cut _ content

theorem of_ok {a : α} (agreeing : Agreeing setting R x y) (ok : x = .ok a) :
    ∃ b, y = .ok b ∧ R a b := by
  cases agreeing with
  | ok related => cases ok; exact ⟨_, rfl, related⟩
  | fault fault => cases ok
  | cut _ content => cases ok

private theorem of_fault {fault : MatchFault} (agreeing : Agreeing setting R x y)
    (rejected : y = .error fault) : ∃ error, x = .error error := by
  cases agreeing with
  | ok related => cases rejected
  | fault fault => exact ⟨_, rfl⟩
  | cut _ content => exact ⟨_, rfl⟩

theorem of_matching {error : CompileError} (agreeing : Agreeing setting R x y)
    (failed : x = .error error) (matching : error.isMatching) :
    ∃ fault, y = .error fault ∧ fault.error setting = error := by
  cases agreeing with
  | ok related => cases failed
  | fault fault => cases failed; exact ⟨fault, rfl, rfl⟩
  | cut _ content =>
    cases failed
    rw [content] at matching
    cases matching

theorem foldlM {ι κ : Type} {f : α → ι → Except CompileError α} {g : β → κ → Except MatchFault β}
    (tag : ι → κ) (step : ∀ a b i, R a b → Agreeing setting R (f a i) (g b (tag i)))
    (is : List ι) {a : α} {b : β} (start : R a b) :
    Agreeing setting R (is.foldlM f a) ((is.map tag).foldlM g b) := by
  induction is generalizing a b with
  | nil => exact .ok start
  | cons i is ih =>
    rw [List.map_cons, List.foldlM_cons, List.foldlM_cons]
    exact (step a b i start).bind fun _ _ next => ih next

end Agreeing

/-! ### The open tags along a compile -/

/-- Errors about what is in a tag are not about how tags are matched. -/
theorem ContentErrors.isMatching {p : Location → Location → Prop} {e f : CompileError}
    (content : ContentErrors p e f) : e.isMatching = false := by
  cases content <;> rfl

/-- The names and places of open tags. -/
def Outline.refs (outline : Outline) : List TagRef := outline.frames.map (·.head.ref)

/-- The open tags of an outline are those of a matching, and all that were opened besides
them have been closed. -/
structure Matched (setting : Setting) (outline : Outline) (opened : List Occurrence) : Prop where
  refs : outline.refs = opened.map setting.ref ++ [setting.root.head.ref]
  pushes : outline.pushes = outline.pops + opened.length

namespace Outline

variable {setting : Setting} {outline next : Outline}

private theorem refs_changeForm (outline : Outline) (change : Option TagKind) :
    (outline.changeForm change).refs = outline.refs := by
  cases change with
  | none => rfl
  | some kind =>
    rw [refs, frames_changeForm]
    exact Frame.map_changeForm (·.head.ref) (fun _ _ => rfl) kind outline.frames

/-- Drawing a tag changes the contents of the tag around it and the forms only. -/
theorem draw_eq_ok {frame : Frame} (done : outline.draw setting frame = .ok next) :
    next.refs = outline.refs ∧ next.pushes = outline.pushes ∧ next.pops = outline.pops := by
  obtain ⟨form, -, done⟩ := bind_eq_ok.mp done
  cases done
  exact ⟨rfl, rfl, rfl⟩

private theorem settle_eq_ok {frame : Frame} {selfClosing : Bool} {passed : Option Bool}
    (done : outline.settle setting frame selfClosing passed = .ok next) :
    next.refs = (if selfClosing then outline.refs else frame.head.ref :: outline.refs) ∧
      next.pushes = outline.pushes + (!selfClosing).toNat ∧ next.pops = outline.pops := by
  unfold settle at done
  cases selfClosing with
  | false =>
    cases done
    exact ⟨rfl, rfl, rfl⟩
  | true =>
    simp only [Bool.not_true, Bool.false_eq_true, if_false] at done
    split at done
    · exact draw_eq_ok done
    · cases done
      exact ⟨rfl, rfl, rfl⟩

/-- A tag that is opened is the innermost one behind it, unless it closes itself. -/
theorem openTag_eq_ok {tag : Occurrence} {kind : TagKind}
    (done : outline.openTag setting tag kind = .ok next) :
    next.refs = (if tag.selfClosing then outline.refs else setting.ref tag :: outline.refs) ∧
      next.pushes = outline.pushes + (!tag.selfClosing).toNat ∧ next.pops = outline.pops := by
  obtain ⟨attributes, -, done⟩ := bind_eq_ok.mp done
  obtain ⟨opening, initialized, done⟩ := bind_eq_ok.mp done
  have ref : opening.head.ref = setting.ref tag := by
    unfold initOpening at initialized
    split at initialized
    · exact Opening.ref_of_init initialized
    · cases initialized
      rfl
  have opened : (outline.opened opening).refs = outline.refs := outline.refs_changeForm _
  obtain ⟨refs, pushes, pops⟩ := settle_eq_ok done
  rw [opened, ref] at refs
  exact ⟨refs, pushes, pops⟩

private theorem pushes_closeTag {tag : Occurrence}
    (done : outline.closeTag setting tag = .ok next) : next.pushes = outline.pushes := by
  cases around : outline.outer with
  | nil =>
    rw [closeTag, around] at done
    cases done
  | cons parent outer =>
    rw [closeTag_cons setting tag around] at done
    split at done
    · cases done
    · split at done
      · exact (draw_eq_ok done).2.1
      · cases done
        rfl

end Outline

section

variable {setting : Setting} {outline : Outline} {opened : List Occurrence} {tag : Occurrence}

private theorem Matched.of_same {next : Outline} (matched : Matched setting outline opened)
    (same : next.refs = outline.refs ∧ next.pushes = outline.pushes ∧ next.pops = outline.pops) :
    Matched setting next opened := by
  obtain ⟨refs, pushes, pops⟩ := same
  constructor
  · rw [refs, matched.refs]
  · rw [pushes, pops, matched.pushes]

theorem Matched.pushText (matched : Matched setting outline opened) (text : List Char) :
    Matched setting (outline.pushText text) opened :=
  matched.of_same ⟨rfl, rfl, rfl⟩

private theorem openTag_agreeing (matched : Matched setting outline opened) (tag : Occurrence)
    (kind : TagKind) :
    Agreeing setting (Matched setting) (outline.openTag setting tag kind)
      (.ok (if tag.selfClosing then opened else tag :: opened)) := by
  cases result : outline.openTag setting tag kind with
  | error error =>
    -- Nothing about the nesting of tags is looked at when one is opened.
    exact .cut _ (Outline.openTag_eq_error result).isMatching
  | ok next =>
    obtain ⟨refs, pushes, pops⟩ := Outline.openTag_eq_ok result
    apply Agreeing.ok
    cases closes : tag.selfClosing with
    | true =>
      rw [closes] at refs pushes
      exact matched.of_same ⟨refs, pushes, pops⟩
    | false =>
      rw [closes] at refs pushes
      constructor
      · simp only [refs, matched.refs, Bool.false_eq_true, if_false, List.map_cons,
          List.cons_append]
      · simp only [pushes, pops, matched.pushes, Bool.not_false, Bool.toNat_true,
          Bool.false_eq_true, if_false, List.length_cons, Nat.add_assoc]

private theorem closeTag_agreeing (matched : Matched setting outline opened) :
    Agreeing setting (Matched setting) (outline.closeTag setting tag)
      (matchClosing opened tag) := by
  obtain ⟨refs, pushes⟩ := matched
  rw [Outline.refs, Outline.frames, List.map_cons] at refs
  cases opened with
  | nil =>
    -- Only the root is open.
    have none : outline.outer = [] := by simpa using (List.cons.inj refs).2
    rw [Outline.closeTag, none]
    exact .fault (.unexpected tag)
  | cons top rest =>
    obtain ⟨innermost, around⟩ := List.cons.inj refs
    cases outside : outline.outer with
    | nil => simp [outside] at around
    | cons parent outer =>
      rw [Outline.closeTag_cons setting tag outside]
      have namespaces : outline.top.head.namespaceName = top.namespaceName :=
        congrArg TagRef.namespaceName innermost
      have names : outline.top.head.name = top.name := congrArg TagRef.name innermost
      rw [innermost, namespaces, names, matchClosing]
      by_cases fits : top.namespaceName = tag.namespaceName ∧ top.name = tag.name
      · -- The innermost tag is closed, whether it is drawn or left out.
        have closed : Matched setting
            { outline with top := parent, outer, pops := outline.pops + 1 } rest := by
          constructor
          · rw [outside] at around
            exact around
          · rw [List.length_cons] at pushes
            dsimp only
            omega
        rw [if_pos fits, if_neg (by simp [fits])]
        split
        · cases result : Outline.draw setting _ outline.top with
          | error error => exact .cut _ (Outline.draw_eq_error result).isMatching
          | ok next => exact .ok (closed.of_same (Outline.draw_eq_ok result))
        · exact .ok (closed.of_same ⟨rfl, rfl, rfl⟩)
      · -- Another tag than the innermost one would be closed.
        rw [if_neg fits, if_pos (not_and_or.mp fits)]
        exact .fault (.mismatched top tag)

private theorem visit_agreeing (matched : Matched setting outline opened) (part : Markup.Part) :
    Agreeing setting (Matched setting) (outline.visit setting part)
      (matchTag setting.registry opened part.tag) := by
  unfold Outline.visit matchTag Registry.containsTag
  have pushed := matched.pushText part.gap
  dsimp only
  -- Both look for the same faults in the same order.
  cases malformed : part.tag.closing && part.tag.selfClosing with
  | true => exact .fault (.malformed part.tag)
  | false =>
    cases setting.registry.tag? part.tag.namespaceName part.tag.name with
    | none => exact .fault (.unknown part.tag)
    | some kind =>
      cases closing : part.tag.closing with
      | false =>
        have opens := openTag_agreeing pushed part.tag kind
        cases closes : part.tag.selfClosing with
        | true => simpa [closes] using opens
        | false => simpa [closes] using opens
      | true =>
        have open_end : part.tag.selfClosing = false := by simpa [closing] using malformed
        have closes : Agreeing setting _ _ (matchClosing opened part.tag) :=
          closeTag_agreeing pushed
        simpa [open_end] using closes

private theorem finish_agreeing (matched : Matched setting outline opened) (text : String) :
    Agreeing setting (fun compiled _ => compiled.pushes = outline.pushes ∧
        compiled.pops = outline.pushes)
      (outline.finish setting text)
      (match opened with
        | [] => .ok ()
        | tag :: _ => .error (.unterminated tag)) := by
  obtain ⟨refs, pushes⟩ := matched
  rw [Outline.refs, Outline.frames, List.map_cons] at refs
  cases opened with
  | cons tag rest =>
    obtain ⟨innermost, around⟩ := List.cons.inj refs
    cases outside : outline.outer with
    | nil => simp [outside] at around
    | cons parent outer =>
      rw [Outline.finish_cons setting text outside, innermost]
      exact .fault (.unterminated tag)
  | nil =>
    have none : outline.outer = [] := by simpa using (List.cons.inj refs).2
    rw [Outline.finish_nil setting text none]
    split
    · -- An unbalanced skip counter is no fault of the matching.
      exact .cut _ rfl
    · cases expanded : (setting.bindings outline.statics).expand setting.source text
          outline.top.body with
      | error error =>
        obtain ⟨location, source, reason, rfl⟩ := Bindings.expand_eq_error expanded
        exact .cut _ rfl
      | ok body => exact .ok ⟨rfl, pushes.symm⟩

/-- The count of opened tags after the next tag. -/
theorem pushes_visit {next : Outline} {part : Markup.Part}
    (done : outline.visit setting part = .ok next) :
    next.pushes = outline.pushes + part.tag.opens.toNat := by
  obtain ⟨kind, -, ⟨closing, -, done⟩ | ⟨opening, done⟩⟩ := Outline.visit_eq_ok done
  · rw [Outline.pushes_closeTag done, Markup.Occurrence.opens, closing]
    rfl
  · rw [(Outline.openTag_eq_ok done).2.1, Markup.Occurrence.opens, opening, Bool.not_false,
      Bool.true_and]
    rfl

private theorem pushes_run {next : Outline} {parts : List Markup.Part}
    (done : parts.foldlM (Outline.visit setting) outline = .ok next) :
    next.pushes = outline.pushes + (parts.map (·.tag)).countP (·.opens) := by
  induction parts generalizing outline with
  | nil =>
    cases done
    rfl
  | cons part rest ih =>
    rw [List.foldlM_cons] at done
    obtain ⟨middle, here, later⟩ := bind_eq_ok.mp done
    rw [ih later, pushes_visit here, List.map_cons, List.countP_cons]
    cases part.tag.opens with
    | true => exact Nat.add_right_comm _ _ _
    | false => rfl

end

/-- Compiling agrees with matching. -/
theorem compile_agreeing (setting : Setting) (text : String) :
    Agreeing setting
      (fun compiled _ => compiled.pushes = (setting.tags text).countP (·.opens) ∧
        compiled.pops = (setting.tags text).countP (·.opens))
      (compileTemplate setting text) (matchTags setting.registry (setting.tags text)) := by
  rw [compileTemplate_eq_outline, Outline.compile, matchTags, Setting.tags]
  have start : Matched setting (Outline.start setting) [] := ⟨rfl, rfl⟩
  have run := Agreeing.foldlM (R := Matched setting) (·.tag)
    (fun _ _ part matched => visit_agreeing matched part)
    (Markup.scan setting.registry.namespaces text.toList).parts start
  -- What was opened is counted along the run, what was closed follows at its end.
  refine run.retrace.bind fun outline opened ⟨matched, ran⟩ => ?_
  have pushes := pushes_run ran
  rw [show (Outline.start setting).pushes = 0 from rfl, Nat.zero_add] at pushes
  rw [← pushes]
  exact finish_agreeing (matched.pushText _) text

/-- Tags are matched exactly. What compiles has matched tags, each of which was opened
and closed once; what has unmatched tags does not compile; and an error about the
matching of tags is the one the tags on their own give. -/
theorem compileTemplate_matches (setting : Setting) (text : String) :
    (∀ compiled, compileTemplate setting text = .ok compiled →
      matchTags setting.registry (setting.tags text) = .ok () ∧
        compiled.pushes = (setting.tags text).countP (·.opens) ∧
        compiled.pops = (setting.tags text).countP (·.opens)) ∧
    (∀ fault, matchTags setting.registry (setting.tags text) = .error fault →
      ∃ error, compileTemplate setting text = .error error) ∧
    (∀ error, compileTemplate setting text = .error error → error.isMatching →
      ∃ fault, matchTags setting.registry (setting.tags text) = .error fault ∧
        fault.error setting = error) := by
  have agreeing := compile_agreeing setting text
  refine ⟨?_, ?_, ?_⟩
  · intro compiled compiles
    obtain ⟨⟨⟩, matched, counts⟩ := agreeing.of_ok compiles
    exact ⟨matched, counts⟩
  · intro fault rejected
    exact agreeing.of_fault rejected
  · intro error failed matching
    exact agreeing.of_matching failed matching

end Stencil
