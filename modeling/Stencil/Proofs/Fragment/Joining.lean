import Mathlib.Data.List.Induction
import Stencil.Proofs.Fragment
import Stencil.Proofs.Growth

/-!
# Joining fragments

Joining fragments is associative and makes no difference to what they show, although texts
are merged where two fragments meet. What is built by adding to it is in normal form, and
so are all fragments of a compiled view.
-/
namespace Stencil

namespace Fragment

/-! ### Adding text -/

private theorem pushNonempty_concat (s : String) (before : Fragment) (last : Segment) :
    pushNonempty s (before ++ [last]) = before ++ pushNonempty s [last] := by
  induction before with
  | nil => rfl
  | cons first rest ih =>
    have more : ∀ t, first = .text t → rest ++ [last] = [] → False := by simp
    rw [List.cons_append, pushNonempty.eq_3 _ _ _ more, ih, List.cons_append]

@[simp]
theorem push_text (fragment : Fragment) (s : String) : fragment.push (.text s) = fragment.pushText s :=
  rfl

/-- What a fragment becomes when a segment is added to it: text goes into a text at the end. -/
inductive Adds : Fragment → Segment → Fragment → Prop where
  | nothing (fragment : Fragment) : Adds fragment (.text "") fragment
  | merged (before : Fragment) (t : String) {s : String} : s ≠ "" →
      Adds (before ++ [.text t]) (.text s) (before ++ [.text (t ++ s)])
  | behind {fragment : Fragment} {segment : Segment} : segment ≠ .text "" →
      Adds fragment segment (fragment ++ [segment])

private theorem adds_pushNonempty {s : String} (filled : s ≠ "") (fragment : Fragment) :
    Adds fragment (.text s) (pushNonempty s fragment) := by
  have notEmpty : Segment.text s ≠ .text "" := by simpa using filled
  rcases List.eq_nil_or_concat fragment with rfl | ⟨before, last, rfl⟩
  · exact .behind notEmpty
  · rw [List.concat_eq_append, pushNonempty_concat]
    cases last with
    | text t => exact .merged before t filled
    | _ =>
      change Adds _ _ (before ++ ([_] ++ [_]))
      rw [← List.append_assoc]
      exact .behind notEmpty

private theorem adds_push (fragment : Fragment) (segment : Segment) :
    Adds fragment segment (fragment.push segment) := by
  cases segment with
  | text s =>
    rw [push_text, pushText]
    by_cases empty : s = ""
    · subst empty
      exact .nothing fragment
    · rw [if_neg (by simpa using empty)]
      exact adds_pushNonempty empty fragment
  | _ => exact .behind (by simp)

@[simp]
theorem append_concat (fragment before : Fragment) (last : Segment) :
    fragment.append (before ++ [last]) = (fragment.append before).push last := by
  simp [append]

/-! ### Joining -/

/-- To add a segment to what is joined, add it to the second part. -/
theorem append_push (fragment other : Fragment) (segment : Segment) :
    fragment.append (other.push segment) = (fragment.append other).push segment := by
  have adds := adds_push other segment
  generalize other.push segment = pushed at adds ⊢
  cases adds with
  | nothing => rfl
  | merged before t filled =>
    -- Text may be merged before it is added or after that.
    rw [append_concat, append_concat, push_text, push_text, push_text, pushText_pushText]
  | behind filled => rw [append_concat]

/-- Joining is associative, also where texts are not merged yet. -/
theorem append_append (first second third : Fragment) :
    (first.append second).append third = first.append (second.append third) := by
  induction third using List.reverseRecOn with
  | nil => rfl
  | append_singleton before last ih =>
    rw [append_concat, append_concat, append_push, ih]

/-! ### What joined fragments show -/

/-- A reading of fragments from the left that does not depend on how their texts are cut. -/
structure Seamless {α : Type} (read : Fragment → α) : Prop where
  empty : ∀ before, read (before ++ [.text ""]) = read before
  merge : ∀ before s t, read (before ++ [.text s] ++ [.text t]) = read (before ++ [.text (s ++ t)])
  congr : ∀ before before' last, read before = read before' →
    read (before ++ [last]) = read (before' ++ [last])

namespace Seamless

variable {α : Type} {read : Fragment → α}

theorem push (seamless : Seamless read) (fragment : Fragment) (segment : Segment) :
    read (fragment.push segment) = read (fragment ++ [segment]) := by
  have adds := adds_push fragment segment
  generalize fragment.push segment = pushed at adds ⊢
  cases adds with
  | nothing => exact (seamless.empty fragment).symm
  | merged before t filled => exact (seamless.merge before t _).symm
  | behind filled => rfl

/-- To such a reading joining is writing one behind the other. -/
theorem join (seamless : Seamless read) (fragment other : Fragment) :
    read (fragment.append other) = read (fragment ++ other) := by
  induction other using List.reverseRecOn with
  | nil =>
    rw [List.append_nil]
    rfl
  | append_singleton before last ih =>
    rw [append_concat, seamless.push, seamless.congr _ _ last ih, List.append_assoc]

end Seamless

theorem seamless_plainText : Seamless plainText where
  empty before := by simp [plainText_append, plainText]
  merge before s t := by simp [plainText_append, plainText]
  congr before before' last same := by rw [plainText_append, plainText_append, same]

theorem plainText_join (fragment other : Fragment) :
    (fragment.append other).plainText = fragment.plainText ++ other.plainText := by
  rw [seamless_plainText.join, plainText_append]

end Fragment

namespace View

variable (context : Context) (locals : Dict Value)

private theorem renderFrom_append (before after : List Segment) :
    renderFrom context locals (before ++ after) =
      ((renderFrom context locals before).1
          ++ (renderFrom context (renderFrom context locals before).2 after).1,
        (renderFrom context (renderFrom context locals before).2 after).2) := by
  induction before generalizing locals with
  | nil => simp [renderFrom]
  | cons segment rest ih => simp [renderFrom, ih, String.append_assoc]

private theorem seamless_renderFrom : Fragment.Seamless (renderFrom context locals) where
  empty before := by simp [renderFrom_append, renderFrom, renderSegment]
  merge before s t := by simp [renderFrom_append, renderFrom, renderSegment]
  congr before before' last same := by rw [renderFrom_append, renderFrom_append, same]

/-- What is joined is rendered one behind the other: assigned values are seen behind them. -/
theorem renderFrom_join (fragment other : Fragment) :
    renderFrom context locals (fragment.append other) =
      ((renderFrom context locals fragment).1
          ++ (renderFrom context (renderFrom context locals fragment).2 other).1,
        (renderFrom context (renderFrom context locals fragment).2 other).2) := by
  rw [(seamless_renderFrom context locals).join, renderFrom_append]

end View

namespace Fragment

/-! ### Normal form -/

variable {fragment : Fragment} {segment : Segment}

/-- No text is empty, and no two texts stand side by side. -/
structure Normal (fragment : Fragment) : Prop where
  filled : ∀ s, .text s ∈ fragment → s ≠ ""
  separated : fragment.Separated

namespace Normal

theorem nil : Normal [] := ⟨nofun, List.isChain_nil⟩

theorem push (normal : fragment.Normal) (segment : Segment) : (fragment.push segment).Normal := by
  refine ⟨?_, separated_append normal.separated [segment]⟩
  intro t member
  have adds := adds_push fragment segment
  generalize fragment.push segment = pushed at adds member
  cases adds with
  | nothing => exact normal.filled t member
  | @merged before u s filled =>
    rw [List.mem_append, List.mem_singleton, Segment.text.injEq] at member
    rcases member with within | rfl
    · exact normal.filled t (List.mem_append_left _ within)
    · simp [filled]
  | behind filled =>
    rw [List.mem_append, List.mem_singleton] at member
    rcases member with within | rfl
    · exact normal.filled t within
    · simpa using filled

theorem pushText (normal : fragment.Normal) (s : String) : (fragment.pushText s).Normal :=
  normal.push (.text s)

/-- What is added need not be in normal form. -/
theorem append (normal : fragment.Normal) (other : Fragment) : (fragment.append other).Normal := by
  induction other using List.reverseRecOn with
  | nil => exact normal
  | append_singleton before last ih =>
    rw [append_concat]
    exact ih.push last

/-- A segment behind a fragment in normal form is added to it as it is. -/
theorem push_eq (normal : Normal (fragment ++ [segment])) :
    fragment.push segment = fragment ++ [segment] := by
  have adds := adds_push fragment segment
  generalize fragment.push segment = pushed at adds ⊢
  cases adds with
  | nothing => exact absurd rfl (normal.filled "" (List.mem_append_right _ List.mem_cons_self))
  | @merged before t s filled =>
    -- Two texts would stand side by side.
    have apart := normal.separated
    rw [Separated, List.append_assoc] at apart
    have beside := (List.isChain_append.mp apart).2.1
    exact absurd rfl ((List.isChain_cons_cons.mp beside).1 t s rfl)
  | behind filled => rfl

private theorem of_concat (normal : Normal (fragment ++ [segment])) : Normal fragment :=
  ⟨fun s member => normal.filled s (List.mem_append_left _ member),
    (List.isChain_append.mp normal.separated).1⟩

/-- Normal form is what comes of adding segments one by one. -/
theorem nil_append (normal : fragment.Normal) : Fragment.append [] fragment = fragment := by
  induction fragment using List.reverseRecOn with
  | nil => rfl
  | append_singleton before last ih => rw [append_concat, ih normal.of_concat, normal.push_eq]

end Normal

/-! ### Normal form throughout -/

/-- The fragments in a fragment, itself among them. -/
inductive Within : Fragment → Fragment → Prop where
  | self (fragment : Fragment) : Within fragment fragment
  | errors {inner body outer : Fragment} : .ifErrors body ∈ outer → Within inner body →
      Within inner outer

def NormalThroughout (fragment : Fragment) : Prop := ∀ inner, Within inner fragment → Normal inner

/-- To add a segment brings in no other than this one, unless it is a text. -/
theorem mem_push {added : Segment} (notText : ∀ t, segment ≠ .text t)
    (member : segment ∈ fragment.push added) : segment ∈ fragment ∨ segment = added := by
  have adds := adds_push fragment added
  generalize fragment.push added = pushed at adds member
  cases adds with
  | nothing => exact .inl member
  | merged before t filled =>
    rw [List.mem_append, List.mem_singleton] at member
    exact .inl (List.mem_append_left _ (member.resolve_right (notText _)))
  | behind filled => simpa using member

namespace NormalThroughout

private theorem of_normal (normal : fragment.Normal)
    (inside : ∀ body, .ifErrors body ∈ fragment → NormalThroughout body) :
    fragment.NormalThroughout := by
  intro inner within
  cases within with
  | self => exact normal
  | errors member within => exact inside _ member inner within

private theorem normal (throughout : fragment.NormalThroughout) : fragment.Normal :=
  throughout fragment (.self fragment)

theorem nil : NormalThroughout [] := .of_normal .nil nofun

theorem push {added : Segment} (throughout : fragment.NormalThroughout)
    (inside : ∀ body, added = .ifErrors body → NormalThroughout body) :
    (fragment.push added).NormalThroughout := by
  refine .of_normal (throughout.normal.push added) ?_
  intro body member
  have notText : ∀ t, Segment.ifErrors body ≠ .text t := by simp
  rcases mem_push notText member with within | same
  · exact fun inner deeper => throughout inner (.errors within deeper)
  · exact inside body same.symm

theorem pushText (throughout : fragment.NormalThroughout) (s : String) :
    (fragment.pushText s).NormalThroughout := by
  rw [← push_text]
  exact throughout.push (by simp)

theorem append {other : Fragment} (throughout : fragment.NormalThroughout)
    (inside : other.NormalThroughout) : (fragment.append other).NormalThroughout := by
  have bodies : ∀ body, .ifErrors body ∈ other → NormalThroughout body :=
    fun body member inner deeper => inside inner (.errors member deeper)
  clear inside
  induction other using List.reverseRecOn with
  | nil => exact throughout
  | append_singleton before last ih =>
    rw [append_concat]
    refine (ih fun body member => bodies body (List.mem_append_left _ member)).push ?_
    rintro body rfl
    exact bodies body (List.mem_append_right _ (List.mem_singleton_self _))

end NormalThroughout

end Fragment

namespace Bindings

open Fragment (NormalThroughout)

variable {bindings : Bindings} {file source : String}

private theorem replacement_ne_ifErrors {written : Written} {body : Fragment} :
    bindings.replacement written ≠ .ok (.ifErrors body) := by
  unfold replacement
  split <;> simp [Except.map] <;> split <;> simp

private theorem normalThroughout_expandPieces {done expanded : Fragment} {pieces : List Piece}
    (ran : bindings.expandPieces done pieces = .ok expanded) (normal : done.NormalThroughout) :
    expanded.NormalThroughout := by
  induction pieces generalizing done with
  | nil =>
    cases ran
    exact normal
  | cons piece rest ih =>
    cases piece with
    | plain text => exact ih ran (normal.pushText _)
    | placeholder written =>
      rw [expandPieces] at ran
      split at ran
      · next segment replaced =>
        refine ih ran (normal.push ?_)
        rintro body rfl
        exact absurd replaced replacement_ne_ifErrors
      · cases ran

mutual

private theorem normalThroughout_expandSegment {done expanded : Fragment} (segment : Segment)
    (ran : bindings.expandSegment file source done segment = .ok expanded)
    (normal : done.NormalThroughout) : expanded.NormalThroughout := by
  cases segment with
  | text s =>
    rw [expandSegment] at ran
    split at ran
    · next fragment replaced =>
      cases ran
      exact normal.append (normalThroughout_expandPieces replaced .nil)
    · cases ran
  | ifErrors body =>
    rw [expandSegment] at ran
    obtain ⟨inner, within, ran⟩ := bind_eq_ok.mp ran
    cases ran
    have inside := normalThroughout_expandSegments body within .nil
    refine normal.push ?_
    rintro body' same
    cases same
    exact inside
  | _ =>
    cases ran
    exact normal.push nofun

/-- The final pass puts its result together anew, so it is in normal form whatever was there
before. -/
theorem normalThroughout_expandSegments {done expanded : Fragment} (segments : List Segment)
    (ran : bindings.expandSegments file source done segments = .ok expanded)
    (normal : done.NormalThroughout) : expanded.NormalThroughout := by
  cases segments with
  | nil =>
    cases ran
    exact normal
  | cons segment rest =>
    rw [expandSegments] at ran
    obtain ⟨next, first, later⟩ := bind_eq_ok.mp ran
    exact normalThroughout_expandSegments rest later
      (normalThroughout_expandSegment segment first normal)

end

end Bindings

/-- Joining fragments is associative, and the empty fragment is neutral to it, from the left
on fragments in normal form. What is joined shows its parts one behind the other, both as plain
text and when it is rendered. To add text, a segment or a fragment keeps the normal form, and all
fragments of a compiled view have it. -/
theorem joining_laws :
    (∀ a b c : Fragment, (a.append b).append c = a.append (b.append c)) ∧
    (∀ a : Fragment, a.append [] = a) ∧
    (∀ a : Fragment, a.Normal → Fragment.append [] a = a) ∧
    (∀ a b : Fragment, (a.append b).plainText = a.plainText ++ b.plainText) ∧
    (∀ context locals (a b : Fragment),
      View.renderFrom context locals (a.append b) =
        ((View.renderFrom context locals a).1
            ++ (View.renderFrom context (View.renderFrom context locals a).2 b).1,
          (View.renderFrom context (View.renderFrom context locals a).2 b).2)) ∧
    (∀ a : Fragment, a.Normal →
      (∀ s, (a.pushText s).Normal) ∧ (∀ segment, (a.push segment).Normal) ∧
        ∀ b, (a.append b).Normal) ∧
    ∀ setting text compiled, compileTemplate setting text = .ok compiled →
      ∀ inner, Fragment.Within inner compiled.view.body → inner.Normal := by
  refine ⟨Fragment.append_append, fun a => rfl, fun a normal => normal.nil_append,
    Fragment.plainText_join, View.renderFrom_join, ?_, ?_⟩
  · intro a normal
    exact ⟨normal.pushText, normal.push, normal.append⟩
  · intro setting text compiled compiles
    obtain ⟨site, grown, -⟩ := compileTemplate_grows compiles
    exact Bindings.normalThroughout_expandSegments _ grown.view .nil

/-- Text in front of a dynamic segment, texts that are not merged yet, and a view with a constant
between texts. -/
theorem joining_laws_page :
    let line : Fragment := [.text "a", .echo (.var ["n"])]
    let setting : Setting := ⟨.builtin, { constants := .ofList [("SITE", "Example")] }, "page"⟩
    let text := "<form:form id=\"f\"><form:text id=\"t\"/>\x7bSITE\x7d \x7b\x7b$n\x7d\x7d</form:form>"
    Fragment.append [] line = line ∧
    (line.append [.text "b", .text "", .text "c"]).Normal ∧
    ∃ compiled, compileTemplate setting text = .ok compiled ∧
      compiled.view.body.length = 5 ∧ Fragment.Normal compiled.view.body := by
  intro line setting text
  have normal : line.Normal := by
    refine ⟨by simp [line], List.isChain_pair.mpr ?_⟩
    intro s t _
    exact Segment.noConfusion
  have evaluated : ((compileTemplate setting text).toOption.any
      fun compiled : Compiled => compiled.view.body.length = 5) = true := by
    rw [compileTemplate, String.toList_ofList]
    decide +kernel
  obtain ⟨compiled, compiles, length⟩ := exists_of_any evaluated
  obtain ⟨-, -, neutral, -, -, keeps, views⟩ := joining_laws
  exact ⟨neutral line normal, (keeps line normal).2.2 _, compiled, compiles, length,
    views setting text compiled compiles _ (.self _)⟩

end Stencil
