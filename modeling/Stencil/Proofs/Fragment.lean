import Mathlib.Data.List.Chain
import Stencil.View

/-!
# Text in fragments

Text that is added to a fragment in pieces is there as if it had been added at once, and the
dynamic segments are those that were put in.
-/
namespace Stencil

namespace Fragment

private theorem pushNonempty_ne_nil (fragment : Fragment) (s : String) : pushNonempty s fragment ≠
    [] := by
  fun_induction pushNonempty s fragment <;> simp

private theorem pushNonempty_pushNonempty (fragment : Fragment) (s t : String) :
    pushNonempty t (pushNonempty s fragment) = pushNonempty (s ++ t) fragment := by
  fun_induction pushNonempty s fragment with
  | case1 => rfl
  | case2 last => simp only [pushNonempty, String.append_assoc]
  | case3 segment rest notText ih =>
    have more : ∀ last, segment = .text last → pushNonempty s rest = [] → False :=
      fun _ _ empty => pushNonempty_ne_nil rest s empty
    rw [pushNonempty.eq_3 _ _ _ more, ih, pushNonempty.eq_3 _ _ _ notText]

theorem pushText_pushText (fragment : Fragment) (s t : String) :
    (fragment.pushText s).pushText t = fragment.pushText (s ++ t) := by
  unfold pushText
  by_cases left : s = ""
  · simp [left]
  · by_cases right : t = ""
    · simp [right]
    · simp [left, right, pushNonempty_pushNonempty]

/-- A fragment that is added to another one. -/
theorem append_ofText (fragment : Fragment) (s : String) :
    fragment.append (ofText s) = fragment.pushText s := by
  unfold ofText pushText
  by_cases empty : s = ""
  · simp [empty, append]
  · simp [empty, append, pushNonempty, push, pushText]

/-- Text is rendered as it is. -/
theorem render_ofText (source s : String) (request : Request) (errors : Dict String) :
    View.render ⟨source, ofText s⟩ request errors = s := by
  unfold ofText pushText View.render
  by_cases empty : s = ""
  · simp [empty, View.renderFrom]
  · simp [empty, pushNonempty, View.renderFrom, View.renderSegment]

/-- Text goes behind a dynamic segment. -/
theorem pushNonempty_append (s : String) (before : Fragment) {segment : Segment}
    (notText : ∀ t, segment ≠ .text t) (after : Fragment) :
    pushNonempty s (before ++ segment :: after) = before ++ segment :: pushNonempty s after := by
  induction before with
  | nil =>
    rw [List.nil_append, List.nil_append, pushNonempty.eq_3]
    intro last same
    exact (notText last same).elim
  | cons first rest ih =>
    rw [List.cons_append, List.cons_append, pushNonempty.eq_3, ih]
    intro _ _ contrary
    simp at contrary

/-- Text that is added is the end of the last segment. -/
theorem exists_pushNonempty_eq (s : String) (fragment : Fragment) :
    ∃ before t, pushNonempty s fragment = before ++ [.text (t ++ s)] := by
  fun_induction pushNonempty s fragment with
  | case1 => exact ⟨[], "", by simp⟩
  | case2 last => exact ⟨[], last, rfl⟩
  | case3 segment rest notText ih =>
    obtain ⟨before, t, same⟩ := ih
    exact ⟨segment :: before, t, by rw [same, List.cons_append]⟩

theorem plainText_append (before after : Fragment) :
    (before ++ after).plainText = before.plainText ++ after.plainText := by
  induction before with
  | nil => simp [plainText]
  | cons segment rest ih =>
    cases segment with
    | text s => rw [List.cons_append, plainText, plainText, ih, String.append_assoc]
    | _ => exact ih

/-! ### Adjacent texts -/

/-- No two texts stand side by side. -/
def Separated (fragment : Fragment) : Prop :=
  fragment.IsChain fun segment next => ∀ s t, segment = .text s → next ≠ .text t

private theorem separated_concat {fragment : Fragment} (separated : fragment.Separated)
    {segment : Segment} (notText : ∀ t, segment ≠ .text t) :
    Separated (fragment ++ [segment]) := by
  refine List.isChain_append.mpr ⟨separated, List.isChain_singleton _, ?_⟩
  intro last _ next isNext s t _
  obtain rfl : segment = next := by simpa using isNext
  exact notText t

/-- A segment at the front is a text afterwards only if it was one before. -/
theorem exists_head_pushNonempty (s : String) (segment : Segment) (rest : Fragment) :
    ∃ segment' rest', pushNonempty s (segment :: rest) = segment' :: rest' ∧
      ∀ t, segment' = .text t → ∃ t', segment = .text t' := by
  cases segment with
  | text t => cases rest <;> exact ⟨_, _, rfl, fun _ _ => ⟨t, rfl⟩⟩
  | _ => exact ⟨_, _, rfl, nofun⟩

private theorem separated_pushNonempty (s : String) {fragment : Fragment}
    (separated : fragment.Separated) : Separated (pushNonempty s fragment) := by
  fun_induction pushNonempty s fragment with
  | case1 => exact List.isChain_singleton _
  | case2 last => exact List.isChain_singleton _
  | case3 segment rest notText ih =>
    cases rest with
    | nil =>
      refine List.isChain_pair.mpr ?_
      intro first _ same
      exact (notText first same rfl).elim
    | cons next more =>
      obtain ⟨apart, separated⟩ := List.isChain_cons_cons.mp separated
      obtain ⟨next', more', pushed, same⟩ := exists_head_pushNonempty s next more
      have rest := ih separated
      rw [pushed] at rest ⊢
      refine List.isChain_cons_cons.mpr ⟨?_, rest⟩
      intro first t isText contrary
      obtain ⟨t', here⟩ := same t contrary
      exact apart first t' isText here

theorem separated_pushText (s : String) {fragment : Fragment} (separated : fragment.Separated) :
    (fragment.pushText s).Separated := by
  unfold pushText
  split
  · exact separated
  · exact separated_pushNonempty s separated

/-- Adding to a fragment keeps its texts apart. -/
theorem separated_append {fragment : Fragment} (separated : fragment.Separated)
    (other : Fragment) : (fragment.append other).Separated := by
  unfold append
  induction other generalizing fragment with
  | nil => exact separated
  | cons segment rest ih =>
    refine ih ?_
    cases segment with
    | text s => exact separated_pushText s separated
    | _ => exact separated_concat separated nofun

/-- Where there is nothing but text there is one text at most. -/
theorem eq_of_separated_of_text {fragment : Fragment} (separated : fragment.Separated)
    (static : ∀ segment ∈ fragment, ∃ s, segment = .text s) :
    fragment = [] ∨ ∃ s, fragment = [.text s] := by
  cases fragment with
  | nil => exact .inl rfl
  | cons first rest =>
    obtain ⟨s, rfl⟩ := static first (by simp)
    cases rest with
    | nil => exact .inr ⟨s, rfl⟩
    | cons next more =>
      obtain ⟨t, rfl⟩ := static next (by simp)
      exact ((List.isChain_cons_cons.mp separated).1 s t rfl rfl).elim

end Fragment

/-! ### Dynamic segments -/

mutual
/-- The segments that are no text, in a segment and what is in it. -/
def Segment.dynamics : Segment → List Segment
  | .text _ => []
  | .ifErrors body => dynamicsIn body
  | segment => [segment]

def Segment.dynamicsIn : List Segment → List Segment
  | [] => []
  | segment :: rest => segment.dynamics ++ dynamicsIn rest
end

namespace Fragment

open Segment (dynamicsIn)

@[simp]
theorem dynamicsIn_concat (fragment : Fragment) (segment : Segment) :
    dynamicsIn (fragment ++ [segment]) = dynamicsIn fragment ++ segment.dynamics := by
  induction fragment with
  | nil => simp [dynamicsIn]
  | cons first rest ih => simp [dynamicsIn, ih]

private theorem dynamicsIn_pushNonempty (s : String) (fragment : Fragment) :
    dynamicsIn (pushNonempty s fragment) = dynamicsIn fragment := by
  fun_induction pushNonempty s fragment with
  | case1 => rfl
  | case2 last => rfl
  | case3 segment rest notText ih => simp [dynamicsIn, ih]

@[simp]
theorem dynamicsIn_pushText (fragment : Fragment) (s : String) :
    dynamicsIn (fragment.pushText s) = dynamicsIn fragment := by
  unfold pushText
  split
  · rfl
  · exact dynamicsIn_pushNonempty s fragment

@[simp]
theorem dynamicsIn_ofText (s : String) : dynamicsIn (ofText s) = [] :=
  dynamicsIn_pushText [] s

@[simp]
theorem dynamicsIn_push (fragment : Fragment) (segment : Segment) :
    dynamicsIn (fragment.push segment) = dynamicsIn fragment ++ segment.dynamics := by
  cases segment with
  | text s => simp [push, Segment.dynamics]
  | _ => exact dynamicsIn_concat fragment _

@[simp]
theorem dynamicsIn_foldl_push (fragment other : Fragment) :
    dynamicsIn (other.foldl push fragment) = dynamicsIn fragment ++ dynamicsIn other := by
  induction other generalizing fragment with
  | nil => simp [dynamicsIn]
  | cons segment rest ih => simp [dynamicsIn, ih]

@[simp]
theorem dynamicsIn_append (fragment other : Fragment) :
    dynamicsIn (fragment.append other) = dynamicsIn fragment ++ dynamicsIn other :=
  dynamicsIn_foldl_push fragment other

end Fragment

end Stencil
