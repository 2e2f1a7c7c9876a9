import Stencil.Placeholder
import Stencil.Proofs.Fragment
import Stencil.Proofs.Related

/-!
# Placeholders in compiled text

The final pass over a compiled text fails only at a placeholder that does not parse. It
leaves alone a text without braces.
-/
namespace Stencil

namespace Bindings

variable {bindings : Bindings} {file source : String} {error : CompileError}

mutual

private theorem expandSegment_eq_error (done : Fragment) (segment : Segment)
    (failed : bindings.expandSegment file source done segment = .error error) :
    ∃ location written reason, error = .expression location written reason := by
  cases segment with
  | text s =>
    rw [expandSegment] at failed
    split at failed
    · cases failed
    · cases failed
      exact ⟨_, _, _, rfl⟩
  | ifErrors body =>
    rw [expandSegment] at failed
    cases inner : bindings.expandSegments file source [] body with
    | ok fragment =>
      rw [inner] at failed
      cases failed
    | error reason =>
      rw [inner] at failed
      cases failed
      exact expandSegments_eq_error [] body inner
  | _ => cases failed

private theorem expandSegments_eq_error (done : Fragment) (segments : List Segment)
    (failed : bindings.expandSegments file source done segments = .error error) :
    ∃ location written reason, error = .expression location written reason := by
  cases segments with
  | nil => cases failed
  | cons segment rest =>
    rw [expandSegments] at failed
    cases first : bindings.expandSegment file source done segment with
    | ok next =>
      rw [first] at failed
      exact expandSegments_eq_error next rest failed
    | error reason =>
      rw [first] at failed
      cases failed
      exact expandSegment_eq_error done segment first

end

theorem expand_eq_error {body : Fragment}
    (failed : bindings.expand file source body = .error error) :
    ∃ location written reason, error = .expression location written reason :=
  expandSegments_eq_error [] body failed

mutual

private theorem expandSegment_alike (bindings : Bindings) (file source other : String)
    (done : Fragment) (segment : Segment) :
    Related (fun _ _ => True) (· = ·) (bindings.expandSegment file source done segment)
      (bindings.expandSegment file other done segment) := by
  cases segment with
  | text s =>
    rw [expandSegment, expandSegment]
    cases bindings.expandText true s with
    | ok fragment => exact .ok rfl
    | error fault => exact .error trivial
  | ifErrors body =>
    rw [expandSegment, expandSegment]
    refine (expandSegments_alike bindings file source other [] body).bind fun inner _ same => ?_
    subst same
    exact .ok rfl
  | _ => exact .ok rfl

private theorem expandSegments_alike (bindings : Bindings) (file source other : String)
    (done : Fragment) (segments : List Segment) :
    Related (fun _ _ => True) (· = ·) (bindings.expandSegments file source done segments)
      (bindings.expandSegments file other done segments) := by
  cases segments with
  | nil => exact .ok rfl
  | cons segment rest =>
    rw [expandSegments, expandSegments]
    refine (expandSegment_alike bindings file source other done segment).bind fun next _ same => ?_
    subst same
    exact expandSegments_alike bindings file source other next rest

end

/-- The text of the template only tells where a fault is. -/
theorem expand_alike (bindings : Bindings) (file source other : String) (body : Fragment) :
    Related (fun _ _ => True) (· = ·) (bindings.expand file source body)
      (bindings.expand file other body) :=
  expandSegments_alike bindings file source other [] body

end Bindings

section

variable {constants : Dict String} {final : Bool}

theorem piecesFrom_of_none {c : Char} {text : List Char} (before : List Char)
    (none : Placeholder.start? constants final (c :: text) = none) :
    piecesFrom constants final before (c :: text)
      = piecesFrom constants final (c :: before) text := by
  rw [piecesFrom]
  split
  · next found => cases none.symm.trans found
  · rfl

private theorem piecesFrom_plain {text : List Char} (plain : '{' ∉ text) (before : List Char) :
    piecesFrom constants final before text = [.plain (before.reverse ++ text)] := by
  induction text generalizing before with
  | nil => rw [piecesFrom, List.append_nil]
  | cons c rest ih =>
    obtain ⟨here, later⟩ := not_or.mp (mt List.mem_cons.mpr plain)
    -- Placeholders begin with a brace.
    have none : Placeholder.start? constants final (c :: rest) = none := by
      unfold Placeholder.start?
      split
      next same =>
        cases same
        exact absurd rfl here
      next => rfl
    rw [piecesFrom_of_none before none, ih later, List.reverse_cons, List.append_assoc]
    rfl

/-- Text without braces has no placeholders. -/
theorem Bindings.expandText_plain (bindings : Bindings) {s : String} (plain : '{' ∉ s.toList) :
    bindings.expandText final s = .ok (.ofText s) := by
  rw [expandText, pieces, piecesFrom_plain plain, expandPieces, expandPieces, List.reverse_nil,
    List.nil_append, String.ofList_toList]
  rfl

theorem Bindings.expand_plain (bindings : Bindings) (file source : String) {s : String}
    (plain : '{' ∉ s.toList) :
    bindings.expand file source (.ofText s) = .ok (.ofText s) := by
  have expanded : bindings.expandText true s = .ok (.ofText s) := bindings.expandText_plain plain
  by_cases empty : s = ""
  · subst empty
    rfl
  · have alone : Fragment.ofText s = [.text s] := by
      simp [Fragment.ofText, Fragment.pushText, Fragment.pushNonempty, empty]
    have appended : Fragment.append [] (.ofText s) = .ofText s := Fragment.append_ofText [] s
    rw [expand, alone, expandSegments, expandSegment, expanded, alone]
    rw [alone] at appended
    change (Except.ok (Fragment.append [] [.text s]) >>= fun done =>
      bindings.expandSegments file source done []) = _
    rw [appended]
    rfl

end

end Stencil
