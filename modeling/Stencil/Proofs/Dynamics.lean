import Stencil.Proofs.Expr.Literals
import Stencil.Proofs.Forms

/-!
# The dynamic segments of a view

What is no text in a view was either left by a tag or put in place of a placeholder by the
final pass. Expressions come from placeholders only, so all of them were parsed.
-/
namespace Stencil

/-- The expression a segment evaluates. -/
def Segment.expr? : Segment → Option Expr
  | .echo expr | .assign _ expr => some expr
  | _ => none

/-- The values that stand in the expression of a segment. -/
def Segment.literals (segment : Segment) : List Value :=
  segment.expr?.elim [] Expr.literals

/-! ### What tags leave -/

namespace Node

open Segment (dynamicsIn)

variable {segment : Segment}

private theorem mem_dynamicsIn_radioText {head : Head} {index : Nat} {fragment : Fragment}
    {parts : List Bracketed} {tail : List Char}
    (member : segment ∈ dynamicsIn (radioText head index fragment parts tail).1) :
    segment ∈ dynamicsIn fragment ∨ segment.expr? = none := by
  induction parts generalizing index fragment with
  | nil => simpa [radioText] using Or.inl member
  | cons part rest ih =>
    rw [radioText] at member
    rcases ih member with before | own
    · rw [radioButton, Fragment.dynamicsIn_pushText, Fragment.dynamicsIn_push,
        Fragment.dynamicsIn_pushText, Fragment.dynamicsIn_pushText] at before
      rcases List.mem_append.mp before with earlier | button
      · exact .inl earlier
      · obtain rfl := List.mem_singleton.mp button
        exact .inr rfl
    · exact .inr own

private theorem mem_dynamicsIn_radioFrom {head : Head} {index : Nat} {fragment : Fragment}
    {body : List Segment} (member : segment ∈ dynamicsIn (radioFrom head index fragment body)) :
    segment ∈ dynamicsIn fragment ++ dynamicsIn body ∨ segment.expr? = none := by
  induction body generalizing index fragment with
  | nil => exact .inl (by simpa [radioFrom, dynamicsIn] using member)
  | cons first rest ih =>
    cases first with
    | text s =>
      rw [radioFrom] at member
      rcases ih member with before | own
      · rcases List.mem_append.mp before with here | later
        · exact (mem_dynamicsIn_radioText here).imp (List.mem_append_left _) id
        · exact .inl (List.mem_append_right _ later)
      · exact .inr own
    | _ =>
      rw [radioFrom] at member
      · rw [dynamicsIn, ← List.append_assoc, ← Fragment.dynamicsIn_push]
        exact ih member
      · intro s contrary
        cases contrary

private theorem mem_dynamicsIn_errorsFrom {fragment : Fragment} {body : List Segment}
    (member : segment ∈ dynamicsIn (errorsFrom fragment body)) :
    segment ∈ dynamicsIn fragment ++ dynamicsIn body ∨ segment.expr? = none := by
  induction body generalizing fragment with
  | nil => exact .inl (by simpa [errorsFrom, dynamicsIn] using member)
  | cons first rest ih =>
    cases first with
    | text s =>
      rw [errorsFrom] at member
      split at member
      · next before template after found =>
        simp only [Fragment.dynamicsIn_foldl_push, Fragment.dynamicsIn_pushText,
          Fragment.dynamicsIn_push, List.mem_append] at member
        rcases member with (earlier | own) | later
        · exact .inl (List.mem_append_left _ earlier)
        · obtain rfl := List.mem_singleton.mp own
          exact .inr rfl
        · exact .inl (List.mem_append_right _ later)
      · have same := ih member
        rwa [Fragment.dynamicsIn_pushText] at same
    | _ =>
      rw [errorsFrom] at member
      · rw [dynamicsIn, ← List.append_assoc, ← Fragment.dynamicsIn_push]
        exact ih member
      · intro s contrary
        cases contrary

/-- No tag leaves an expression that is not in its body. -/
theorem mem_dynamicsIn_render {messages : Messages} {node : Node}
    (member : segment ∈ dynamicsIn (node.render messages)) :
    segment ∈ dynamicsIn node.body ∨ segment.expr? = none := by
  unfold render at member
  cases kind : node.kind with
  | root | staticIf | staticSet =>
    simp only [kind] at member
    exact .inl member
  | form =>
    simp only [kind, renderForm, Fragment.dynamicsIn_pushText, Fragment.dynamicsIn_append,
      Fragment.dynamicsIn_ofText, List.nil_append] at member
    exact .inl member
  | errors =>
    simp only [kind, renderErrors, dynamicsIn, Segment.dynamics, List.append_nil] at member
    simpa [dynamicsIn] using mem_dynamicsIn_errorsFrom member
  | radio =>
    simp only [kind, renderRadio] at member
    simpa [dynamicsIn] using mem_dynamicsIn_radioFrom member
  | text style =>
    refine .inr ?_
    cases style <;> simp [kind, renderText, Segment.dynamics] at member <;> subst member <;> rfl
  | checkbox =>
    simp [kind, renderCheckbox, Segment.dynamics] at member
    subst member
    exact .inr rfl
  | select =>
    simp [kind, renderSelect, Segment.dynamics] at member
    subst member
    exact .inr rfl
  | file | button => simp [kind, renderFile, renderButton] at member
  | group => simp [kind, dynamicsIn] at member

end Node

/-- Before the final pass there are no expressions. -/
theorem Forest.expr?_of_grow {setting : Setting} {forest : Forest} {site : Site}
    (grown : forest.grow setting {} = .ok site) :
    ∀ segment ∈ Segment.dynamicsIn site.body, segment.expr? = none := by
  -- Text and opening tags add nothing, and a closing tag adds what is in it and its control.
  let plain (site : Site) : Prop :=
    ∀ segment ∈ Segment.dynamicsIn site.body, segment.expr? = none
  change plain site
  refine Forest.grow_invariant ?_ ?_ ?_ grown nofun
  · intro site text before segment member
    refine before segment ?_
    rwa [Site.pushText, Fragment.dynamicsIn_pushText] at member
  · intro site around occurrence tag opened before
    obtain ⟨_, _, _, _, _, _, _, form, _, _, rfl⟩ := Site.openTag_eq_ok opened
    exact before
  · intro site around within occurrence tag _ _ inside before segment member
    have body := inside nofun
    have member : segment ∈ Segment.dynamicsIn (around.body.append
      ((within.closed tag).tag.render setting.config.messages)) := member
    rw [Fragment.dynamicsIn_append] at member
    rcases List.mem_append.mp member with earlier | here
    · exact before segment earlier
    · rcases Node.mem_dynamicsIn_render here with inner | own
      · refine body segment ?_
        obtain ⟨kind, closed, -⟩ := within.closed_tag tag
        rwa [closed] at inner
      · exact own

/-! ### The final pass -/

namespace Bindings

open Segment (dynamicsIn)

variable {bindings : Bindings} {file source : String} {segment : Segment}

/-- A placeholder is replaced by a text, or by an expression that was parsed. -/
theorem dynamics_replacement {written : Written} {replacement : Segment}
    (replaced : bindings.replacement written = .ok replacement)
    (member : segment ∈ replacement.dynamics) : ∃ expr, segment.expr? = some expr ∧ expr.Parsed := by
  -- Of the placeholders only expressions and assignments leave anything dynamic.
  unfold Bindings.replacement at replaced
  split at replaced
  · cases replaced
    cases member
  · cases replaced
    cases member
  · cases replaced
    cases member
  · obtain ⟨expr, -, rfl⟩ := map_eq_ok.mp replaced
    cases member
  · next source _ =>
    obtain ⟨expr, parsed, rfl⟩ := map_eq_ok.mp replaced
    obtain rfl := List.mem_singleton.mp member
    exact ⟨expr, rfl, source, .inl parsed⟩
  · next source _ =>
    obtain ⟨⟨name, expr⟩, parsed, rfl⟩ := map_eq_ok.mp replaced
    obtain rfl := List.mem_singleton.mp member
    exact ⟨expr, rfl, source, .inr ⟨name, parsed⟩⟩

private theorem mem_dynamicsIn_expandPieces {done expanded : Fragment} {pieces : List Piece}
    (ran : bindings.expandPieces done pieces = .ok expanded)
    (member : segment ∈ dynamicsIn expanded) :
    segment ∈ dynamicsIn done ∨ ∃ expr, segment.expr? = some expr ∧ expr.Parsed := by
  induction pieces generalizing done with
  | nil =>
    cases ran
    exact .inl member
  | cons piece rest ih =>
    cases piece with
    | plain text => simpa using ih ran
    | placeholder written =>
      rw [expandPieces] at ran
      split at ran
      · next replacement replaced =>
        rcases ih ran with before | later
        · rw [Fragment.dynamicsIn_push] at before
          exact (List.mem_append.mp before).imp_right (dynamics_replacement replaced)
        · exact .inr later
      · cases ran

mutual

private theorem mem_dynamicsIn_expandSegment {done expanded : Fragment} (first : Segment)
    (ran : bindings.expandSegment file source done first = .ok expanded)
    (member : segment ∈ dynamicsIn expanded) :
    segment ∈ dynamicsIn done ++ first.dynamics ∨
      ∃ expr, segment.expr? = some expr ∧ expr.Parsed := by
  cases first with
  | text s =>
    rw [expandSegment] at ran
    split at ran
    · next fragment replaced =>
      cases ran
      -- What a text expands to holds only expressions that were read from it.
      rw [Fragment.dynamicsIn_append] at member
      rcases List.mem_append.mp member with before | here
      · exact .inl (List.mem_append_left _ before)
      · exact .inr ((mem_dynamicsIn_expandPieces replaced here).resolve_left nofun)
    · cases ran
  | ifErrors body =>
    rw [expandSegment] at ran
    obtain ⟨inner, within, ran⟩ := bind_eq_ok.mp ran
    cases ran
    rw [Fragment.dynamicsIn_push] at member
    rcases List.mem_append.mp member with before | here
    · exact .inl (List.mem_append_left _ before)
    · exact (mem_dynamicsIn_expandSegments body within here).imp_left (List.mem_append_right _)
  | _ =>
    cases ran
    rw [Fragment.dynamicsIn_push] at member
    exact .inl member

private theorem mem_dynamicsIn_expandSegments {done expanded : Fragment} (segments : List Segment)
    (ran : bindings.expandSegments file source done segments = .ok expanded)
    (member : segment ∈ dynamicsIn expanded) :
    segment ∈ dynamicsIn done ++ dynamicsIn segments ∨
      ∃ expr, segment.expr? = some expr ∧ expr.Parsed := by
  cases segments with
  | nil =>
    cases ran
    exact .inl (List.mem_append_left _ member)
  | cons first rest =>
    rw [expandSegments] at ran
    obtain ⟨next, here, later⟩ := bind_eq_ok.mp ran
    rw [dynamicsIn, ← List.append_assoc]
    rcases mem_dynamicsIn_expandSegments rest later member with before | parsed
    · rcases List.mem_append.mp before with earlier | behind
      · exact (mem_dynamicsIn_expandSegment first here earlier).imp_left (List.mem_append_left _)
      · exact .inl (List.mem_append_right _ behind)
    · exact .inr parsed

end

end Bindings

/-- All expressions of a view were parsed. -/
theorem Compiled.GrownFrom.parsed {setting : Setting} {text : String} {compiled : Compiled}
    {site : Site} (grown : compiled.GrownFrom setting text site) {segment : Segment}
    (member : segment ∈ Segment.dynamicsIn compiled.view.body) {expr : Expr}
    (evaluates : segment.expr? = some expr) : expr.Parsed := by
  obtain ⟨⟨forest, -, -, grows⟩, view, -⟩ := grown
  rcases Bindings.mem_dynamicsIn_expandSegments _ view member with before | ⟨other, same, parsed⟩
  · have none := Forest.expr?_of_grow grows segment (by simpa [Segment.dynamicsIn] using before)
    rw [evaluates] at none
    cases none
  · cases evaluates.symm.trans same
    exact parsed

/-- The values in the expressions of a view are constants. -/
theorem Compiled.GrownFrom.isConstant {setting : Setting} {text : String} {compiled : Compiled}
    {site : Site} (grown : compiled.GrownFrom setting text site) {segment : Segment}
    (member : segment ∈ Segment.dynamicsIn compiled.view.body) {value : Value}
    (stands : value ∈ segment.literals) : Expr.IsConstant value := by
  cases evaluates : segment.expr? with
  | none => simp [Segment.literals, evaluates] at stands
  | some expr =>
    rw [Segment.literals, evaluates] at stands
    exact (grown.parsed member evaluates).isConstant stands

end Stencil
