import Stencil.Proofs.Fragment.Joining
import Stencil.Proofs.Placeholder
import Stencil.Proofs.Text.Search

/-!
# Cutting a text at its placeholders

`Stands` says what a placeholder looks like and `Cuts` how a text is cut at them. Expanding a
text replaces the placeholders of its cut and leaves everything between them as it is.
-/
namespace Stencil

variable {constants : Dict String} {final : Bool} {text rest : List Char} {written : Written}

namespace Placeholder

/-- What a placeholder looks like, and what it stands for. Double braces are kept in attributes,
and assignments are only looked for in the final pass. -/
inductive Stands (constants : Dict String) : Bool → Written → Prop where
  | kept {inner : List Char} : inner ≠ [] → '}' ∉ inner →
      Stands constants false ⟨'{' :: '{' :: inner ++ ['}', '}'], .kept⟩
  | attributeDoubled {name : List Char} : '}' ∉ name →
      Stands constants true ⟨'{' :: '{' :: '#' :: name ++ ['}', '}'], .staticAttribute name⟩
  | emitted {inner : List Char} : inner ≠ [] → '}' ∉ inner → inner.head? ≠ some '#' →
      Stands constants true ⟨'{' :: '{' :: inner ++ ['}', '}'], .emitted inner⟩
  | assigned {inner : List Char} : '\n' ∉ inner → ¬ ['%', '}'] <:+: inner →
      Stands constants true ⟨'{' :: '%' :: inner ++ ['%', '}'], .assigned (Text.trim inner)⟩
  | attributeSingle {final : Bool} {name : List Char} : '{' ∉ name → '}' ∉ name →
      Stands constants final ⟨'{' :: '#' :: name ++ ['}'], .staticAttribute name⟩
  | computed {final : Bool} {inner : List Char} : '{' ∉ inner → '}' ∉ inner →
      Stands constants final ⟨'{' :: '$' :: inner ++ ['}'], .computed ('$' :: inner)⟩
  | constant {final : Bool} {name : List Char} {value : String} : isConstantName name = true →
      constants.get? (String.ofList name) = some value →
      Stands constants final ⟨'{' :: name ++ ['}'], .constant value⟩

/-! ### What a text starts with -/

private theorem before?_assignment {inner : List Char} :
    before? ['%', '}'] text = some (inner, rest) ↔
      text = inner ++ '%' :: '}' :: rest ∧ ¬ ['%', '}'] <:+: inner := by
  rw [before?, Text.splitAtFirst_eq_some_iff]
  refine and_congr_right fun _ => ?_
  constructor
  · rintro first ⟨left, right, rfl⟩
    have none := first left ('%' :: '}' :: right) (by simp) (List.cons_ne_nil _ _)
    simp [Text.afterStart?] at none
  · rintro absent left start rfl present
    -- A mark cannot begin in the text and end with the percent sign of the mark behind it.
    refine Option.eq_none_iff_forall_ne_some.mpr ?_
    intro behind begins
    have whole := Text.afterStart?_eq_some.mp begins
    cases start with
    | nil => exact present rfl
    | cons c start =>
      cases start with
      | nil => simp at whole
      | cons d more =>
        simp only [List.cons_append, List.nil_append, List.cons.injEq] at whole
        obtain ⟨rfl, rfl, -⟩ := whole
        exact absent ⟨left, more, by simp⟩

private theorem doubled?_eq_some_iff :
    doubled? final text = some (written, rest) ↔
      ∃ inner, text = inner ++ '}' :: '}' :: rest ∧ inner ≠ [] ∧ '}' ∉ inner ∧
        written = ⟨'{' :: '{' :: inner ++ ['}', '}'],
          if !final then .kept
          else if inner.head? = some '#' then .staticAttribute inner.tail
          else .emitted inner⟩ := by
  unfold doubled?
  constructor
  · intro found
    split at found
    · next c inner behind read =>
      obtain ⟨cut, closes⟩ := Text.splitAtFirst_char.mp read
      simp only [Option.some.injEq, Prod.mk.injEq] at found
      obtain ⟨rfl, rfl⟩ := found
      exact ⟨c :: inner, cut, List.cons_ne_nil c inner, closes, by simp⟩
    · cases found
  · rintro ⟨inner, cut, present, closes, rfl⟩
    obtain ⟨c, more, rfl⟩ := List.exists_cons_of_ne_nil present
    have read : before? ['}'] text = some (c :: more, '}' :: rest) :=
      Text.splitAtFirst_char.mpr ⟨cut, closes⟩
    rw [read]
    simp

private theorem assignment?_eq_some_iff :
    assignment? text = some (written, rest) ↔
      ∃ inner, text = inner ++ '%' :: '}' :: rest ∧ '\n' ∉ inner ∧ ¬ ['%', '}'] <:+: inner ∧
        written = ⟨'{' :: '%' :: inner ++ ['%', '}'], .assigned (Text.trim inner)⟩ := by
  unfold assignment?
  constructor
  · intro found
    split at found
    · next inner behind read =>
      obtain ⟨cut, closes⟩ := before?_assignment.mp read
      split at found
      · cases found
      · next sameLine =>
        simp only [Option.some.injEq, Prod.mk.injEq] at found
        obtain ⟨rfl, rfl⟩ := found
        exact ⟨inner, cut, by simpa using sameLine, closes, rfl⟩
    · cases found
  · rintro ⟨inner, cut, sameLine, closes, rfl⟩
    rw [before?_assignment.mpr ⟨cut, closes⟩]
    simp [sameLine]

private theorem single?_eq_some_iff :
    single? constants text = some (written, rest) ↔
      ∃ inner placeholder, text = inner ++ '}' :: rest ∧ inner ≠ [] ∧ '{' ∉ inner ∧ '}' ∉ inner ∧
        ofInner? constants inner = some placeholder ∧
        written = ⟨'{' :: inner ++ ['}'], placeholder⟩ := by
  unfold single?
  constructor
  · intro found
    split at found
    · -- The placeholder goes up to the first closing brace, and has no opening one inside.
      next c inner behind read =>
      obtain ⟨cut, closes⟩ := Text.splitAtFirst_char.mp read
      split at found
      · cases found
      · next plain =>
        simp only [Option.map_eq_some_iff, Prod.mk.injEq] at found
        obtain ⟨placeholder, known, rfl, rfl⟩ := found
        exact ⟨c :: inner, placeholder, cut, List.cons_ne_nil c inner, by simpa using plain, closes,
          known, rfl⟩
    · cases found
  · rintro ⟨inner, placeholder, cut, present, plain, closes, known, rfl⟩
    obtain ⟨c, more, rfl⟩ := List.exists_cons_of_ne_nil present
    have read : before? ['}'] text = some (c :: more, rest) :=
      Text.splitAtFirst_char.mpr ⟨cut, closes⟩
    rw [read]
    simp [known, plain]

private theorem ofInner?_eq_some_iff {inner : List Char} {placeholder : Placeholder} :
    ofInner? constants inner = some placeholder ↔
      (∃ name, inner = '#' :: name ∧ placeholder = .staticAttribute name) ∨
      (∃ source, inner = '$' :: source ∧ placeholder = .computed inner) ∨
      (isConstantName inner = true ∧ ∃ value,
        constants.get? (String.ofList inner) = some value ∧ placeholder = .constant value) := by
  have noName : ∀ name, isConstantName ('#' :: name) = false := fun name => rfl
  have noSource : ∀ source, isConstantName ('$' :: source) = false := fun source => rfl
  unfold ofInner?
  split
  · next name => simp [noName, eq_comm]
  · next source => simp [noSource, eq_comm]
  · next noAttribute noVariable =>
    have first : ∀ name, inner ≠ '#' :: name := fun name same => noAttribute name same
    have second : ∀ source, inner ≠ '$' :: source := fun source same => noVariable source same
    split
    · next isName => simp [first, second, isName, eq_comm]
    · next notName => simp [first, second, notName]

/-- A name in braces does not look like any other placeholder. -/
theorem ne_of_isConstantName {name : List Char} (isName : isConstantName name = true) :
    name ≠ [] ∧ ∀ c ∈ name, c ≠ '{' ∧ c ≠ '}' ∧ c ≠ '%' := by
  have word : ∀ c : Char, Expr.isNameStart c = true ∨ Expr.isNameChar c = true →
      c ≠ '{' ∧ c ≠ '}' ∧ c ≠ '%' := by
    intro c letter
    refine ⟨?_, ?_, ?_⟩ <;> rintro rfl <;> exact absurd letter (by decide)
  cases name with
  | nil => cases isName
  | cons first more =>
    rw [isConstantName, Bool.and_eq_true, List.all_eq_true] at isName
    refine ⟨List.cons_ne_nil first more, List.forall_mem_cons.mpr ⟨word first (.inl isName.1), ?_⟩⟩
    exact fun c within => word c (.inr (isName.2 c within))

private theorem start?_single {c : Char} (noBrace : c ≠ '{') (noPercent : c ≠ '%') :
    start? constants final ('{' :: c :: text) = single? constants (c :: text) := by
  rw [start?]
  · exact Option.none_or
  · intro rest same
    exact noBrace (List.cons.inj same).1
  · intro rest same
    exact noPercent (List.cons.inj same).1

/-- A text starts with a placeholder where one of the forms stands at its front. No two forms
look alike, so that it does not matter which of them is tried first. -/
theorem start?_eq_some_iff :
    start? constants final text = some (written, rest) ↔
      Stands constants final written ∧ text = written.text ++ rest := by
  constructor
  · -- From left to right each branch of the search is one of the forms.
    intro found
    unfold start? at found
    split at found
    · next text =>
      rcases Option.or_eq_some_iff.mp found with double | ⟨-, single⟩
      · split at double
        · obtain ⟨inner, rfl, present, closes, rfl⟩ := doubled?_eq_some_iff.mp double
          refine ⟨?_, by simp⟩
          cases final with
          | false => exact .kept present closes
          | true =>
            by_cases isName : inner.head? = some '#'
            · obtain ⟨name, rfl⟩ := List.head?_eq_some_iff.mp isName
              exact .attributeDoubled fun member => closes (List.mem_cons_of_mem _ member)
            · have emitted : Stands constants true ⟨_, .emitted inner⟩ :=
                .emitted present closes isName
              simpa [isName] using emitted
        · split at double
          · next isFinal =>
            obtain ⟨inner, rfl, sameLine, closes, rfl⟩ := assignment?_eq_some_iff.mp double
            rw [isFinal]
            exact ⟨.assigned sameLine closes, by simp⟩
          · cases double
        · cases double
      · obtain ⟨inner, placeholder, rfl, present, plain, closes, known, rfl⟩ :=
          single?_eq_some_iff.mp single
        refine ⟨?_, by simp⟩
        rcases ofInner?_eq_some_iff.mp known with ⟨name, rfl, rfl⟩ | ⟨source, rfl, rfl⟩ |
          ⟨isName, value, set, rfl⟩
        · rw [List.mem_cons, not_or] at plain closes
          exact .attributeSingle plain.2 closes.2
        · rw [List.mem_cons, not_or] at plain closes
          exact .computed plain.2 closes.2
        · exact .constant isName set
    · cases found
  · -- From right to left no branch before the one that finds the form finds anything.
    rintro ⟨stands, rfl⟩
    cases stands with
    | @kept inner present closes =>
      have double : doubled? false (inner ++ '}' :: '}' :: rest) = some (_, rest) :=
        doubled?_eq_some_iff.mpr ⟨inner, rfl, present, closes, rfl⟩
      simp [start?, double]
    | @attributeDoubled name closes =>
      have double : doubled? true ('#' :: name ++ '}' :: '}' :: rest) = some (_, rest) :=
        doubled?_eq_some_iff.mpr ⟨'#' :: name, rfl, by simp, by simpa using closes, rfl⟩
      rw [List.cons_append] at double
      simp [start?, double]
    | @emitted inner present closes noAttribute =>
      have double : doubled? true (inner ++ '}' :: '}' :: rest) = some (_, rest) :=
        doubled?_eq_some_iff.mpr ⟨inner, rfl, present, closes, rfl⟩
      simp [start?, double, noAttribute]
    | @assigned inner sameLine closes =>
      have double : assignment? (inner ++ '%' :: '}' :: rest) = some (_, rest) :=
        assignment?_eq_some_iff.mpr ⟨inner, rfl, sameLine, closes, rfl⟩
      simp [start?, double]
    | @attributeSingle _ name plain closes =>
      have single : single? constants ('#' :: name ++ '}' :: rest) = some (_, rest) :=
        single?_eq_some_iff.mpr ⟨'#' :: name, _, rfl, by simp, by simpa using plain,
          by simpa using closes, rfl, rfl⟩
      simpa [start?_single] using single
    | @computed _ inner plain closes =>
      have single : single? constants ('$' :: inner ++ '}' :: rest) = some (_, rest) :=
        single?_eq_some_iff.mpr ⟨'$' :: inner, _, rfl, by simp, by simpa using plain,
          by simpa using closes, rfl, rfl⟩
      simpa [start?_single] using single
    | @constant _ name value isName set =>
      obtain ⟨present, apart⟩ := ne_of_isConstantName isName
      have single : single? constants (name ++ '}' :: rest) = some (_, rest) :=
        single?_eq_some_iff.mpr ⟨name, _, rfl, present, fun member => (apart _ member).1 rfl,
          fun member => (apart _ member).2.1 rfl,
          ofInner?_eq_some_iff.mpr (.inr (.inr ⟨isName, value, set, rfl⟩)), rfl⟩
      obtain ⟨c, more, rfl⟩ := List.exists_cons_of_ne_nil present
      obtain ⟨noBrace, -, noPercent⟩ := apart c List.mem_cons_self
      simpa [start?_single noBrace noPercent] using single

private theorem start?_eq_none_iff :
    start? constants final text = none ↔
      ∀ written, Stands constants final written → ¬ written.text <+: text := by
  rw [Option.eq_none_iff_forall_ne_some]
  constructor
  · rintro none written stands ⟨rest, whole⟩
    exact none (written, rest) (start?_eq_some_iff.mpr ⟨stands, whole.symm⟩)
  · rintro absent ⟨written, rest⟩ found
    obtain ⟨stands, whole⟩ := start?_eq_some_iff.mp found
    exact absent written stands ⟨rest, whole.symm⟩

end Placeholder

/-! ### Cuts -/

open Placeholder (Stands start?)

/-- No placeholder starts in a text that has another one behind it. -/
def PlainBefore (constants : Dict String) (final : Bool) (plain rest : List Char) : Prop :=
  ∀ before start, plain = before ++ start → start ≠ [] →
    ∀ written, Stands constants final written → ¬ written.text <+: start ++ rest

/-- A text as plain pieces with placeholders in between. -/
inductive Cuts (constants : Dict String) (final : Bool) : List Char → List Piece → Prop where
  | last {plain : List Char} : PlainBefore constants final plain [] →
      Cuts constants final plain [.plain plain]
  | next {plain rest : List Char} {written : Written} {pieces : List Piece} :
      PlainBefore constants final plain (written.text ++ rest) → Stands constants final written →
      Cuts constants final rest pieces →
      Cuts constants final (plain ++ (written.text ++ rest))
        (.plain plain :: .placeholder written :: pieces)

/-- A piece as it stands in the text. -/
def Piece.source : Piece → List Char
  | .plain text => text
  | .placeholder written => written.text

private theorem plainBefore_nil (rest : List Char) : PlainBefore constants final [] rest := by
  intro before start cut present
  exact absurd (List.append_eq_nil_iff.mp cut.symm).2 present

private theorem plainBefore_cons {c : Char} {plain : List Char} :
    PlainBefore constants final (c :: plain) rest ↔
      start? constants final (c :: (plain ++ rest)) = none ∧
        PlainBefore constants final plain rest := by
  rw [Placeholder.start?_eq_none_iff]
  constructor
  · intro absent
    refine ⟨absent [] (c :: plain) rfl (List.cons_ne_nil c plain), ?_⟩
    intro before start cut
    exact absent (c :: before) start (by rw [cut]; rfl)
  · rintro ⟨here, later⟩ before start cut present
    cases before with
    | nil =>
      rw [List.nil_append] at cut
      rw [← cut]
      exact here
    | cons d before => exact later before start (List.cons.inj cut).2 present

private theorem plainBefore_concat {c : Char} {plain : List Char} :
    PlainBefore constants final (plain ++ [c]) rest ↔
      start? constants final (c :: rest) = none ∧
        PlainBefore constants final plain (c :: rest) := by
  induction plain with
  | nil =>
    rw [List.nil_append, plainBefore_cons]
    exact and_congr_right fun _ => ⟨fun _ => plainBefore_nil _, fun _ => plainBefore_nil _⟩
  | cons d plain ih =>
    rw [List.cons_append, plainBefore_cons, plainBefore_cons, ih]
    simp only [List.append_assoc, List.singleton_append]
    exact and_left_comm

private theorem plainBefore_iff {plain : List Char} :
    PlainBefore constants final plain rest ↔
      ∀ start ∈ plain.tails, start = [] ∨ (start? constants final (start ++ rest)).isNone := by
  induction plain with
  | nil => simpa using plainBefore_nil rest
  | cons c plain ih => simp [plainBefore_cons, ih]

private theorem piecesFrom_of_start (before : List Char)
    (found : start? constants final text = some (written, rest)) :
    piecesFrom constants final before text
      = .plain before.reverse :: .placeholder written :: pieces constants final rest := by
  cases text with
  | nil => cases found
  | cons c text =>
    rw [piecesFrom]
    split
    · next found' =>
      cases found.symm.trans found'
      rfl
    · next none => cases found.symm.trans none

private theorem piecesFrom_of_plainBefore {plain : List Char}
    (absent : PlainBefore constants final plain rest) (before : List Char) :
    piecesFrom constants final before (plain ++ rest)
      = piecesFrom constants final (plain.reverse ++ before) rest := by
  -- Characters at which nothing starts are put onto those before them.
  induction plain generalizing before with
  | nil => rfl
  | cons c plain ih =>
    obtain ⟨none, later⟩ := plainBefore_cons.mp absent
    rw [List.cons_append, piecesFrom_of_none before none, ih later, List.reverse_cons,
      List.append_assoc]
    rfl

private theorem cuts_piecesFrom (before : List Char)
    (absent : PlainBefore constants final before.reverse text) :
    Cuts constants final (before.reverse ++ text) (piecesFrom constants final before text) := by
  -- That nothing starts in the text passed over carries on from one character to the next.
  fun_induction piecesFrom constants final before text with
  | case1 before =>
    rw [List.append_nil]
    exact .last absent
  | case2 before c rest written after found shorter ih =>
    obtain ⟨stands, whole⟩ := Placeholder.start?_eq_some_iff.mp found
    rw [whole] at absent ⊢
    exact .next absent stands (ih (plainBefore_nil after))
  | case3 before c rest none ih =>
    have absent' : PlainBefore constants final (c :: before).reverse rest := by
      rw [List.reverse_cons, plainBefore_concat]
      exact ⟨none, absent⟩
    simpa using ih absent'

/-- A text has one cut, the one that is found from the left. -/
theorem cuts_iff {found : List Piece} :
    Cuts constants final text found ↔ found = pieces constants final text := by
  constructor
  · intro cuts
    -- The search passes over a plain piece and stops at the placeholder behind it.
    induction cuts with
    | @last plain absent =>
      have read := piecesFrom_of_plainBefore absent []
      simp only [List.append_nil] at read
      rw [pieces, read, piecesFrom, List.reverse_reverse]
    | @next plain rest written found absent stands _ ih =>
      have start : start? constants final (written.text ++ rest) = some (written, rest) :=
        Placeholder.start?_eq_some_iff.mpr ⟨stands, rfl⟩
      rw [pieces, piecesFrom_of_plainBefore absent, List.append_nil,
        piecesFrom_of_start _ start, List.reverse_reverse, ih]
  · rintro rfl
    exact cuts_piecesFrom [] (plainBefore_nil text)

/-- Nothing is lost and nothing is there twice. -/
theorem Cuts.text_eq {found : List Piece} (cuts : Cuts constants final text found) :
    found.flatMap Piece.source = text := by
  induction cuts with
  | last => simp [Piece.source]
  | next _ _ _ ih => simp [Piece.source, ih]

/-! ### Replacing -/

namespace Bindings

variable {bindings : Bindings}

/-- The segment a piece of a text becomes. -/
inductive Replaces (bindings : Bindings) : Piece → Segment → Prop where
  | plain (text : List Char) : Replaces bindings (.plain text) (.text (String.ofList text))
  | kept (text : List Char) :
      Replaces bindings (.placeholder ⟨text, .kept⟩) (.text (String.ofList text))
  | attributeText (text name : List Char) :
      Replaces bindings (.placeholder ⟨text, .staticAttribute name⟩)
        (.text (bindings.statics.getD (String.ofList (Text.trim name)) ""))
  | constant (text : List Char) (value : String) :
      Replaces bindings (.placeholder ⟨text, .constant value⟩) (.text value)
  | computed {text source : List Char} {expr : Expr} : Expr.parse source = .ok expr →
      Replaces bindings (.placeholder ⟨text, .computed source⟩)
        (.text (expr.eval (Scope.ofDict bindings.variableValues)).text)
  | emitted {text source : List Char} {expr : Expr} : Expr.parse source = .ok expr →
      Replaces bindings (.placeholder ⟨text, .emitted source⟩) (.echo expr)
  | assigned {text source : List Char} {name : String} {expr : Expr} :
      Expr.parseAssignment source = .ok (name, expr) →
      Replaces bindings (.placeholder ⟨text, .assigned source⟩) (.assign name expr)

private theorem replacement_eq_ok_iff {segment : Segment} :
    bindings.replacement written = .ok segment ↔ bindings.Replaces (.placeholder written) segment := by
  obtain ⟨text, placeholder⟩ := written
  constructor
  · intro replaced
    cases placeholder with
    | kept => cases replaced; exact .kept text
    | staticAttribute name => cases replaced; exact .attributeText text name
    | constant value => cases replaced; exact .constant text value
    | computed source =>
      obtain ⟨expr, parsed, rfl⟩ := map_eq_ok.mp replaced
      exact .computed parsed
    | emitted source =>
      obtain ⟨expr, parsed, rfl⟩ := map_eq_ok.mp replaced
      exact .emitted parsed
    | assigned source =>
      obtain ⟨⟨name, expr⟩, parsed, rfl⟩ := map_eq_ok.mp replaced
      exact .assigned parsed
  · intro replaces
    cases replaces with
    | kept | attributeText | constant => rfl
    | computed parsed => exact map_eq_ok.mpr ⟨_, parsed, rfl⟩
    | emitted parsed => exact map_eq_ok.mpr ⟨_, parsed, rfl⟩
    | assigned parsed => exact map_eq_ok.mpr ⟨_, parsed, rfl⟩

private theorem expandPieces_eq_ok_iff {done expanded : Fragment} {found : List Piece} :
    bindings.expandPieces done found = .ok expanded ↔
      ∃ segments, List.Forall₂ bindings.Replaces found segments ∧
        expanded = done.append segments := by
  induction found generalizing done with
  | nil =>
    rw [expandPieces]
    constructor
    · intro same
      cases same
      exact ⟨[], .nil, rfl⟩
    · rintro ⟨_, ⟨⟩, rfl⟩
      rfl
  | cons piece found ih =>
    cases piece with
    | plain text =>
      rw [expandPieces, ih]
      constructor
      · rintro ⟨segments, replaced, rfl⟩
        exact ⟨_, .cons (.plain text) replaced, rfl⟩
      · rintro ⟨_, replaced, rfl⟩
        cases replaced with
        | cons here later =>
          cases here
          exact ⟨_, later, rfl⟩
    | placeholder written =>
      rw [expandPieces]
      cases here : bindings.replacement written with
      | ok segment =>
        have replaces := replacement_eq_ok_iff.mp here
        dsimp only
        rw [ih]
        -- A written placeholder has one replacement, so the two readings agree on it.
        constructor
        · rintro ⟨segments, replaced, rfl⟩
          exact ⟨_, .cons replaces replaced, rfl⟩
        · rintro ⟨_, replaced, rfl⟩
          cases replaced with
          | cons other later =>
            cases here.symm.trans (replacement_eq_ok_iff.mpr other)
            exact ⟨_, later, rfl⟩
      | error error =>
        constructor
        · intro failed
          cases failed
        · rintro ⟨_, replaced, rfl⟩
          cases replaced with
          | cons other later => cases here.symm.trans (replacement_eq_ok_iff.mpr other)

private theorem expandText_eq_ok_iff {s : String} {found : List Piece} {expanded : Fragment}
    (cuts : Cuts bindings.constants final s.toList found) :
    bindings.expandText final s = .ok expanded ↔
      ∃ segments, List.Forall₂ bindings.Replaces found segments ∧
        expanded = Fragment.append [] segments := by
  rw [expandText, expandPieces_eq_ok_iff, cuts_iff.mp cuts]

/-- In attributes every piece becomes a text. -/
theorem exists_texts {found : List Piece} {segments : List Segment}
    (cuts : Cuts constants false text found)
    (replaced : List.Forall₂ bindings.Replaces found segments) :
    ∃ texts : List String, segments = texts.map .text := by
  -- Pieces and segments are gone through together, along the cut.
  generalize inAttribute : false = final at cuts
  induction cuts generalizing segments with
  | last =>
    cases replaced with
    | cons here later =>
      cases here
      cases later
      exact ⟨[_], rfl⟩
  | next _ stands _ ih =>
    cases replaced with
    | cons here later =>
      cases later with
      | cons inside later =>
        obtain ⟨texts, rfl⟩ := ih later
        cases here
        subst inAttribute
        -- What is emitted or assigned is left for the final pass.
        cases stands with
        | kept | attributeSingle | constant =>
          cases inside
          exact ⟨_ :: _ :: texts, rfl⟩
        | computed =>
          cases inside
          exact ⟨_ :: _ :: texts, rfl⟩

private theorem plainText_texts (texts : List String) :
    Fragment.plainText (texts.map .text) = String.join texts := by
  induction texts with
  | nil => rfl
  | cons text rest ih => rw [List.map_cons, Fragment.plainText, ih, String.join_cons]

private theorem expandAttribute_eq_ok_iff {location : Location} {value expanded : String}
    {found : List Piece} (cuts : Cuts bindings.constants false value.toList found) :
    bindings.expandAttribute location value = .ok expanded ↔
      ∃ texts : List String, List.Forall₂ bindings.Replaces found (texts.map .text) ∧
        expanded = String.join texts := by
  -- In an attribute every piece becomes a text, and the texts are joined.
  have shown (texts : List String) :
      (Fragment.append [] (texts.map .text)).plainText = String.join texts := by
    rw [Fragment.plainText_join, plainText_texts]
    exact String.empty_append
  rw [expandAttribute]
  constructor
  · intro expands
    cases ran : bindings.expandText false value with
    | ok fragment =>
      rw [ran] at expands
      cases expands
      obtain ⟨segments, replaced, rfl⟩ := (expandText_eq_ok_iff cuts).mp ran
      obtain ⟨texts, rfl⟩ := exists_texts cuts replaced
      exact ⟨texts, replaced, shown texts⟩
    | error fault =>
      rw [ran] at expands
      cases expands
  · rintro ⟨texts, replaced, rfl⟩
    rw [(expandText_eq_ok_iff cuts).mpr ⟨_, replaced, rfl⟩]
    exact congrArg Except.ok (shown texts)

/-! ### Text without placeholders -/

private theorem expandText_of_plainBefore {s : String}
    (plain : PlainBefore bindings.constants final s.toList []) :
    bindings.expandText final s = .ok (.ofText s) := by
  refine (expandText_eq_ok_iff (.last plain)).mpr ⟨[.text s], ?_, rfl⟩
  have replaced : bindings.Replaces (.plain s.toList) (.text (String.ofList s.toList)) :=
    .plain s.toList
  rw [String.ofList_toList] at replaced
  exact .cons replaced .nil

private theorem expandAttribute_of_plainBefore {s : String} (location : Location)
    (plain : PlainBefore bindings.constants false s.toList []) :
    bindings.expandAttribute location s = .ok s := by
  have same : Fragment.plainText (.ofText s) = s :=
    (Fragment.seamless_plainText.push [] (.text s)).trans String.append_empty
  rw [expandAttribute, expandText_of_plainBefore plain]
  exact congrArg Except.ok same

/-! ### Expansion -/

/-- Expanding a text changes its placeholders and nothing else. In both passes the text is cut at
them in the one possible way, the plain pieces stay as they are and in their order, and every
placeholder becomes the segment, in attributes the text, that it stands for. That is not looked at
again. Text in which no placeholder starts stays as it is. -/
theorem expandText_cuts (bindings : Bindings) (s : String) :
    (∀ final, ∃ found,
      (∀ other, Cuts bindings.constants final s.toList other ↔ other = found) ∧
      found.flatMap Piece.source = s.toList ∧
      (∀ expanded, bindings.expandText final s = .ok expanded ↔
        ∃ segments, List.Forall₂ bindings.Replaces found segments ∧
          expanded = Fragment.append [] segments) ∧
      (final = false → ∀ location expanded, bindings.expandAttribute location s = .ok expanded ↔
        ∃ texts : List String, List.Forall₂ bindings.Replaces found (texts.map .text) ∧
          expanded = String.join texts)) ∧
    (∀ final, PlainBefore bindings.constants final s.toList [] →
      bindings.expandText final s = .ok (.ofText s)) ∧
    (PlainBefore bindings.constants false s.toList [] →
      ∀ location, bindings.expandAttribute location s = .ok s) := by
  refine ⟨?_, fun final plain => expandText_of_plainBefore plain,
    fun plain location => expandAttribute_of_plainBefore location plain⟩
  intro final
  have cuts : Cuts bindings.constants final s.toList _ := cuts_iff.mpr rfl
  refine ⟨_, fun other => cuts_iff, cuts.text_eq, fun expanded => expandText_eq_ok_iff cuts, ?_⟩
  rintro rfl location expanded
  exact expandAttribute_eq_ok_iff cuts

/-- Braces that are empty, nested, left open or closed on another line stay. A constant whose text
looks like a placeholder is not replaced in turn. -/
theorem expandText_cuts_braces :
    (∀ final, Bindings.expandText ⟨.empty, .empty, .empty⟩ final
        "\x7b \x7b\x7d \x7b\x7b\x7d\x7d \x7b\x7ba\x7db\x7d \x7b%\n%\x7d \x7d"
      = .ok (.ofText "\x7b \x7b\x7d \x7b\x7b\x7d\x7d \x7b\x7ba\x7db\x7d \x7b%\n%\x7d \x7d")) ∧
    Bindings.expandAttribute ⟨.empty, Dict.empty.insert "A" "\x7b#x\x7d", .empty⟩ ⟨"", 1, 1⟩
        "\x7b\x7b\x7ba\x7d\x7d\x7bA\x7d\x7bB\x7d"
      = .ok "\x7b\x7b\x7ba\x7d\x7d\x7b#x\x7d\x7bB\x7d" := by
  constructor
  · intro final
    refine (expandText_cuts _ _).2.1 final (plainBefore_iff.mpr ?_)
    cases final <;> decide +kernel
  · obtain ⟨found, one, -, -, inAttribute⟩ := (expandText_cuts
      ⟨.empty, Dict.empty.insert "A" "\x7b#x\x7d", .empty⟩
      "\x7b\x7b\x7ba\x7d\x7d\x7bA\x7d\x7bB\x7d").1 false
    have last : PlainBefore (Dict.empty.insert "A" "\x7b#x\x7d") false ['{', 'B', '}'] [] :=
      plainBefore_iff.mpr (by decide +kernel)
    have constant : Stands (Dict.empty.insert "A" "\x7b#x\x7d") false
        ⟨'{' :: ['A'] ++ ['}'], .constant "\x7b#x\x7d"⟩ := .constant rfl (by decide +kernel)
    have kept : Stands (Dict.empty.insert "A" "\x7b#x\x7d") false
        ⟨'{' :: '{' :: ['{', 'a'] ++ ['}', '}'], .kept⟩ := .kept (by decide) (by decide)
    -- The doubled braces stay, the constant is replaced once, and what is unknown is plain.
    have cuts := Cuts.next (plainBefore_nil _) kept (.next (plainBefore_nil _) constant (.last last))
    rw [← (one _).mp cuts] at inAttribute
    refine (inAttribute rfl ⟨"", 1, 1⟩ _).mpr
      ⟨["", "\x7b\x7b\x7ba\x7d\x7d", "", "\x7b#x\x7d", "\x7bB\x7d"], ?_, by decide +kernel⟩
    exact .cons (.plain []) (.cons (.kept _) (.cons (.plain []) (.cons (.constant _ _)
      (.cons (.plain ['{', 'B', '}']) .nil))))

end Bindings

end Stencil
