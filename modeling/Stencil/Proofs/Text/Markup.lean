import Mathlib.Data.List.Infix
import Stencil.Proofs.Regex.Ordered
import Stencil.Proofs.Text.Cleansing
import Stencil.Proofs.Text.Search

/-!
# Taking markup out

What is left of a text without its tags and comments (`Unmarked`), which is the text without the
matches of an expression for both (`markup`).
-/
namespace Stencil.Text

/-- Text before the first opening bracket stays. A comment reaches to the first `-->` behind its
start, any other tag to the first `>`, and both to the end if there is none. -/
inductive Unmarked : List Char → List Char → Prop where
  | plain {text : List Char} : '<' ∉ text → Unmarked text text
  | comment {before inner rest left : List Char} : '<' ∉ before →
      ¬ ['-', '-', '>'] <:+: inner ++ ['-', '-'] → Unmarked rest left →
      Unmarked (before ++ '<' :: '!' :: '-' :: '-' :: (inner ++ '-' :: '-' :: '>' :: rest))
        (before ++ left)
  | openComment {before inner : List Char} : '<' ∉ before → ¬ ['-', '-', '>'] <:+: inner →
      Unmarked (before ++ '<' :: '!' :: '-' :: '-' :: inner) before
  | tag {before inner rest left : List Char} : '<' ∉ before →
      ¬ ['!', '-', '-'] <+: inner ++ '>' :: rest → '>' ∉ inner → Unmarked rest left →
      Unmarked (before ++ '<' :: (inner ++ '>' :: rest)) (before ++ left)
  | openTag {before inner : List Char} : '<' ∉ before → ¬ ['!', '-', '-'] <+: inner →
      '>' ∉ inner → Unmarked (before ++ '<' :: inner) before

open Regex.Ordered in
/-- The expression `(?s)<!--.*?(-->|$)|<[^>]*(>|$)`. -/
def markup : Regex.Ordered :=
  .either
    (.seq (literal ['<', '!', '-', '-'])
      (.seq (.many false fun _ => true) (.either (literal ['-', '-', '>']) .atEnd)))
    (.seq (literal ['<']) (.seq (.many true (· ≠ '>')) (.either (literal ['>']) .atEnd)))

/-- What is behind the first occurrence of a text, which is nothing if there is none. -/
def behindFirst (needle text : List Char) : List Char :=
  ((splitAtFirst needle text).map Prod.snd).getD []

variable {c : Char} {needle text before inner rest left : List Char}

/-! ### First occurrences -/

private theorem afterStart?_eq_none_iff : afterStart? needle text = none ↔ ¬ needle <+: text := by
  rw [Option.eq_none_iff_forall_ne_some]
  constructor
  · rintro missing ⟨rest, rfl⟩
    exact missing rest (afterStart?_append needle rest)
  · intro missing rest found
    exact missing ⟨rest, (afterStart?_eq_some.mp found).symm⟩

private theorem splitAtFirst_eq_none_iff :
    splitAtFirst needle text = none ↔ ¬ needle <:+: text := by
  induction text with
  | nil =>
    rw [splitAtFirst, Option.map_eq_none_iff, afterStart?_eq_none_iff, List.prefix_nil,
      List.infix_nil]
  | cons c text ih =>
    rw [splitAtFirst, List.infix_cons_iff, not_or, ← ih, ← afterStart?_eq_none_iff]
    cases afterStart? needle (c :: text) <;> simp

/-- An occurrence is the first one if there is none that ends before its last character. -/
private theorem splitAtFirst_concat_eq_some_iff (front : List Char) :
    splitAtFirst (front ++ [c]) text = some (before, rest) ↔
      text = before ++ (front ++ c :: rest) ∧ ¬ (front ++ [c]) <:+: before ++ front := by
  have whole : front ++ [c] ++ rest = front ++ c :: rest := by simp
  rw [splitAtFirst_eq_some_iff, whole]
  refine and_congr_right fun _ => ?_
  constructor
  · rintro first ⟨left, right, occurs⟩
    -- The occurrence starts in what is before the first one, since the front is too short for it.
    have shorter : left.length < before.length := by
      have size := congrArg List.length occurs
      simp only [List.length_append, List.length_singleton] at size
      omega
    have outer : left <+: before ++ front :=
      ⟨front ++ [c] ++ right, by rw [← occurs, List.append_assoc left]⟩
    obtain ⟨start, rfl⟩ := List.prefix_of_prefix_length_le outer (List.prefix_append before front)
      (Nat.le_of_lt shorter)
    have behind : left ++ (front ++ [c] ++ right) = left ++ (start ++ front) := by
      simpa using occurs
    have starts := List.append_cancel_left behind
    have present : start ≠ [] := by
      rintro rfl
      simp at *
    have missing := first left start rfl present
    rw [afterStart?_eq_none_iff] at missing
    exact missing ⟨right ++ c :: rest, by rw [← List.append_assoc, starts, List.append_assoc]⟩
  · rintro absent left start rfl present
    rw [afterStart?_eq_none_iff]
    intro starts
    have within : front ++ [c] <+: start ++ front := by
      refine List.prefix_of_prefix_length_le starts ⟨c :: rest, List.append_assoc _ _ _⟩ ?_
      have size := List.length_pos_iff.mpr present
      simp only [List.length_append, List.length_singleton]
      omega
    exact absent (within.isInfix.trans ⟨left, [], by simp⟩)

private theorem splitAtFirst_comment : splitAtFirst ['-', '-', '>'] text = some (before, rest) ↔
    text = before ++ '-' :: '-' :: '>' :: rest ∧ ¬ ['-', '-', '>'] <:+: before ++ ['-', '-'] :=
  splitAtFirst_concat_eq_some_iff ['-', '-']

private theorem behindFirst_cons (needle : List Char) (c : Char) (text : List Char) :
    behindFirst needle (c :: text)
      = (afterStart? needle (c :: text)).getD (behindFirst needle text) := by
  rw [behindFirst, behindFirst, splitAtFirst]
  cases afterStart? needle (c :: text) with
  | some rest => rfl
  | none => cases splitAtFirst needle text <;> rfl

private theorem length_behindFirst_le (needle text : List Char) :
    (behindFirst needle text).length ≤ text.length := by
  rw [behindFirst]
  cases found : splitAtFirst needle text with
  | none => exact Nat.zero_le _
  | some parts =>
    rw [(splitAtFirst_eq_some_iff.mp found).1, List.length_append, List.length_append]
    simp only [Option.map_some, Option.getD_some]
    omega

private theorem behindFirst_of_split (found : splitAtFirst needle text = some (before, rest)) :
    behindFirst needle text = rest := by
  rw [behindFirst, found]
  rfl

private theorem behindFirst_of_not_infix (absent : ¬ needle <:+: text) : behindFirst needle text =
    [] := by
  rw [behindFirst, splitAtFirst_eq_none_iff.mpr absent]
  rfl

/-! ### The stripping, bracket by bracket -/

private theorem stripMarkupFrom_comment (text : List Char) :
    stripMarkupFrom .comment text = stripMarkup (behindFirst ['-', '-', '>'] text) := by
  induction text with
  | nil => rfl
  | cons c text ih =>
    rw [behindFirst_cons]
    cases ends : afterStart? ['-', '-', '>'] (c :: text) with
    | some rest =>
      rw [afterStart?_eq_some.mp ends]
      rfl
    | none =>
      rw [Option.getD_none, ← ih, stripMarkupFrom.eq_6]
      rintro rest rfl rfl
      simp [afterStart?] at ends

private theorem stripMarkupFrom_tag (text : List Char) :
    stripMarkupFrom .tag text = stripMarkup (behindFirst ['>'] text) := by
  induction text with
  | nil => rfl
  | cons c text ih =>
    rw [behindFirst_cons, stripMarkupFrom]
    by_cases ends : c = '>'
    · subst ends
      rfl
    · rw [if_neg ends, ih]
      simp [afterStart?, Ne.symm ends]

private theorem stripMarkup_cons (other : c ≠ '<') (text : List Char) :
    stripMarkup (c :: text) = c :: stripMarkup text := by
  rw [stripMarkup, stripMarkupFrom.eq_4, if_neg other]
  · rfl
  · rintro rest rfl
    exact absurd rfl other

private theorem stripMarkup_comment (text : List Char) :
    stripMarkup ('<' :: '!' :: '-' :: '-' :: text)
      = stripMarkup (behindFirst ['-', '-', '>'] text) :=
  stripMarkupFrom_comment text

private theorem stripMarkup_tag (noComment : ¬ ['!', '-', '-'] <+: text) :
    stripMarkup ('<' :: text) = stripMarkup (behindFirst ['>'] text) := by
  rw [stripMarkup, stripMarkupFrom.eq_4, if_pos rfl, stripMarkupFrom_tag]
  rintro rest - rfl
  exact noComment ⟨rest, rfl⟩

/-- A text starts with plain text, with a comment or with another tag, and what is behind that is
shorter. -/
theorem markup_induction {P : List Char → Prop} (nil : P [])
    (plain : ∀ c rest, c ≠ '<' → P rest → P (c :: rest))
    (comment : ∀ rest, P (behindFirst ['-', '-', '>'] rest) → P ('<' :: '!' :: '-' :: '-' :: rest))
    (tag : ∀ rest, ¬ ['!', '-', '-'] <+: rest → P (behindFirst ['>'] rest) → P ('<' :: rest))
    (text : List Char) : P text := by
  induction size : text.length using Nat.strongRecOn generalizing text with
  | ind n ih =>
    subst size
    cases text with
    | nil => exact nil
    | cons c text =>
      by_cases opens : c = '<'
      · subst opens
        by_cases starts : ['!', '-', '-'] <+: text
        · obtain ⟨rest, rfl⟩ := starts
          have shorter := length_behindFirst_le ['-', '-', '>'] rest
          refine comment rest (ih _ ?_ _ rfl)
          simp only [List.length_cons, List.length_append]
          omega
        · have shorter := length_behindFirst_le ['>'] text
          exact tag text starts (ih _ (Nat.lt_succ_of_le shorter) _ rfl)
      · exact plain c text opens (ih _ (Nat.lt_succ_self _) _ rfl)

/-! ### What is left -/

private theorem stripMarkup_append (plain : '<' ∉ before) (text : List Char) :
    stripMarkup (before ++ text) = before ++ stripMarkup text := by
  induction before with
  | nil => rfl
  | cons c before ih =>
    rw [List.mem_cons, not_or] at plain
    rw [List.cons_append, stripMarkup_cons (Ne.symm plain.1), ih plain.2, List.cons_append]

private theorem Unmarked.eq_stripMarkup (unmarked : Unmarked text left) :
    left = stripMarkup text := by
  induction unmarked with
  | plain plain => exact (stripMarkup_eq_self plain).symm
  | @comment before inner rest left plain first _ ih =>
    have found : splitAtFirst _ _ = some (inner, rest) := splitAtFirst_comment.mpr ⟨rfl, first⟩
    rw [stripMarkup_append plain, stripMarkup_comment, behindFirst_of_split found, ih]
  | openComment plain absent =>
    rw [stripMarkup_append plain, stripMarkup_comment, behindFirst_of_not_infix absent]
    exact (List.append_nil _).symm
  | @tag before inner rest left plain noComment first _ ih =>
    have found : splitAtFirst _ _ = some (inner, rest) := splitAtFirst_char.mpr ⟨rfl, first⟩
    rw [stripMarkup_append plain, stripMarkup_tag noComment, behindFirst_of_split found, ih]
  | openTag plain noComment absent =>
    rw [← List.singleton_infix_iff] at absent
    rw [stripMarkup_append plain, stripMarkup_tag noComment, behindFirst_of_not_infix absent]
    exact (List.append_nil _).symm

theorem Unmarked.cons (other : c ≠ '<') (unmarked : Unmarked text left) :
    Unmarked (c :: text) (c :: left) := by
  have still : ∀ {before : List Char}, '<' ∉ before → '<' ∉ c :: before := by
    intro before plain
    rw [List.mem_cons, not_or]
    exact ⟨Ne.symm other, plain⟩
  cases unmarked with
  | plain plain => exact .plain (still plain)
  | comment plain first later => exact .comment (still plain) first later
  | openComment plain absent => exact .openComment (still plain) absent
  | tag plain noComment first later => exact .tag (still plain) noComment first later
  | openTag plain noComment absent => exact .openTag (still plain) noComment absent

private theorem unmarked_stripMarkup (text : List Char) : Unmarked text (stripMarkup text) := by
  have nothing : '<' ∉ ([] : List Char) := List.not_mem_nil
  induction text using markup_induction with
  | nil => exact .plain List.not_mem_nil
  | plain c rest other ih =>
    rw [stripMarkup_cons other]
    exact ih.cons other
  | comment rest ih =>
    rw [stripMarkup_comment]
    cases found : splitAtFirst ['-', '-', '>'] rest with
    -- A comment or a tag ends where it first can, or never.
    | some parts =>
      obtain ⟨inner, behind⟩ := parts
      obtain ⟨rfl, first⟩ := splitAtFirst_comment.mp found
      rw [behindFirst, found] at ih ⊢
      exact Unmarked.comment nothing first ih
    | none =>
      have absent := splitAtFirst_eq_none_iff.mp found
      rw [behindFirst, found]
      exact Unmarked.openComment nothing absent
  | tag rest noComment ih =>
    rw [stripMarkup_tag noComment]
    cases found : splitAtFirst ['>'] rest with
    | some parts =>
      obtain ⟨inner, behind⟩ := parts
      obtain ⟨rfl, first⟩ := splitAtFirst_char.mp found
      rw [behindFirst, found] at ih ⊢
      exact Unmarked.tag nothing noComment first ih
    | none =>
      have absent := splitAtFirst_eq_none_iff.mp found
      rw [List.singleton_infix_iff] at absent
      rw [behindFirst, found]
      exact Unmarked.openTag nothing noComment absent

/-! ### The matches -/

open Regex Ordered

private theorem rest?_atEnd_cons : Ordered.atEnd.rest? (c :: text) = none := rfl

/-- As little as there can be up to an end is up to the first one. -/
private theorem rest?_comment_inner (text : List Char) :
    (Ordered.seq (.many false fun _ => true) (.either (literal ['-', '-', '>']) .atEnd)).rest? text
      = some (behindFirst ['-', '-', '>'] text) := by
  induction text with
  | nil =>
    rw [rest?_lazy_nil]
    rfl
  | cons c text ih =>
    rw [rest?_lazy_cons, rest?_either, rest?_literal, rest?_atEnd_cons, Option.or_none, if_pos rfl,
      ih, behindFirst_cons]
    cases afterStart? ['-', '-', '>'] (c :: text) <;> rfl

private theorem behindFirst_eq_dropWhile (text : List Char) :
    behindFirst ['>'] text = (text.dropWhile (· ≠ '>')).tail := by
  induction text with
  | nil => rfl
  | cons c text ih =>
    rw [behindFirst_cons]
    by_cases ends : c = '>'
    · subst ends
      rfl
    · simp [afterStart?, ends, Ne.symm ends, ih]

/-- As much as there can be without an end leads to the first one. -/
private theorem rest?_tag_inner (text : List Char) :
    (Ordered.seq (.many true (· ≠ '>')) (.either (literal ['>']) .atEnd)).rest? text
      = some (behindFirst ['>'] text) := by
  rw [behindFirst_eq_dropWhile]
  refine rest?_greedy ?_
  cases behind : text.dropWhile (· ≠ '>') with
  | nil => rfl
  | cons c rest =>
    have ends : c = '>' := by
      have last := List.head?_dropWhile_not (· ≠ '>') text
      rw [behind] at last
      simpa using last
    subst ends
    rw [rest?_either, rest?_literal]
    rfl

private theorem rest?_markup_comment (text : List Char) :
    markup.rest? ('<' :: '!' :: '-' :: '-' :: text) = some (behindFirst ['-', '-', '>'] text) := by
  have starts : afterStart? ['<', '!', '-', '-'] ('<' :: '!' :: '-' :: '-' :: text) = some text :=
    afterStart?_append _ _
  rw [markup, rest?_either, rest?_literal_seq, starts, Option.bind_some, rest?_comment_inner,
    Option.some_or]

private theorem rest?_markup_tag (noComment : ¬ ['!', '-', '-'] <+: text) :
    markup.rest? ('<' :: text) = some (behindFirst ['>'] text) := by
  have missing : afterStart? ['<', '!', '-', '-'] ('<' :: text) = none := by
    rw [afterStart?_eq_none_iff, List.prefix_cons_inj]
    exact noComment
  have starts : afterStart? ['<'] ('<' :: text) = some text := afterStart?_append _ _
  rw [markup, rest?_either, rest?_literal_seq, missing, Option.bind_none, Option.none_or,
    rest?_literal_seq, starts, Option.bind_some, rest?_tag_inner]

private theorem rest?_markup_other (other : c ≠ '<') (text : List Char) :
    markup.rest? (c :: text) = none := by
  rw [markup, rest?_either, rest?_literal_seq, rest?_literal_seq]
  simp [afterStart?, Ne.symm other]

private theorem remove_markup (text : List Char) : markup.remove text = stripMarkup text := by
  induction text using markup_induction with
  | nil => exact remove_nil
  | plain c rest other ih =>
    rw [remove_cons_of_none (rest?_markup_other other rest), ih, stripMarkup_cons other]
  | comment rest ih =>
    have shorter := length_behindFirst_le ['-', '-', '>'] rest
    rw [remove_of_match (rest?_markup_comment rest), ih, stripMarkup_comment]
    simp only [List.length_cons]
    omega
  | tag rest noComment ih =>
    have shorter := length_behindFirst_le ['>'] rest
    rw [remove_of_match (rest?_markup_tag noComment), ih, stripMarkup_tag noComment]
    exact Nat.lt_succ_of_le shorter

/-- Taking markup out takes out the matches of the expression, and leaves what there is before,
between and behind comments and tags. No opening bracket is left, and nothing more to take out. -/
theorem stripMarkup_unmarked (text : List Char) :
    stripMarkup text = markup.remove text ∧
      (∀ left, Unmarked text left ↔ left = stripMarkup text) ∧
      '<' ∉ stripMarkup text ∧ stripMarkup (stripMarkup text) = stripMarkup text := by
  refine ⟨(remove_markup text).symm, ?_, not_mem_stripMarkup text, cleanses_stripMarkup.again text⟩
  intro left
  constructor
  · exact Unmarked.eq_stripMarkup
  · rintro rfl
    exact unmarked_stripMarkup text

/-- A comment may end right behind its start, but not within it. -/
example : stripMarkup "a<!-->b>--->c<i>d<!---->e<!-- >".toList = "acde".toList := by decide

end Stencil.Text
