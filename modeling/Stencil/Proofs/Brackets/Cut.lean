import Mathlib.Data.List.Induction
import Stencil.Proofs.Brackets

/-!
# Brackets that are cut

The brackets of a fragment can be read text by text, or off its plain text. Both readings
find the same filled brackets exactly if none of them is cut where a text ends. Of a bracket
that is cut the first reading sees less than the second, if it sees anything.
-/
namespace Stencil

/-! ### The bracket that is open -/

private theorem openInner_append (inner : Option (List Char)) (text more : List Char) :
    openInner inner (text ++ more) = openInner (openInner inner text) more := by
  fun_induction openInner inner text with
  | case1 inner => rfl
  | case2 c rest ih => rw [List.cons_append, openInner, ih]
  | case3 inner c rest ih => rw [List.cons_append, openInner, ih]

/-- In a bracket any text that does not close it counts. -/
private theorem openInner_inside {text : List Char} (inside : ']' ∉ text) (inner : List Char) :
    openInner (some inner) text = some (text.reverse ++ inner) := by
  induction text generalizing inner with
  | nil => rfl
  | cons c rest ih =>
    rw [List.mem_cons, not_or] at inside
    rw [openInner, if_neg (Ne.symm inside.1), ih inside.2, List.reverse_cons, List.append_assoc]
    rfl

private theorem innersFrom_of_unclosed {text : List Char} (unclosed : ']' ∉ text)
    (inner : Option (List Char)) : innersFrom inner text = [] := by
  induction text generalizing inner with
  | nil => cases inner <;> rfl
  | cons c rest ih =>
    rw [List.mem_cons, not_or] at unclosed
    cases inner with
    | none => rw [innersFrom_none_cons, ih unclosed.2]
    | some inner => rw [innersFrom_some_cons, if_neg (Ne.symm unclosed.1), ih unclosed.2]

/-- A bracket that is opened and not closed is open. -/
private theorem openInner_bracket {start inner : List Char}
    (closed : leavesOpen false start = false)
    (inside : ']' ∉ inner) : openInner none (start ++ '[' :: inner) = some inner.reverse := by
  have none : openInner none start = none := by
    rw [← Option.not_isSome_iff_eq_none, isSome_openInner, Option.isSome_none, closed]
    exact Bool.false_ne_true
  rw [openInner_append, none, openInner, if_pos rfl, openInner_inside inside, List.append_nil]

/-- What is in the open bracket stands behind the one that opens it. -/
private theorem exists_of_openInner {text inner : List Char}
    (opened : openInner none text = some inner) :
    ∃ start, text = start ++ '[' :: inner.reverse ∧ leavesOpen false start = false ∧
      ']' ∉ inner := by
  induction text using List.reverseRecOn generalizing inner with
  | nil => cases opened
  | append_singleton front last ih =>
    rw [openInner_append] at opened
    -- Whether a bracket is open is decided by the last one that stands there.
    cases before : openInner none front with
    | none =>
      rw [before, openInner] at opened
      by_cases opens : last = '['
      · rw [if_pos opens] at opened
        cases opened
        have closed : leavesOpen false front = false := by
          rw [← Option.isSome_none, ← isSome_openInner, before]
        exact ⟨front, by rw [opens]; rfl, closed, List.not_mem_nil⟩
      · rw [if_neg opens] at opened
        cases opened
    | some held =>
      rw [before, openInner] at opened
      by_cases closes : last = ']'
      · rw [if_pos closes] at opened
        cases opened
      · rw [if_neg closes] at opened
        cases opened
        obtain ⟨start, rfl, closed, inside⟩ := ih before
        refine ⟨start, by simp, closed, ?_⟩
        rw [List.mem_cons, not_or]
        exact ⟨Ne.symm closes, inside⟩

/-! ### How much stands in brackets -/

/-- The first bracket closed in a text is the open one. -/
theorem innersFrom_some_closed {front : List Char} (inside : ']' ∉ front) (inner rest : List Char) :
    innersFrom (some inner) (front ++ ']' :: rest)
      = (inner.reverse ++ front) :: innersFrom none rest := by
  rw [innersFrom_append_openInner, innersFrom_of_unclosed inside, openInner_inside inside,
    innersFrom_some_cons, if_pos rfl]
  simp

/-- With no bracket open, only what follows an opening one stands in the first. -/
private theorem length_innersFrom_none_lt {front : List Char} (inside : ']' ∉ front) (filled :
    front ≠ []) (rest : List Char) :
    (innersFrom none (front ++ ']' :: rest)).flatten.length
      < front.length + (innersFrom none rest).flatten.length := by
  rw [innersFrom_append_openInner, innersFrom_of_unclosed inside, List.nil_append]
  cases opened : openInner none front with
  | none =>
    have := List.length_pos_of_ne_nil filled
    rw [innersFrom_none_cons, if_neg (by decide)]
    omega
  | some inner =>
    obtain ⟨start, rfl, -⟩ := exists_of_openInner opened
    rw [innersFrom_some_cons, if_pos rfl]
    simp only [List.flatten_cons, List.length_append, List.length_cons, List.length_reverse]
    omega

private theorem length_innersFrom_none_closed {front : List Char} (inside : ']' ∉ front)
    (rest : List Char) :
    (innersFrom none (front ++ ']' :: rest)).flatten.length
      ≤ front.length + (innersFrom none rest).flatten.length := by
  by_cases filled : front = []
  · rw [filled, List.nil_append, innersFrom_none_cons, if_neg (by decide)]
    exact Nat.le_add_left _ _
  · exact (length_innersFrom_none_lt inside filled rest).le

/-- With a bracket open, at least as much of a text stands in brackets. -/
private theorem length_innersFrom_none_le (inner : Option (List Char)) (text : List Char) :
    (innersFrom none text).flatten.length ≤ (innersFrom inner text).flatten.length := by
  cases inner with
  | none => exact le_rfl
  | some inner =>
    by_cases closes : ']' ∈ text
    · obtain ⟨front, rest, rfl, inside⟩ := List.eq_append_cons_of_mem closes
      have closed := length_innersFrom_none_closed inside rest
      rw [innersFrom_some_closed inside, List.flatten_cons, List.length_append, List.length_append]
      omega
    · rw [innersFrom_of_unclosed closes]
      exact Nat.zero_le _

/-! ### Fragments -/

namespace Fragment

/-- What stands in the brackets of a fragment, if each text is read for itself. -/
def inners : Fragment → List (List Char)
  | [] => []
  | .text s :: rest => innersFrom none s.toList ++ inners rest
  | _ :: rest => inners rest

/-- That a filled bracket of the plain text begins before the end of a segment and closes
behind it. -/
def CutsBracket (fragment : Fragment) : Prop :=
  ∃ before after : Fragment, fragment = before ++ after ∧
    ∃ start inner inner' rest,
      before.plainText.toList = start ++ '[' :: inner ∧
      after.plainText.toList = inner' ++ ']' :: rest ∧
      leavesOpen false start = false ∧ ']' ∉ inner ++ inner' ∧ inner ++ inner' ≠ []

private theorem inners_append (before after : Fragment) :
    inners (before ++ after) = before.inners ++ after.inners := by
  induction before with
  | nil => rfl
  | cons segment rest ih =>
    cases segment with
    | text s => rw [List.cons_append, inners, inners, ih, List.append_assoc]
    | _ => exact ih

/-- Text by text, no more is found in brackets than in the plain text. -/
private theorem length_inners_le (inner : Option (List Char)) (fragment : Fragment) :
    fragment.inners.flatten.length
      ≤ (innersFrom inner fragment.plainText.toList).flatten.length := by
  induction fragment generalizing inner with
  | nil => exact Nat.zero_le _
  | cons segment rest ih =>
    cases segment with
    | text s =>
      have here := length_innersFrom_none_le inner s.toList
      have later := ih (openInner inner s.toList)
      rw [inners, plainText, String.toList_append, innersFrom_append_openInner]
      simp only [List.flatten_append, List.length_append]
      omega
    | _ => exact ih inner

/-- Where no bracket is cut, the texts hold the filled brackets of the plain text. -/
theorem filled_inners_of_not_cutsBracket {before after : Fragment}
    (whole : ¬CutsBracket (before ++ after)) :
    (innersFrom (openInner none before.plainText.toList) after.plainText.toList).filter
        (fun inner => !inner.isEmpty)
      = after.inners.filter fun inner => !inner.isEmpty := by
  induction after generalizing before with
  | nil => simp [plainText, inners, innersFrom_of_unclosed]
  | cons segment rest ih =>
    -- The segment is moved behind what came before it.
    have later := @ih (before ++ [segment]) (by rwa [List.append_assoc])
    rw [plainText_append, String.toList_append, openInner_append] at later
    cases segment with
    | text s =>
      have alone : plainText [.text s] = s := String.append_empty
      rw [alone] at later
      rw [plainText, String.toList_append, innersFrom_append_openInner, inners,
        List.filter_append, List.filter_append, later]
      congr 1
      cases opened : openInner none before.plainText.toList with
      | none => rfl
      | some inner =>
        by_cases closes : ']' ∈ s.toList
        · obtain ⟨front, tail, parted, inside⟩ := List.eq_append_cons_of_mem closes
          obtain ⟨start, text, closed, unclosed⟩ := exists_of_openInner opened
          -- The open bracket is closed here, so nothing stands in it.
          have empty : inner.reverse ++ front = [] := by
            by_contra filled
            refine whole ⟨before, .text s :: rest, rfl, start, inner.reverse, front,
              tail ++ (plainText rest).toList, text, ?_, closed, ?_, filled⟩
            · rw [plainText, String.toList_append, parted, List.append_assoc]
              rfl
            · rw [List.mem_append, List.mem_reverse, not_or]
              exact ⟨unclosed, inside⟩
          obtain ⟨-, rfl⟩ := List.append_eq_nil_iff.mp empty
          rw [parted, innersFrom_some_closed inside, empty, List.nil_append,
            innersFrom_none_cons, if_neg (by decide)]
          rfl
        · rw [innersFrom_of_unclosed closes, innersFrom_of_unclosed closes]
    | _ => exact later

/-- Of a bracket that is cut less is found text by text. -/
theorem length_inners_lt_of_cutsBracket {fragment : Fragment} (cuts : fragment.CutsBracket) :
    fragment.inners.flatten.length
      < (innersFrom none fragment.plainText.toList).flatten.length := by
  obtain ⟨before, after, rfl, start, inner, inner', rest, opens, closes, closed, unclosed,
    filled⟩ := cuts
  rw [List.mem_append, not_or] at unclosed
  have opened : openInner none before.plainText.toList = some inner.reverse := by
    rw [opens, openInner_bracket closed unclosed.1]
  have front := before.length_inners_le none
  have back := after.length_inners_le none
  rw [closes] at back
  rw [inners_append, plainText_append, String.toList_append, innersFrom_append_openInner, opened,
    closes, innersFrom_some_closed unclosed.2]
  simp only [List.flatten_append, List.flatten_cons, List.length_append, List.reverse_reverse]
  -- What the texts behind the cut close is only a part of the bracket.
  by_cases nothing : inner' = []
  · have present : inner ≠ [] := fun none => filled (by rw [none, nothing, List.nil_append])
    have := List.length_pos_of_ne_nil present
    have part := length_innersFrom_none_closed unclosed.2 rest
    omega
  · have part := length_innersFrom_none_lt unclosed.2 nothing rest
    omega

/-- Text by text the filled brackets of the plain text are found exactly if none is cut. -/
theorem filled_inners_eq_iff (fragment : Fragment) :
    (fragment.inners.filter fun inner => !inner.isEmpty)
        = (innersFrom none fragment.plainText.toList).filter (fun inner => !inner.isEmpty)
      ↔ ¬fragment.CutsBracket := by
  constructor
  · intro same cuts
    have fewer := length_inners_lt_of_cutsBracket cuts
    -- Empty brackets hold nothing, so without them the numbers are the same.
    rw [← List.flatten_filter_not_isEmpty, same, List.flatten_filter_not_isEmpty] at fewer
    exact lt_irrefl _ fewer
  · intro whole
    exact (@filled_inners_of_not_cutsBracket [] fragment whole).symm

/-! ### Texts outside of brackets -/

private theorem startsOutside_append (opened : Bool) (before after : Fragment) :
    startsOutside opened (before ++ after)
      = (before.startsOutside opened
        && after.startsOutside (leavesOpen opened before.plainText.toList)) := by
  induction before generalizing opened with
  | nil => rfl
  | cons segment rest ih =>
    cases segment with
    | text s =>
      rw [List.cons_append, startsOutside, startsOutside, ih, plainText, String.toList_append,
        leavesOpen_append, Bool.and_assoc]
    | _ => exact ih opened

/-- In a bracket no text starts outside of it. -/
theorem plainText_of_startsOutside {fragment : Fragment}
    (outside : fragment.startsOutside true) : fragment.plainText = "" := by
  induction fragment with
  | nil => rfl
  | cons segment rest ih =>
    cases segment with
    | text s => cases outside
    | _ => exact ih outside

/-- Where every text starts outside of brackets, none is cut. -/
theorem not_cutsBracket_of_startsOutside {fragment : Fragment}
    (outside : fragment.startsOutside false) : ¬fragment.CutsBracket := by
  rintro ⟨before, after, rfl, start, inner, inner', rest, opens, closes, closed, unclosed, -⟩
  rw [List.mem_append, not_or] at unclosed
  have opened : leavesOpen false before.plainText.toList = true := by
    rw [← Option.isSome_none, ← isSome_openInner, opens, openInner_bracket closed unclosed.1,
      Option.isSome_some]
  rw [startsOutside_append, opened, Bool.and_eq_true] at outside
  rw [plainText_of_startsOutside outside.2] at closes
  simp at closes

end Fragment

end Stencil
