import Stencil.Proofs.Fragment

/-!
# Bracketed texts

The filled brackets of a text that is put together from pieces are those of the pieces,
as long as it is not cut inside of a bracket.
-/
namespace Stencil

/-- Whether a bracket is open behind a text, if one is open before it or not. -/
def leavesOpen : Bool → List Char → Bool
  | opened, [] => opened
  | false, c :: rest => leavesOpen (c = '[') rest
  | true, c :: rest => leavesOpen (c ≠ ']') rest

theorem leavesOpen_append (opened : Bool) (text more : List Char) :
    leavesOpen opened (text ++ more) = leavesOpen (leavesOpen opened text) more := by
  fun_induction leavesOpen opened text with
  | case1 opened => rfl
  | case2 c rest ih => rw [List.cons_append, leavesOpen, ih]
  | case3 c rest ih => rw [List.cons_append, leavesOpen, ih]

/-- What stands in the bracket that is open behind a text, its last character first, if
`inner` stands in the one that is open before it. -/
def openInner : Option (List Char) → List Char → Option (List Char)
  | inner, [] => inner
  | none, c :: rest => openInner (if c = '[' then some [] else none) rest
  | some inner, c :: rest => openInner (if c = ']' then none else some (c :: inner)) rest

theorem isSome_openInner (inner : Option (List Char)) (text : List Char) :
    (openInner inner text).isSome = leavesOpen inner.isSome text := by
  fun_induction openInner inner text with
  | case1 inner => cases inner <;> rfl
  | case2 c rest ih =>
    rw [ih, Option.isSome_none, leavesOpen]
    by_cases opens : c = '['
    · simp [opens]
    · simp [opens]
  | case3 inner c rest ih =>
    rw [ih, Option.isSome_some, leavesOpen]
    by_cases closes : c = ']'
    · simp [closes]
    · simp [closes]

/-- What stands in the brackets of a text. -/
def innersFrom (inner : Option (List Char)) (text : List Char) : List (List Char) :=
  (bracketsFrom [] inner text).1.map Bracketed.inner

/-- The text before a bracket does not count. -/
theorem inner_bracketsFrom (before : List Char) (inner : Option (List Char)) (text : List Char) :
    (bracketsFrom before inner text).1.map Bracketed.inner = innersFrom inner text := by
  induction text generalizing before inner with
  | nil => cases inner <;> rfl
  | cons c rest ih =>
    unfold innersFrom
    cases inner with
    | none =>
      rw [bracketsFrom, bracketsFrom]
      split
      · rw [ih before, ih []]
      · rw [ih (c :: before), ih [c]]
    | some inner =>
      rw [bracketsFrom, bracketsFrom]
      split
      · rfl
      · rw [ih before, ih []]

theorem innersFrom_none_cons (c : Char) (rest : List Char) :
    innersFrom none (c :: rest) = innersFrom (if c = '[' then some [] else none) rest := by
  rw [innersFrom, bracketsFrom]
  split
  · exact inner_bracketsFrom [] _ rest
  · exact inner_bracketsFrom [c] _ rest

theorem innersFrom_some_cons (inner : List Char) (c : Char) (rest : List Char) :
    innersFrom (some inner) (c :: rest) =
      if c = ']' then inner.reverse :: innersFrom none rest
      else innersFrom (some (c :: inner)) rest := by
  rw [innersFrom, bracketsFrom]
  split
  · rfl
  · exact inner_bracketsFrom [] _ rest

/-- A bracket that is closed in a text is there whatever follows. -/
theorem isPrefix_innersFrom (inner : Option (List Char)) (text more : List Char) :
    innersFrom inner text <+: innersFrom inner (text ++ more) := by
  induction text generalizing inner with
  | nil => cases inner <;> exact List.nil_prefix
  | cons c rest ih =>
    rw [List.cons_append]
    cases inner with
    | none =>
      rw [innersFrom_none_cons, innersFrom_none_cons]
      exact ih _
    | some inner =>
      rw [innersFrom_some_cons, innersFrom_some_cons]
      split
      · exact (List.prefix_cons_inj _).mpr (ih none)
      · exact ih _

/-- A text can be cut anywhere, if it is known what is in the bracket that is open there. -/
theorem innersFrom_append_openInner (inner : Option (List Char)) (text more : List Char) :
    innersFrom inner (text ++ more)
      = innersFrom inner text ++ innersFrom (openInner inner text) more := by
  induction text generalizing inner with
  | nil => cases inner <;> rfl
  | cons c rest ih =>
    rw [List.cons_append]
    cases inner with
    | none => rw [innersFrom_none_cons, innersFrom_none_cons, openInner, ih]
    | some inner =>
      rw [innersFrom_some_cons, innersFrom_some_cons, openInner]
      by_cases closes : c = ']'
      · rw [if_pos closes, if_pos closes, if_pos closes, ih, List.cons_append]
      · rw [if_neg closes, if_neg closes, if_neg closes, ih]

/-- Outside of brackets a text can be cut. -/
theorem innersFrom_append {inner : Option (List Char)} {text : List Char}
    (closed : leavesOpen inner.isSome text = false) (more : List Char) :
    innersFrom inner (text ++ more) = innersFrom inner text ++ innersFrom none more := by
  have none : openInner inner text = none := by
    rw [← Option.not_isSome_iff_eq_none, isSome_openInner, closed]
    exact Bool.false_ne_true
  rw [innersFrom_append_openInner, none]

/-- Empty brackets are plain text, and all others stay. -/
theorem inner_joinEmpty (before : List Char) (parts : List Bracketed) (tail : List Char) :
    (joinEmpty before parts tail).1.map Bracketed.inner
      = (parts.map Bracketed.inner).filter fun inner => !inner.isEmpty := by
  fun_induction joinEmpty before parts tail with
  | case1 before tail => rfl
  | case2 before part rest tail empty ih =>
    rw [ih]
    simp [empty]
  | case3 before part rest tail filled found tail' ih =>
    simp_all

theorem radioValues_eq (text : List Char) :
    radioValues text
      = ((innersFrom none text).filter fun inner => !inner.isEmpty).map String.ofList := by
  rw [radioValues, filledBrackets, innersFrom, ← inner_joinEmpty [], List.map_map]
  rfl

theorem ne_empty_of_mem_radioValues {text : List Char} {value : String}
    (member : value ∈ radioValues text) : value ≠ "" := by
  rw [radioValues_eq] at member
  obtain ⟨inner, found, rfl⟩ := List.mem_map.mp member
  have filled := (List.mem_filter.mp found).2
  intro empty
  simp [String.ofList_eq_empty_iff.mp empty] at filled

/-- What follows a text adds to its values. -/
theorem mem_radioValues_append_right {text : List Char} {value : String}
    (member : value ∈ radioValues text) (more : List Char) :
    value ∈ radioValues (text ++ more) := by
  rw [radioValues_eq] at *
  exact ((isPrefix_innersFrom none text more).filter _).map _ |>.subset member

/-- What stands before a text that starts outside of brackets keeps its values. -/
theorem mem_radioValues_append_left {before text : List Char} {value : String}
    (closed : leavesOpen false before = false) (member : value ∈ radioValues text) :
    value ∈ radioValues (before ++ text) := by
  have split : innersFrom none (before ++ text) = innersFrom none before ++ innersFrom none text :=
    @innersFrom_append none before closed text
  rw [radioValues_eq] at *
  rw [split, List.filter_append, List.map_append]
  exact List.mem_append_right _ member

namespace Fragment

/-- Whether every text in a fragment starts outside of brackets, if one is open before the
fragment or not. -/
def startsOutside : Bool → Fragment → Bool
  | _, [] => true
  | opened, .text s :: rest => !opened && startsOutside (leavesOpen opened s.toList) rest
  | opened, _ :: rest => startsOutside opened rest

/-- The values in a text of a fragment are values of its plain text, unless the text starts
in a bracket. -/
theorem mem_radioValues_plainText {fragment : Fragment} {before : List Char} {s value : String}
    (outside : fragment.startsOutside (leavesOpen false before)) (member : .text s ∈ fragment)
    (offered : value ∈ radioValues s.toList) :
    value ∈ radioValues (before ++ fragment.plainText.toList) := by
  induction fragment generalizing before with
  | nil => cases member
  | cons segment rest ih =>
    cases segment with
    | text t =>
      rw [startsOutside, Bool.and_eq_true, Bool.not_eq_true', ← leavesOpen_append] at outside
      rw [plainText, String.toList_append]
      rcases List.mem_cons.mp member with same | later
      · cases same
        exact mem_radioValues_append_left outside.1 (mem_radioValues_append_right offered _)
      · rw [← List.append_assoc]
        exact ih (leavesOpen_append false before t.toList ▸ outside.2) later
    | _ =>
      rcases List.mem_cons.mp member with same | later
      · cases same
      · exact ih outside later

/-- A single text starts outside of brackets. -/
theorem startsOutside_of_static {fragment : Fragment} (separated : fragment.Separated)
    (static : ∀ segment ∈ fragment, ∃ s, segment = .text s) : fragment.startsOutside false := by
  rcases eq_of_separated_of_text separated static with rfl | ⟨s, rfl⟩
  · rfl
  · rfl

end Fragment

end Stencil
