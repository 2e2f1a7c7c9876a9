import Stencil.Text.Search

/-!
# Searching, replacing and counting

What is found first in a text has no occurrence before it. Replacing goes from the left: an
occurrence is replaced and passed over, any other character stays. Where a text in front adds
no occurrence, replacing leaves it alone.
-/
namespace Stencil.Text

variable {needle new before text : List Char}

/-- Where an occurrence starts in a text, or might start; a text to look for is not empty. -/
theorem search_induction {P : List Char → Prop} (present : needle ≠ []) (nil : P [])
    (found : ∀ rest, P rest → P (needle ++ rest))
    (other : ∀ c rest, afterStart? needle (c :: rest) = none → P rest → P (c :: rest))
    (text : List Char) : P text := by
  -- What is behind an occurrence is shorter than the text that starts with it.
  induction hn : text.length using Nat.strongRecOn generalizing text with
  | ind n ih =>
    cases text with
    | nil => exact nil
    | cons c rest =>
      cases start : afterStart? needle (c :: rest) with
      | none =>
        refine other c rest start (ih rest.length ?_ rest rfl)
        rw [← hn]
        exact Nat.lt_succ_self rest.length
      | some behind =>
        have whole := afterStart?_eq_some.mp start
        have size := List.length_pos_iff.mpr present
        rw [whole] at hn ⊢
        refine found behind (ih behind.length ?_ behind rfl)
        rw [← hn, List.length_append]
        omega

theorem afterStart?_append (needle rest : List Char) : afterStart? needle (needle ++ rest) = some rest :=
  afterStart?_eq_some.mpr rfl

/-! ### Searching -/

/-- The first occurrence of a text is behind a text that holds none. -/
theorem splitAtFirst_eq_some_iff {needle text before rest : List Char} :
    splitAtFirst needle text = some (before, rest) ↔
      text = before ++ (needle ++ rest) ∧
        ∀ left start, before = left ++ start → start ≠ [] →
          afterStart? needle (start ++ (needle ++ rest)) = none := by
  induction text generalizing before with
  | nil =>
    simp only [splitAtFirst, Option.map_eq_some_iff, Prod.mk.injEq, afterStart?_eq_some]
    constructor
    · rintro ⟨_, whole, rfl, rfl⟩
      exact ⟨whole, by simp⟩
    · rintro ⟨whole, -⟩
      obtain ⟨rfl, behind⟩ := List.append_eq_nil_iff.mp whole.symm
      exact ⟨rest, behind.symm, rfl, rfl⟩
  | cons c text ih =>
    rw [splitAtFirst]
    cases start : afterStart? needle (c :: text) with
    | some behind =>
      have whole := afterStart?_eq_some.mp start
      simp only [Option.some.injEq, Prod.mk.injEq]
      constructor
      · rintro ⟨rfl, rfl⟩
        exact ⟨whole, by simp⟩
      · rintro ⟨cut, first⟩
        cases before with
        | nil =>
          refine ⟨rfl, ?_⟩
          rw [whole, List.nil_append] at cut
          exact List.append_cancel_left cut
        | cons d before =>
          -- An occurrence further on would not be the first one.
          have none := first [] (d :: before) rfl (List.cons_ne_nil d before)
          rw [← cut, start] at none
          cases none
    | none =>
      simp only [Option.map_eq_some_iff, Prod.exists, Prod.mk.injEq]
      constructor
      · rintro ⟨before, rest, found, rfl, rfl⟩
        obtain ⟨rfl, first⟩ := ih.mp found
        refine ⟨rfl, ?_⟩
        intro left start' cut present
        cases left with
        | nil =>
          rw [List.nil_append] at cut
          rw [← cut]
          exact start
        | cons d left => exact first left start' (List.cons.inj cut).2 present
      · rintro ⟨cut, first⟩
        cases before with
        | nil =>
          rw [cut, List.nil_append, afterStart?_eq_some.mpr rfl] at start
          cases start
        | cons d before =>
          obtain ⟨rfl, rfl⟩ := List.cons.inj cut
          refine ⟨before, rest, ih.mpr ⟨rfl, ?_⟩, rfl, rfl⟩
          intro left start' cut present
          exact first (c :: left) start' (by rw [cut]; rfl) present

theorem splitAtFirst_char {c : Char} {rest : List Char} :
    splitAtFirst [c] text = some (before, rest) ↔ text = before ++ c :: rest ∧ c ∉ before := by
  rw [splitAtFirst_eq_some_iff]
  refine and_congr_right fun _ => ?_
  constructor
  · intro first member
    obtain ⟨left, right, rfl⟩ := List.append_of_mem member
    have none := first left (c :: right) rfl (List.cons_ne_nil c right)
    simp [afterStart?] at none
  · rintro absent left start rfl present
    obtain ⟨d, right, rfl⟩ := List.exists_cons_of_ne_nil present
    have other : c ≠ d := by
      rintro rfl
      simp at absent
    simp [afterStart?, other]

/-! ### Replacing -/

private theorem replaceFrom_eq_drop (skip : Nat) (text : List Char) :
    replaceFrom needle new skip text = replaceAll needle new (text.drop skip) := by
  induction text generalizing skip with
  | nil => cases skip <;> rfl
  | cons c rest ih =>
    cases skip with
    | zero => rfl
    | succ skip => exact ih skip

@[simp]
theorem replaceAll_nil : replaceAll needle new [] = [] := rfl

theorem replaceAll_append (present : needle ≠ []) (rest : List Char) :
    replaceAll needle new (needle ++ rest) = new ++ replaceAll needle new rest := by
  obtain ⟨first, more, rfl⟩ := List.exists_cons_of_ne_nil present
  have starts := afterStart?_append (first :: more) rest
  rw [List.cons_append] at starts ⊢
  rw [replaceAll, replaceFrom, starts, if_pos Option.isSome_some, replaceFrom_eq_drop]
  simp

theorem replaceAll_cons {c : Char} (missing : afterStart? needle (c :: text) = none) :
    replaceAll needle new (c :: text) = c :: replaceAll needle new text := by
  rw [replaceAll, replaceFrom, missing]
  rfl

/-! ### Counting -/

/-- How often a text occurs in another one. -/
def occurrences (needle : List Char) : List Char → Nat
  | [] => 0
  | c :: rest => occurrences needle rest + if (afterStart? needle (c :: rest)).isSome then 1 else 0

theorem occurrences_cons {c : Char} (missing : afterStart? needle (c :: text) = none) :
    occurrences needle (c :: text) = occurrences needle text := by
  rw [occurrences, missing]
  rfl

theorem occurrences_le_append (needle before text : List Char) :
    occurrences needle text ≤ occurrences needle (before ++ text) := by
  induction before with
  | nil => exact Nat.le_refl _
  | cons c rest ih =>
    rw [List.cons_append, occurrences]
    omega

/-- A text in front that adds no occurrence is left alone by replacing. -/
theorem replaceAll_append_of_occurrences
    (same : occurrences needle (before ++ text) = occurrences needle text) :
    replaceAll needle new (before ++ text) = before ++ replaceAll needle new text := by
  induction before with
  | nil => rfl
  | cons c rest ih =>
    have fewer := occurrences_le_append needle rest text
    rw [List.cons_append, occurrences] at same
    cases start : afterStart? needle (c :: (rest ++ text)) with
    | some behind =>
      rw [start, if_pos Option.isSome_some] at same
      omega
    | none =>
      rw [start] at same
      rw [List.cons_append, replaceAll_cons start, ih (by simpa using same), List.cons_append]

end Stencil.Text
