import Mathlib.Data.Nat.Bitwise
import Stencil.Regex.Basic

/-!
# The length of a match

A match has at least as many characters as its expression asks for, so an expression
matches no text that is shorter than that. Which characters the classes of the expression
are made of does not matter.
-/
namespace Stencil.Regex

/-- So many characters are in every match. Of a repeated part only one is counted. -/
def Pattern.minLength {σ ρ : Type} : Pattern σ ρ → Nat
  | .empty => 0
  | .char _ => 1
  | .look _ => 0
  | .seq first second => first.minLength + second.minLength
  | .alt left right => min left.minLength right.minLength
  | .rep least _ body => if least = 0 then 0 else body.minLength

/-- Some places are behind others in a text of this size, by at least so many characters. -/
def Behind (size length : Nat) (before after : Places) : Prop :=
  ∀ i, after.testBit i → ∃ j, before.testBit j ∧ j + length ≤ i ∧ (j ≤ size → i ≤ size)

namespace Behind

variable {size length more : Nat} {before between after other : Places}

theorem refl (size : Nat) (places : Places) : Behind size 0 places places :=
  fun i isIn => ⟨i, isIn, Nat.le_refl i, id⟩

theorem trans (first : Behind size length before between) (second : Behind size more between after) :
    Behind size (length + more) before after := by
  intro i isIn
  obtain ⟨k, isBetween, behind, inside⟩ := second i isIn
  obtain ⟨j, isBefore, behind', inside'⟩ := first k isBetween
  exact ⟨j, isBefore, by omega, fun fits => inside (inside' fits)⟩

theorem mono (behind : Behind size length before after) (less : more ≤ length) :
    Behind size more before after := by
  intro i isIn
  obtain ⟨j, isBefore, behind, inside⟩ := behind i isIn
  exact ⟨j, isBefore, by omega, inside⟩

theorem or (left : Behind size length before after) (right : Behind size length before other) :
    Behind size length before (after ||| other) := by
  intro i isIn
  rw [Nat.testBit_or, Bool.or_eq_true] at isIn
  rcases isIn with isLeft | isRight
  · exact left i isLeft
  · exact right i isRight

/-- Places among others. -/
private theorem of_subset (subset : ∀ i, after.testBit i → before.testBit i) :
    Behind size 0 before after :=
  fun i isIn => ⟨i, subset i isIn, Nat.le_refl i, id⟩

variable {step : Places → Places}

theorem iterate (steps : ∀ places, Behind size length places (step places)) (n : Nat)
    (places : Places) : Behind size 0 places (Regex.iterate step n places) := by
  induction n generalizing places with
  | zero => exact refl size places
  | succ n ih => exact ((steps places).mono (Nat.zero_le length)).trans (ih (step places))

theorem reach (steps : ∀ places, Behind size 0 places (step places)) (n : Nat)
    {reached fresh : Places} (isReached : Behind size 0 before reached)
    (isFresh : Behind size 0 before fresh) :
    Behind size 0 before (Regex.reach step n reached fresh) := by
  induction n generalizing reached fresh with
  | zero => exact isReached
  | succ n ih =>
    have next : Behind size 0 before (step fresh ^^^ (step fresh &&& reached)) := by
      refine (isFresh.trans (steps fresh)).trans (of_subset ?_)
      intro i isIn
      rw [Nat.testBit_xor, Nat.testBit_and] at isIn
      cases here : (step fresh).testBit i with
      | true => rfl
      | false =>
        rw [here] at isIn
        cases isIn
    rw [Regex.reach]
    split
    · exact isReached
    · exact ih (isReached.or next) next

end Behind

/-! ### Classes -/

private theorem testBit_cons {rest i : Nat} {b : Bool} :
    (2 * rest + bit b).testBit i = if i = 0 then b else rest.testBit (i - 1) := by
  cases i with
  | zero => cases b <;> simp [bit]
  | succ i =>
    have half : (2 * rest + bit b) / 2 = rest := by
      cases b with
      | true => rw [bit, if_pos rfl]; omega
      | false => rw [bit, if_neg Bool.false_ne_true]; omega
    rw [Nat.testBit_succ, half, if_neg i.succ_ne_zero, Nat.add_sub_cancel]

/-- A class stands for places before characters of the text. -/
theorem lt_of_placesBefore {accept : Char → Bool} {text : List Char} {i : Nat}
    (isIn : (placesBefore accept text).testBit i) : i < text.length := by
  induction text generalizing i with
  | nil => simp [placesBefore] at isIn
  | cons c rest ih =>
    rw [placesBefore, testBit_cons] at isIn
    split at isIn
    · next zero => simp [zero]
    · have := ih isIn
      rw [List.length_cons]
      omega

/-- What an expression ends at is behind where it starts by its length. -/
private theorem behind_ends (text : List Char) (regex : Regex) (places : Places) :
    Behind text.length regex.minLength places (ends text.length (locate text regex) places) := by
  induction regex generalizing places with
  | empty => exact .refl _ places
  | char s =>
    intro i isIn
    rw [locate, ends, Nat.testBit_shiftLeft, Bool.and_eq_true, decide_eq_true_eq, Nat.testBit_and,
      Bool.and_eq_true] at isIn
    obtain ⟨behind, isBefore, isChar⟩ := isIn
    -- The character that is read is one of the text, so there is a place behind it.
    have inside := lt_of_placesBefore isChar
    exact ⟨i - 1, isBefore, by rw [Pattern.minLength]; omega, by omega⟩
  | look l =>
    refine .of_subset ?_
    intro i isIn
    rw [locate, ends, Nat.testBit_and, Bool.and_eq_true] at isIn
    exact isIn.1
  | seq first second ihFirst ihSecond => exact (ihFirst places).trans (ihSecond _)
  | alt left right ihLeft ihRight =>
    exact ((ihLeft places).mono (Nat.min_le_left _ _)).or
      ((ihRight places).mono (Nat.min_le_right _ _))
  | rep least most body ih =>
    let step := ends text.length (locate text body)
    let start := iterate step (Nat.min least (text.length + 1)) places
    have steps (places : Places) : Behind text.length 0 places (step places) :=
      (ih places).mono (Nat.zero_le _)
    have started : Behind text.length (Pattern.rep least most body).minLength places start := by
      cases least with
      | zero => simpa [start, iterate, Pattern.minLength] using Behind.refl text.length places
      | succ least =>
        have count : Nat.min (least + 1) (text.length + 1) = Nat.min least text.length + 1 :=
          Nat.succ_min_succ least text.length
        -- The first time counts; from then on there is no way back.
        have first := (ih places).trans (.iterate ih (Nat.min least text.length) (step places))
        rw [Pattern.minLength, if_neg least.succ_ne_zero]
        rw [Nat.add_zero] at first
        simpa only [start, count, iterate] using first
    exact started.trans (.reach steps _ (.refl _ start) (.refl _ start))

/-- An expression matches no text that is shorter than its matches. -/
theorem isMatch_of_short {regex : Regex} {text : List Char} (short : text.length < regex.minLength) :
    isMatch regex text = false := by
  by_contra isMatch
  rw [Regex.isMatch, Bool.not_eq_false, bne_iff_ne] at isMatch
  obtain ⟨i, isIn⟩ := Nat.exists_testBit_of_ne_zero isMatch
  obtain ⟨j, isStart, behind, inside⟩ := behind_ends text regex _ i isIn
  rw [Nat.one_shiftLeft, Nat.testBit_two_pow_sub_one, decide_eq_true_eq] at isStart
  -- A match that starts inside of the text ends inside of it, so it is not longer.
  have := inside (Nat.lt_succ_iff.mp isStart)
  omega

end Stencil.Regex
