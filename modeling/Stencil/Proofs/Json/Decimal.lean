import Mathlib.Data.List.DropRight
import Stencil.Proofs.Json.Numeral

/-!
# Decimals are numerals

A finite double is written as a numeral, in one of three layouts. The others are written as
the word for nothing.
-/
namespace Stencil

namespace Double

open Json

/-! ### The digits of a double -/

theorem isDigits_digitsOf (n : Nat) : IsDigits (digitsOf n) :=
  ⟨Nat.toDigits_ne_nil, fun _ => isDigit_of_mem_digits⟩

/-- Digits that do not start with a zero. -/
def IsMantissa (digits : List Char) : Prop := IsDigits digits ∧ digits.head? ≠ some '0'

private theorem isMantissa_digitsOf {n : Nat} (positive : n ≠ 0) : IsMantissa (digitsOf n) := by
  refine ⟨isDigits_digitsOf n, fun zero => positive ?_⟩
  obtain ⟨tail, starts⟩ := List.head?_eq_some_iff.mp zero
  obtain rfl := digits_eq_zero_cons starts
  have value := Nat.ofDigitChars_toDigits (b := 10) (n := n) (by decide) (by decide)
  rw [digitsOf] at starts
  rw [starts] at value
  exact value.symm

/-- The zeros that are dropped are at the end. -/
theorem isMantissa_trimZeros {digits : List Char} (mantissa : IsMantissa digits) :
    IsMantissa (trimZeros digits) := by
  obtain ⟨⟨nonempty, digit⟩, plain⟩ := mantissa
  obtain ⟨first, tail, rfl⟩ := List.exists_cons_of_ne_nil nonempty
  have other : first ≠ '0' := by simpa using plain
  have kept : ∃ more, trimZeros (first :: tail) = first :: more := by
    rw [trimZeros, List.reverse_cons, List.dropWhile_append]
    split
    · simp [other]
    · simp
  obtain ⟨more, kept⟩ := kept
  have within : ∀ c ∈ trimZeros (first :: tail), c.isDigit := by
    intro c member
    have cut := (List.dropWhile_sublist _).subset (List.mem_reverse.mp member)
    exact digit c (List.mem_reverse.mp cut)
  rw [kept] at within ⊢
  exact ⟨⟨List.cons_ne_nil _ _, within⟩, by simpa using other⟩

theorem IsMantissa.isWhole {digits : List Char} (mantissa : IsMantissa digits) : IsWhole digits := by
  refine ⟨mantissa.1, ?_⟩
  rintro tail rfl
  exact absurd rfl mantissa.2

private theorem isDigits_zeros_append {digits : List Char} (n : Nat) (isDigits : IsDigits digits) :
    IsDigits (zeros n ++ digits) := by
  refine ⟨List.append_ne_nil_of_right_ne_nil _ isDigits.1, fun c member => ?_⟩
  rcases List.mem_append.mp member with zero | later
  · obtain rfl := List.eq_of_mem_replicate zero
    decide
  · exact isDigits.2 c later

theorem isDigits_zero : IsDigits ['0'] := ⟨List.cons_ne_nil _ _, by simp⟩

private theorem isWhole_zero : IsWhole ['0'] :=
  ⟨isDigits_zero, fun _ same => (List.cons.inj same).2.symm⟩

/-- A text that is a numeral without a sign. -/
def IsUnsigned (text : List Char) : Prop :=
  ∃ whole fraction exponent, IsWhole whole ∧ (∀ written ∈ fraction, IsDigits written) ∧
    (∀ written ∈ exponent, IsDigits written.2) ∧
    text = whole ++ fractionText fraction ++ exponentText exponent

/-- In each of the layouts the digits make up a numeral. -/
theorem isUnsigned_layOut {digits : List Char} (mantissa : IsMantissa digits) (exponent : Int) :
    IsUnsigned (layOut digits exponent) := by
  obtain ⟨first, tail, rfl⟩ := List.exists_cons_of_ne_nil mantissa.1.1
  have firstDigit : first.isDigit := mantissa.1.2 first List.mem_cons_self
  have single : IsWhole [first] := by
    refine ⟨⟨List.cons_ne_nil _ _, by simpa using firstDigit⟩, ?_⟩
    rintro tail same
    exact (List.cons.inj same).2.symm
  have noFraction : ∀ written ∈ (none : Option (List Char)), IsDigits written := nofun
  have noExponent : ∀ written ∈ (none : Option (Bool × List Char)), IsDigits written.2 := nofun
  unfold layOut
  split
  · -- The mantissa has a point if it has more than one digit.
    let written : Bool × List Char := (decide (exponent < 0), digitsOf exponent.natAbs)
    have exponentDigits : ∀ other ∈ some written, IsDigits other.2 := by
      rintro other same
      obtain rfl := Option.some.inj same
      exact isDigits_digitsOf _
    cases tail with
    | nil =>
      exact ⟨[first], none, some written, single, noFraction, exponentDigits,
        by simp [fractionText, exponentText, written]⟩
    | cons second tail =>
      refine ⟨[first], some (second :: tail), some written, single, ?_, exponentDigits,
        by simp [fractionText, exponentText, written]⟩
      rintro other same
      obtain rfl := Option.some.inj same
      exact ⟨List.cons_ne_nil _ _, fun c member => mantissa.1.2 c (List.mem_cons_of_mem _ member)⟩
  · split
    · refine ⟨['0'], some (zeros (-exponent - 1).toNat ++ first :: tail), none, ?_, ?_, noExponent,
        by simp [fractionText, exponentText]⟩
      · exact isWhole_zero
      · rintro other same
        obtain rfl := Option.some.inj same
        exact isDigits_zeros_append _ mantissa.1
    · let whole := exponent.toNat + 1
      let point := if whole < (first :: tail).length then (first :: tail).drop whole else ['0']
      refine ⟨(first :: tail).take whole ++ zeros (whole - (first :: tail).length), some point, none,
        ?_, ?_, noExponent, by simp [fractionText, exponentText, whole, point]⟩
      · refine IsMantissa.isWhole ⟨⟨by simp [whole], fun c member => ?_⟩, ?_⟩
        · rcases List.mem_append.mp member with taken | zero
          · exact mantissa.1.2 c (List.mem_of_mem_take taken)
          · obtain rfl := List.eq_of_mem_replicate zero
            decide
        · simpa [whole] using mantissa.2
      · rintro other same
        obtain rfl := Option.some.inj same
        unfold point
        split
        · next more =>
          exact ⟨by simpa using more, fun c member => mantissa.1.2 c (List.mem_of_mem_drop member)⟩
        · exact isDigits_zero

/-! ### The digits are not all zero -/

private theorem unitsOf_ne_zero {code : Nat} (positive : code ≠ 0) : unitsOf code ≠ 0 := by
  have significand : 0 < significandOf code := by
    unfold significandOf scaleOf codeRun
    omega
  rw [unitsOf, Nat.shiftLeft_eq]
  exact Nat.mul_ne_zero (by omega) (Nat.two_pow_pos _).ne'

private theorem codeOfDecimal_zero (exponent : Int) : codeOfDecimal 0 exponent = 0 := by
  have zero (den : Nat) : nearestCode 0 den = 0 := by
    simp [nearestCode, nearest, Nat.log2_zero]
  unfold codeOfDecimal
  split <;> simp [zero]

private theorem shortestFrom_ne_zero {code : Nat} (positive : code ≠ 0) (exponent : Int)
    (fuel digits : Nat) : (shortestFrom code exponent fuel digits).1 ≠ 0 := by
  induction fuel generalizing digits with
  | zero => exact unitsOf_ne_zero positive
  | succ fuel ih =>
    rw [shortestFrom]
    split
    · next m found =>
      rintro rfl
      have same := List.find?_some found
      rw [decide_eq_true_iff, codeOfDecimal_zero] at same
      exact positive same.symm
    · exact ih (digits + 1)

private theorem isUnsigned_magnitudeText (code : Nat) : IsUnsigned (magnitudeText code) := by
  unfold magnitudeText
  split
  · refine ⟨['0'], some ['0'], none, isWhole_zero, ?_, nofun, rfl⟩
    rintro digits same
    obtain rfl := Option.some.inj same
    exact isDigits_zero
  · next positive =>
    have digits : (shortest code).1 ≠ 0 := by
      rw [shortest]
      exact shortestFrom_ne_zero positive _ _ _
    generalize shortest code = found at digits ⊢
    obtain ⟨m, e⟩ := found
    exact isUnsigned_layOut (isMantissa_trimZeros (isMantissa_digitsOf digits)) _

end Double

open Json in
/-- The text of a number is a numeral, or the word for nothing. -/
theorem Number.text_cases (number : Number) :
    number.text = "null".toList ∨ ∃ numeral, Denotes number.text numeral := by
  cases number with
  | integer i => exact .inr ⟨_, Number.denotes_integer i⟩
  | double d =>
    cases d with
    | infinite negative => exact .inl rfl
    | nan => exact .inl rfl
    | finite negative code =>
      obtain ⟨whole, fraction, exponent, isWhole, fractionDigits, exponentDigits, magnitude⟩ :=
        Double.isUnsigned_magnitudeText code
      have written := denotes_written negative isWhole fractionDigits exponentDigits
      have text : (Number.double (.finite negative code)).text
          = (if negative then ['-'] else []) ++ whole ++ fractionText fraction
            ++ exponentText exponent := by
        change (if negative then '-' :: Double.magnitudeText code else Double.magnitudeText code) = _
        rw [magnitude]
        cases negative <;> simp
      exact .inr ⟨_, text ▸ written⟩

end Stencil
