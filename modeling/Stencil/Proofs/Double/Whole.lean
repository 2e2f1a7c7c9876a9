import Mathlib.Algebra.Group.Nat.Defs
import Stencil.Proofs.Json.Decimal

/-!
# Whole numbers read back

A reader multiplies or divides what it read of a decimal by a power of ten and rounds once
more, so it may miss the number that was written. It does not if the number is whole and ten
times its magnitude is below `2^53`: the significand and the power of ten are then exact, and
so is their quotient (`Number.readsBack_whole`).
-/
namespace Stencil

namespace Double

/-! ### Rounding -/

private theorem one_shiftLeft (k : Nat) : 1 <<< k = 2 ^ k := Nat.one_shiftLeft k

/-- The exponent is kept apart, as the power is not to be computed. -/
private theorem exists_one_eq : ∃ k, k = 1074 ∧ one = 2 ^ k := ⟨1074, rfl, one_shiftLeft 1074⟩

private theorem one_pos : 0 < one := by
  obtain ⟨k, -, power⟩ := exists_one_eq
  rw [power]
  exact Nat.two_pow_pos k

/-- Only the quotient is rounded. -/
private theorem nearestCode_mul_left {factor : Nat} (positive : 0 < factor) (num den : Nat) :
    nearestCode (factor * num) (factor * den) = nearestCode num den := by
  have quotient (den : Nat) : nearest (factor * num) (factor * den) = nearest num den := by
    have twice : 2 * (factor * (num % den)) = factor * (2 * (num % den)) := Nat.mul_left_comm ..
    simp only [nearest, Nat.mul_div_mul_left _ _ positive, Nat.mul_mod_mul_left, twice,
      Nat.mul_lt_mul_left positive]
  have shifted (scale : Nat) : (factor * den) <<< scale = factor * (den <<< scale) := by
    rw [Nat.shiftLeft_eq, Nat.shiftLeft_eq, Nat.mul_assoc]
  rw [nearestCode, nearestCode, Nat.mul_div_mul_left _ _ positive, shifted, quotient]

/-- What divides without remainder is not rounded. -/
private theorem nearest_mul {den : Nat} (positive : 0 < den) (n : Nat) : nearest
    (n * den) den = n := by
  simp [nearest, Nat.mul_div_cancel n positive, positive]

private theorem log2_mul_two_pow {n : Nat} (positive : n ≠ 0) (k : Nat) :
    (n * 2 ^ k).log2 = n.log2 + k := by
  have product : n * 2 ^ k ≠ 0 := Nat.mul_ne_zero positive (Nat.two_pow_pos k).ne'
  rw [Nat.log2_eq_iff product, Nat.pow_add, Nat.add_right_comm, Nat.pow_add]
  exact ⟨Nat.mul_le_mul_right _ (Nat.log2_self_le positive),
    Nat.mul_lt_mul_of_pos_right Nat.lt_log2_self (Nat.two_pow_pos k)⟩

section

variable {n : Nat}

/-- The significand of a natural number, if it needs no rounding. -/
private def wholeSignificand (n : Nat) : Nat := n * 2 ^ (52 - n.log2)

private theorem wholeSignificand_bounds (positive : n ≠ 0) (small : n < 2 ^ 53) :
    codeRun ≤ wholeSignificand n ∧ wholeSignificand n < 2 * codeRun := by
  have few : n.log2 ≤ 52 := Nat.le_of_lt_succ ((Nat.log2_lt positive).mpr small)
  have low : 2 ^ n.log2 * 2 ^ (52 - n.log2) = codeRun := by
    rw [← Nat.pow_add, Nat.add_sub_cancel' few]
    rfl
  constructor
  · rw [← low]
    exact Nat.mul_le_mul_right _ (Nat.log2_self_le positive)
  · rw [← low, ← Nat.mul_assoc, ← Nat.pow_succ']
    exact Nat.mul_lt_mul_of_pos_right Nat.lt_log2_self (Nat.two_pow_pos _)

private theorem wholeSignificand_shift (positive : n ≠ 0) (small : n < 2 ^ 53) :
    wholeSignificand n * 2 ^ (n.log2 + 1022) = n * one := by
  have few : n.log2 ≤ 52 := Nat.le_of_lt_succ ((Nat.log2_lt positive).mpr small)
  obtain ⟨k, exponent, power⟩ := exists_one_eq
  have total : 52 - n.log2 + (n.log2 + 1022) = k := by omega
  rw [wholeSignificand, Nat.mul_assoc, ← Nat.pow_add, total, power]

/-- The code of a natural number is made of its scale and its significand. -/
private theorem nearestCode_whole (positive : n ≠ 0) (small : n < 2 ^ 53) :
    nearestCode (n * one) 1 = (n.log2 + 1022) * codeRun + wholeSignificand n := by
  obtain ⟨k, exponent, power⟩ := exists_one_eq
  have total : (n * one).log2 = n.log2 + k := by rw [power, log2_mul_two_pow positive]
  have scale : (n * one).log2 - 52 = n.log2 + 1022 := by omega
  rw [nearestCode, Nat.div_one, scale, Nat.one_shiftLeft, ← wholeSignificand_shift positive small,
    nearest_mul (Nat.two_pow_pos _)]

/-- Natural numbers below `2^53` are doubles. -/
theorem unitsOf_nearestCode (small : n < 2 ^ 53) : unitsOf (nearestCode (n * one) 1) = n * one := by
  by_cases positive : n = 0
  · subst positive
    rw [Nat.zero_mul]
    decide
  · obtain ⟨low, high⟩ := wholeSignificand_bounds positive small
    have scale : scaleOf (nearestCode (n * one) 1) = n.log2 + 1022 := by
      rw [nearestCode_whole positive small, scaleOf]
      unfold codeRun at low high ⊢
      omega
    have significand : significandOf (nearestCode (n * one) 1) = wholeSignificand n := by
      rw [significandOf, scale, nearestCode_whole positive small, Nat.add_sub_cancel_left]
    rw [unitsOf, scale, significand, Nat.shiftLeft_eq, wholeSignificand_shift positive small]

private theorem nearestCode_lt_infinityCode (small : n < 2 ^ 53) :
    nearestCode (n * one) 1 < infinityCode := by
  by_cases positive : n = 0
  · subst positive
    rw [Nat.zero_mul]
    decide
  · have few : n.log2 < 53 := (Nat.log2_lt positive).mpr small
    obtain ⟨-, high⟩ := wholeSignificand_bounds positive small
    rw [nearestCode_whole positive small]
    unfold infinityCode codeRun at *
    omega

/-- No two of them are the same double. -/
theorem nearestCode_inj {m : Nat} (small : n < 2 ^ 53) (other : m < 2 ^ 53)
    (same : nearestCode (m * one) 1 = nearestCode (n * one) 1) : m = n := by
  have units : m * one = n * one := by
    rw [← unitsOf_nearestCode small, ← unitsOf_nearestCode other, same]
  exact Nat.mul_right_cancel one_pos units

private theorem ofNat_eq_ofCode (n : Nat) : ofNat n = ofCode false (nearestCode (n * one) 1) :=
  rfl

private theorem ofNat_eq_finite (small : n < 2 ^ 53) :
    ofNat n = .finite false ⟨nearestCode (n * one) 1, nearestCode_lt_infinityCode small⟩ :=
  dif_pos (nearestCode_lt_infinityCode small)

/-- A quotient of finite numbers is rounded once. -/
private theorem div_finite (a b : Fin infinityCode) (nonzero : b.val ≠ 0) :
    Double.finite false a / Double.finite false b
      = ofCode false (nearestCode (unitsOf a * one) (unitsOf b)) :=
  if_neg nonzero

private theorem neg_finite (negative : Bool) (code : Fin infinityCode) :
    -Double.finite negative code = .finite (!negative) code :=
  rfl

/-- Division by ten is exact if its result is whole. -/
theorem ofNat_div_ten (small : n * 10 < 2 ^ 53) : ofNat (n * 10) / ofNat 10 = ofNat n := by
  have ten : (10 : Nat) < 2 ^ 53 := by decide
  have divisor : unitsOf (nearestCode (10 * one) 1) = 10 * one := unitsOf_nearestCode ten
  have nonzero : nearestCode (10 * one) 1 ≠ 0 := by
    intro zero
    have none : unitsOf 0 = 0 := by decide
    rw [zero, none] at divisor
    have := one_pos
    omega
  have units : n * 10 * one * one = 10 * one * (n * one) := by
    rw [Nat.mul_comm n 10, Nat.mul_assoc 10, Nat.mul_assoc 10, Nat.mul_assoc 10,
      Nat.mul_right_comm n, Nat.mul_comm one]
  have quotient : nearestCode (n * 10 * one * one) (10 * one) = nearestCode (n * one) 1 := by
    have factor : 0 < 10 * one := Nat.mul_pos (by decide) one_pos
    have scaled := nearestCode_mul_left factor (n * one) 1
    rwa [Nat.mul_one, ← units] at scaled
  have rounded := div_finite ⟨_, nearestCode_lt_infinityCode small⟩
    ⟨_, nearestCode_lt_infinityCode ten⟩ nonzero
  dsimp only at rounded
  rw [ofNat_eq_finite small, ofNat_eq_finite ten, rounded, unitsOf_nearestCode small, divisor,
    quotient, ofNat_eq_ofCode]

end

/-! ### The digits of a whole number -/

section

variable {n : Nat}

/-- The search for the shortest decimal ends at one that is equal to the number. -/
private theorem shortestFrom_whole (small : n * 10 < 2 ^ 53) {exponent : Nat}
    (leads : 10 ^ exponent ≤ n) :
    ∀ fuel digits : Nat, digits ≤ exponent → exponent < digits + fuel →
      ∃ m e : Nat, shortestFrom (nearestCode (n * one) 1) exponent fuel digits = (m, (e : Int)) ∧
        m * 10 ^ e = n := by
  intro fuel
  induction fuel with
  | zero => omega
  | succ fuel ih =>
    intro digits within enough
    -- Up to the last digit before the point the grid has a step that is a natural number.
    obtain ⟨e, split⟩ := Nat.exists_eq_add_of_le within
    have step : (exponent : Int) - digits = (e : Int) := by omega
    have power : tenPower e = 10 ^ e := rfl
    have least : 10 ^ e ≤ n := Nat.le_trans (Nat.pow_le_pow_right (by decide) (by omega)) leads
    have code (m : Nat) : codeOfDecimal m e = nearestCode (m * 10 ^ e * one) 1 :=
      if_pos (Int.natCast_nonneg e)
    have floor : n * one / (one * 10 ^ e) = n / 10 ^ e := by
      rw [Nat.mul_comm n, Nat.mul_div_mul_left _ _ one_pos]
    have neighbours : ∀ m, m ∈ gridNeighbours (unitsOf (nearestCode (n * one) 1)) e ↔
        m = n / 10 ^ e ∨ m = n / 10 ^ e + 1 := by
      intro m
      have grid := unitsOf_nearestCode (n := n) (by omega)
      simp only [gridNeighbours, if_pos (Int.natCast_nonneg e), Int.toNat_natCast, power, grid, floor]
      split
      · simp
      · simp [or_comm]
    rw [shortestFrom, step]
    split
    · next m found =>
      have near := (neighbours m).mp (List.mem_of_find?_eq_some found)
      have same := List.find?_some found
      rw [decide_eq_true_iff, code] at same
      have reached : n / 10 ^ e * 10 ^ e ≤ n := Nat.div_mul_le_self n _
      -- Both decimals are small enough to be doubles, so what reads back as `n` is `n`.
      have close : m * 10 ^ e ≤ n + 10 ^ e := by
        rcases near with rfl | rfl
        · omega
        · rw [Nat.succ_mul]
          omega
      exact ⟨m, e, rfl, nearestCode_inj (by omega) (by omega) same⟩
    · next missed =>
      have absent := List.find?_eq_none.mp missed
      cases e with
      | zero =>
        -- With no digit cut off the number is its own neighbour.
        have self := absent n ((neighbours n).mpr (.inl (by rw [Nat.pow_zero, Nat.div_one])))
        rw [code, Nat.pow_zero, Nat.mul_one] at self
        exact absurd (decide_eq_true rfl) self
      | succ e => exact ih (digits + 1) (by omega) (by omega)

/-- The decimal a whole number is written with is equal to it. -/
theorem shortest_whole (positive : n ≠ 0) (small : n * 10 < 2 ^ 53) :
    ∃ m e : Nat, shortest (nearestCode (n * one) 1) = (m, (e : Int)) ∧ m * 10 ^ e = n := by
  have units := unitsOf_nearestCode (n := n) (by omega)
  have some : 0 < (digitsOf n).length := Nat.length_toDigits_pos
  have few : (digitsOf n).length ≤ 16 :=
    (Nat.length_toDigits_le_iff (by decide) (by decide)).mpr (by omega)
  -- The first digit stands for the greatest power of ten that is not above `n`.
  obtain ⟨exponent, length⟩ : ∃ exponent, (digitsOf n).length = exponent + 1 :=
    ⟨(digitsOf n).length - 1, by omega⟩
  have leads : 10 ^ exponent ≤ n := by
    cases exponent with
    | zero => exact Nat.pos_of_ne_zero positive
    | succ exponent =>
      have short : ¬ (digitsOf n).length ≤ exponent + 1 := by omega
      rwa [digitsOf, Nat.length_toDigits_le_iff (by decide) (by omega), Nat.not_lt] at short
  have decimal : decimalExponent (n * one) = exponent := by
    have large : one ≤ n * one := Nat.le_mul_of_pos_left one (Nat.pos_of_ne_zero positive)
    rw [decimalExponent, if_pos large, Nat.mul_div_cancel n one_pos, length]
    omega
  rw [shortest, units, decimal]
  exact shortestFrom_whole small leads 17 0 (Nat.zero_le _) (by omega)

/-- Zeros behind the digits stand for a power of ten. -/
private theorem digitsOf_mul_ten_pow {m : Nat} (positive : m ≠ 0) (e : Nat) :
    digitsOf (m * 10 ^ e) = digitsOf m ++ zeros e := by
  induction e with
  | zero => simp [zeros]
  | succ e ih =>
    have filled : 0 < m * 10 ^ e := Nat.mul_pos (Nat.pos_of_ne_zero positive) (Nat.pow_pos (by decide))
    have last : Nat.toDigits 10 0 = ['0'] := Nat.toDigits_zero 10
    have next := Nat.toDigits_append_toDigits (b := 10) (d := 0) (by decide) filled (by decide)
    rw [last, Nat.add_zero] at next
    rw [Nat.pow_succ, ← Nat.mul_assoc, Nat.mul_comm _ 10, digitsOf, ← next]
    change digitsOf (m * 10 ^ e) ++ ['0'] = _
    rw [ih, List.append_assoc, zeros, zeros, List.replicate_succ']

/-- The zeros that are dropped at the end can be put back. -/
private theorem trimZeros_append_zeros (digits : List Char) :
    (trimZeros digits).length ≤ digits.length ∧
      trimZeros digits ++ zeros (digits.length - (trimZeros digits).length) = digits := by
  have whole : digits = trimZeros digits ++ (digits.reverse.takeWhile (· = '0')).reverse := by
    rw [trimZeros, ← List.reverse_append, List.takeWhile_append_dropWhile, List.reverse_reverse]
  have dropped : (digits.reverse.takeWhile (· = '0')).reverse
      = zeros (digits.reverse.takeWhile (· = '0')).length := by
    refine List.eq_replicate_iff.mpr ⟨List.length_reverse, fun c member => ?_⟩
    have taken := List.mem_takeWhile_imp (List.mem_reverse.mp member)
    exact of_decide_eq_true taken
  have length := congrArg List.length whole
  rw [List.length_append, List.length_reverse] at length
  refine ⟨by omega, ?_⟩
  have rest : digits.length - (trimZeros digits).length
      = (digits.reverse.takeWhile (· = '0')).length := by omega
  rw [rest, ← dropped, ← whole]

/-- A whole number is written out, with a zero behind the point. -/
theorem magnitudeText_whole (small : n * 10 < 2 ^ 53) :
    magnitudeText (nearestCode (n * one) 1) = digitsOf n ++ ['.', '0'] := by
  by_cases positive : n = 0
  · subst positive
    rw [Nat.zero_mul]
    decide
  · obtain ⟨m, e, found, value⟩ := shortest_whole positive small
    have leads : m ≠ 0 := by
      rintro rfl
      omega
    have code : nearestCode (n * one) 1 ≠ 0 := by
      intro zero
      have none : nearestCode (0 * one) 1 = 0 := by decide
      exact positive (nearestCode_inj (by decide) (by omega) (zero.trans none.symm))
    obtain ⟨shorter, whole⟩ := trimZeros_append_zeros (digitsOf m)
    have digits : digitsOf n = digitsOf m ++ zeros e := value ▸ digitsOf_mul_ten_pow leads e
    have length : (digitsOf n).length = (digitsOf m).length + e := by
      rw [digits, List.length_append, zeros, List.length_replicate]
    have some : 0 < (digitsOf m).length := Nat.length_toDigits_pos
    have few : (digitsOf n).length ≤ 16 :=
      (Nat.length_toDigits_le_iff (by decide) (by decide)).mpr (by omega)
    -- The point stands behind as many digits as `n` has, which is within the layout.
    have places : ((e : Int) + (digitsOf m).length - 1).toNat + 1 = (digitsOf n).length := by omega
    have written : ¬ ((e : Int) + (digitsOf m).length - 1 < layout.least ∨
        layout.greatest < (e : Int) + (digitsOf m).length - 1) := by
      have least : layout.least = -5 := rfl
      have greatest : layout.greatest = 15 := rfl
      omega
    rw [magnitudeText, if_neg code, found]
    unfold layOut
    dsimp only
    rw [if_neg written, if_neg (by omega), places, if_neg (by omega),
      List.take_of_length_le (by omega)]
    -- The zeros written before the point are those trimmed and those of the power.
    have filled : (digitsOf n).length - (trimZeros (digitsOf m)).length
        = (digitsOf m).length - (trimZeros (digitsOf m)).length + e := by omega
    rw [filled, zeros, List.replicate_add, ← List.append_assoc]
    change trimZeros (digitsOf m) ++ zeros _ ++ zeros e ++ ['.', '0'] = _
    rw [whole, ← digits]

/-! ### Reading -/

open Json

/-- The digits of a whole number and the zero behind its point are taken for a significand. -/
theorem number?_whole (negative : Bool) (small : n * 10 < 2 ^ 53) :
    Numeral.number? ⟨negative, digitsOf n, some ['0'], none⟩
      = some (.double (signed negative (ofNat n))) := by
  have value : Nat.ofDigitChars 10 (digitsOf n) 0 = n :=
    Nat.ofDigitChars_toDigits (by decide) (by decide)
  have below : n * 10 < Text.limit64 := by
    unfold Text.limit64
    omega
  have read : absorb 0 (digitsOf n) = (n, []) := by
    rw [absorb_of_lt (by rw [value]; omega), value]
  have point : absorb n ['0'] = (n * 10, []) := if_pos below
  -- One digit behind the point makes the exponent `-1`.
  have scaled : scale? (n * 10) (-1) = some (ofNat n) := by
    have ten : powerOfTen (Int.natAbs (-1)) = ofNat 10 := by decide +kernel
    rw [scale?, if_pos (by decide), divideByPower, if_pos (by decide), ten, ofNat_div_ten small]
  rw [Numeral.number?, read]
  dsimp only [Option.getD_some, Option.getD_none]
  rw [point, assemble?, if_pos (by decide), if_neg Bool.false_ne_true]
  dsimp only
  have exponent : clampExponent
      (([] : List Char).length - ((['0'].length - ([] : List Char).length : Nat) : Int) + (0 : Nat))
        = -1 := by decide
  rw [exponent, scaled, Option.map_some, Option.map_some]

end

end Double

/-- The sign of a double is written before its magnitude. -/
private theorem Number.text_signed (negative : Bool) (code : Fin infinityCode) :
    (Number.double (Json.signed negative (.finite false code))).text
      = (if negative then ['-'] else []) ++ Double.magnitudeText code := by
  cases negative <;> simp [text, Json.signed, Double.neg_finite, Double.text?]

open Json in
/-- A whole number reads back if ten times its magnitude is below `2^53`. -/
theorem Number.readsBack_whole (negative : Bool) {n : Nat} (small : n * 10 < 2 ^ 53) :
    (Number.double (signed negative (.ofNat n))).ReadsBack := by
  have text : (Number.double (signed negative (.ofNat n))).text
      = (if negative then ['-'] else []) ++ Double.digitsOf n ++ fractionText (some ['0'])
        ++ exponentText none := by
    rw [Double.ofNat_eq_finite (by omega), text_signed, Double.magnitudeText_whole small]
    simp [fractionText, exponentText]
  have isWhole : IsWhole (Double.digitsOf n) :=
    ⟨Double.isDigits_digitsOf n, fun _ => digits_eq_zero_cons⟩
  have point : ∀ written ∈ some ['0'], IsDigits written := by
    rintro written same
    obtain rfl := Option.some.inj same
    exact Double.isDigits_zero
  have noExponent : ∀ written ∈ (none : Option (Bool × List Char)), IsDigits written.2 := by
    intro written absent
    cases absent
  have denotes := denotes_written negative isWhole point noExponent
  rw [← text] at denotes
  rw [Number.ReadsBack, denotes.reread?, Option.map_none, Double.number?_whole negative small,
    Option.map_some]

end Stencil
