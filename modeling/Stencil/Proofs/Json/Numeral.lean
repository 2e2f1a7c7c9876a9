import Stencil.Json.Numeral
import Stencil.Json.Writer
import Stencil.Proofs.Text

/-!
# Numerals read back

An integer of 64 bits is read as it was written.
-/
namespace Stencil

namespace Json

/-- A text that no numeral goes on with. -/
def EndsNumeral (rest : List Char) : Prop :=
  ∀ c ∈ rest.head?, c.isDigit = false ∧ c ≠ '.' ∧ c ≠ 'e' ∧ c ≠ 'E'

/-- Wherever it ends, a text is read as this numeral. -/
structure Denotes (text : List Char) (numeral : Numeral) : Prop where
  starts : ∃ c tail, text = c :: tail ∧ (c = '-' ∨ c.isDigit)
  reads : ∀ rest, EndsNumeral rest → numeral? (text ++ rest) = some (numeral, rest)

end Json

/-- What the text of a number is read as; a text that is no numeral stands for nothing. -/
def Number.reread? (number : Number) : Option Value :=
  if number.text = "null".toList then some .null
  else (Json.numeral? number.text).bind fun (numeral, _) => numeral.number?.map .number

/-- A number is read as it was written. -/
def Number.ReadsBack (number : Number) : Prop := number.reread? = some (.number number)

namespace Json

/-! ### Digits -/

theorem isDigit_of_mem_digits {n : Nat} {c : Char} (member : c ∈ Nat.toDigits 10 n) : c.isDigit :=
  Nat.isDigit_of_mem_toDigits (by decide) (by decide) member

/-- Only zero starts with a zero. -/
theorem digits_eq_zero_cons {n : Nat} {tail : List Char} (starts : Nat.toDigits 10 n = '0' :: tail) :
    tail = [] := by
  induction n using Nat.strongRecOn generalizing tail with
  | ind n ih =>
    by_cases small : n < 10
    · rw [Nat.toDigits_of_lt_base small] at starts
      exact (List.cons.inj starts).2.symm
    · have large : 10 ≤ n := Nat.not_lt.mp small
      rw [Nat.toDigits_of_base_le (by decide) large] at starts
      obtain ⟨c, before, digits⟩ := List.exists_cons_of_ne_nil (Nat.toDigits_ne_nil)
      rw [digits] at starts
      obtain ⟨rfl, -⟩ := List.cons.inj starts
      have alone := ih (n / 10) (by omega) digits
      rw [alone] at digits
      -- What is left of `n` would be zero.
      have value := Nat.ofDigitChars_toDigits (b := 10) (n := n / 10) (by decide) (by decide)
      rw [digits] at value
      have zero : n / 10 = 0 := value.symm
      omega

private theorem splitDigits_append {digits rest : List Char} (digit : ∀ c ∈ digits, c.isDigit)
    (ends : ∀ c ∈ rest.head?, c.isDigit = false) : splitDigits (digits ++ rest) = (digits, rest) := by
  rw [splitDigits, Text.takeWhile_run digit ends, Text.dropWhile_run digit ends]

theorem le_ofDigitChars (digits : List Char) (n : Nat) : n ≤ Nat.ofDigitChars 10 digits n := by
  induction digits generalizing n with
  | nil => exact Nat.le_refl n
  | cons c rest ih => exact Nat.le_trans (by omega) (ih (10 * n + (c.toNat - '0'.toNat)))

/-- To append a digit is to go on with it in the value of the digits. -/
theorem append_digit (n : Nat) (c : Char) :
    n * 10 + Text.digitValue c = 10 * n + (c.toNat - '0'.toNat) := by
  rw [Nat.mul_comm]
  rfl

/-- Digits that stay below the limit are absorbed. -/
theorem absorb_of_lt {digits : List Char} {n : Nat}
    (below : Nat.ofDigitChars 10 digits n < Text.limit64) :
    absorb n digits = (Nat.ofDigitChars 10 digits n, []) := by
  induction digits generalizing n with
  | nil => rfl
  | cons c rest ih =>
    have next := append_digit n c
    have later := le_ofDigitChars rest (10 * n + (c.toNat - '0'.toNat))
    have fits : n * 10 + Text.digitValue c < Text.limit64 :=
      next ▸ Nat.lt_of_le_of_lt later below
    rw [absorb, if_pos fits, next]
    exact ih below

private theorem exponentPart_of_ends {rest : List Char} (ends : EndsNumeral rest) :
    exponentPart rest = some (none, rest) := by
  cases rest with
  | nil => rfl
  | cons c rest =>
    obtain ⟨-, -, lower, upper⟩ := ends c rfl
    simp [exponentPart, lower, upper]

/-- Sign and magnitude make the integer. -/
theorem integer_natAbs {i : Int} (low : -(Text.signedLimit64 : Int) ≤ i) :
    integer (decide (i < 0)) i.natAbs = .integer i := by
  by_cases negative : i < 0
  · have positive : 0 < i.natAbs := by omega
    have fits : i.natAbs ≤ Text.signedLimit64 := by omega
    have same : -(i.natAbs : Int) = i := by omega
    have inRange : 0 < i.natAbs ∧ i.natAbs ≤ Text.signedLimit64 := ⟨positive, fits⟩
    rw [integer, decide_eq_true negative, if_neg (by decide), if_pos inRange, same]
  · have same : (i.natAbs : Int) = i := by omega
    rw [integer, decide_eq_false negative, if_pos (by decide), same]

/-! ### Numerals from their parts -/

/-- The fraction of a numeral as it is written. -/
def fractionText : Option (List Char) → List Char
  | none => []
  | some digits => '.' :: digits

/-- The exponent of a numeral as it is written, from its sign and digits. -/
def exponentText : Option (Bool × List Char) → List Char
  | none => []
  | some (negative, digits) => 'e' :: (if negative then '-' else '+') :: digits

/-- A nonempty text of digits. -/
def IsDigits (digits : List Char) : Prop := digits ≠ [] ∧ ∀ c ∈ digits, c.isDigit

/-- The digits in front of the point have no zeros at their start that could be left out. -/
def IsWhole (digits : List Char) : Prop :=
  IsDigits digits ∧ ∀ tail, digits = '0' :: tail → tail = []

variable {whole rest : List Char}

private theorem wholePart_written (isWhole : IsWhole whole)
    (ends : ∀ c ∈ rest.head?, c.isDigit = false) :
    wholePart (whole ++ rest) = some (whole, rest) := by
  obtain ⟨⟨nonempty, digit⟩, plain⟩ := isWhole
  rw [wholePart, splitDigits_append digit ends]
  split
  · next empty => exact absurd (Prod.mk.inj empty).1 nonempty
  · next zero => exact absurd (plain _ (Prod.mk.inj zero).1) (List.cons_ne_nil _ _)
  · rfl

private theorem fractionPart_written {fraction : Option (List Char)}
    (digits : ∀ written ∈ fraction, IsDigits written)
    (ends : ∀ c ∈ rest.head?, c.isDigit = false ∧ c ≠ '.') :
    fractionPart (fractionText fraction ++ rest) = some (fraction, rest) := by
  cases fraction with
  | none =>
    change fractionPart rest = _
    unfold fractionPart
    split
    · exact absurd rfl (ends '.' rfl).2
    · rfl
  | some written =>
    obtain ⟨nonempty, digit⟩ := digits written rfl
    obtain ⟨first, tail, rfl⟩ := List.exists_cons_of_ne_nil nonempty
    have split : splitDigits (first :: tail ++ rest) = (first :: tail, rest) :=
      splitDigits_append digit fun c member => (ends c member).1
    change fractionPart ('.' :: (first :: tail ++ rest)) = _
    rw [fractionPart, split]

/-- The value of the digits of an exponent. -/
def exponentValue (exponent : Bool × List Char) : Bool × Nat :=
  (exponent.1, exponent.2.foldl (fun n d => n * 10 + Text.digitValue d) 0)

private theorem exponentPart_written {exponent : Option (Bool × List Char)}
    (digits : ∀ written ∈ exponent, IsDigits written.2) (ends : EndsNumeral rest) :
    exponentPart (exponentText exponent ++ rest) = some (exponent.map exponentValue, rest) := by
  cases exponent with
  | none => exact exponentPart_of_ends ends
  | some written =>
    obtain ⟨negative, written⟩ := written
    obtain ⟨nonempty, digit⟩ := digits (negative, written) rfl
    obtain ⟨first, tail, rfl⟩ := List.exists_cons_of_ne_nil nonempty
    have split : splitDigits (first :: tail ++ rest) = (first :: tail, rest) :=
      splitDigits_append digit fun c member => (ends c member).1
    -- A minus is taken off first, and a plus only if there was none.
    have minus : dropSign '-' ('-' :: (first :: tail ++ rest)) = (true, first :: tail ++ rest) := rfl
    have noMinus : dropSign '-' ('+' :: (first :: tail ++ rest))
        = (false, '+' :: (first :: tail ++ rest)) := by simp [dropSign]
    have plus : dropSign '+' ('+' :: (first :: tail ++ rest)) = (true, first :: tail ++ rest) := rfl
    rw [exponentText, List.cons_append, List.cons_append, exponentPart, if_pos (.inl rfl)]
    cases negative with
    | true =>
      simp only [if_true, minus, split]
      rfl
    | false =>
      simp only [Bool.false_eq_true, if_false, noMinus, plus, split]
      rfl

/-- A numeral is read with the parts it was written from. -/
theorem numeral?_written (negative : Bool) {fraction : Option (List Char)}
    {exponent : Option (Bool × List Char)} (isWhole : IsWhole whole)
    (fractionDigits : ∀ written ∈ fraction, IsDigits written)
    (exponentDigits : ∀ written ∈ exponent, IsDigits written.2) (ends : EndsNumeral rest) :
    numeral? ((if negative then ['-'] else []) ++ whole ++ fractionText fraction
        ++ exponentText exponent ++ rest)
      = some (⟨negative, whole, fraction, exponent.map exponentValue⟩, rest) := by
  obtain ⟨first, tail, starts⟩ := List.exists_cons_of_ne_nil isWhole.1.1
  -- A whole part starts with a digit, which is no sign.
  have sign (behind : List Char) : dropSign '-' ((if negative then ['-'] else []) ++ whole ++ behind)
      = (negative, whole ++ behind) := by
    have plain : first ≠ '-' := by
      rintro rfl
      exact absurd (isWhole.1.2 '-' (starts ▸ List.mem_cons_self)) (by decide)
    cases negative <;> simp [dropSign, starts, plain]
  -- Each part ends where the next one begins.
  have exponentEnds : ∀ c ∈ (exponentText exponent ++ rest).head?, c.isDigit = false ∧ c ≠ '.' := by
    intro c member
    cases exponent with
    | none => exact ⟨(ends c member).1, (ends c member).2.1⟩
    | some written =>
      obtain rfl := Option.some.inj member
      decide
  have fractionEnds : ∀ c ∈ (fractionText fraction ++ (exponentText exponent ++ rest)).head?,
      c.isDigit = false := by
    intro c member
    cases fraction with
    | none => exact (exponentEnds c member).1
    | some written =>
      obtain rfl := Option.some.inj member
      decide
  rw [List.append_assoc _ (fractionText fraction), List.append_assoc _ (_ ++ exponentText exponent),
    List.append_assoc (fractionText fraction), numeral?, sign]
  dsimp only
  rw [wholePart_written isWhole fractionEnds]
  change (fractionPart (fractionText fraction ++ (exponentText exponent ++ rest))).bind _ = _
  rw [fractionPart_written fractionDigits exponentEnds]
  change (exponentPart (exponentText exponent ++ rest)).bind _ = _
  rw [exponentPart_written exponentDigits ends]
  rfl

theorem endsNumeral_nil : EndsNumeral [] := nofun

/-- What is written from its parts denotes a numeral. -/
theorem denotes_written (negative : Bool) {fraction : Option (List Char)}
    {exponent : Option (Bool × List Char)} (isWhole : IsWhole whole)
    (fractionDigits : ∀ written ∈ fraction, IsDigits written)
    (exponentDigits : ∀ written ∈ exponent, IsDigits written.2) :
    Denotes ((if negative then ['-'] else []) ++ whole ++ fractionText fraction
        ++ exponentText exponent)
      ⟨negative, whole, fraction, exponent.map exponentValue⟩ := by
  constructor
  · obtain ⟨first, tail, rfl⟩ := List.exists_cons_of_ne_nil isWhole.1.1
    have digit := isWhole.1.2 first List.mem_cons_self
    cases negative with
    | true => exact ⟨'-', _, rfl, .inl rfl⟩
    | false => exact ⟨first, _, rfl, .inr digit⟩
  · exact fun rest ends => numeral?_written negative isWhole fractionDigits exponentDigits ends

/-- A numeral is read as the number it denotes. -/
theorem Denotes.reread? {number : Number} {numeral : Numeral} (denotes : Denotes number.text numeral) :
    number.reread? = numeral.number?.map .number := by
  have filled : number.text ≠ "null".toList := by
    obtain ⟨c, tail, starts, numeral⟩ := denotes.starts
    intro null
    rw [starts] at null
    obtain ⟨rfl, -⟩ := List.cons.inj null
    rcases numeral with same | digit
    · exact absurd same (by decide)
    · exact absurd digit (by decide)
  have read := denotes.reads [] endsNumeral_nil
  rw [List.append_nil] at read
  rw [Number.reread?, if_neg filled, read]
  rfl

end Json

/-! ### Integers -/

private theorem Number.text_integer (i : Int) : (Number.integer i).text =
    (if i < 0 then ['-'] else []) ++ Nat.toDigits 10 i.natAbs := by
  have written : (Number.integer i).text = i.repr.toList := rfl
  rw [written, Int.repr_eq_if]
  by_cases negative : i < 0
  · have size : (-i).toNat = i.natAbs := by omega
    rw [if_neg (by omega), if_pos negative, String.toList_append, Nat.toList_repr, size]
    rfl
  · have size : i.toNat = i.natAbs := by omega
    rw [if_pos (by omega), if_neg negative, Nat.toList_repr, size]
    rfl

open Json in
/-- All digits of an integer of 64 bits are kept. -/
theorem absorb_integer {i : Int} (low : -(Text.signedLimit64 : Int) ≤ i) (high : i < Text.limit64) :
    absorb 0 (Nat.toDigits 10 i.natAbs) = (i.natAbs, []) := by
  have value : Nat.ofDigitChars 10 (Nat.toDigits 10 i.natAbs) 0 = i.natAbs :=
    Nat.ofDigitChars_toDigits (by decide) (by decide)
  have below : Nat.ofDigitChars 10 (Nat.toDigits 10 i.natAbs) 0 < Text.limit64 := by
    rw [value]
    unfold Text.limit64 at high ⊢
    unfold Text.signedLimit64 at low
    omega
  rw [absorb_of_lt below, value]

open Json in
theorem Number.denotes_integer (i : Int) : Denotes (Number.integer i).text
    ⟨decide (i < 0), Nat.toDigits 10 i.natAbs, none, none⟩ := by
  have isWhole : IsWhole (Nat.toDigits 10 i.natAbs) :=
    ⟨⟨Nat.toDigits_ne_nil, fun _ => isDigit_of_mem_digits⟩, fun _ => digits_eq_zero_cons⟩
  have written := @denotes_written _ (decide (i < 0)) none none isWhole nofun nofun
  rw [Number.text_integer]
  simpa [fractionText, exponentText] using written

open Json in
theorem Number.readsBack_integer {i : Int} (low : -(Text.signedLimit64 : Int) ≤ i)
    (high : i < Text.limit64) : (Number.integer i).ReadsBack := by
  rw [Number.ReadsBack, (Number.denotes_integer i).reread?, Numeral.number?, absorb_integer low high]
  exact congrArg (fun number => some (Value.number number)) (integer_natAbs low)

end Stencil
