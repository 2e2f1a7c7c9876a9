/-!
# Tables of code points

A set of code points is the ascending list of its closed ranges. In the tables it
is written as the lengths, in hexadecimal, of the stretches of code points that
are not and are in the set in turn, from zero up.
-/
namespace Stencil.Unicode

/-- Ascending, disjoint, closed ranges of code points. -/
abbrev Ranges := List (Nat × Nat)

def lastCode : Nat := 0x10FFFF

def Ranges.containsCode (ranges : Ranges) (code : Nat) : Bool :=
  ranges.any fun range => range.1 ≤ code && code ≤ range.2

/-- The words of a line that are separated by single blanks. -/
def wordsOf (line : String) : List (List Char) :=
  let (word, done) := line.toList.foldl
    (fun (word, done) c => if c = ' ' then ([], word.reverse :: done) else (c :: word, done))
    (([] : List Char), ([] : List (List Char)))
  (word.reverse :: done).reverse

/-- The words of several lines. -/
def words (lines : List String) : List (List Char) := lines.flatMap wordsOf

def hexDigitValue (c : Char) : Nat :=
  if c.isDigit then c.toNat - '0'.toNat else c.toNat - 'a'.toNat + 10

/-- A natural number in lower-case hexadecimal. -/
def hexNatural (digits : List Char) : Nat :=
  digits.foldl (fun n c => n * 16 + hexDigitValue c) 0

/-- The ranges that start after the next stretch from `start` on. -/
def rangesFrom : Nat → List Nat → Ranges
  | start, gap :: length :: rest =>
    (start + gap, start + gap + length - 1) :: rangesFrom (start + gap + length) rest
  | start, [gap] => [(start + gap, lastCode)]
  | _, [] => []

def decodeRanges (lines : List String) : Ranges := rangesFrom 0 ((words lines).map hexNatural)

end Stencil.Unicode
