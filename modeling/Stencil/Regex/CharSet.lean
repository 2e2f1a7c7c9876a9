import Stencil.Unicode.Case
import Stencil.Unicode.Letter
import Stencil.Unicode.Property
import Stencil.Unicode.Script

/-!
# Sets of characters

Sets are ascending lists of disjoint closed ranges that do not touch. The
operations bring their results into this form.
-/
namespace Stencil.Regex

open Unicode

abbrev CharSet := Ranges

namespace CharSet

def single (code : Nat) : CharSet := [(code, code)]

/-- Join ranges that overlap or touch, in a list that ascends by start. -/
def join : Ranges → Ranges
  | [] => []
  | (a, b) :: rest =>
    match join rest with
    | [] => [(a, b)]
    | (c, d) :: more => if c ≤ b + 1 then (a, max b d) :: more else (a, b) :: (c, d) :: more

def normalize (ranges : Ranges) : CharSet :=
  join (ranges.mergeSort fun x y => x.1 < y.1 || (x.1 == y.1 && y.2 ≤ x.2))

def union (s t : CharSet) : CharSet := normalize (s ++ t)

/-- The gaps of a set between `from` and `last`. -/
def gaps (last : Nat) : Nat → CharSet → CharSet
  | start, [] => if start ≤ last then [(start, last)] else []
  | start, (a, b) :: rest =>
    if start < a then (start, a - 1) :: gaps last (b + 1) rest else gaps last (b + 1) rest

def complement (last : Nat) (s : CharSet) : CharSet := gaps last 0 s

def intersection (last : Nat) (s t : CharSet) : CharSet :=
  complement last (union (complement last s) (complement last t))

def difference (last : Nat) (s t : CharSet) : CharSet := intersection last s (complement last t)

def symmetricDifference (last : Nat) (s t : CharSet) : CharSet :=
  difference last (union s t) (intersection last s t)

def contains (s : CharSet) (c : Char) : Bool := s.containsCode c.toNat

/-- Whether all members are ASCII characters. -/
def isAscii (s : CharSet) : Bool := s.all fun range => range.2 < 0x80

/-- Add what differs from a member in the case of ASCII letters only. -/
def foldAscii (s : CharSet) : CharSet :=
  let letters := (List.range 26).filter fun i =>
    s.containsCode (i + 0x41) || s.containsCode (i + 0x61)
  normalize (s ++ letters.flatMap fun i => [(i + 0x41, i + 0x41), (i + 0x61, i + 0x61)])

/-- Add what differs from a member in case only. -/
def foldCase (s : CharSet) : CharSet :=
  let classes := caseClasses.filter fun members => members.any fun c => s.contains c
  normalize (s ++ classes.flatMap fun members => members.map fun c => (c.toNat, c.toNat))

def digits : CharSet := Category.ranges (· == .decimalNumber)

def blanks : CharSet :=
  [(9, 13), (0x20, 0x20), (0x85, 0x85), (0xA0, 0xA0), (0x1680, 0x1680), (0x2000, 0x200A),
    (0x2028, 0x2029), (0x202F, 0x202F), (0x205F, 0x205F), (0x3000, 0x3000)]

/-- Letters, marks, decimal digits, connectors and joiners. -/
def wordChars : CharSet :=
  normalize (alphabeticRanges ++ [(0x200C, 0x200D)]
    ++ Category.ranges fun c => c.isMark || c == .decimalNumber || c == .connectorPunctuation)

def asciiDigits : CharSet := [(0x30, 0x39)]
def asciiBlanks : CharSet := [(9, 13), (0x20, 0x20)]
def asciiWordChars : CharSet := [(0x30, 0x39), (0x41, 0x5A), (0x5F, 0x5F), (0x61, 0x7A)]

/-- The bracketed classes of ASCII characters. -/
def asciiClass? : String → Option CharSet
  | "alnum" => some [(0x30, 0x39), (0x41, 0x5A), (0x61, 0x7A)]
  | "alpha" => some [(0x41, 0x5A), (0x61, 0x7A)]
  | "ascii" => some [(0, 0x7F)]
  | "blank" => some [(9, 9), (0x20, 0x20)]
  | "cntrl" => some [(0, 0x1F), (0x7F, 0x7F)]
  | "digit" => some asciiDigits
  | "graph" => some [(0x21, 0x7E)]
  | "lower" => some [(0x61, 0x7A)]
  | "print" => some [(0x20, 0x7E)]
  | "punct" => some [(0x21, 0x2F), (0x3A, 0x40), (0x5B, 0x60), (0x7B, 0x7E)]
  | "space" => some asciiBlanks
  | "upper" => some [(0x41, 0x5A)]
  | "word" => some asciiWordChars
  | "xdigit" => some [(0x30, 0x39), (0x41, 0x46), (0x61, 0x66)]
  | _ => none

/-- Names of properties do not depend on case, blanks, `_`, `-` and a leading `is`. -/
def looseName (name : List Char) : String :=
  let plain := name.filterMap fun c =>
    if c = ' ' ∨ c = '_' ∨ c = '-' ∨ 0x7F < c.toNat then none else some c.toLower
  match name.map Char.toLower with
  | 'i' :: 's' :: _ =>
    let rest := plain.drop 2
    String.ofList (if rest = ['c'] then plain else rest)
  | _ => String.ofList plain

/-- The general categories and their unions, by name. -/
def category? (name : String) : Option CharSet :=
  let named := Category.all.find? fun (category, long) =>
    looseName category.code.toList = name ∨ looseName long.toList = name
  match named with
  | some (category, _) => some (Category.ranges (· == category))
  | none =>
    match name with
    | "any" => some [(0, lastCode)]
    | "assigned" => some (Category.ranges (· != .unassigned))
    | "ascii" => some [(0, 0x7F)]
    | "l" | "letter" => some (Category.ranges Category.isLetter)
    | "lc" | "casedletter" =>
      some (Category.ranges fun c => c == .uppercaseLetter || c == .lowercaseLetter
        || c == .titlecaseLetter)
    | "m" | "mark" | "combiningmark" => some (Category.ranges Category.isMark)
    | "n" | "number" => some (Category.ranges Category.isNumber)
    | "p" | "punctuation" | "punct" => some (Category.ranges Category.isPunctuation)
    | "s" | "symbol" => some (Category.ranges Category.isSymbol)
    | "z" | "separator" => some (Category.ranges Category.isSeparator)
    | "c" | "other" => some (Category.ranges Category.isOther)
    | "cntrl" => some (Category.ranges (· == .control))
    | "digit" => some (Category.ranges (· == .decimalNumber))
    | _ => none

/-- The class of a property, category or script of this name. -/
def named? (name : List Char) : Option CharSet :=
  let name := looseName name
  let property := if name = "cf" ∨ name = "sc" ∨ name = "lc" then none else property? name
  (property.or ((category? name).or ((script? name).map Script.ranges))).map normalize

/-- The class of a property with this value. The properties with values are the general
category and the two of scripts; ages and the classes of text segmentation, such as
`Age` or `Word_Break`, are none. -/
def valued? (property value : List Char) : Option CharSet :=
  let value := looseName value
  match looseName property with
  | "gc" | "generalcategory" => (category? value).map normalize
  | "sc" | "script" => (script? value).map fun script => normalize script.ranges
  | "scx" | "scriptextensions" => (script? value).map fun script => normalize script.extendedRanges
  | _ => none

end CharSet

end Stencil.Regex
