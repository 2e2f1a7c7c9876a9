import Stencil.Regex.CharSet

/-!
# Regular expressions

Expressions over characters and the places between them, and the search for a
match. A search goes through the expression once with the set of all places a
match of the part so far can end at; sets of places are the bits of numbers.
-/
namespace Stencil.Regex

/-- What a place between two characters can be asked for. -/
inductive Look where
  | textStart
  | textEnd
  | lineStart
  | lineEnd
  /-- Line ends at which carriage returns count too. -/
  | lineStartCR
  | lineEndCR
  | wordBoundary (unicode : Bool)
  | notWordBoundary (unicode : Bool)
  | wordStart (unicode : Bool)
  | wordEnd (unicode : Bool)
  | wordStartHalf (unicode : Bool)
  | wordEndHalf (unicode : Bool)
  deriving DecidableEq

/-- Expressions over classes `σ` of characters and classes `ρ` of places. -/
inductive Pattern (σ ρ : Type) where
  | empty
  | char (s : σ)
  | look (l : ρ)
  | seq (first second : Pattern σ ρ)
  | alt (left right : Pattern σ ρ)
  /-- At least `min` times, and at most `max` times if there is a bound. -/
  | rep (min : Nat) (max : Option Nat) (body : Pattern σ ρ)

end Stencil.Regex

namespace Stencil

abbrev Regex := Regex.Pattern Regex.CharSet Regex.Look

namespace Regex

def isWordChar (unicode : Bool) : Option Char → Bool
  | none => false
  | some c =>
    if unicode ∧ 0x80 ≤ c.toNat then CharSet.wordChars.contains c
    else CharSet.asciiWordChars.contains c

/-- Whether a place has a property, by the characters before and behind it. -/
def Look.holds (look : Look) (before after : Option Char) : Bool :=
  let word (unicode : Bool) := (isWordChar unicode before, isWordChar unicode after)
  match look with
  | .textStart => before.isNone
  | .textEnd => after.isNone
  | .lineStart => before.isNone || before == some '\n'
  | .lineEnd => after.isNone || after == some '\n'
  | .lineStartCR =>
    before.isNone || before == some '\n' || (before == some '\r' && after != some '\n')
  | .lineEndCR =>
    after.isNone || after == some '\r' || (after == some '\n' && before != some '\r')
  | .wordBoundary unicode => let (b, a) := word unicode; b != a
  | .notWordBoundary unicode => let (b, a) := word unicode; b == a
  | .wordStart unicode => let (b, a) := word unicode; !b && a
  | .wordEnd unicode => let (b, a) := word unicode; b && !a
  | .wordStartHalf unicode => let (b, _) := word unicode; !b
  | .wordEndHalf unicode => let (_, a) := word unicode; !a

/-- A set of places in a text: bit `i` stands for the place before character `i`. -/
abbrev Places := Nat

def bit (b : Bool) : Nat := if b then 1 else 0

/-- The places before characters that a test accepts. -/
def placesBefore (accept : Char → Bool) : List Char → Places
  | [] => 0
  | c :: rest => 2 * placesBefore accept rest + bit (accept c)

/-- The places that a test accepts. -/
def placesBetween (accept : Option Char → Option Char → Bool) (before : Option Char) :
    List Char → Places
  | [] => bit (accept before none)
  | c :: rest => 2 * placesBetween accept (some c) rest + bit (accept before (some c))

/-- An expression for one text: its classes are sets of places in the text. -/
def locate (text : List Char) : Regex → Pattern Places Places
  | .empty => .empty
  | .char s => .char (placesBefore s.contains text)
  | .look l => .look (placesBetween l.holds none text)
  | .seq first second => .seq (locate text first) (locate text second)
  | .alt left right => .alt (locate text left) (locate text right)
  | .rep min max body => .rep min max (locate text body)

/-- Apply a step a number of times. -/
def iterate (step : Places → Places) : Nat → Places → Places
  | 0, places => places
  | n + 1, places => iterate step n (step places)

/-- What at most `n` steps reach from some places, beyond what was reached before. -/
def reach (step : Places → Places) : Nat → (reached fresh : Places) → Places
  | 0, reached, _ => reached
  | n + 1, reached, fresh =>
    let next := step fresh
    let fresh := next ^^^ (next &&& reached)
    if fresh = 0 then reached else reach step n (reached ||| fresh) fresh

/-- The places where matches end that start at one of some places. A text of `size`
characters has one place more, and as many steps reach all that can be reached. -/
def ends (size : Nat) : Pattern Places Places → Places → Places
  | .empty, places => places
  | .char s, places => (places &&& s) <<< 1
  | .look l, places => places &&& l
  | .seq first second, places => ends size second (ends size first places)
  | .alt left right, places => ends size left places ||| ends size right places
  | .rep min max body, places =>
    let start := iterate (ends size body) (Nat.min min (size + 1)) places
    let more := match max with
      | some max => Nat.min (max - min) (size + 1)
      | none => size + 1
    reach (ends size body) more start start

/-- Whether an expression matches some part of a text. -/
def isMatch (regex : Regex) (text : List Char) : Bool :=
  let size := text.length
  ends size (locate text regex) (1 <<< (size + 1) - 1) != 0

end Regex

end Stencil
