import Stencil.Regex.Basic
import Stencil.Text.Blank
import Stencil.Text.Search

/-!
# Parsing regular expressions

The parser goes through the text with a stack of open groups. Flags hold from
where they are set to the end of the group, and decide at once what classes and
letters stand for. Groups nest up to a limit, but an expression may be of any size,
where a compiled matcher would be refused beyond some size of its own; of the properties
with values only `CharSet.valued?` has any.
-/
namespace Stencil.Regex

structure Flags where
  ignoreCase : Bool := false
  multiLine : Bool := false
  dotAll : Bool := false
  swapGreed : Bool := false
  unicode : Bool := true
  crlf : Bool := false
  verbose : Bool := false

/-- Set or clear the flag of a letter. -/
def Flags.set? (flags : Flags) (value : Bool) : Char → Option Flags
  | 'i' => some { flags with ignoreCase := value }
  | 'm' => some { flags with multiLine := value }
  | 's' => some { flags with dotAll := value }
  | 'U' => some { flags with swapGreed := value }
  | 'u' => some { flags with unicode := value }
  | 'R' => some { flags with crlf := value }
  | 'x' => some { flags with verbose := value }
  | _ => none

/-- Apply flag letters; those behind a minus sign are cleared. -/
def Flags.setAll? (flags : Flags) (value : Bool) : List Char → Option Flags
  | [] => some flags
  | '-' :: rest => setAll? flags false rest
  | c :: rest => (flags.set? value c).bind fun flags => setAll? flags value rest

/-- The last code point of the classes. -/
def Flags.last (flags : Flags) : Nat := if flags.unicode then Unicode.lastCode else 0xFF

/-- Drop blanks and comments if they are to be ignored. -/
def skipVerbose : (comment : Bool) → List Char → List Char
  | _, [] => []
  | true, c :: rest => skipVerbose (c != '\n') rest
  | false, c :: rest =>
    if Text.isBlank c then skipVerbose false rest
    else if c = '#' then skipVerbose true rest
    else c :: rest

def skip (flags : Flags) (text : List Char) : List Char :=
  if flags.verbose then skipVerbose false text else text

/-- What still has to follow may not be missing. -/
def skipSome (flags : Flags) (text : List Char) : Option (List Char) :=
  match skip flags text with
  | [] => none
  | text => some text

/-- A class with the case flag and a negation applied. Without Unicode it must not
hold bytes that are no characters. -/
def finishClass (flags : Flags) (negated : Bool) (set : CharSet) : Option CharSet :=
  let folded :=
    if !flags.ignoreCase then set
    else if flags.unicode then set.foldCase
    else set.foldAscii
  let set := if negated then folded.complement flags.last else folded
  if flags.unicode ∨ set.isAscii then some set else none

def hexValue? (c : Char) : Option Nat :=
  if c.isDigit then some (c.toNat - '0'.toNat)
  else if 'a' ≤ c ∧ c ≤ 'f' then some (c.toNat - 'a'.toNat + 10)
  else if 'A' ≤ c ∧ c ≤ 'F' then some (c.toNat - 'A'.toNat + 10)
  else none

/-- A code point that is a character. -/
def charCode? (n : Nat) : Option Nat := if n.isValidChar then some n else none

/-- A fixed number of hexadecimal digits. -/
def hexDigits? (flags : Flags) : (count value : Nat) → List Char → Option (Nat × List Char)
  | 0, value, text => some (value, text)
  | _, _, [] => none
  | count + 1, value, c :: text => do
    hexDigits? flags count (value * 16 + (← hexValue? c)) (skip flags text)

/-- Hexadecimal digits up to a closing brace, at least one. -/
def hexBraced? (flags : Flags) (started : Bool) (value : Nat) :
    (fuel : Nat) → List Char → Option (Nat × List Char)
  | 0, _ => none
  | _, [] => none
  | fuel + 1, c :: text =>
    if c = '}' then if started then some (value, skip flags text) else none
    else do hexBraced? flags true (value * 16 + (← hexValue? c)) fuel (skip flags text)

/-- The characters of a name up to a closing brace. -/
def braced? (flags : Flags) (name : List Char) :
    (fuel : Nat) → List Char → Option (List Char × List Char)
  | 0, _ => none
  | _, [] => none
  | fuel + 1, c :: text =>
    if c = '}' then some (name.reverse, text)
    else braced? flags (c :: name) fuel (skip flags text)

/-- What an escape stands for. -/
inductive Escape where
  /-- A character; `byte` if it is written as two hexadecimal digits. -/
  | literal (code : Nat) (byte : Bool)
  | set (s : CharSet)
  | look (l : Look)

/-- The class of a Unicode property. -/
def property? (flags : Flags) (negated : Bool) (name : List Char) : Option CharSet := do
  guard flags.unicode
  let (set, negated) ← match Text.splitAtFirst ['!', '='] name with
    | some (property, value) => (CharSet.valued? property value).map fun set => (set, !negated)
    | none =>
      match Text.splitAtFirst [':'] name with
      | some (property, value) => (CharSet.valued? property value).map fun set => (set, negated)
      | none =>
        match Text.splitAtFirst ['='] name with
        | some (property, value) => (CharSet.valued? property value).map fun set => (set, negated)
        | none => (CharSet.named? name).map fun set => (set, negated)
  finishClass flags negated set

/-- A property class behind its letter. -/
def propertyEscape? (flags : Flags) (negated : Bool) (text : List Char) :
    Option (Escape × List Char) := do
  match ← skipSome flags text with
  | '{' :: rest =>
    let (name, rest) ← braced? flags [] (rest.length + 1) (skip flags rest)
    return (.set (← property? flags negated name), rest)
  | '\\' :: _ => none
  | c :: rest => return (.set (← property? flags negated [c]), skip flags rest)
  | [] => none

/-- A class of digits, blanks or word characters. -/
def perlClass? (flags : Flags) (negated : Bool) (unicode ascii : CharSet) : Option CharSet :=
  if flags.unicode then some (if negated then unicode.complement Unicode.lastCode else unicode)
  else if negated then none
  else some ascii

/-- A character by its code. -/
def hexEscape? (flags : Flags) (digits : Nat) (text : List Char) : Option (Escape × List Char) := do
  match ← skipSome flags text with
  | '{' :: rest =>
    let (code, rest) ← hexBraced? flags false 0 (rest.length + 1) (skip flags rest)
    return (.literal (← charCode? code) false, rest)
  | text =>
    let (code, rest) ← hexDigits? flags digits 0 text
    return (.literal (← charCode? code) (digits == 2), rest)

def isBoundaryNameChar (c : Char) : Bool := c.isAlpha || c == '-'

/-- The letters of a boundary's name. -/
def boundaryName (flags : Flags) (name : List Char) :
    (fuel : Nat) → List Char → List Char × List Char
  | 0, text => (name.reverse, text)
  | _, [] => (name.reverse, [])
  | fuel + 1, c :: text =>
    if isBoundaryNameChar c then boundaryName flags (c :: name) fuel (skip flags text)
    else (name.reverse, c :: text)

/-- A word boundary may be named in braces; otherwise braces are a repetition. -/
def boundary? (flags : Flags) (text : List Char) : Option (Look × List Char) :=
  let unicode := flags.unicode
  match text with
  | '{' :: rest => do
    let inner ← skipSome flags rest
    if (inner.head?.map isBoundaryNameChar).getD false then
      match boundaryName flags [] (inner.length + 1) inner with
      | (name, '}' :: rest) =>
        match String.ofList name with
        | "start" => some (.wordStart unicode, rest)
        | "end" => some (.wordEnd unicode, rest)
        | "start-half" => some (.wordStartHalf unicode, rest)
        | "end-half" => some (.wordEndHalf unicode, rest)
        | _ => none
      | _ => none
    else some (.wordBoundary unicode, text)
  | _ => some (.wordBoundary unicode, text)

/-- Characters that stand for themselves behind a backslash. -/
def isEscapable (c : Char) : Bool :=
  c.toNat < 0x80 && !c.isAlphanum && c != '<' && c != '>'

def literalEscape? (c : Char) : Option Nat :=
  match c with
  | 'a' => some 0x07
  | 'f' => some 0x0C
  | 't' => some 0x09
  | 'n' => some 0x0A
  | 'r' => some 0x0D
  | 'v' => some 0x0B
  | c => if isEscapable c then some c.toNat else none

/-- What stands behind a backslash. -/
def escape? (flags : Flags) : List Char → Option (Escape × List Char)
  | [] => none
  | c :: rest =>
    let perl (negated : Bool) (unicode ascii : CharSet) :=
      (perlClass? flags negated unicode ascii).map fun set => (Escape.set set, rest)
    match c with
    | 'x' => hexEscape? flags 2 rest
    | 'u' => hexEscape? flags 4 rest
    | 'U' => hexEscape? flags 8 rest
    | 'p' => propertyEscape? flags false rest
    | 'P' => propertyEscape? flags true rest
    | 'd' => perl false CharSet.digits CharSet.asciiDigits
    | 'D' => perl true CharSet.digits CharSet.asciiDigits
    | 's' => perl false CharSet.blanks CharSet.asciiBlanks
    | 'S' => perl true CharSet.blanks CharSet.asciiBlanks
    | 'w' => perl false CharSet.wordChars CharSet.asciiWordChars
    | 'W' => perl true CharSet.wordChars CharSet.asciiWordChars
    | 'A' => some (.look .textStart, rest)
    | 'z' => some (.look .textEnd, rest)
    | 'B' => some (.look (.notWordBoundary flags.unicode), rest)
    | '<' => some (.look (.wordStart flags.unicode), rest)
    | '>' => some (.look (.wordEnd flags.unicode), rest)
    | 'b' => (boundary? flags rest).map fun (look, rest) => (.look look, rest)
    | c => (literalEscape? c).map fun code => (.literal code false, rest)

/-! ### Bracketed classes -/

inductive SetOp where
  | intersection
  | difference
  | symmetricDifference

/-- An open bracket with what stood before it in the class around it, or an
operator that waits for its right operand. -/
inductive ClassFrame where
  | bracket (negated : Bool) (outer : CharSet)
  | operator (op : SetOp) (left : CharSet)

/-- The code a character has inside a class. -/
def classCode? (flags : Flags) (code : Nat) : Option Nat :=
  if flags.unicode ∨ code < 0x80 then some code else none

/-- One member of a class. -/
def classMember? (flags : Flags) : List Char → Option (Escape × List Char)
  | '\\' :: rest => escape? flags rest
  | c :: rest => some (.literal c.toNat false, rest)
  | [] => none

/-- A member or a range of a class. A hyphen makes no range before a closing bracket
or another hyphen. -/
def classItem? (flags : Flags) (text : List Char) : Option (CharSet × List Char) := do
  let (first, rest) ← classMember? flags text
  let rest ← skipSome flags rest
  let range := match rest with
    | '-' :: more =>
      match skip flags more with
      | ']' :: _ | '-' :: _ => none
      | more => some more
    | _ => none
  match range with
  | none =>
    match first with
    | .literal code _ => return (.single (← classCode? flags code), rest)
    | .set set => return (set, rest)
    | .look _ => none
  | some more =>
    let (second, rest) ← classMember? flags more
    match first, second with
    | .literal a _, .literal b _ =>
      let a ← classCode? flags a
      let b ← classCode? flags b
      guard (a ≤ b)
      return ([(a, b)], rest)
    | _, _ => none

/-- A named class of ASCII characters inside a class, behind its opening bracket. -/
def asciiClass? (flags : Flags) : List Char → Option (CharSet × List Char)
  | ':' :: text => do
    let (negated, text) := match text with
      | '^' :: rest => (true, rest)
      | text => (false, text)
    match text.dropWhile (· ≠ ':') with
    | ':' :: ']' :: rest =>
      let set ← CharSet.asciiClass? (String.ofList (text.takeWhile (· ≠ ':')))
      return (← finishClass flags negated set, rest)
    | _ => none
  | _ => none

/-- The hyphens a class starts with. -/
def leadingHyphens (flags : Flags) (found : Bool) :
    (fuel : Nat) → List Char → Option (Bool × List Char)
  | fuel + 1, '-' :: text => do leadingHyphens flags true fuel (← skipSome flags text)
  | _, text => some (found, text)

/-- The start of a class behind its bracket: a negation, and members that would mean
something else further on. -/
def openClass? (flags : Flags) (text : List Char) : Option (Bool × CharSet × List Char) := do
  let text ← skipSome flags text
  let (negated, text) ← match text with
    | '^' :: rest => do pure (true, ← skipSome flags rest)
    | text => some (false, text)
  let (hyphen, text) ← leadingHyphens flags false (text.length + 1) text
  if hyphen then return (negated, .single 0x2D, text)
  match text with
  | ']' :: rest => return (negated, .single 0x5D, ← skipSome flags rest)
  | text => return (negated, [], text)

/-- Apply the operator that waits, if there is one. -/
def applyOperator (flags : Flags) (right : CharSet) : List ClassFrame → CharSet × List ClassFrame
  | .operator op left :: stack =>
    let fold (s : CharSet) :=
      if !flags.ignoreCase then s else if flags.unicode then s.foldCase else s.foldAscii
    let set := match op with
      | .intersection => CharSet.intersection flags.last (fold left) (fold right)
      | .difference => CharSet.difference flags.last (fold left) (fold right)
      | .symmetricDifference => CharSet.symmetricDifference flags.last (fold left) (fold right)
    (set, stack)
  | stack => (right, stack)

/-- The rest of a class. -/
def class? (flags : Flags) :
    (fuel : Nat) → List ClassFrame → CharSet → List Char → Option (CharSet × List Char)
  | 0, _, _, _ => none
  | fuel + 1, stack, members, text =>
    let operator (op : SetOp) (rest : List Char) :=
      let (left, stack) := applyOperator flags members stack
      class? flags fuel (.operator op left :: stack) [] rest
    match skip flags text with
    | [] => none
    | '[' :: rest =>
      match asciiClass? flags rest with
      | some (set, rest) => class? flags fuel stack (members.union set) rest
      | none => do
        let (negated, inner, rest) ← openClass? flags rest
        class? flags fuel (.bracket negated members :: stack) inner rest
    | ']' :: rest =>
      match applyOperator flags members stack with
      | (set, .bracket negated outer :: stack) => do
        let set ← finishClass flags negated set
        if stack.isEmpty then return (set, rest)
        class? flags fuel stack (outer.union set) rest
      | _ => none
    | '&' :: '&' :: rest => operator .intersection rest
    | '-' :: '-' :: rest => operator .difference rest
    | '~' :: '~' :: rest => operator .symmetricDifference rest
    | text => do
      let (set, rest) ← classItem? flags text
      class? flags fuel stack (members.union set) rest

/-- A bracketed class behind its opening bracket. -/
def bracketClass? (flags : Flags) (text : List Char) : Option (CharSet × List Char) := do
  let (negated, members, rest) ← openClass? flags text
  class? flags (text.length + 1) [.bracket negated []] members rest

/-! ### Expressions -/

/-- A part of a sequence, with the depth of its nesting. Flags are a part too, but
one that cannot be repeated. -/
structure Item where
  regex : Regex
  depth : Nat
  repeatable : Bool

/-- What is known of a group so far: the flags to go back to behind it, finished
alternatives and the current sequence, last part first. -/
structure Group where
  outerFlags : Flags
  alternatives : List Item
  items : List Item

def Group.new (flags : Flags) : Group := ⟨flags, [], []⟩

def Group.push (group : Group) (item : Item) : Group := { group with items := item :: group.items }

/-- A sequence as one part. -/
def sequence (items : List Item) : Item :=
  match items with
  | [] => ⟨.empty, 0, false⟩
  | [item] => item
  | items =>
    ⟨items.foldl (fun rest item => .seq item.regex rest) .empty,
      (items.map Item.depth).foldl max 0 + 1, true⟩

def Group.endAlternative (group : Group) : Group :=
  { group with alternatives := sequence group.items :: group.alternatives, items := [] }

/-- A finished group. -/
def Group.finish (group : Group) : Item :=
  match group.endAlternative.alternatives with
  | [] => ⟨.empty, 0, false⟩
  | [item] => item
  | last :: before =>
    ⟨before.foldl (fun regex item => .alt item.regex regex) last.regex,
      ((last :: before).map Item.depth).foldl max 0 + 1, true⟩

structure ParseState where
  flags : Flags
  names : List String
  group : Group
  outer : List Group

namespace ParseState

def push (state : ParseState) (item : Item) : ParseState :=
  { state with group := state.group.push item }

def pushRegex (state : ParseState) (regex : Regex) : ParseState := state.push ⟨regex, 0, true⟩

end ParseState

/-- A character as an expression. -/
def literal? (flags : Flags) (code : Nat) (byte : Bool) : Option Regex :=
  if flags.unicode then
    some (.char (if flags.ignoreCase then (CharSet.single code).foldCase else .single code))
  else if byte ∧ 0x7F < code then none
  else
    let fold := flags.ignoreCase && code < 0x80
    some (.char (if fold then (CharSet.single code).foldAscii else .single code))

def dot? (flags : Flags) : Option Regex :=
  if !flags.unicode then none
  else if flags.dotAll then some (.char [(0, Unicode.lastCode)])
  else if flags.crlf then
    some (.char (CharSet.complement Unicode.lastCode [(0x0A, 0x0A), (0x0D, 0x0D)]))
  else some (.char (CharSet.complement Unicode.lastCode [(0x0A, 0x0A)]))

def startLook (flags : Flags) : Look :=
  if !flags.multiLine then .textStart else if flags.crlf then .lineStartCR else .lineStart

def endLook (flags : Flags) : Look :=
  if !flags.multiLine then .textEnd else if flags.crlf then .lineEndCR else .lineEnd

/-- Repeat the last part of the sequence. -/
def repeat? (state : ParseState) (min : Nat) (max : Option Nat) : Option ParseState :=
  match state.group.items with
  | item :: before =>
    if item.repeatable then
      some { state with
        group := { state.group with
          items := ⟨.rep min max item.regex, item.depth + 1, true⟩ :: before } }
    else none
  | [] => none

/-- A repetition may be followed by a mark that it is lazy. -/
def dropLazy : List Char → List Char
  | '?' :: rest => rest
  | text => text

/-- Repetition counts stay below `2^32`. -/
def countLimit : Nat := 4294967296

def countDigits (flags : Flags) (digits : List Char) :
    (fuel : Nat) → List Char → List Char × List Char
  | fuel + 1, c :: text =>
    if c.isDigit then countDigits flags (c :: digits) fuel (skip flags text)
    else (digits.reverse, c :: text)
  | _, text => (digits.reverse, text)

/-- Blanks behind a count, always allowed. -/
def skipBlanks (flags : Flags) : (fuel : Nat) → List Char → List Char
  | fuel + 1, c :: text => if Text.isBlank c then skipBlanks flags fuel (skip flags text) else c :: text
  | _, text => text

/-- A count, if there is one. -/
def count? (flags : Flags) (text : List Char) : Option (Option Nat × List Char) :=
  let (digits, rest) := countDigits flags [] (text.length + 1) (Text.trimLeft text)
  let rest := skipBlanks flags (rest.length + 1) rest
  if digits.isEmpty then some (none, rest)
  else
    let n := digits.foldl (fun n d => n * 10 + (d.toNat - '0'.toNat)) 0
    if n < countLimit then some (some n, rest) else none

/-- The bounds of a counted repetition behind its brace, and the text behind it. -/
def bounds? (flags : Flags) (text : List Char) : Option (Nat × Option Nat × List Char) := do
  let (first, text) ← count? flags (← skipSome flags text)
  let (min, max, text) ← match text with
    | ',' :: text => do
      let text ← skipSome flags text
      let min ← first
      if text.head? = some '}' then pure (min, none, text)
      else
        let (second, text) ← count? flags text
        pure (min, some (← second), text)
    | text => do
      let count ← first
      pure (count, some count, text)
  match text with
  | '}' :: rest =>
    guard ((max.map fun max => decide (min ≤ max)).getD true)
    return (min, max, dropLazy (skip flags rest))
  | _ => none

def isNameChar (first : Bool) (c : Char) : Bool :=
  if first then c == '_' || Unicode.isAlphabetic c
  else c == '_' || c == '.' || c == '[' || c == ']' || Unicode.isAlphanumeric c

/-- The name of a group up to `>`. No two groups share a name. -/
def groupName? (names : List String) (text : List Char) : Option (String × List Char) :=
  match text.takeWhile (· ≠ '>'), text.dropWhile (· ≠ '>') with
  | c :: name, _ :: rest =>
    let full := String.ofList (c :: name)
    if isNameChar true c ∧ name.all (isNameChar false) ∧ !names.contains full then some (full, rest)
    else none
  | _, _ => none

/-- Flag letters occur once each, and a minus sign has letters behind it. -/
def flagsWellFormed (letters : List Char) : Bool :=
  letters.eraseDups.length == letters.length && letters.getLast? != some '-'

/-- What stands behind an opening parenthesis. -/
def openGroup? (state : ParseState) (text : List Char) : Option (ParseState × List Char) :=
  let enter (inner : Flags) : ParseState :=
    { state with
      flags := inner
      group := .new state.flags
      outer := state.group :: state.outer }
  let named (rest : List Char) : Option (ParseState × List Char) := do
    let (name, rest) ← groupName? state.names rest
    return ({ enter state.flags with names := name :: state.names }, rest)
  match skip state.flags text with
  | '?' :: '=' :: _ | '?' :: '!' :: _ | '?' :: '<' :: '=' :: _ | '?' :: '<' :: '!' :: _ => none
  | '?' :: 'P' :: '<' :: rest => named rest
  | '?' :: '<' :: rest => named rest
  | '?' :: rest => do
    let isEnd (c : Char) := c == ':' || c == ')'
    let letters := rest.takeWhile fun c => !isEnd c
    guard (flagsWellFormed letters)
    let flags ← state.flags.setAll? true letters
    match rest.dropWhile fun c => !isEnd c with
    | ')' :: rest =>
      guard !letters.isEmpty
      return ({ state with flags }.push ⟨.empty, 0, false⟩, rest)
    | ':' :: rest => return (enter flags, rest)
    | _ => none
  | text => some (enter state.flags, text)

/-- A closing parenthesis. -/
def closeGroup? (state : ParseState) : Option ParseState :=
  match state.outer with
  | [] => none
  | group :: outer =>
    let item := state.group.finish
    some { state with
      flags := state.group.outerFlags
      group := group.push ⟨item.regex, item.depth + 1, true⟩
      outer }

/-- The next part of an expression. -/
def part? (state : ParseState) (text : List Char) : Option (ParseState × List Char) :=
  let flags := state.flags
  match text with
  | [] => none
  | '(' :: rest => openGroup? state rest
  | ')' :: rest => (closeGroup? state).map fun state => (state, rest)
  | '|' :: rest => some ({ state with group := state.group.endAlternative }, rest)
  | '[' :: rest => do
    let (set, rest) ← bracketClass? flags rest
    return (state.push ⟨.char set, 1, true⟩, rest)
  | '?' :: rest => (repeat? state 0 (some 1)).map fun state => (state, dropLazy rest)
  | '*' :: rest => (repeat? state 0 none).map fun state => (state, dropLazy rest)
  | '+' :: rest => (repeat? state 1 none).map fun state => (state, dropLazy rest)
  | '{' :: rest => do
    let (min, max, rest) ← bounds? flags rest
    return (← repeat? state min max, rest)
  | '\\' :: rest => do
    let (escape, rest) ← escape? flags rest
    match escape with
    | .literal code byte => return (state.pushRegex (← literal? flags code byte), rest)
    | .set set => return (state.pushRegex (.char set), rest)
    | .look look => return (state.pushRegex (.look look), rest)
  | '.' :: rest => do return (state.pushRegex (← dot? flags), rest)
  | '^' :: rest => some (state.pushRegex (.look (startLook flags)), rest)
  | '$' :: rest => some (state.pushRegex (.look (endLook flags)), rest)
  | c :: rest => do return (state.pushRegex (← literal? flags c.toNat false), rest)

/-- Every part takes at least one character, so the length of the text is fuel enough. -/
def parts? : (fuel : Nat) → ParseState → List Char → Option Item
  | 0, _, _ => none
  | fuel + 1, state, text =>
    match skip state.flags text with
    | [] => if state.outer.isEmpty then some state.group.finish else none
    | text => do
      let (state, rest) ← part? state text
      parts? fuel state rest

/-- How deep an expression may be nested. -/
def nestLimit : Nat := 250

end Stencil.Regex

namespace Stencil

/-- The expression a text denotes. -/
def Regex.parse (text : String) : Option Regex := do
  let chars := text.toList
  let flags : Regex.Flags := {}
  let item ← Regex.parts? (chars.length + 1) ⟨flags, [], .new flags, []⟩ chars
  guard (item.depth ≤ Regex.nestLimit)
  return item.regex

end Stencil
