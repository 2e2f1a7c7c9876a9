import Stencil.Text.Blank
import Stencil.Text.Caseless
import Stencil.Text.Offset

/-!
# Tags in a text

`Markup.scan` finds the tags of some namespaces. Look-alikes of other namespaces
and tags that never end are plain text, so the parts of a scan put together give
the text back.
-/
namespace Stencil.Markup

/-- A tag as it stands in a text, from `start` up to `stop`. -/
structure Occurrence where
  closing : Bool
  selfClosing : Bool
  /-- As registered, if that differs only in the case of ASCII letters. -/
  namespaceName : String
  /-- In lower case and without hyphens. -/
  name : String
  attributeText : List Char
  start : Text.Place
  stop : Text.Place

/-- A tag and the text between it and the tag before it. -/
structure Part where
  gap : List Char
  tag : Occurrence

structure Scan where
  parts : List Part
  /-- The text behind the last tag. -/
  tail : List Char

def isTagNameChar (c : Char) : Bool := !Text.isBlank c && c != '/' && c != '>'

/-- The start of a tag: bracket, namespace and name as written. -/
structure Start where
  closing : Bool
  namespaceText : List Char
  name : List Char
  deriving DecidableEq

/-- Namespace, colon and name behind a bracket. -/
def afterBracket? (closing : Bool) (text : List Char) (namespaceName : String) :
    Option (Start × List Char) :=
  match Text.afterCaseless? namespaceName.toList text with
  | some (':' :: rest) =>
    let name := rest.takeWhile isTagNameChar
    if name.isEmpty then none
    else some (⟨closing, text.take namespaceName.toList.length, name⟩, rest.dropWhile isTagNameChar)
  | _ => none

/-- The start of a tag at the start of a text. A slash belongs to the bracket if it
can; of several namespaces that fit the first one counts. -/
def start? (namespaces : List String) : List Char → Option (Start × List Char)
  | '<' :: '/' :: text =>
    (namespaces.findSome? (afterBracket? true text)).or
      (namespaces.findSome? (afterBracket? false ('/' :: text)))
  | '<' :: text => namespaces.findSome? (afterBracket? false text)
  | _ => none

/-- Attribute text up to the end of the tag, whether the tag closes itself, and the
rest. A `>` right behind a hyphen does not end a tag. -/
def ending? (previous : Char) (done : List Char) : List Char → Option (List Char × Bool × List Char)
  | [] => none
  | '/' :: '>' :: rest => some (done.reverse, true, rest)
  | c :: rest =>
    if c = '>' ∧ previous ≠ '-' then some (done.reverse, false, rest)
    else ending? c (c :: done) rest

private theorem afterBracket?_length {closing : Bool} {text rest : List Char}
    {namespaceName : String}
    {start : Start} (read : afterBracket? closing text namespaceName = some (start, rest)) :
    rest.length ≤ text.length := by
  unfold afterBracket? at read
  split at read
  next tail found =>
    have total := Text.afterCaseless?_length found
    simp only at read
    split at read
    · simp at read
    · simp only [Option.some.injEq, Prod.mk.injEq] at read
      obtain ⟨-, rfl⟩ := read
      have := (List.dropWhile_sublist isTagNameChar (l := tail)).length_le
      simp only [List.length_cons] at total; omega
  · simp at read

private theorem findSome?_length {closing : Bool} {text rest : List Char} {namespaces : List String}
    {start : Start} (read : namespaces.findSome? (afterBracket? closing text) = some (start, rest)) :
    rest.length ≤ text.length := by
  obtain ⟨_, _, found⟩ := List.exists_of_findSome?_eq_some read
  exact afterBracket?_length found

theorem start?_shorter {namespaces : List String} {text rest : List Char} {start : Start}
    (read : start? namespaces text = some (start, rest)) : rest.length < text.length := by
  unfold start? at read
  split at read
  next tail =>
    rcases Option.or_eq_some_iff.mp read with first | ⟨-, second⟩
    · have := findSome?_length first; simp only [List.length_cons]; omega
    · have := findSome?_length second; simp only [List.length_cons] at *; omega
  · have := findSome?_length read; simp only [List.length_cons]; omega
  · simp at read

private theorem ending?_shorter {previous : Char} {done text attributes rest : List Char}
    {closed : Bool} (read : ending? previous done text = some (attributes, closed, rest)) :
    rest.length < text.length := by
  fun_induction ending? previous done text <;> simp_all
  all_goals omega

/-- The name of a namespace: the first listed one that differs from the written one
at most in the case of ASCII letters, else as it is written. -/
def resolve (namespaces : List String) (written : List Char) : String :=
  let folded := written.map Char.toLower
  (namespaces.find? fun name => name.toList.map Char.toLower = folded).getD (String.ofList written)

/-- Tag names do not depend on hyphens and the case of ASCII letters. -/
def canonicalName (name : List Char) : String :=
  String.ofList ((name.filter (· ≠ '-')).map Char.toLower)

/-- A whole tag at the start of a text, and the rest. -/
def tag? (namespaces : List String) (place : Text.Place) (text : List Char) :
    Option (Occurrence × List Char) := do
  let (start, inner) ← start? namespaces text
  let (attributes, selfClosing, rest) ← ending? (start.name.getLastD '<') [] inner
  let written := text.take (text.length - rest.length)
  return ({
    closing := start.closing
    selfClosing
    namespaceName := resolve namespaces start.namespaceText
    name := canonicalName start.name
    attributeText := Text.trim attributes
    start := place
    stop := place.advanceBy written }, rest)

private theorem tag?_shorter {namespaces : List String} {place : Text.Place} {text rest : List Char}
    {tag : Occurrence} (read : tag? namespaces place text = some (tag, rest)) :
    rest.length < text.length := by
  simp only [tag?, Option.bind_eq_bind, Option.bind_eq_some_iff, Option.pure_def,
    Option.some.injEq, Prod.exists, Prod.mk.injEq] at read
  obtain ⟨_, _, started, _, _, _, ended, -, rfl⟩ := read
  have := start?_shorter started
  have := ending?_shorter ended
  omega

/-- Scan the end of a text that begins at `place`; `gap` is the text since the last
tag, in reverse. -/
def scanFrom (namespaces : List String) (place : Text.Place) (gap : List Char) :
    List Char → Scan
  | [] => ⟨[], gap.reverse⟩
  | c :: rest =>
    match read : tag? namespaces place (c :: rest) with
    | some (tag, after) =>
      have := tag?_shorter read
      let scan := scanFrom namespaces tag.stop [] after
      ⟨⟨gap.reverse, tag⟩ :: scan.parts, scan.tail⟩
    | none => scanFrom namespaces (place.advance c) (c :: gap) rest
  termination_by text => text.length
  decreasing_by all_goals simp_all only [List.length_cons] <;> omega

/-- The tags of these namespaces in a text, in document order. -/
def scan (namespaces : List String) (text : List Char) : Scan :=
  scanFrom namespaces .start [] text

end Stencil.Markup
