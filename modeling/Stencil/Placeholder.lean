import Stencil.Expr.Eval
import Stencil.Expr.Parser
import Stencil.Fragment
import Stencil.Tag.Static

/-!
# Placeholders

In attribute values, when a tag is read: `{#name}` stands for a static attribute,
`{$…}` for the value of an expression over the configured variables and `{NAME}`
for a configured constant; `{{…}}` is kept. In compiled text, in the final pass,
`{{#name}}` stands for a static attribute, `{{…}}` for an expression that is
evaluated for each request and `{%$name = …%}` for an assignment then. Any other
brace is text. What a placeholder was replaced by is not looked at again.
-/
namespace Stencil

/-- What placeholders refer to. -/
structure Bindings where
  statics : Statics
  constants : Dict String
  variableValues : Dict Value

/-- What a placeholder stands for. -/
inductive Placeholder where
  | kept
  | staticAttribute (name : List Char)
  | constant (value : String)
  | computed (source : List Char)
  | emitted (source : List Char)
  | assigned (source : List Char)

/-- A placeholder as it is written, and what it stands for. -/
structure Written where
  text : List Char
  placeholder : Placeholder

namespace Placeholder

/-- What lies before a text in a text, and the text behind it. -/
def before? (stop text : List Char) : Option (List Char × List Char) := Text.splitAtFirst stop text

/-- A non-empty text in double braces that has no closing brace inside. -/
def doubled? (final : Bool) (text : List Char) : Option (Written × List Char) :=
  match before? ['}'] text with
  | some (c :: inner, '}' :: rest) =>
    let inner := c :: inner
    let placeholder :=
      if !final then .kept
      else if c = '#' then .staticAttribute inner.tail
      else .emitted inner
    some (⟨'{' :: '{' :: inner ++ ['}', '}'], placeholder⟩, rest)
  | _ => none

/-- An assignment, closed on the line it starts on. -/
def assignment? (text : List Char) : Option (Written × List Char) :=
  match before? ['%', '}'] text with
  | some (inner, rest) =>
    if inner.contains '\n' then none
    else some (⟨'{' :: '%' :: inner ++ ['%', '}'], .assigned (Text.trim inner)⟩, rest)
  | none => none

def isConstantName : List Char → Bool
  | [] => false
  | c :: rest => Expr.isNameStart c && rest.all Expr.isNameChar

/-- What a text in single braces stands for, if it is a placeholder. -/
def ofInner? (constants : Dict String) (inner : List Char) : Option Placeholder :=
  match inner with
  | '#' :: name => some (.staticAttribute name)
  | '$' :: _ => some (.computed inner)
  | _ =>
    if isConstantName inner then (constants.get? (String.ofList inner)).map .constant else none

/-- A non-empty text in single braces that has no brace inside. -/
def single? (constants : Dict String) (text : List Char) : Option (Written × List Char) :=
  match before? ['}'] text with
  | some (c :: inner, rest) =>
    if (c :: inner).contains '{' then none
    else (ofInner? constants (c :: inner)).map fun placeholder =>
      (⟨'{' :: c :: inner ++ ['}'], placeholder⟩, rest)
  | _ => none

/-- The placeholder a text starts with, and the text behind it. -/
def start? (constants : Dict String) (final : Bool) : List Char → Option (Written × List Char)
  | '{' :: text =>
    let double := match text with
      | '{' :: text => doubled? final text
      | '%' :: text => if final then assignment? text else none
      | _ => none
    double.or (single? constants text)
  | _ => none

private theorem before?_length {stop text before rest : List Char}
    (found : before? stop text = some (before, rest)) :
    text.length = before.length + stop.length + rest.length := by
  unfold before? at found
  induction text generalizing before with
  | nil =>
    simp only [Text.splitAtFirst, Option.map_eq_some_iff, Prod.mk.injEq] at found
    obtain ⟨_, read, rfl, rfl⟩ := found
    simpa using congrArg List.length (Text.afterStart?_eq_some.mp read)
  | cons c text ih =>
    simp only [Text.splitAtFirst] at found
    split at found
    next read =>
      simp only [Option.some.injEq, Prod.mk.injEq] at found
      obtain ⟨rfl, rfl⟩ := found
      simpa using congrArg List.length (Text.afterStart?_eq_some.mp read)
    · simp only [Option.map_eq_some_iff, Prod.exists, Prod.mk.injEq] at found
      obtain ⟨_, _, inner, rfl, rfl⟩ := found
      have := ih inner
      simp only [List.length_cons]; omega

private theorem doubled?_shorter {final : Bool} {text rest : List Char} {written : Written}
    (found : doubled? final text = some (written, rest)) : rest.length < text.length := by
  unfold doubled? at found
  split at found
  next read =>
    have total := before?_length read
    simp only [Option.some.injEq, Prod.mk.injEq] at found
    obtain ⟨-, rfl⟩ := found
    simp only [List.length_cons] at total; omega
  · simp at found

private theorem assignment?_shorter {text rest : List Char} {written : Written}
    (found : assignment? text = some (written, rest)) : rest.length < text.length := by
  unfold assignment? at found
  split at found
  next read =>
    have total := before?_length read
    split at found
    · simp at found
    · simp only [Option.some.injEq, Prod.mk.injEq] at found
      obtain ⟨-, rfl⟩ := found
      simp only [List.length_cons] at total; omega
  · simp at found

private theorem single?_shorter {constants : Dict String} {text rest : List Char}
    {written : Written}
    (found : single? constants text = some (written, rest)) : rest.length < text.length := by
  unfold single? at found
  split at found
  next read =>
    have total := before?_length read
    split at found
    · simp at found
    · simp only [Option.map_eq_some_iff, Prod.mk.injEq] at found
      obtain ⟨_, -, -, rfl⟩ := found
      simp only [List.length_cons] at total; omega
  · simp at found

theorem start?_shorter {constants : Dict String} {final : Bool} {text rest : List Char}
    {written : Written} (found : start? constants final text = some (written, rest)) :
    rest.length < text.length := by
  unfold start? at found
  split at found
  next tail =>
    simp only at found
    rcases Option.or_eq_some_iff.mp found with double | ⟨-, single⟩
    · split at double
      · have := doubled?_shorter double; simp only [List.length_cons]; omega
      · split at double
        · have := assignment?_shorter double; simp only [List.length_cons]; omega
        · simp at double
      · simp at double
    · have := single?_shorter single; simp only [List.length_cons]; omega
  · simp at found

end Placeholder

/-- A piece of a text: either plain or a placeholder. -/
inductive Piece where
  | plain (text : List Char)
  | placeholder (written : Written)

/-- Cut a text into plain pieces and placeholders, in order. `plain` is the plain
text since the last placeholder, in reverse. -/
def piecesFrom (constants : Dict String) (final : Bool) (plain : List Char) :
    List Char → List Piece
  | [] => [.plain plain.reverse]
  | c :: rest =>
    match found : Placeholder.start? constants final (c :: rest) with
    | some (written, after) =>
      have := Placeholder.start?_shorter found
      .plain plain.reverse :: .placeholder written :: piecesFrom constants final [] after
    | none => piecesFrom constants final (c :: plain) rest
  termination_by text => text.length
  decreasing_by all_goals simp_all only [List.length_cons] <;> omega

def pieces (constants : Dict String) (final : Bool) (text : List Char) : List Piece :=
  piecesFrom constants final [] text

/-- A placeholder that does not parse: its text and the reason. -/
structure PlaceholderFault where
  text : String
  error : Expr.ParseError

namespace Bindings

/-- The text of a static attribute; one that is not set is empty. -/
def staticText (bindings : Bindings) (name : List Char) : String :=
  bindings.statics.getD (String.ofList (Text.trim name)) ""

/-- The segment a placeholder is replaced by. -/
def replacement (bindings : Bindings) (written : Written) : Except Expr.ParseError Segment :=
  match written.placeholder with
  | .kept => .ok (.text (String.ofList written.text))
  | .staticAttribute name => .ok (.text (bindings.staticText name))
  | .constant value => .ok (.text value)
  | .computed source =>
    (Expr.parse source).map fun expr =>
      .text (expr.eval (Scope.ofDict bindings.variableValues)).text
  | .emitted source => (Expr.parse source).map .echo
  | .assigned source => (Expr.parseAssignment source).map fun (name, expr) => .assign name expr

/-- Replace the placeholders of a text. The first one that does not parse is
reported. -/
def expandPieces (bindings : Bindings) : Fragment → List Piece → Except PlaceholderFault Fragment
  | done, [] => .ok done
  | done, .plain text :: rest => expandPieces bindings (done.pushText (String.ofList text)) rest
  | done, .placeholder written :: rest =>
    match bindings.replacement written with
    | .ok segment => expandPieces bindings (done.push segment) rest
    | .error error => .error ⟨String.ofList written.text, error⟩

def expandText (bindings : Bindings) (final : Bool) (text : String) :
    Except PlaceholderFault Fragment :=
  bindings.expandPieces [] (pieces bindings.constants final text.toList)

/-- Replace the placeholders in an attribute value of the tag at this location. -/
def expandAttribute (bindings : Bindings) (location : Location) (value : String) :
    Except CompileError String :=
  match bindings.expandText false value with
  | .ok fragment => .ok fragment.plainText
  | .error fault => .error (.expression location fault.text fault.error)

/-- Where a placeholder first occurs in the text of its template; one that does not
occur there counts as standing at the start. -/
def locate (file source placeholder : String) : Location :=
  match Text.splitAtFirst placeholder.toList source.toList with
  | some (before, _) =>
    let (line, column) := Text.lineColumn before
    ⟨file, line, column⟩
  | none => ⟨file, 1, 1⟩

mutual
def expandSegment (bindings : Bindings) (file source : String) (done : Fragment) :
    Segment → Except CompileError Fragment
  | .text s =>
    match bindings.expandText true s with
    | .ok fragment => .ok (done.append fragment)
    | .error fault => .error (.expression (locate file source fault.text) fault.text fault.error)
  | .ifErrors body => do
    let inner ← expandSegments bindings file source [] body
    return done.push (.ifErrors inner)
  | segment => .ok (done.push segment)

def expandSegments (bindings : Bindings) (file source : String) (done : Fragment) :
    List Segment → Except CompileError Fragment
  | [] => .ok done
  | segment :: rest => do
    let done ← expandSegment bindings file source done segment
    expandSegments bindings file source done rest
end

/-- The final pass over the compiled body of template `file` with text `source`. -/
def expand (bindings : Bindings) (file source : String) (body : Fragment) :
    Except CompileError Fragment :=
  expandSegments bindings file source [] body

end Bindings

end Stencil
