import Stencil.Json.Token
import Stencil.Value.Object

/-!
# Reading JSON text

A stack of open arrays and objects takes the tokens one by one. Members keep the
order and repetition of the text; `Value.canonical` removes both.
-/
namespace Stencil.Json

/-- An array or object that is still open, its finished parts last first. -/
inductive Frame where
  | array (items : List Value)
  | object (members : List (String × Value)) (key : String)

/-- What the text has to go on with, inside which open frames, innermost first. -/
inductive Expect where
  | value (stack : List Frame)
  | firstItem (stack : List Frame)
  | firstKey (stack : List Frame)
  | key (members : List (String × Value)) (stack : List Frame)
  | colon (members : List (String × Value)) (key : String) (stack : List Frame)
  | next (frame : Frame) (stack : List Frame)
  | done (value : Value)

/-- A finished value takes its place in the innermost frame. -/
def place (value : Value) : List Frame → Expect
  | [] => .done value
  | .array items :: stack => .next (.array (value :: items)) stack
  | .object members key :: stack => .next (.object ((key, value) :: members) key) stack

/-- A value begins, nested at most `limit` deep. -/
def begin? (limit : Nat) (stack : List Frame) : Token → Option Expect
  | .scalar value => some (place value stack)
  | .openArray => if stack.length < limit then some (.firstItem stack) else none
  | .openObject => if stack.length < limit then some (.firstKey stack) else none
  | _ => none

def step (limit : Nat) : Expect → Token → Option Expect
  | .value stack, token => begin? limit stack token
  | .firstItem stack, .closeArray => some (place (.array []) stack)
  | .firstItem stack, token => begin? limit (.array [] :: stack) token
  | .firstKey stack, .closeObject => some (place (.object []) stack)
  | .firstKey stack, .scalar (.string key) => some (.colon [] key stack)
  | .key members stack, .scalar (.string key) => some (.colon members key stack)
  | .colon members key stack, .colon => some (.value (.object members key :: stack))
  | .next (.array items) stack, .comma => some (.value (.array items :: stack))
  | .next (.array items) stack, .closeArray => some (place (.array items.reverse) stack)
  | .next (.object members _) stack, .comma => some (.key members stack)
  | .next (.object members _) stack, .closeObject => some (place (.object members.reverse) stack)
  | _, _ => none

/-- The value of a whole text, nested at most `limit` deep. -/
def readWithin (limit : Nat) (text : List Char) : Option Value := do
  let tokens ← tokens text
  match ← tokens.foldlM (step limit) (.value []) with
  | .done value => some value
  | _ => none

/-- How deep a text that is read may be nested. -/
def depthLimit : Nat := 127

/-- The value a text denotes, its objects as written. -/
def read (text : String) : Option Value := readWithin depthLimit text.toList

end Stencil.Json
