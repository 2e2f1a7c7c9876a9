import Stencil.Dict
import Stencil.Value
import Stencil.Text.Natural

/-!
# Objects as dictionaries

`Value.canonical` puts the members of every object into ascending key order and
keeps the last of several members with one key. `Value.lookupPath` descends into
objects by key and into arrays by index.
-/
namespace Stencil.Value

def ofDict (dict : Dict Value) : Value := .object dict.entries

mutual
def canonical : Value → Value
  | .array items => .array (canonicalItems items)
  | .object members => .object (Dict.ofList (canonicalMembers members)).entries
  | v => v

def canonicalItems : List Value → List Value
  | [] => []
  | v :: rest => canonical v :: canonicalItems rest

def canonicalMembers : List (String × Value) → List (String × Value)
  | [] => []
  | (key, v) :: rest => (key, canonical v) :: canonicalMembers rest
end

/-- The members of an object as a dictionary of canonical values. -/
def toDict? : Value → Option (Dict Value)
  | .object members => some (.ofList (canonicalMembers members))
  | _ => none

/-- The member or item one step of a path leads to. -/
def step? (value : Value) (key : String) : Option Value :=
  match value with
  | .object members => Dict.lookup key members
  | .array items =>
    match Text.natural64 key.toList with
    | .ok index => items[index]?
    | .error _ => none
  | _ => none

/-- Descend step by step. -/
def lookupPath (value : Value) : List String → Option Value
  | [] => some value
  | key :: rest => (value.step? key).bind fun inner => inner.lookupPath rest

end Stencil.Value
