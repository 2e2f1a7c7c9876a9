import Stencil.Json.Reader

/-!
# Decoding JSON values

Records are written as objects; a record may also be given as the array of its
fields. Of a record's fields none may occur twice, and unknown ones are ignored.
-/
namespace Stencil.Json

def string? : Value → Option String
  | .string s => some s
  | _ => none

def bool? : Value → Option Bool
  | .bool b => some b
  | _ => none

/-- A natural number below `limit`, written as an integer. -/
def natural? (limit : Nat) : Value → Option Nat
  | .number (.integer i) => if 0 ≤ i ∧ i < limit then some i.toNat else none
  | _ => none

def natural64? : Value → Option Nat := natural? Text.limit64

def double? : Value → Option Double
  | .number n => some n.toDouble
  | _ => none

/-- `null` stands for nothing. -/
def optional? {α : Type} (decode : Value → Option α) : Value → Option (Option α)
  | .null => some none
  | v => (decode v).map some

def list? {α : Type} (decode : Value → Option α) : Value → Option (List α)
  | .array items => items.mapM decode
  | _ => none

/-- A dictionary; of several members with one key the last one counts, but all of
them have to decode. -/
def dict? {α : Type} (decode : Value → Option α) : Value → Option (Dict α)
  | .object members =>
    (members.mapM fun entry => (decode entry.2).map fun x => (entry.1, x)).map Dict.ofList
  | _ => none

/-- The value of the only member with this key; `none` if there are several. -/
def member? (members : List (String × Value)) (key : String) : Option (Option Value) :=
  match members.filter fun entry => entry.1 = key with
  | [] => some none
  | [entry] => some (some entry.2)
  | _ => none

/-- The fields of a record in the order of their names. A record with defaults may
leave fields out at the end of an array; one without has them all there. -/
def fields? (hasDefaults : Bool) (names : List String) : Value → Option (List (Option Value))
  | .object members => names.mapM (member? members)
  | .array items =>
    if items.length = names.length ∨ (hasDefaults ∧ items.length < names.length) then
      some (items.map some ++ List.replicate (names.length - items.length) none)
    else none
  | _ => none

/-- A field that has to be there. -/
def required? {α : Type} (decode : Value → Option α) : Option Value → Option α
  | some v => decode v
  | none => none

/-- A field that may be missing or `null`. -/
def nullable? {α : Type} (decode : Value → Option α) : Option Value → Option (Option α)
  | some v => optional? decode v
  | none => some none

/-- A field with a default. -/
def defaulted? {α : Type} (decode : Value → Option α) (fallback : α) : Option Value → Option α
  | some v => decode v
  | none => some fallback

/-- A choice without payload: its name, or an object with its name and `null`. -/
def choice? : Value → Option String
  | .string name => some name
  | .object [(name, .null)] => some name
  | _ => none

end Stencil.Json
