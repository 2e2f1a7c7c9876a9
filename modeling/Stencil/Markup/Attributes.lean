import Stencil.Text.Blank

/-!
# Attributes of a tag

Pairs `key="value"` in order of appearance. Anything else between them is ignored.
-/
namespace Stencil.Markup

def isKeyChar (c : Char) : Bool := !Text.isBlank c && c != '=' && c != '"'

/-- The value behind a key, and the rest of the text. -/
def value? : List Char → Option (List Char × List Char)
  | '=' :: '"' :: text =>
    match text.dropWhile (· ≠ '"') with
    | [] => none
    | _ :: rest => some (text.takeWhile (· ≠ '"'), rest)
  | _ => none

private theorem value?_shorter {text value rest : List Char}
    (read : value? text = some (value, rest)) : rest.length < text.length := by
  unfold value? at read
  split at read
  next tail =>
    have bound : (tail.dropWhile (fun c => decide (c ≠ '"'))).length ≤ tail.length :=
      (List.dropWhile_sublist _).length_le
    split at read
    · simp at read
    next found =>
      simp only [Option.some.injEq, Prod.mk.injEq] at read
      obtain ⟨-, rfl⟩ := read
      rw [found] at bound
      simp only [List.length_cons] at *; omega
  · simp at read

/-- The pairs of a text. `key` is the run of key characters that the text goes on
from, in reverse. -/
def attributesFrom (key : List Char) : List Char → List (String × String)
  | [] => []
  | c :: rest =>
    if isKeyChar c then attributesFrom (c :: key) rest
    else if key.isEmpty then attributesFrom [] rest
    else
      match read : value? (c :: rest) with
      | some (value, after) =>
        have := value?_shorter read
        (String.ofList key.reverse, String.ofList value) :: attributesFrom [] after
      | none => attributesFrom [] rest
  termination_by text => text.length
  decreasing_by all_goals simp_all only [List.length_cons] <;> omega

def attributes (text : List Char) : List (String × String) := attributesFrom [] text

end Stencil.Markup
