import Stencil.Unicode.Case

/-!
# Search whatever the case
-/
namespace Stencil.Text

/-- The rest of a text that starts with a given one, whatever the case. -/
def afterCaseless? : (start text : List Char) → Option (List Char)
  | [], text => some text
  | _ :: _, [] => none
  | a :: start, b :: text => if Unicode.sameCaseless a b then afterCaseless? start text else none

theorem afterCaseless?_length {start text rest : List Char}
    (read : afterCaseless? start text = some rest) :
    rest.length + start.length = text.length := by
  induction start generalizing text with
  | nil => simp_all [afterCaseless?]
  | cons a start ih =>
    cases text with
    | nil => simp [afterCaseless?] at read
    | cons b text =>
      simp only [afterCaseless?] at read
      split at read
      · have := ih read; simp only [List.length_cons]; omega
      · simp at read

/-- What lies before the first occurrence of a text, whatever the case, and behind it. -/
def splitAtFirstCaseless (needle : List Char) : List Char → Option (List Char × List Char)
  | [] => (afterCaseless? needle []).map fun rest => ([], rest)
  | c :: text =>
    match afterCaseless? needle (c :: text) with
    | some rest => some ([], rest)
    | none => (splitAtFirstCaseless needle text).map fun (before, rest) => (c :: before, rest)

end Stencil.Text
