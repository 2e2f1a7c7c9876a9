/-!
# Finding and replacing texts

Occurrences are found from the left and do not overlap.
-/
namespace Stencil.Text

/-- The rest of a text that starts with a given one. -/
def afterStart? : (start text : List Char) → Option (List Char)
  | [], text => some text
  | _ :: _, [] => none
  | a :: start, b :: text => if a = b then afterStart? start text else none

theorem afterStart?_eq_some {start text rest : List Char} :
    afterStart? start text = some rest ↔ text = start ++ rest := by
  induction start generalizing text with
  | nil => simp [afterStart?, eq_comm]
  | cons a start ih =>
    cases text with
    | nil => simp [afterStart?]
    | cons b text => by_cases same : a = b <;> simp [afterStart?, same, ih, eq_comm]

/-- What lies before and behind the first occurrence of a text. -/
def splitAtFirst (needle : List Char) : List Char → Option (List Char × List Char)
  | [] => (afterStart? needle []).map fun rest => ([], rest)
  | c :: text =>
    match afterStart? needle (c :: text) with
    | some rest => some ([], rest)
    | none => (splitAtFirst needle text).map fun (before, rest) => (c :: before, rest)

/-- Replace every occurrence of a non-empty text. The first argument counts the
characters of the occurrence at hand that are still to be passed over. -/
def replaceFrom (needle replacement : List Char) : Nat → List Char → List Char
  | _, [] => []
  | skip + 1, _ :: text => replaceFrom needle replacement skip text
  | 0, c :: text =>
    if (afterStart? needle (c :: text)).isSome then
      replacement ++ replaceFrom needle replacement (needle.length - 1) text
    else c :: replaceFrom needle replacement 0 text

def replaceAll (needle replacement text : List Char) : List Char :=
  replaceFrom needle replacement 0 text

/-- The pieces of a text between occurrences of a character. -/
def splitOnChar (separator : Char) : List Char → List (List Char)
  | [] => [[]]
  | c :: text =>
    match splitOnChar separator text with
    | [] => [[]]
    | piece :: rest => if c = separator then [] :: piece :: rest else (c :: piece) :: rest

end Stencil.Text
