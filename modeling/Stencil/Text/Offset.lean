/-!
# Places in a text

Offsets count the bytes of the UTF-8 form. Lines and columns count from one; the
column is the number of bytes since the last line feed.
-/
namespace Stencil.Text

/-- The number of bytes of a list of characters. -/
def byteSize : List Char → Nat
  | [] => 0
  | c :: rest => c.utf8Size + byteSize rest

theorem byteSize_append (left right : List Char) :
    byteSize (left ++ right) = byteSize left + byteSize right := by
  induction left with
  | nil => simp [byteSize]
  | cons c rest ih => simp [byteSize, ih]; omega

/-- A place in a text. -/
structure Place where
  offset : Nat
  line : Nat
  column : Nat
  deriving DecidableEq

namespace Place

def start : Place := ⟨0, 1, 1⟩

/-- The place behind the next character. -/
def advance (place : Place) (c : Char) : Place :=
  if c = '\n' then ⟨place.offset + c.utf8Size, place.line + 1, 1⟩
  else ⟨place.offset + c.utf8Size, place.line, place.column + c.utf8Size⟩

def advanceBy (place : Place) (text : List Char) : Place := text.foldl advance place

end Place

/-- Line and column of the place behind a text. -/
def lineColumn (before : List Char) : Nat × Nat :=
  let place := Place.start.advanceBy before
  (place.line, place.column)

/-- The characters that lie wholly within the first bytes of a text. -/
def takeBytes : Nat → List Char → List Char
  | _, [] => []
  | bytes, c :: rest => if c.utf8Size ≤ bytes then c :: takeBytes (bytes - c.utf8Size) rest else []

/-- Line and column of a byte offset, which may lie inside a character. -/
def lineColumnAt (text : List Char) (offset : Nat) : Nat × Nat :=
  let before := takeBytes offset text
  let (line, column) := lineColumn before
  (line, column + (offset - byteSize before))

end Stencil.Text
