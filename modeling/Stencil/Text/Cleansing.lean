/-!
# Cleansing of submitted text

Control characters, markup and unwanted characters are taken out of a text. What
stays keeps its order.
-/
namespace Stencil.Text

/-- The control characters among the ASCII characters. -/
def isAsciiControl (c : Char) : Bool := c.toNat < 0x20 || c.toNat == 0x7F

/-- Tab, line feed and carriage return can be kept. -/
def stripControl (keepWhitespace : Bool) (text : List Char) : List Char :=
  text.filter fun c =>
    !isAsciiControl c || (keepWhitespace && (c == '\t' || c == '\n' || c == '\r'))

/-- Where in marked up text a character stands. -/
inductive MarkupPart where
  | outside
  | tag
  | comment
  deriving DecidableEq

/-- The text outside of tags and comments. A tag reaches to the next `>` and a comment
to the next `-->`; without that they reach to the end. -/
def stripMarkupFrom : MarkupPart → List Char → List Char
  | _, [] => []
  | .outside, '<' :: '!' :: '-' :: '-' :: rest => stripMarkupFrom .comment rest
  | .comment, '-' :: '-' :: '>' :: rest => stripMarkupFrom .outside rest
  | .outside, c :: rest =>
    if c = '<' then stripMarkupFrom .tag rest else c :: stripMarkupFrom .outside rest
  | .tag, c :: rest => stripMarkupFrom (if c = '>' then .outside else .tag) rest
  | .comment, _ :: rest => stripMarkupFrom .comment rest

def stripMarkup (text : List Char) : List Char := stripMarkupFrom .outside text

def removeChars (unwanted text : List Char) : List Char := text.filter fun c => !unwanted.contains c

def keepChars (wanted text : List Char) : List Char := text.filter wanted.contains

end Stencil.Text
