import Stencil.Text.Search

/-!
# Expressions with ordered choices

A search with such an expression finds the first place where there is a match, and of the matches
there the preferred one: that of the first of two alternatives, and of a repetition as long or as
short as the expression asks for.
-/
namespace Stencil.Regex

inductive Ordered where
  | empty
  /-- One character that a test accepts. -/
  | one (accepts : Char → Bool)
  /-- The end of the text. -/
  | atEnd
  | seq (first second : Ordered)
  | either (first second : Ordered)
  /-- Any number of characters that a test accepts. -/
  | many (greedy : Bool) (accepts : Char → Bool)

namespace Ordered

/-- A text as it is written. -/
def literal (text : List Char) : Ordered :=
  text.foldr (fun c next => .seq (.one (· == c)) next) .empty

/-- What a repetition can leave of a text, in the order it is tried. -/
def manyRests (greedy : Bool) (accepts : Char → Bool) : List Char → List (List Char)
  | [] => [[]]
  | c :: text =>
    let more := if accepts c then manyRests greedy accepts text else []
    if greedy then more ++ [c :: text] else (c :: text) :: more

/-- What the matches at the start of a text leave of it, the preferred one first. -/
def rests : Ordered → List Char → List (List Char)
  | empty, text => [text]
  | one _, [] => []
  | one accepts, c :: text => if accepts c then [text] else []
  | atEnd, [] => [[]]
  | atEnd, _ :: _ => []
  | seq first second, text => (first.rests text).flatMap second.rests
  | either first second, text => first.rests text ++ second.rests text
  | many greedy accepts, text => manyRests greedy accepts text

/-- What the preferred match at the start of a text leaves of it. -/
def rest? (e : Ordered) (text : List Char) : Option (List Char) := (e.rests text).head?

/-- A text without its matches, which are looked for from the left. A match of no character takes
nothing out. -/
def remove (e : Ordered) : List Char → List Char
  | [] => []
  | c :: text =>
    match e.rest? (c :: text) with
    | some rest => if rest.length ≤ text.length then e.remove rest else c :: e.remove text
    | none => c :: e.remove text
  termination_by text => text.length

variable {e first second next : Ordered} {accepts : Char → Bool} {text : List Char}

theorem rest?_either : (either first second).rest? text
    = (first.rest? text).or (second.rest? text) :=
  List.head?_append

private theorem rests_literal (start text : List Char) :
    (literal start).rests text = (Text.afterStart? start text).toList := by
  induction start generalizing text with
  | nil => rfl
  | cons a start ih =>
    cases text with
    | nil => rfl
    | cons b text =>
      change (if b == a then [text] else []).flatMap (literal start).rests = _
      by_cases same : a = b
      · subst same
        simp [Text.afterStart?, ih]
      · simp [Text.afterStart?, same, Ne.symm same]

theorem rest?_literal (start text : List Char) :
    (literal start).rest? text = Text.afterStart? start text := by
  rw [rest?, rests_literal, Option.head?_toList]

theorem rest?_literal_seq (start text : List Char) :
    (seq (literal start) next).rest? text = (Text.afterStart? start text).bind next.rest? := by
  rw [rest?, rests, rests_literal]
  cases Text.afterStart? start text with
  | none => rfl
  | some rest => simp [rest?]

theorem rest?_lazy_nil : (seq (many false accepts) next).rest? [] = next.rest? [] := by
  simp [rest?, rests, manyRests]

/-- A short repetition only takes a character if what follows does not match. -/
theorem rest?_lazy_cons {c : Char} : (seq (many false accepts) next).rest? (c :: text)
    = (next.rest? (c :: text)).or
        (if accepts c then (seq (many false accepts) next).rest? text else none) := by
  by_cases accepted : accepts c
  · simp [rest?, rests, manyRests, accepted, List.head?_append]
  · simp [rest?, rests, manyRests, accepted]

private theorem manyRests_greedy (accepts : Char → Bool) (text : List Char) :
    ∃ others, manyRests true accepts text = text.dropWhile accepts :: others := by
  induction text with
  | nil => exact ⟨[], rfl⟩
  | cons c text ih =>
    obtain ⟨others, whole⟩ := ih
    by_cases accepted : accepts c
    · refine ⟨others ++ [c :: text], ?_⟩
      simp [manyRests, accepted, whole]
    · refine ⟨[], ?_⟩
      simp [manyRests, accepted]

/-- A long repetition takes all it can if what follows matches there. -/
theorem rest?_greedy {rest : List Char} (found : next.rest? (text.dropWhile accepts) = some rest) :
    (seq (many true accepts) next).rest? text = some rest := by
  obtain ⟨others, whole⟩ := manyRests_greedy accepts text
  rw [rest?] at found
  rw [rest?, rests, rests, whole, List.flatMap_cons, List.head?_append, found, Option.some_or]

theorem remove_nil : e.remove [] = [] := by
  rw [remove]

theorem remove_of_match {rest : List Char} (found : e.rest? text = some rest)
    (shorter : rest.length < text.length) : e.remove text = e.remove rest := by
  cases text with
  | nil => cases shorter
  | cons c text =>
    rw [remove, found]
    exact if_pos (Nat.le_of_lt_succ shorter)

theorem remove_cons_of_none {c : Char} (missing : e.rest? (c :: text) = none) :
    e.remove (c :: text) = c :: e.remove text := by
  rw [remove, missing]

end Ordered

end Stencil.Regex
