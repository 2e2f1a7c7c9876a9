import Mathlib.Data.List.Forall2
import Mathlib.Data.Option.Basic
import Stencil.Markup.Occurrence

/-!
# Scanning at different places

Where a text stands decides about the places of its tags and about nothing else.
-/
namespace Stencil.Markup

deriving instance DecidableEq for Occurrence, Part, Scan

/-- The same tag, possibly elsewhere in a text. -/
structure Occurrence.Alike (a b : Occurrence) : Prop where
  closing : a.closing = b.closing
  selfClosing : a.selfClosing = b.selfClosing
  namespaceName : a.namespaceName = b.namespaceName
  name : a.name = b.name
  attributeText : a.attributeText = b.attributeText

/-- The same text and tag. -/
structure Part.Alike (a b : Part) : Prop where
  gap : a.gap = b.gap
  tag : a.tag.Alike b.tag

variable {namespaces : List String}

/-- A tag at the start of a text is read wherever the text stands. -/
theorem tag?_alike (place other : Text.Place) (text : List Char) :
    (tag? namespaces place text = none ∧ tag? namespaces other text = none) ∨
      ∃ a b rest, tag? namespaces place text = some (a, rest) ∧
        tag? namespaces other text = some (b, rest) ∧ a.Alike b := by
  unfold tag?
  -- Only the places are computed from where the text stands.
  rcases start? namespaces text with _ | ⟨start, inner⟩
  · exact .inl ⟨rfl, rfl⟩
  · simp only [Option.bind_eq_bind, Option.bind_some]
    rcases ending? (start.name.getLastD '<') [] inner with _ | ⟨attributes, selfClosing, rest⟩
    · exact .inl ⟨rfl, rfl⟩
    · exact .inr ⟨_, _, rest, rfl, rfl, ⟨rfl, rfl, rfl, rfl, rfl⟩⟩

theorem scanFrom_of_tag {place : Text.Place} {gap rest after : List Char} {c : Char}
    {tag : Occurrence} (read : tag? namespaces place (c :: rest) = some (tag, after)) :
    scanFrom namespaces place gap (c :: rest) =
      ⟨⟨gap.reverse, tag⟩ :: (scanFrom namespaces tag.stop [] after).parts,
        (scanFrom namespaces tag.stop [] after).tail⟩ := by
  rw [scanFrom]
  split
  next other after' read' =>
    rw [read] at read'
    cases read'
    rfl
  next absent =>
    rw [read] at absent
    cases absent

theorem scanFrom_of_none {place : Text.Place} {gap rest : List Char} {c : Char}
    (absent : tag? namespaces place (c :: rest) = none) :
    scanFrom namespaces place gap (c :: rest)
      = scanFrom namespaces (place.advance c) (c :: gap) rest := by
  rw [scanFrom]
  split
  next tag after read =>
    rw [absent] at read
    cases read
  next => rfl

/-- A text is scanned alike wherever it stands. -/
theorem scanFrom_alike (namespaces : List String) (place other : Text.Place)
    (gap text : List Char) :
    List.Forall₂ Part.Alike (scanFrom namespaces place gap text).parts
        (scanFrom namespaces other gap text).parts ∧
      (scanFrom namespaces place gap text).tail = (scanFrom namespaces other gap text).tail := by
  -- A tag is found at the start of what is left at both places or at neither.
  induction place, gap, text using scanFrom.induct namespaces generalizing other with
  | case1 place gap =>
    rw [scanFrom, scanFrom]
    exact ⟨.nil, rfl⟩
  | case2 place gap c rest tag after read shorter ih =>
    rcases tag?_alike place other (c :: rest) with ⟨absent, -⟩ | ⟨a, b, after', here, there, alike⟩
    · rw [read] at absent
      cases absent
    · rw [read] at here
      cases here
      obtain ⟨parts, tails⟩ := ih b.stop
      rw [scanFrom_of_tag read, scanFrom_of_tag there]
      exact ⟨.cons ⟨rfl, alike⟩ parts, tails⟩
  | case3 place gap c rest read ih =>
    rcases tag?_alike place other (c :: rest) with ⟨-, absent⟩ | ⟨a, b, after, here, -, -⟩
    · rw [scanFrom_of_none read, scanFrom_of_none absent]
      exact ih (other.advance c)
    · rw [read] at here
      cases here

end Stencil.Markup
