import Mathlib.Data.List.Infix
import Stencil.Html

/-!
# Escaped text

Escaped text holds no character that starts or ends markup, and every ampersand in it starts
an entity. Decoding the entities gives the text back.
-/
namespace Stencil.Html

/-- The entities that stand for `&`, `<`, `>`, `"` and `'`. -/
def entities : List (List Char) :=
  ["&amp;".toList, "&lt;".toList, "&gt;".toList, "&quot;".toList, "&#39;".toList]

/-- The text with the entities decoded. Any other ampersand stands for itself. -/
def unescape : List Char → List Char
  | '&' :: 'a' :: 'm' :: 'p' :: ';' :: rest => '&' :: unescape rest
  | '&' :: 'l' :: 't' :: ';' :: rest => '<' :: unescape rest
  | '&' :: 'g' :: 't' :: ';' :: rest => '>' :: unescape rest
  | '&' :: 'q' :: 'u' :: 'o' :: 't' :: ';' :: rest => '"' :: unescape rest
  | '&' :: '#' :: '3' :: '9' :: ';' :: rest => '\'' :: unescape rest
  | c :: rest => c :: unescape rest
  | [] => []

/-- A text that leaves the markup around it as it is. -/
structure Inert (text : List Char) : Prop where
  plain : ∀ c ∈ text, c ≠ '<' ∧ c ≠ '>' ∧ c ≠ '"' ∧ c ≠ '\''
  entity : ∀ after, '&' :: after <:+ text → ∃ entity ∈ entities, entity <+: '&' :: after

/-- What is shown in place of a text. -/
structure Shows (shown original : List Char) : Prop where
  inert : Inert shown
  decoded : unescape shown = original

namespace Inert

variable {part text after : List Char}

theorem nil : Inert [] := ⟨by simp, by simp⟩

theorem of_suffix (inert : Inert text) (suffix : part <:+ text) : Inert part where
  plain c within := inert.plain c (suffix.mem within)
  entity after ends := inert.entity after (ends.trans suffix)

/-- A text may be cut before a character that is in no entity. -/
theorem of_append (inert : Inert (part ++ after))
    (outside : ∀ c ∈ after.head?, ∀ entity ∈ entities, c ∉ entity) : Inert part where
  plain c within := inert.plain c (List.mem_append_left after within)
  entity behind ends := by
    obtain ⟨before, rfl⟩ := ends
    obtain ⟨entity, known, more, same⟩ := inert.entity (behind ++ after) ⟨before, by simp⟩
    refine ⟨entity, known, ?_⟩
    rw [← List.cons_append] at same
    obtain ⟨left, cut, -⟩ | ⟨beyond, reaches, rest⟩ := List.append_eq_append_iff.mp same
    · exact ⟨left, cut.symm⟩
    · cases beyond with
      | nil => exact ⟨[], by rw [reaches, List.append_nil, List.append_nil]⟩
      | cons c beyond =>
        -- An entity that reaches beyond the cut would hold the character behind it.
        refine absurd ?_ (outside c (by rw [rest]; rfl) entity known)
        rw [reaches]
        exact List.mem_append_right _ List.mem_cons_self

/-- A character on its own in front, which is no ampersand. -/
theorem cons {c : Char} (inert : Inert text) (other : c ≠ '&')
    (plain : c ≠ '<' ∧ c ≠ '>' ∧ c ≠ '"' ∧ c ≠ '\'') : Inert (c :: text) where
  plain := List.forall_mem_cons.mpr ⟨plain, inert.plain⟩
  entity after ends := by
    obtain same | ends := List.suffix_cons_iff.mp ends
    · exact absurd (List.cons.inj same).1.symm other
    · exact inert.entity after ends

/-- An entity in front, which is its ampersand and characters without meaning. -/
theorem entity_append {name : List Char} (inert : Inert text)
    (known : '&' :: name ∈ entities) : Inert ('&' :: name ++ text) := by
  have named : ∀ c ∈ name, c ≠ '&' ∧ c ≠ '<' ∧ c ≠ '>' ∧ c ≠ '"' ∧ c ≠ '\'' := by
    have all : ∀ entity ∈ entities, ∀ c ∈ entity.tail,
        c ≠ '&' ∧ c ≠ '<' ∧ c ≠ '>' ∧ c ≠ '"' ∧ c ≠ '\'' := by simp [entities]
    exact all _ known
  have behind : Inert (name ++ text) := by
    clear known
    induction name with
    | nil => exact inert
    | cons c name ih =>
      obtain ⟨⟨other, plain⟩, named⟩ := List.forall_mem_cons.mp named
      exact cons (ih named) other plain
  refine ⟨List.forall_mem_cons.mpr ⟨by decide, behind.plain⟩, fun after ends => ?_⟩
  obtain same | ends := List.suffix_cons_iff.mp ends
  · exact ⟨_, known, by rw [same]; exact List.prefix_append _ _⟩
  · exact behind.entity after ends

end Inert

private theorem inert_escapeChar_append (c : Char) {text : List Char} (inert : Inert text) :
    Inert (escapeChar c ++ text) := by
  unfold escapeChar
  split
  · exact inert.entity_append (by decide)
  · exact inert.entity_append (by decide)
  · exact inert.entity_append (by decide)
  · exact inert.entity_append (by decide)
  · exact inert.entity_append (by decide)
  · next c amp lt gt quot apos => exact inert.cons amp ⟨lt, gt, quot, apos⟩

private theorem unescape_escapeChar_append (c : Char) (text : List Char) :
    unescape (escapeChar c ++ text) = c :: unescape text := by
  unfold escapeChar
  split
  · rfl
  · rfl
  · rfl
  · rfl
  · rfl
  · next c amp lt gt quot apos =>
    rw [List.singleton_append, unescape.eq_6]
    all_goals intro _ same; exact absurd same amp

/-- Escaping is undone by decoding, and nothing else of what it writes is markup. -/
theorem shows_escape (s : String) : Shows (escape s).toList s.toList := by
  rw [escape, String.toList_ofList]
  induction s.toList with
  | nil => exact ⟨.nil, rfl⟩
  | cons c rest ih =>
    rw [List.flatMap_cons]
    refine ⟨inert_escapeChar_append c ih.inert, ?_⟩
    rw [unescape_escapeChar_append, ih.decoded]

private theorem escapeChar_mem_or_eq (c : Char) : escapeChar c ∈ entities ∨ escapeChar c = [c] := by
  unfold escapeChar
  split
  · exact .inl (by simp [entities])
  · exact .inl (by simp [entities])
  · exact .inl (by simp [entities])
  · exact .inl (by simp [entities])
  · exact .inl (by simp [entities])
  · exact .inr rfl

/-- Escaping adds no character but those of entities. -/
theorem not_mem_escape {s : String} {c : Char} (absent : c ∉ s.toList)
    (outside : ∀ entity ∈ entities, c ∉ entity) : c ∉ (escape s).toList := by
  rw [escape, String.toList_ofList, List.mem_flatMap]
  rintro ⟨d, member, within⟩
  rcases escapeChar_mem_or_eq d with entity | same
  · exact outside _ entity within
  · rw [same, List.mem_singleton] at within
    exact absent (within ▸ member)

end Stencil.Html
