import Mathlib.Data.List.Forall2
import Stencil.Text.Caseless

/-!
# Texts that differ in case

What a search without regard to case finds fits character by character. Of the ASCII characters
only letters have cases; a letter fits its two cases, and `s` and `k` fit one character more each.
-/
namespace Stencil

namespace Unicode

/-! ### The table of cases -/

/-- The words of a line are made of its characters, the blanks apart. -/
private theorem wordsOf_chars {p : Char → Prop} {line : String}
    (chars : ∀ c ∈ line.toList, c ≠ ' ' → p c) : ∀ word ∈ wordsOf line, ∀ c ∈ word, p c := by
  unfold wordsOf
  generalize folded : line.toList.foldl _ _ = state
  -- The word being read and the words before it are made of characters that have been passed.
  have along : (∀ c ∈ state.1, p c) ∧ ∀ word ∈ state.2, ∀ c ∈ word, p c := by
    rw [← folded]
    apply List.foldlRecOn (motive := fun state : List Char × List (List Char) =>
      (∀ c ∈ state.1, p c) ∧ ∀ word ∈ state.2, ∀ c ∈ word, p c)
    · exact ⟨List.forall_mem_nil _, List.forall_mem_nil _⟩
    · rintro ⟨word, done⟩ ⟨here, before⟩ c within
      dsimp only
      by_cases blank : c = ' '
      · rw [if_pos blank]
        exact ⟨List.forall_mem_nil _, List.forall_mem_cons.mpr ⟨by simpa using here, before⟩⟩
      · rw [if_neg blank]
        exact ⟨List.forall_mem_cons.mpr ⟨chars c within blank, here⟩, before⟩
  intro word member
  rw [List.mem_reverse] at member
  rcases List.mem_cons.mp member with rfl | member
  · simpa using along.1
  · exact along.2 word member

/-- In the lines of the table are letters and characters beyond ASCII. -/
private theorem caseClassText_chars : ∀ line ∈ caseClassText,
    line.toList.all (fun c => c == ' ' || c.isAlpha || 128 ≤ c.toNat) := by
  unfold caseClassText
  repeat
    refine List.forall_mem_cons.mpr ⟨?_, ?_⟩
    · rw [String.toList_ofList]
      decide +kernel
  exact List.forall_mem_nil _

private theorem caseClasses_chars {members : List Char} (listed : members ∈ caseClasses) {c : Char}
    (member : c ∈ members) : c.isAlpha ∨ 128 ≤ c.toNat := by
  obtain ⟨line, written, word⟩ := List.mem_flatMap.mp listed
  have chars := List.all_eq_true.mp (caseClassText_chars line written)
  refine wordsOf_chars (p := fun c => c.isAlpha ∨ 128 ≤ c.toNat) ?_ members word c member
  intro c within solid
  simpa [solid] using chars c within

/-- Of ASCII characters only letters have cases. -/
theorem caseClass_sign {c : Char} (ascii : c.toNat < 128) (sign : c.isAlpha = false) :
    caseClass c = [c] := by
  unfold caseClass
  split
  · next members found =>
    have listed := List.mem_of_find?_eq_some found
    have member : c ∈ members := by simpa using List.find?_some found
    rcases caseClasses_chars listed member with letter | beyond
    · rw [sign] at letter
      cases letter
    · omega
  · rfl

/-- The ASCII letter in lower case that a character fits, if it fits any: the long s is one of the
cases of `s`, and the sign for kelvin is one of `k`. -/
def asciiFold (c : Char) : Char :=
  if c = '\u017F' then 's' else if c = '\u212A' then 'k' else c.toLower

theorem asciiFold_of_ne {c : Char} (noLong : c ≠ '\u017F') (noKelvin : c ≠ '\u212A') :
    asciiFold c = c.toLower := by
  rw [asciiFold, if_neg noLong, if_neg noKelvin]

theorem asciiFold_of_ascii {c : Char} (ascii : c.toNat < 128) : asciiFold c = c.toLower := by
  apply asciiFold_of_ne
  · rintro rfl
    exact absurd ascii (by decide)
  · rintro rfl
    exact absurd ascii (by decide)

theorem sameCaseless_iff_mem {a b : Char} : sameCaseless a b ↔ a = b ∨ b ∈ caseClass a := by
  simp [sameCaseless]

/-- The ASCII characters can be gone through. -/
theorem forall_ascii {p : Char → Prop} (all : ∀ n < 128, p (Char.ofNat n)) {c : Char}
    (ascii : c.toNat < 128) : p c := by
  have found := all c.toNat ascii
  rwa [Char.ofNat_toNat] at found

/-- What fits an ASCII character has the same lower case among the ASCII letters. -/
theorem asciiFold_of_sameCaseless {a b : Char} (ascii : a.toNat < 128) (same : sameCaseless a b) :
    asciiFold b = a.toLower := by
  rcases sameCaseless_iff_mem.mp same with rfl | member
  · exact asciiFold_of_ascii ascii
  · cases letter : a.isAlpha with
    | true =>
      have found := forall_ascii
        (p := fun a => a.isAlpha → (caseClass a).all fun b => asciiFold b = a.toLower)
        (by decide +kernel) ascii
      exact of_decide_eq_true (List.all_eq_true.mp (found letter) b member)
    | false =>
      rw [caseClass_sign ascii letter, List.mem_singleton] at member
      rw [member]
      exact asciiFold_of_ascii ascii

/-- A sign only fits itself. -/
theorem eq_of_sameCaseless {a b : Char} (ascii : b.toNat < 128) (sign : b.isAlpha = false)
    (same : sameCaseless a b) : a = b := by
  rcases sameCaseless_iff_mem.mp same with same | member
  · exact same
  · unfold caseClass at member
    split at member
    · next members found =>
      rcases caseClasses_chars (List.mem_of_find?_eq_some found) member with letter | beyond
      · rw [sign] at letter
        cases letter
      · omega
    · exact (List.mem_singleton.mp member).symm

end Unicode

namespace Text

/-- Two texts that differ at most in case. -/
def Caseless (start written : List Char) : Prop :=
  List.Forall₂ (fun a b => Unicode.sameCaseless a b) start written

/-- The signs of a text that differs from another one in case stand in that one too. -/
theorem Caseless.mem_of_sign {start written : List Char} (alike : Caseless start written) {c : Char}
    (ascii : c.toNat < 128) (sign : c.isAlpha = false) (within : c ∈ written) : c ∈ start := by
  induction alike with
  | nil => exact within
  | cons same _ ih =>
    rcases List.mem_cons.mp within with rfl | later
    · rw [Unicode.eq_of_sameCaseless ascii sign same]
      exact List.mem_cons_self
    · exact List.mem_cons_of_mem _ (ih later)

/-- The last character of a text differs at most in case from that of the other one. -/
theorem Caseless.exists_last {start written : List Char} {c : Char}
    (alike : Caseless (start ++ [c]) written) :
    ∃ front d, written = front ++ [d] ∧ Unicode.sameCaseless c d := by
  induction start generalizing written with
  | nil =>
    cases alike with
    | cons same none =>
      cases none
      exact ⟨[], _, rfl, same⟩
  | cons a start ih =>
    cases alike with
    | @cons _ b _ _ _ later =>
      obtain ⟨front, d, rfl, same⟩ := ih later
      exact ⟨b :: front, d, rfl, same⟩

/-- A search from the start of a text finds what differs from it at most in case. -/
theorem afterCaseless?_eq_some {start text rest : List Char} :
    afterCaseless? start text = some rest ↔
      ∃ written, Caseless start written ∧ text = written ++ rest := by
  induction start generalizing text with
  | nil =>
    constructor
    · rintro ⟨⟩
      exact ⟨[], .nil, rfl⟩
    · rintro ⟨_, ⟨⟩, rfl⟩
      rfl
  | cons a start ih =>
    constructor
    · intro read
      cases text with
      | nil => cases read
      | cons b text =>
        rw [afterCaseless?] at read
        split at read
        · next same =>
          obtain ⟨written, alike, rfl⟩ := ih.mp read
          exact ⟨b :: written, .cons same alike, rfl⟩
        · cases read
    · rintro ⟨_, _ | ⟨same, alike⟩, rfl⟩
      rw [List.cons_append, afterCaseless?, if_pos same]
      exact ih.mpr ⟨_, alike, rfl⟩

/-- What is found first stands behind what lies before it. -/
theorem exists_of_splitAtFirstCaseless {needle text before rest : List Char}
    (found : splitAtFirstCaseless needle text = some (before, rest)) :
    ∃ written, Caseless needle written ∧ text = before ++ (written ++ rest) := by
  induction text generalizing before with
  | nil =>
    obtain ⟨rest, start, same⟩ := Option.map_eq_some_iff.mp found
    cases same
    obtain ⟨written, alike, whole⟩ := afterCaseless?_eq_some.mp start
    exact ⟨written, alike, whole⟩
  | cons c text ih =>
    rw [splitAtFirstCaseless] at found
    split at found
    · next start =>
      cases found
      obtain ⟨written, alike, whole⟩ := afterCaseless?_eq_some.mp start
      exact ⟨written, alike, whole⟩
    · obtain ⟨⟨front, behind⟩, found, same⟩ := Option.map_eq_some_iff.mp found
      cases same
      obtain ⟨written, alike, rfl⟩ := ih found
      exact ⟨written, alike, rfl⟩

end Text

end Stencil
