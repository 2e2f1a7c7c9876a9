import Stencil.Proofs.Text
import Stencil.Registry.Discover

/-!
# How tag files are named

A file in the directory of a namespace is named after the namespace, a tag and the word `tag`, and
has an ending. Among ASCII names a file is taken for the tag exactly if its name is put together so,
whatever the case (`NamesTag`).
-/
namespace Stencil

namespace Text

/-! ### Case in ASCII text -/

/-- That a text has ASCII characters only. -/
def IsAscii (text : List Char) : Prop := ∀ c ∈ text, c.toNat < 128

instance (text : List Char) : Decidable (IsAscii text) :=
  List.decidableBAll (fun c : Char => c.toNat < 128) text

private theorem lowerFrom_of_ascii {text : List Char} (ascii : IsAscii text) (before : List Char) :
    lowerFrom before text = text.map Char.toLower := by
  induction text generalizing before with
  | nil => rfl
  | cons c rest ih =>
    obtain ⟨here, later⟩ := List.forall_mem_cons.mp ascii
    have noSigma : c ≠ 'Σ' := by
      rintro rfl
      exact absurd here (by decide)
    rw [lowerFrom, ih later, List.map_cons, if_neg noSigma, Unicode.lower, if_pos here]
    rfl

theorem lower_of_ascii {text : List Char} (ascii : IsAscii text) :
    lower text = text.map Char.toLower :=
  lowerFrom_of_ascii ascii []

/-- What is in lower case stays as it is, and ASCII text stays ASCII text. -/
theorem toLower_toLower_of_ascii {c : Char} (ascii : c.toNat < 128) :
    c.toLower.toLower = c.toLower ∧ c.toLower.toNat < 128 :=
  Unicode.forall_ascii (p := fun c => c.toLower.toLower = c.toLower ∧ c.toLower.toNat < 128)
    (by decide +kernel) ascii

/-- What is in lower case fits a text exactly if it is the text in lower case. -/
theorem caseless_iff {start written : List Char} (lower : ∀ a ∈ start, a.toLower = a)
    (asciiStart : IsAscii start) (ascii : IsAscii written) :
    Caseless start written ↔ written.map Char.toLower = start := by
  constructor
  · intro alike
    induction alike with
    | nil => rfl
    | @cons a b start written same _ ih =>
      obtain ⟨lowerHere, lowerLater⟩ := List.forall_mem_cons.mp lower
      obtain ⟨startHere, startLater⟩ := List.forall_mem_cons.mp asciiStart
      obtain ⟨here, later⟩ := List.forall_mem_cons.mp ascii
      have folded := Unicode.asciiFold_of_sameCaseless startHere same
      rw [Unicode.asciiFold_of_ascii here, lowerHere] at folded
      rw [List.map_cons, folded, ih lowerLater startLater later]
  · rintro rfl
    refine List.forall₂_map_left_iff.mpr (List.forall₂_same.mpr fun c member => ?_)
    exact sameCaseless_toLower (ascii c member)

end Text

namespace Registry

/-- That a file stands for a tag of a namespace by its name: it starts with the namespace, goes on
with the name of the tag, which is a letter and then letters and digits, and with the word `tag`,
and has an ending of letters, digits and dots. Case does not count. -/
def NamesTag (namespaceName fileName name : String) : Prop :=
  ∃ start word mark ending : List Char,
    fileName.toList = start ++ (word ++ mark ++ '.' :: ending) ∧
      start.map Char.toLower = namespaceName.toList ∧
      (∃ c rest, word = c :: rest ∧ c.isAlpha ∧ ∀ d ∈ rest, d.isAlphanum) ∧
      mark.map Char.toLower = ['t', 'a', 'g'] ∧
      ending ≠ [] ∧ (∀ c ∈ ending, c.isAlphanum ∨ c = '.') ∧
      name.toList = word.map Char.toLower

variable {c : Char} {namespaceName fileName name : String}

private theorem isLetter_iff (ascii : c.toNat < 128) : isLetter c ↔ c.isAlpha := by
  rw [isLetter, Bool.or_eq_true]
  cases letter : c.isAlpha with
  | true => simp
  | false => simp [Unicode.caseClass_sign ascii letter, letter]

private theorem isLetterOrDigit_iff (ascii : c.toNat < 128) : isLetterOrDigit c ↔ c.isAlphanum := by
  rw [isLetterOrDigit, Bool.or_eq_true, isLetter_iff ascii, Char.isAlphanum, Bool.or_eq_true]

private theorem isEndingChar_iff (ascii : c.toNat < 128) :
    isEndingChar c ↔ c.isAlphanum ∨ c = '.' := by
  rw [isEndingChar, Bool.or_eq_true, isLetterOrDigit_iff ascii, beq_iff_eq]

private theorem isTagName_iff {word : List Char} (ascii : Text.IsAscii word) :
    isTagName word ↔ ∃ c rest, word = c :: rest ∧ c.isAlpha ∧ ∀ d ∈ rest, d.isAlphanum := by
  cases word with
  | nil => simp [isTagName]
  | cons c rest =>
    obtain ⟨here, later⟩ := List.forall_mem_cons.mp ascii
    rw [isTagName, Bool.and_eq_true, isLetter_iff here, List.all_eq_true]
    constructor
    · rintro ⟨letter, more⟩
      refine ⟨c, rest, rfl, letter, fun d member => ?_⟩
      exact (isLetterOrDigit_iff (later d member)).mp (more d member)
    · rintro ⟨_, _, ⟨⟩, letter, more⟩
      exact ⟨letter, fun d member => (isLetterOrDigit_iff (later d member)).mpr (more d member)⟩

/-- What a file name is taken for: behind the namespace, up to the first dot, stands the name of the
tag with the word `tag` behind it. -/
theorem tagOfFile?_eq_some_iff : tagOfFile? namespaceName fileName = some name ↔
    ∃ inner, Text.afterCaseless? namespaceName.toList fileName.toList = some inner ∧
      let word := inner.takeWhile (· ≠ '.')
      let ending := (inner.dropWhile (· ≠ '.')).tail
      ((word.drop (word.length - 3)).map Char.toLower = "tag".toList ∧
        isTagName (word.take (word.length - 3)) ∧ !ending.isEmpty ∧ ending.all isEndingChar) ∧
        name = String.ofList (Text.lower (word.take (word.length - 3))) := by
  unfold tagOfFile?
  rw [Option.bind_eq_bind, Option.bind_eq_some_iff]
  refine exists_congr fun inner => and_congr_right fun _ => ?_
  dsimp only
  rw [Option.ite_none_right_eq_some, Option.some.injEq, eq_comm (a := name)]

private theorem ne_dot_of_isAlphanum (alphanumeric : c.isAlphanum) : c ≠ '.' := by
  rintro rfl
  exact absurd alphanumeric (by decide)

section

variable (lower : ∀ c ∈ namespaceName.toList, c.toLower = c)
  (asciiNamespace : Text.IsAscii namespaceName.toList) (ascii : Text.IsAscii fileName.toList)

include lower asciiNamespace ascii

private theorem namesTag_of_tagOfFile? (taken : tagOfFile? namespaceName fileName = some name) :
    NamesTag namespaceName fileName name := by
  obtain ⟨inner, read, ⟨isTag, isName, hasEnding, endings⟩, rfl⟩ := tagOfFile?_eq_some_iff.mp taken
  obtain ⟨start, alike, whole⟩ := Text.afterCaseless?_eq_some.mp read
  rw [whole] at ascii
  obtain ⟨asciiStart, asciiInner⟩ := List.forall_mem_append.mp ascii
  -- There is an ending, so the word does not reach to the end of the name.
  obtain ⟨dot, ending, behind⟩ : ∃ dot ending, inner.dropWhile (· ≠ '.') = dot :: ending := by
    cases behind : inner.dropWhile (· ≠ '.') with
    | nil =>
      rw [behind] at hasEnding
      cases hasEnding
    | cons dot ending => exact ⟨dot, ending, rfl⟩
  have isDot : dot = '.' := by
    have last := List.head?_dropWhile_not (· ≠ '.') inner
    rw [behind] at last
    simpa using last
  have cut := List.takeWhile_append_dropWhile (p := fun c => decide (c ≠ '.')) (l := inner)
  rw [behind, isDot] at cut
  rw [behind, List.tail_cons] at hasEnding endings
  generalize inner.takeWhile (fun c => decide (c ≠ '.')) = word at *
  have asciiWord : Text.IsAscii word := fun c member => asciiInner c (by rw [← cut]; simp [member])
  have asciiEnding : Text.IsAscii ending :=
    fun c member => asciiInner c (by rw [← cut]; simp [member])
  have asciiName : Text.IsAscii (word.take (word.length - 3)) :=
    fun c member => asciiWord c (List.mem_of_mem_take member)
  refine ⟨start, word.take (word.length - 3), word.drop (word.length - 3), ending, ?_, ?_, ?_, isTag,
    ?_, ?_, ?_⟩
  · rw [whole, List.take_append_drop, cut]
  · exact (Text.caseless_iff lower asciiNamespace asciiStart).mp alike
  · exact (isTagName_iff asciiName).mp isName
  · simpa using hasEnding
  · intro c member
    exact (isEndingChar_iff (asciiEnding c member)).mp (List.all_eq_true.mp endings c member)
  · rw [String.toList_ofList, Text.lower_of_ascii asciiName]

private theorem tagOfFile?_of_namesTag (names : NamesTag namespaceName fileName name) :
    tagOfFile? namespaceName fileName = some name := by
  obtain ⟨start, word, mark, ending, whole, starts, isName, isTag, hasEnding, endings, named⟩ := names
  rw [whole] at ascii
  obtain ⟨asciiStart, asciiRest⟩ := List.forall_mem_append.mp ascii
  obtain ⟨asciiWord, asciiEnding⟩ := List.forall_mem_append.mp asciiRest
  obtain ⟨asciiName, asciiMark⟩ := List.forall_mem_append.mp asciiWord
  obtain ⟨-, asciiEnding⟩ := List.forall_mem_cons.mp asciiEnding
  -- There is no dot before the ending.
  have noDotName : '.' ∉ word := by
    obtain ⟨c, rest, rfl, letter, more⟩ := isName
    have first := ne_dot_of_isAlphanum (Bool.or_eq_true_iff.mpr (.inl letter))
    rw [List.mem_cons, not_or]
    exact ⟨first.symm, fun member => ne_dot_of_isAlphanum (more '.' member) rfl⟩
  have noDotMark : '.' ∉ mark := by
    intro member
    have lowered : '.' ∈ mark.map Char.toLower := List.mem_map.mpr ⟨'.', member, rfl⟩
    rw [isTag] at lowered
    exact absurd lowered (by decide)
  have noDot : '.' ∉ word ++ mark := by
    rw [List.mem_append, not_or]
    exact ⟨noDotName, noDotMark⟩
  have size : mark.length = 3 := by
    rw [← List.length_map Char.toLower, isTag]
    rfl
  have nameSize : (word ++ mark).length - 3 = word.length := by
    rw [List.length_append, size, Nat.add_sub_cancel]
  refine tagOfFile?_eq_some_iff.mpr ⟨word ++ mark ++ '.' :: ending, ?_, ?_⟩
  · exact Text.afterCaseless?_eq_some.mpr
      ⟨start, (Text.caseless_iff lower asciiNamespace asciiStart).mpr starts, whole⟩
  · rw [Text.takeWhile_ne_append noDot, Text.dropWhile_ne_append noDot]
    dsimp only
    rw [nameSize, List.take_left, List.drop_left, List.tail_cons, Text.lower_of_ascii asciiName,
      ← named, String.ofList_toList]
    refine ⟨⟨isTag, (isTagName_iff asciiName).mpr isName, by simpa using hasEnding, ?_⟩, rfl⟩
    refine List.all_eq_true.mpr fun c member => ?_
    exact (isEndingChar_iff (asciiEnding c member)).mpr (endings c member)

/-- Among ASCII names a file is taken for the tag it is named after. -/
theorem tagOfFile?_eq_some :
    tagOfFile? namespaceName fileName = some name ↔ NamesTag namespaceName fileName name :=
  ⟨namesTag_of_tagOfFile? lower asciiNamespace ascii,
    tagOfFile?_of_namesTag lower asciiNamespace ascii⟩

end

end Registry

end Stencil
