import Mathlib.Data.List.DropRight
import Stencil.Proofs.Text.Caseless
import Stencil.Text.Blank
import Stencil.Text.Caseless
import Stencil.Text.Offset
import Stencil.Text.Search

/-!
# Runs, places, case and replacing in texts

Where a run of characters ends, the place behind a text in terms of the text as a whole, what
a search without regard to case finds in ASCII letters, and what replacing leaves as it is.
-/
namespace Stencil.Text

/-! ### Runs -/

section

variable {p : Char → Bool} {run rest : List Char}

private theorem dropWhile_eq_self (ends : ∀ c ∈ rest.head?, p c = false) :
    rest.dropWhile p = rest := by
  cases rest with
  | nil => rfl
  | cons c rest => exact List.dropWhile_cons_of_neg (by simp [ends c rfl])

theorem dropWhile_run (within : ∀ c ∈ run, p c) (ends : ∀ c ∈ rest.head?, p c = false) :
    (run ++ rest).dropWhile p = rest := by
  rw [List.dropWhile_append_of_pos within, dropWhile_eq_self ends]

theorem takeWhile_run (within : ∀ c ∈ run, p c) (ends : ∀ c ∈ rest.head?, p c = false) :
    (run ++ rest).takeWhile p = run := by
  have behind := List.takeWhile_append_dropWhile (p := p) (l := run ++ rest)
  rw [dropWhile_run within ends] at behind
  exact List.append_cancel_right behind

end

section

variable {c : Char} {run : List Char}

private theorem forall_ne_of_not_mem (absent : c ∉ run) : ∀ d ∈ run, decide (d ≠ c) := by
  intro d member
  exact decide_eq_true (ne_of_mem_of_not_mem member absent)

theorem dropWhile_ne_eq_nil (absent : c ∉ run) : run.dropWhile (· ≠ c) = [] :=
  List.dropWhile_eq_nil_iff.mpr (forall_ne_of_not_mem absent)

theorem dropWhile_ne_append (absent : c ∉ run) (rest : List Char) :
    (run ++ c :: rest).dropWhile (· ≠ c) = c :: rest :=
  dropWhile_run (forall_ne_of_not_mem absent) (by simp)

theorem takeWhile_ne_append (absent : c ∉ run) (rest : List Char) :
    (run ++ c :: rest).takeWhile (· ≠ c) = run :=
  takeWhile_run (forall_ne_of_not_mem absent) (by simp)

end

/-- A text with no blank at either end. -/
theorem trim_eq_self {text : List Char} (first : ∀ c ∈ text.head?, isBlank c = false)
    (last : ∀ c ∈ text.getLast?, isBlank c = false) : trim text = text := by
  have reversed : ∀ c ∈ text.reverse.head?, isBlank c = false := by
    rwa [List.head?_reverse]
  rw [trim, trimLeft, dropWhile_eq_self first, trimRight, dropWhile_eq_self reversed,
    List.reverse_reverse]

/-! ### Places -/

theorem Place.advanceBy_append (place : Place) (left right : List Char) :
    place.advanceBy (left ++ right) = (place.advanceBy left).advanceBy right :=
  List.foldl_append

/-- The place behind a text: its size, its line feeds, and the size of its last line. -/
theorem Place.advanceBy_start (before : List Char) : Place.start.advanceBy before
    = ⟨byteSize before, before.count '\n' + 1, byteSize (before.rtakeWhile (· ≠ '\n')) + 1⟩ := by
  induction before using List.reverseRecOn with
  | nil => rfl
  | append_singleton before c ih =>
    rw [Place.advanceBy_append, ih, List.rtakeWhile_concat, byteSize_append, List.count_append]
    by_cases feed : c = '\n'
    · subst feed
      simp [Place.advanceBy, Place.advance, byteSize]
    · have other : List.count '\n' [c] = 0 := by simp [feed]
      simp [Place.advanceBy, Place.advance, byteSize, byteSize_append, feed, other]
      omega

/-- An offset between two characters of a text, or at one of its ends. -/
def IsBoundary (text : List Char) (offset : Nat) : Prop :=
  ∃ before behind, text = before ++ behind ∧ offset = byteSize before

theorem IsBoundary.le {text : List Char} {offset : Nat} (boundary : IsBoundary text offset) :
    offset ≤ byteSize text := by
  obtain ⟨before, behind, rfl, rfl⟩ := boundary
  rw [byteSize_append]
  exact Nat.le_add_right _ _

/-! ### Case -/

theorem isLower_iff {c : Char} : c.isLower ↔ 97 ≤ c.toNat ∧ c.toNat ≤ 122 := by
  have range : c.isLower = (decide ('a'.val ≤ c.val) && decide (c.val ≤ 'z'.val)) := rfl
  simp [range, UInt32.le_iff_toNat_le]

theorem isUpper_iff {c : Char} : c.isUpper ↔ 65 ≤ c.toNat ∧ c.toNat ≤ 90 := by
  have range : c.isUpper = decide ('A'.val ≤ c.val ∧ c.val ≤ 'Z'.val) := rfl
  simp [range, UInt32.le_iff_toNat_le]

theorem isDigit_iff {c : Char} : c.isDigit ↔ 48 ≤ c.toNat ∧ c.toNat ≤ 57 := by
  have range : c.isDigit = (decide ('0'.val ≤ c.val) && decide (c.val ≤ '9'.val)) := rfl
  simp [range, UInt32.le_iff_toNat_le]

theorem isAlpha_iff {c : Char} : c.isAlpha ↔ c.isUpper ∨ c.isLower := Bool.or_eq_true_iff

private theorem toNat_le_of_isUpper {c : Char} (upper : c.val ≤ 'Z'.val) : c.toNat ≤ 90 :=
  UInt32.le_iff_toNat_le.mp upper

theorem toLower_of_isLower {c : Char} (letter : c.isLower) : c.toLower = c := by
  have range := isLower_iff.mp letter
  refine dif_neg ?_
  rintro ⟨-, upper⟩
  have below := toNat_le_of_isUpper upper
  omega

private theorem ascii_of_toLower {c : Char} (letter : c.toLower.isLower) : c.toNat < 128 := by
  unfold Char.toLower at letter
  split at letter
  · next upper =>
    have below := toNat_le_of_isUpper upper.2
    omega
  · have range := isLower_iff.mp letter
    omega

theorem sameCaseless_toLower {c : Char} (ascii : c.toNat < 128) :
    Unicode.sameCaseless c.toLower c :=
  Unicode.forall_ascii (p := fun c => Unicode.sameCaseless c.toLower c) (by decide +kernel) ascii

/-- A letter in lower case fits its own two cases only, as far as ASCII goes. -/
theorem sameCaseless_iff {a b : Char} (letter : a.isLower) (ascii : b.toNat < 128) :
    Unicode.sameCaseless a b ↔ b.toLower = a := by
  constructor
  · intro same
    have range := isLower_iff.mp letter
    have folded := Unicode.asciiFold_of_sameCaseless (by omega) same
    rwa [Unicode.asciiFold_of_ascii ascii, toLower_of_isLower letter] at folded
  · rintro rfl
    exact sameCaseless_toLower ascii

private theorem ne_colon_of_toLower {c : Char} (letter : c.toLower.isLower) : c ≠ ':' := by
  rintro rfl
  exact absurd letter (by decide)

/-- A word in lower case fits the letters in front of a colon, and nothing but them, if it is
their lower case. -/
theorem afterCaseless?_colon {start written rest after : List Char}
    (lower : ∀ c ∈ start, c.isLower) (letters : ∀ c ∈ written, c.toLower.isLower) :
    afterCaseless? start (written ++ ':' :: rest) = some (':' :: after) ↔
      written.map Char.toLower = start ∧ after = rest := by
  -- The colon is no letter, so neither side can run on into it.
  induction start generalizing written with
  | nil =>
    cases written with
    | nil => simp [afterCaseless?, eq_comm]
    | cons c written =>
      have other := ne_colon_of_toLower (letters c List.mem_cons_self)
      simp [afterCaseless?, other]
  | cons a start ih =>
    have letter := lower a List.mem_cons_self
    cases written with
    | nil =>
      have different : ¬ Unicode.sameCaseless a ':' := by
        rw [sameCaseless_iff letter (by decide)]
        rintro rfl
        exact absurd letter (by decide)
      simp [afterCaseless?, different]
    | cons c written =>
      have ascii := ascii_of_toLower (letters c List.mem_cons_self)
      have later := ih (fun d within => lower d (List.mem_cons_of_mem a within))
        (fun d within => letters d (List.mem_cons_of_mem c within))
      by_cases same : c.toLower = a
      · simp [afterCaseless?, (sameCaseless_iff letter ascii).mpr same, same, later]
      · have different := mt (sameCaseless_iff letter ascii).mp same
        simp [afterCaseless?, different, same]

/-! ### Replacing -/

/-- That a text becomes another one if some occurrences of `needle` are replaced. -/
inductive Replaced (needle replacement : List Char) : List Char → List Char → Prop where
  | done (text : List Char) : Replaced needle replacement text text
  | next (before : List Char) {text after : List Char} :
      Replaced needle replacement text after →
      Replaced needle replacement (before ++ (needle ++ text)) (before ++ (replacement ++ after))

section

variable {needle replacement text after : List Char}

theorem Replaced.cons (c : Char) (replaced : Replaced needle replacement text after) :
    Replaced needle replacement (c :: text) (c :: after) := by
  cases replaced with
  | done => exact .done (c :: text)
  | next before replaced => exact .next (c :: before) replaced

/-- Characters that are passed over are those of the occurrence at hand. -/
theorem replaced_replaceFrom (present : needle ≠ []) (skip : Nat) (text : List Char) :
    Replaced needle replacement (text.drop skip) (replaceFrom needle replacement skip text) := by
  fun_induction replaceFrom needle replacement skip text with
  | case1 skip =>
    rw [List.drop_nil]
    exact .done []
  | case2 skip c text ih => exact ih
  | case3 c text found ih =>
    obtain ⟨rest, read⟩ := Option.isSome_iff_exists.mp found
    have whole := afterStart?_eq_some.mp read
    have behind : text.drop (needle.length - 1) = rest := by
      obtain ⟨first, more, rfl⟩ := List.exists_cons_of_ne_nil present
      obtain ⟨-, rfl⟩ := List.cons.inj whole
      exact List.drop_left
    rw [behind] at ih
    rw [List.drop_zero, whole]
    exact .next [] ih
  | case4 c text missing ih => exact ih.cons c

theorem replaced_replaceAll (present : needle ≠ []) (text : List Char) :
    Replaced needle replacement text (replaceAll needle replacement text) :=
  replaced_replaceFrom present 0 text

end

end Stencil.Text
