import Mathlib.Data.List.Basic
import Stencil.Files.Path

/-!
# Paths that are put together

The parts of a path to a name in a directory are those of the directory and the name, and the
path is taken apart again into the directory and the name.
-/
namespace Stencil

namespace Text

theorem splitOnChar_eq_splitOn (separator : Char) (text : List Char) :
    splitOnChar separator text = text.splitOn separator := by
  induction text with
  | nil => rfl
  | cons c text ih =>
    obtain ⟨piece, rest, split⟩ := List.exists_cons_of_ne_nil (List.splitOn_ne_nil separator text)
    rw [splitOnChar, ih, split, List.splitOn_cons_eq_if_modifyHead, split]
    by_cases same : c = separator <;> simp [same]

/-- No piece holds the separator. -/
theorem not_mem_of_mem_splitOnChar {separator : Char} {text piece : List Char}
    (member : piece ∈ splitOnChar separator text) : separator ∉ piece := by
  induction text generalizing piece with
  | nil =>
    obtain rfl := List.mem_singleton.mp member
    exact List.not_mem_nil
  | cons c text ih =>
    rw [splitOnChar] at member
    split at member
    · obtain rfl := List.mem_singleton.mp member
      exact List.not_mem_nil
    · next first rest split =>
      rw [split] at ih
      split at member
      · rcases List.mem_cons.mp member with rfl | later
        · exact List.not_mem_nil
        · exact ih later
      · next other =>
        rcases List.mem_cons.mp member with rfl | later
        · have outside := ih List.mem_cons_self
          simpa [Ne.symm other] using outside
        · exact ih (List.mem_cons_of_mem first later)

theorem length_le_of_mem_splitOnChar {separator : Char} {text piece : List Char}
    (member : piece ∈ splitOnChar separator text) : piece.length ≤ text.length := by
  induction text generalizing piece with
  | nil =>
    obtain rfl := List.mem_singleton.mp member
    exact Nat.le_refl _
  | cons c text ih =>
    rw [splitOnChar] at member
    rw [List.length_cons]
    split at member
    · obtain rfl := List.mem_singleton.mp member
      exact Nat.zero_le _
    · next first rest split =>
      rw [split] at ih
      split at member
      · rcases List.mem_cons.mp member with rfl | later
        · exact Nat.zero_le _
        · exact Nat.le_succ_of_le (ih later)
      · rcases List.mem_cons.mp member with rfl | later
        · exact Nat.succ_le_succ (ih List.mem_cons_self)
        · exact Nat.le_succ_of_le (ih (List.mem_cons_of_mem first later))

end Text

namespace Path

open Text

/-- The name of an entry in a directory. -/
structure IsName (name : String) : Prop where
  nonempty : name ≠ ""
  noSlash : '/' ∉ name.toList
  notDot : name ≠ "."
  notDots : name ≠ ".."

variable {base name : String}

/-- The text that is cut into segments. -/
def relative (path : String) : List Char :=
  if isAbsolute path then path.toList.tail else path.toList

theorem segments_eq (path : String) : segments path = (relative path).splitOn '/' :=
  splitOnChar_eq_splitOn '/' (relative path)

theorem not_isAbsolute_of_noSlash (noSlash : '/' ∉ name.toList) : isAbsolute name = false := by
  unfold isAbsolute
  cases first : name.toList with
  | nil => rfl
  | cons c rest =>
    rw [first] at noSlash
    have other : c ≠ '/' := fun same => noSlash (same ▸ List.mem_cons_self)
    simp [other]

/-- A path relative to another one begins where that one ends, behind one slash. -/
private theorem relative_join (base : String) (relativeName : isAbsolute name = false) :
    isAbsolute (join base name) = isAbsolute base ∧
      (relative base = [] ∧ relative (join base name) = name.toList ∨
        ∃ lead, (relative base = lead ∨ relative base = lead ++ ['/']) ∧
          relative (join base name) = lead ++ '/' :: name.toList) := by
  unfold join
  rw [relativeName, Bool.false_or]
  by_cases empty : base.isEmpty
  · obtain rfl : base = "" := by simpa using empty
    rw [if_pos empty]
    refine ⟨relativeName, .inl ⟨rfl, ?_⟩⟩
    simp [relative, relativeName]
  · rw [if_neg empty]
    obtain ⟨c, rest, chars⟩ := List.exists_cons_of_ne_nil (l := base.toList) (by simpa using empty)
    have absolute (more : String) : isAbsolute (base ++ more) = isAbsolute base := by
      simp [isAbsolute, chars]
    have behind (more : String) : relative (base ++ more) = relative base ++ more.toList := by
      unfold relative
      rw [absolute, String.toList_append, chars]
      split <;> rfl
    split
    · next slash =>
      refine ⟨absolute name, ?_⟩
      rw [behind]
      -- A slash alone is the root, and there is nothing in front of the name.
      cases rest with
      | nil =>
        obtain rfl : c = '/' := by simpa [chars] using slash
        have root : relative base = [] := by simp [relative, isAbsolute, chars]
        exact .inl ⟨root, by rw [root, List.nil_append]⟩
      | cons d rest =>
        have last : (relative base).getLast? = some '/' := by
          unfold relative
          rw [chars] at slash ⊢
          split <;> simpa using slash
        obtain ⟨lead, ends⟩ := List.getLast?_eq_some_iff.mp last
        exact .inr ⟨lead, .inr ends, by simp [ends]⟩
    · rw [String.append_assoc]
      refine ⟨absolute _, .inr ⟨relative base, .inl rfl, ?_⟩⟩
      rw [behind]
      simp

theorem length_lt_join (base : String) (isName : IsName name) :
    base.length < (join base name).length := by
  have filled : 0 < name.length := by
    rw [← String.length_toList, List.length_pos_iff]
    simpa using isName.nonempty
  unfold join
  rw [not_isAbsolute_of_noSlash isName.noSlash, Bool.false_or]
  split
  · next empty =>
    obtain rfl : base = "" := by simpa using empty
    exact filled
  · split <;> simp only [String.length_append] <;> omega

theorem isEmpty_join (base : String) (isName : IsName name) : (join base name).isEmpty = false := by
  rw [Bool.eq_false_iff]
  intro empty
  have none : join base name = "" := by simpa using empty
  have longer := length_lt_join base isName
  rw [none] at longer
  exact absurd longer (Nat.not_lt_zero _)

theorem isAbsolute_join (base : String) (isName : IsName name) :
    isAbsolute (join base name) = isAbsolute base :=
  (relative_join base (not_isAbsolute_of_noSlash isName.noSlash)).1

/-- The parts of a path put together are those of its two halves. -/
theorem steps_join (base : String) (relativeName : isAbsolute name = false) :
    (steps (join base name)).1 = (steps base).1 ++ (steps name).1 := by
  have alone : relative name = name.toList := by simp [relative, relativeName]
  obtain ⟨-, ⟨none, all⟩ | ⟨lead, cases, all⟩⟩ := relative_join base relativeName
  · simp [steps, segments_eq, none, all, alone]
  · rcases cases with same | same <;>
      simp [steps, segments_eq, same, all, alone, List.splitOn_append_cons_self]

private theorem steps_name (isName : IsName name) : steps name = ([name], false) := by
  have filled : name.toList ≠ [] := by simpa using isName.nonempty
  have alone : segments name = [name.toList] := by
    rw [segments_eq, relative, not_isAbsolute_of_noSlash isName.noSlash]
    exact List.splitOn_eq_singleton isName.noSlash
  simp [steps, alone, filled]

/-! ### The directory and the name in it -/

private theorem ofSegments_segments (path : String) :
    ofSegments (isAbsolute path) (segments path) = path := by
  rw [← String.toList_inj, ofSegments, segments_eq, List.intercalate_splitOn]
  unfold relative isAbsolute
  cases path.toList with
  | nil => rfl
  | cons c rest =>
    by_cases slash : c = '/' <;> simp [slash]

/-- Nothing is dropped at the end of a path that ends with a name. -/
private theorem settle_concat (absolute : Bool) (before : List (List Char)) {last : List Char}
    (counts : isIdle last = false) : settle absolute (before ++ [last]) = before ++ [last] := by
  simp [settle, counts]

private theorem IsName.not_isIdle (isName : IsName name) : isIdle name.toList = false := by
  have filled : name.toList ≠ [] := by simpa using isName.nonempty
  have other : name.toList ≠ ['.'] := by
    intro same
    exact isName.notDot (String.toList_inj.mp same)
  simp [isIdle, filled, other]

/-- A name in a directory is the last segment. -/
private theorem segments_join (base : String) (isName : IsName name) :
    ∃ before, segments (join base name) = before ++ [name.toList] := by
  have split := List.splitOn_eq_singleton isName.noSlash
  obtain ⟨-, ⟨-, all⟩ | ⟨lead, -, all⟩⟩ :=
    relative_join base (not_isAbsolute_of_noSlash isName.noSlash)
  · exact ⟨[], by rw [segments_eq, all, split, List.nil_append]⟩
  · exact ⟨lead.splitOn '/', by rw [segments_eq, all, List.splitOn_append_cons_self, split]⟩

theorem steps_join_name (base : String) (isName : IsName name) :
    steps (join base name) = ((steps base).1 ++ [name], false) := by
  have parts := steps_join base (not_isAbsolute_of_noSlash isName.noSlash)
  rw [steps_name isName] at parts
  refine Prod.ext parts ?_
  obtain ⟨before, segmented⟩ := segments_join base isName
  have filled : name.toList ≠ [] := by simpa using isName.nonempty
  simp [steps, segmented, filled]

/-- A name in a directory stands behind the segments of the directory. -/
private theorem segments_join_join (base : String) {last : String} (isLast : IsName last)
    (isName : IsName name) :
    ∃ before, segments (join base last) = before ++ [last.toList] ∧
      segments (join (join base last) name) = before ++ [last.toList, name.toList] := by
  have filled : last.toList ≠ [] := by simpa using isLast.nonempty
  obtain ⟨before, segmented⟩ := segments_join base isLast
  refine ⟨before, segmented, ?_⟩
  -- What ends with a name does not end with a slash.
  have noSlash (lead : List Char) : relative (join base last) ≠ lead ++ ['/'] := by
    intro same
    rw [segments_eq, same, List.splitOn_append_cons_self] at segmented
    have ends := congrArg List.getLast? segmented
    rw [List.splitOn_nil, List.getLast?_concat, List.getLast?_concat] at ends
    exact filled (Option.some.inj ends).symm
  have nonempty : relative (join base last) ≠ [] := by
    intro same
    rw [segments_eq, same, List.splitOn_nil] at segmented
    have ends := congrArg List.getLast? segmented
    rw [List.getLast?_singleton, List.getLast?_concat] at ends
    exact filled (Option.some.inj ends).symm
  obtain ⟨-, ⟨none, -⟩ | ⟨lead, same | same, all⟩⟩ :=
    relative_join (join base last) (not_isAbsolute_of_noSlash isName.noSlash)
  · exact absurd none nonempty
  · rw [segments_eq, all, List.splitOn_append_cons_self, ← same, ← segments_eq, segmented,
      List.splitOn_eq_singleton isName.noSlash, List.append_assoc]
    rfl
  · exact absurd same (noSlash lead)

/-- The last part of a path holds no slash. -/
theorem noSlash_of_fileName? {path : String} (named : fileName? path = some name) :
    '/' ∉ name.toList := by
  have ofKept {segment : List Char}
      (last : (settle (isAbsolute path) (segments path)).getLast? = some segment) :
      '/' ∉ segment := by
    have member := List.mem_of_getLast? last
    unfold settle at member
    dsimp only at member
    split at member
    · obtain rfl := List.mem_singleton.mp member
      decide
    · have cut := (List.dropWhile_sublist _).subset (List.mem_reverse.mp member)
      exact not_mem_of_mem_splitOnChar (List.mem_reverse.mp cut)
  unfold fileName? at named
  split at named
  · cases named
  · next segment last =>
    split at named
    · cases named
    · cases named
      rw [String.toList_ofList]
      exact ofKept last

section

variable {last : String} (isLast : IsName last) (isName : IsName name)
include isLast isName

theorem parent?_join : parent? (join (join base last) name) = some (join base last) := by
  obtain ⟨before, directory, path⟩ := segments_join_join base isLast isName
  have absolute := isAbsolute_join (join base last) isName
  have split : before ++ [last.toList, name.toList] = before ++ [last.toList] ++ [name.toList] := by
    simp
  rw [parent?, path, split, settle_concat _ _ isName.not_isIdle, List.reverse_concat]
  dsimp only
  rw [List.reverse_reverse, settle_concat _ _ isLast.not_isIdle, ← directory, absolute,
    ofSegments_segments]

theorem fileName?_join : fileName? (join (join base last) name) = some name := by
  obtain ⟨before, -, path⟩ := segments_join_join base isLast isName
  have split : before ++ [last.toList, name.toList] = before ++ [last.toList] ++ [name.toList] := by
    simp
  have notDot : name.toList ≠ ['.'] := fun same => isName.notDot (String.toList_inj.mp same)
  have notDots : name.toList ≠ ['.', '.'] := fun same => isName.notDots (String.toList_inj.mp same)
  rw [fileName?, path, split, settle_concat _ _ isName.not_isIdle, List.getLast?_concat]
  simp [notDot, notDots]

end

/-! ### The directories around a path -/

private theorem settle_isPrefix (absolute : Bool) (segments : List (List Char)) :
    settle absolute segments <+: segments := by
  have kept : (segments.reverse.dropWhile isIdle).reverse <+: segments := by
    have suffix := List.dropWhile_suffix isIdle (l := segments.reverse)
    rwa [← List.reverse_prefix, List.reverse_reverse] at suffix
  unfold settle
  dsimp only
  split
  · next dot =>
    obtain ⟨-, first⟩ := Bool.and_eq_true_iff.mp dot
    obtain ⟨rest, rfl⟩ := List.head?_eq_some_iff.mp (eq_of_beq first)
    exact ⟨rest, rfl⟩
  · exact kept

/-- Segments are found again in the path they make up. -/
theorem steps_ofSegments {absolute : Bool} {segments : List (List Char)}
    (noSlash : ∀ segment ∈ segments, '/' ∉ segment)
    (starts : absolute = false → segments.head? ≠ some []) :
    isAbsolute (ofSegments absolute segments) = absolute ∧
      (steps (ofSegments absolute segments)).1
        = (segments.filter fun segment => !segment.isEmpty).map String.ofList := by
  have absolute_eq : isAbsolute (ofSegments absolute segments) = absolute := by
    cases absolute with
    | true => simp [isAbsolute, ofSegments]
    | false =>
      cases segments with
      | nil => rfl
      | cons first rest =>
        have filled : first ≠ [] := fun empty => starts rfl (by simp [empty])
        obtain ⟨c, chars, rfl⟩ := List.exists_cons_of_ne_nil filled
        -- The first step is not empty, and no step has a slash.
        have other : c ≠ '/' := fun same => noSlash _ List.mem_cons_self (same ▸ List.mem_cons_self)
        cases rest <;> simp [isAbsolute, ofSegments, List.intercalate_cons_cons, other]
  refine ⟨absolute_eq, ?_⟩
  have text : relative (ofSegments absolute segments) = ['/'].intercalate segments := by
    rw [relative, absolute_eq]
    cases absolute <;> simp [ofSegments]
  rw [steps, segments_eq, text]
  cases segments with
  | nil => rfl
  | cons first rest => rw [List.splitOn_intercalate '/' noSlash (by simp)]

/-- A relative path with an empty segment at its start is empty. -/
private theorem eq_empty_of_head?_segments {path : String} (relativePath : isAbsolute path = false)
    (starts : (segments path).head? = some []) : path = "" := by
  obtain ⟨rest, split⟩ := List.head?_eq_some_iff.mp starts
  have whole := ofSegments_segments path
  rw [split, relativePath] at whole
  cases rest with
  | nil => rw [← whole]; rfl
  | cons next rest =>
    rw [← whole] at relativePath
    simp [isAbsolute, ofSegments, List.intercalate_cons_cons] at relativePath

/-- The parts of the directory around a path come first among those of the path. -/
theorem parent?_isPrefix {path parent : String} (around : parent? path = some parent) :
    isAbsolute parent = isAbsolute path ∧ (steps parent).1 <+: (steps path).1 := by
  unfold parent? at around
  dsimp only at around
  split at around
  · cases around
  · next last before reversed =>
    cases around
    -- Settling the steps before the last one takes away none but trailing ones.
    have kept : before.reverse ++ [last] = settle (isAbsolute path) (segments path) := by
      rw [← List.reverse_reverse (settle _ _), reversed, List.reverse_cons]
    have within : settle (isAbsolute path) before.reverse <+: segments path := by
      refine (settle_isPrefix _ _).trans (List.IsPrefix.trans ?_ (settle_isPrefix (isAbsolute path) _))
      exact kept ▸ List.prefix_append _ _
    have noSlash : ∀ segment ∈ settle (isAbsolute path) before.reverse, '/' ∉ segment :=
      fun segment member => not_mem_of_mem_splitOnChar (within.subset member)
    -- A relative path that began with an empty step would be empty.
    have starts (relativePath : isAbsolute path = false) :
        (settle (isAbsolute path) before.reverse).head? ≠ some [] := by
      intro first
      obtain ⟨rest, split⟩ := List.head?_eq_some_iff.mp first
      obtain ⟨behind, whole⟩ := within
      have empty := eq_empty_of_head?_segments relativePath (by rw [← whole, split]; rfl)
      subst empty
      cases reversed
    obtain ⟨absolute, parts⟩ := steps_ofSegments noSlash starts
    refine ⟨absolute, ?_⟩
    rw [parts]
    exact (within.filter _).map _

/-- The parts of a directory around a path come first among those of the path. -/
theorem mem_outward {n : Nat} {path directory : String} (member : directory ∈ outward n path) :
    isAbsolute directory = isAbsolute path ∧ (steps directory).1 <+: (steps path).1 := by
  induction n generalizing path with
  | zero => cases member
  | succ n ih =>
    rw [outward] at member
    split at member
    · next parent around =>
      obtain ⟨absolute, parts⟩ := parent?_isPrefix around
      rcases List.mem_cons.mp member with rfl | further
      · exact ⟨rfl, List.prefix_rfl⟩
      · obtain ⟨absolute', parts'⟩ := ih further
        exact ⟨absolute'.trans absolute, parts'.trans parts⟩
    · obtain rfl := List.mem_singleton.mp member
      exact ⟨rfl, List.prefix_rfl⟩

end Path

end Stencil
