import Stencil.Cache
import Stencil.Proofs.Files.Tree

/-!
# Where a cache stores what

The view of a template is stored in a file with the flat name of the template, in a directory
of its own; so views of templates with different flat names never meet. A form is stored in a
file that starts with the flat name, in another directory, and staging files end with letters
that no stored file ends with.
-/
namespace Stencil.Cache

open FileTree

/-! ### Names of files -/

theorem noSlash_flatName (path : String) : '/' ∉ (flatName path).toList := by
  rw [flatName, String.toList_ofList, List.mem_map]
  rintro ⟨c, -, same⟩
  split at same
  · exact absurd same (by decide)
  · next other => exact other (.inl same)

def viewName (source : String) : String := flatName source ++ ".json"

def formName (source id : String) : String := formPrefix source ++ id ++ ".json"

/-- A name with an ending is none of the special ones. -/
private theorem isName_of_ending {stem ending : String} (long : 2 < ending.length)
    (noSlash : '/' ∉ stem.toList) (noSlash' : '/' ∉ ending.toList) :
    Path.IsName (stem ++ ending) := by
  have size : 2 < (stem ++ ending).length := by
    rw [String.length_append]
    omega
  have other {name : String} (short : name.length ≤ 2) : stem ++ ending ≠ name := by
    rintro rfl
    omega
  refine ⟨other (by decide), ?_, other (by decide), other (by decide)⟩
  rw [String.toList_append, List.mem_append, not_or]
  exact ⟨noSlash, noSlash'⟩

theorem isName_viewName (source : String) : Path.IsName (viewName source) :=
  isName_of_ending (by decide) (noSlash_flatName source) (by decide)

theorem isName_formName (source : String) {id : String} (noSlash : '/' ∉ id.toList) :
    Path.IsName (formName source id) := by
  refine isName_of_ending (by decide) ?_ (by decide)
  simp [formPrefix, noSlash_flatName, noSlash]

theorem isName_templates : Path.IsName "templates" := ⟨by decide, by decide, by decide, by decide⟩

theorem isName_forms : Path.IsName "forms" := ⟨by decide, by decide, by decide, by decide⟩

theorem viewPath_eq (cacheDir source : String) :
    viewPath cacheDir source = Path.join (Path.join cacheDir "templates") (viewName source) := rfl

theorem formPath_eq (cacheDir source id : String) :
    formPath cacheDir source id = Path.join (formsDirectory cacheDir) (formName source id) := rfl

/-- The names of a template's forms are those with its start and the ending. -/
theorem formId?_eq_some {source name id : String} :
    formId? source name = some id ↔ name = formName source id := by
  -- What comes before an ending is found by searching from the back.
  have ending (rest : List Char) (id : String) :
      (∃ stem, beforeEnd? ".json".toList rest = some stem ∧ String.ofList stem = id) ↔
        rest = id.toList ++ ".json".toList := by
    constructor
    · rintro ⟨stem, found, rfl⟩
      obtain ⟨reversed, cut, rfl⟩ := Option.map_eq_some_iff.mp found
      have split := congrArg List.reverse (Text.afterStart?_eq_some.mp cut)
      simpa using split
    · rintro rfl
      refine ⟨id.toList, ?_, String.ofList_toList⟩
      have found : Text.afterStart? ".json".toList.reverse (id.toList ++ ".json".toList).reverse
          = some id.toList.reverse := Text.afterStart?_eq_some.mpr (by simp)
      rw [beforeEnd?, found, Option.map_some, List.reverse_reverse]
  unfold formId?
  constructor
  · intro found
    obtain ⟨rest, start, found⟩ := Option.bind_eq_some_iff.mp found
    obtain ⟨stem, found, same⟩ := Option.bind_eq_some_iff.mp found
    have split := (ending rest id).mp ⟨stem, found, Option.some.inj same⟩
    have whole := Text.afterStart?_eq_some.mp start
    rw [← String.toList_inj, whole, split]
    simp [formName]
  · rintro rfl
    have start : Text.afterStart? (formPrefix source).toList (formName source id).toList
        = some (id.toList ++ ".json".toList) := Text.afterStart?_eq_some.mpr (by simp [formName])
    obtain ⟨stem, found, same⟩ := (ending _ id).mpr rfl
    rw [start]
    change (beforeEnd? ".json".toList (id.toList ++ ".json".toList)).bind _ = _
    rw [found]
    exact congrArg some same

/-! ### Names of staging files -/

theorem isName_stagingName {name id : String} (noSlash : '/' ∉ name.toList)
    (noSlash' : '/' ∉ id.toList) : Path.IsName (Job.stagingName name id) := by
  refine isName_of_ending (by decide) ?_ (by decide)
  simp [noSlash, noSlash']

/-- No stored file has the name of a staging file. -/
theorem stagingName_ne (name id stem : String) : Job.stagingName name id ≠ stem ++ ".json" := by
  intro same
  have ends := congrArg (fun text => text.toList.getLast?) same
  simp [Job.stagingName, List.getLast?_cons] at ends

/-! ### Places -/

/-- Names in a directory of the cache directory. -/
theorem placeOf?_stored {cacheDir directory name place : String}
    (isDirectory : Path.IsName directory) (isName : Path.IsName name) :
    placeOf? (Path.join (Path.join cacheDir directory) name) = some place ↔
      ∃ cache, spotOf? cacheDir = some (.inside cache) ∧
        place = key (cache ++ [directory, name]) := by
  rw [placeOf?_join isName, spotOf?_join isDirectory]
  cases spotOf? cacheDir with
  | none => simp
  | some spot =>
    cases spot with
    | outside => simp [Spot.into?, isDirectory.notDot, isDirectory.notDots]
    | inside parts =>
      simp [Spot.into?, isDirectory.notDot, isDirectory.notDots, Spot.place?, @eq_comm _ _ place]

/-- A staging file, wherever it goes, lies where no stored file does. -/
theorem placeOf?_staging_ne {base base' name id stem place : String} (noSlash : '/' ∉ name.toList)
    (noSlash' : '/' ∉ id.toList) (isName : Path.IsName (stem ++ ".json"))
    (leads : placeOf? (Path.join base (Job.stagingName name id)) = some place) :
    placeOf? (Path.join base' (stem ++ ".json")) ≠ some place := by
  intro stored
  have same := name_eq_of_placeOf? (isName_stagingName noSlash noSlash') isName leads stored
  exact stagingName_ne name id stem same

/-- Templates whose views lie in one place have one flat name. -/
theorem flatName_eq_of_placeOf? {cacheDir source other place : String}
    (leads : placeOf? (viewPath cacheDir source) = some place)
    (leads' : placeOf? (viewPath cacheDir other) = some place) :
    flatName source = flatName other := by
  have same := name_eq_of_placeOf? (isName_viewName source) (isName_viewName other) leads leads'
  simpa [viewName, ← String.toList_inj] using same

/-- Forms of a template that lie in one place have one id. -/
theorem id_eq_of_placeOf? {cacheDir source id other place : String} (noSlash : '/' ∉ id.toList)
    (noSlash' : '/' ∉ other.toList) (leads : placeOf? (formPath cacheDir source id) = some place)
    (leads' : placeOf? (formPath cacheDir source other) = some place) : id = other := by
  have same := name_eq_of_placeOf? (isName_formName source noSlash) (isName_formName source noSlash')
    leads leads'
  simpa [formName, ← String.toList_inj] using same

private theorem noSlash_stored {cacheDir directory name : String} {cache : List String}
    (spot : spotOf? cacheDir = some (.inside cache)) (isDirectory : Path.IsName directory)
    (isName : Path.IsName name) : ∀ part ∈ cache ++ [directory, name], '/' ∉ part.toList := by
  have clean : ∀ part ∈ cache, '/' ∉ part.toList := clean_spotOf? spot
  intro part member
  rcases List.mem_append.mp member with within | below
  · exact clean part within
  · rcases List.mem_pair.mp below with rfl | rfl
    · exact isDirectory.noSlash
    · exact isName.noSlash

/-- Views and forms lie in different directories. -/
theorem placeOf?_viewPath_ne_formPath {cacheDir source other id place : String}
    (noSlash : '/' ∉ id.toList) (leads : placeOf? (viewPath cacheDir source) = some place) :
    placeOf? (formPath cacheDir other id) ≠ some place := by
  intro leads'
  have isView := isName_viewName source
  have isForm := isName_formName other noSlash
  obtain ⟨cache, spot, rfl⟩ := (placeOf?_stored isName_templates isView).mp leads
  obtain ⟨cache', spot', same⟩ := (placeOf?_stored isName_forms isForm).mp leads'
  obtain rfl : cache = cache' := by simpa using spot.symm.trans spot'
  have equal := key_injective (by simp) (by simp) (noSlash_stored spot isName_templates isView)
    (noSlash_stored spot isName_forms isForm) same
  simp at equal

/-! ### Ends of paths -/

/-- Behind any name an ending without a slash is the end of the last part. -/
theorem getLast?_steps_of_ending {base stem ending : String}
    (relativeName : Path.isAbsolute (stem ++ ending) = false) (filled : ending ≠ "")
    (noSlash : '/' ∉ ending.toList) : ∃ last,
      (Path.steps (Path.join base (stem ++ ending))).1.getLast? = some (last ++ ending) := by
  have split : ∃ front last,
      Path.segments (stem ++ ending) = front ++ [last ++ ending.toList] := by
    rw [Path.segments_eq, Path.relative, relativeName]
    by_cases slash : '/' ∈ stem.toList
    · obtain ⟨behind, before, reversed, first⟩ :=
        List.eq_append_cons_of_mem (List.mem_reverse.mpr slash)
      have whole : stem.toList = before.reverse ++ '/' :: behind.reverse := by
        rw [← List.reverse_reverse stem.toList, reversed]
        simp
      have alone : '/' ∉ behind.reverse ++ ending.toList := by simp [first, noSlash]
      refine ⟨before.reverse.splitOn '/', behind.reverse, ?_⟩
      simp [whole, List.splitOn_append_cons_self, List.splitOn_eq_singleton alone]
    · have alone : '/' ∉ stem.toList ++ ending.toList := by simp [slash, noSlash]
      exact ⟨[], stem.toList, by simp [List.splitOn_eq_singleton alone]⟩
  obtain ⟨front, last, split⟩ := split
  have filled' : ending.toList ≠ [] := by simpa using filled
  have ends : (Path.steps (stem ++ ending)).1.getLast? = some (String.ofList last ++ ending) := by
    rw [Path.steps, split]
    simp [filled', String.ofList_append]
  exact ⟨String.ofList last, by rw [Path.steps_join base relativeName, List.getLast?_append, ends]; rfl⟩

/-- The last part of a path is no longer than its flat name. -/
private theorem length_le_flatName {source last : String} (isName : Path.IsName last)
    (member : last ∈ (Path.steps source).1) : last.length ≤ (flatName source).length := by
  have within (path piece : List Char) (isPiece : piece ∈ Text.splitOnChar '/' path)
      (notDot : piece ≠ ['.']) : piece.length ≤ (dropDots path).length := by
    -- What is dropped at the start are single dots.
    induction path using dropDots.induct with
    | case1 rest ih =>
      have split : Text.splitOnChar '/' ('.' :: '/' :: rest)
          = ['.'] :: Text.splitOnChar '/' rest := by
        rw [Text.splitOnChar_eq_splitOn, Text.splitOnChar_eq_splitOn]
        simp [List.splitOn_cons_eq_if_modifyHead]
      rw [split] at isPiece
      exact ih ((List.mem_cons.mp isPiece).resolve_left notDot)
    | case2 path other =>
      rw [dropDots.eq_2 path other]
      exact Text.length_le_of_mem_splitOnChar isPiece
  obtain ⟨piece, kept, rfl⟩ := List.mem_map.mp member
  have isPiece := (List.mem_filter.mp kept).1
  have notDot : piece ≠ ['.'] := fun same => isName.notDot (by rw [same])
  have flat : (flatName source).length = (dropDots source.toList).length := by
    rw [flatName, String.length_ofList, List.length_map]
  rw [flat, String.length_ofList]
  unfold Path.segments at isPiece
  split at isPiece
  · next absolute =>
    obtain ⟨rest, whole⟩ := List.head?_eq_some_iff.mp (eq_of_beq absolute)
    rw [whole] at isPiece ⊢
    exact Nat.le_succ_of_le (Text.length_le_of_mem_splitOnChar isPiece)
  · exact within _ _ isPiece notDot

/-- A template never lies where a file with a longer name than its flat name goes. -/
theorem placeOf?_ne_longer {source base name place : String} (isName : Path.IsName name)
    (longer : (flatName source).length < name.length) (leads : placeOf? source = some place) :
    placeOf? (Path.join base name) ≠ some place := by
  intro stored
  obtain ⟨front, last, parts, whole, isLast, -, -⟩ := follow?_of_placeOf? leads
  have ends := getLast?_of_placeOf? leads stored
  rw [Path.steps_join_name base isName, whole] at ends
  obtain rfl : last = name := by simpa using ends
  have shorter := length_le_flatName isLast (whole ▸ List.mem_append_right front (by simp))
  omega

/-- Files of a cache do not lie on the way to one of its directories. -/
theorem placeOf?_ne_on_way {cacheDir directory name store last place : String}
    {whole inner : List String} (isDirectory : Path.IsName directory) (isName : Path.IsName name)
    (isStore : Path.IsName store)
    (stored : placeOf? (Path.join (Path.join cacheDir directory) name) = some place)
    (led : spotOf? (Path.join cacheDir store) = some (.inside whole))
    (within : inner ++ [last] <+: whole) : place ≠ key (inner ++ [last]) := by
  rintro rfl
  obtain ⟨cache, spot, same⟩ := (placeOf?_stored isDirectory isName).mp stored
  rw [spotOf?_join isStore, spot] at led
  obtain rfl : cache ++ [store] = whole := by
    simpa [Spot.into?, isStore.notDot, isStore.notDots] using led
  have clean : ∀ part ∈ cache, '/' ∉ part.toList := clean_spotOf? spot
  have noSlash : ∀ part ∈ inner ++ [last], '/' ∉ part.toList := by
    intro part member
    rcases List.mem_append.mp (within.subset member) with earlier | here
    · exact clean part earlier
    · exact List.mem_singleton.mp here ▸ isStore.noSlash
  -- The place of the file has one more part than what it lies in.
  have equal := congrArg List.length (key_injective (by simp) (by simp) noSlash
    (noSlash_stored spot isDirectory isName) same)
  have shorter := within.length_le
  simp only [List.length_append, List.length_cons, List.length_nil] at equal shorter
  omega

end Stencil.Cache
