import Stencil.Proofs.Registry
import Stencil.Proofs.Registry.Convention

/-!
# What is known of tags

Tags are looked for in directories one find after the other (`Registry.addFind`). What a registry
knows behind a run is stated in terms of what was found (`Registry.Knows`); a run fails at the first
file that is not named after a built-in tag of its namespace.
-/
namespace Stencil

namespace Registry

/-- A name in lower case. -/
def lowered (name : String) : String := String.ofList (name.toList.map Char.toLower)

/-- That a file names a built-in tag of the namespace of its directory. -/
def Conforms (directory file : String) : Prop :=
  ∃ name kind, NamesTag (lowered directory) file name ∧
    builtinTag? (lowered directory) name = some kind

/-- The errors about a file: one if it is not named after a tag, another if there is no such tag. -/
inductive Refused (root directory file : String) : CompileError → Prop where
  | unnamed : (∀ name, ¬ NamesTag (lowered directory) file name) →
      Refused root directory file (.namingConvention (Path.join (Path.join root directory) file))
  | missing {name : String} : NamesTag (lowered directory) file name →
      builtinTag? (lowered directory) name = none →
      Refused root directory file (.missingImplementation
        (Path.join (Path.join root directory) file) (lowered directory ++ ":" ++ name))

/-- What counts in a tag directory. -/
inductive Find where
  | space (directory : String)
  | tagFile (directory file : String)

namespace Find

def directory : Find → String
  | .space directory => directory
  | .tagFile directory _ => directory

def IsAscii : Find → Prop
  | .space directory => Text.IsAscii directory.toList
  | .tagFile directory file => Text.IsAscii directory.toList ∧ Text.IsAscii file.toList

/-- Files are in the order of their directories and then of their names. -/
def Before : Find → Find → Prop
  | .tagFile directory file, .tagFile directory' file' =>
    directory < directory' ∨ directory = directory' ∧ file < file'
  | _, _ => True

end Find

/-- Add what was found. -/
def addFind (root : String) (registry : Registry) : Find → Except CompileError Registry
  | .space directory => .ok (registry.addNamespace (lowered directory))
  | .tagFile directory file =>
    (fileTag (lowered directory) (Path.join root directory) file).map fun (name, kind) =>
      registry.addTag (lowered directory) name kind

/-- That a registry has the tags and namespaces of what was found, and that all of it conforms. -/
structure Knows (found : List Find) (registry : Registry) : Prop where
  conform : ∀ directory file, .tagFile directory file ∈ found → Conforms directory file
  namespaces : ∀ namespaceName, (registry.get? namespaceName).isSome ↔
    ∃ find ∈ found, lowered find.directory = namespaceName
  tags : ∀ namespaceName name kind, registry.tag? namespaceName name = some kind ↔
    builtinTag? namespaceName name = some kind ∧ ∃ directory file,
      .tagFile directory file ∈ found ∧ lowered directory = namespaceName ∧
        NamesTag namespaceName file name

/-! ### A file -/

section

variable {root directory file name path : String} {kind : TagKind} {error : CompileError}

theorem lower_eq_lowered (ascii : Text.IsAscii name.toList) :
    String.ofList (Text.lower name.toList) = lowered name := by
  rw [lowered, Text.lower_of_ascii ascii]

private theorem toLower_of_mem_lowered (ascii : Text.IsAscii name.toList) :
    ∀ c ∈ (lowered name).toList, c.toLower = c := by
  rw [lowered, String.toList_ofList]
  exact List.forall_mem_map.mpr fun c member => (Text.toLower_toLower_of_ascii (ascii c member)).1

private theorem isAscii_lowered (ascii : Text.IsAscii name.toList) : Text.IsAscii
    (lowered name).toList := by
  rw [lowered, String.toList_ofList]
  exact List.forall_mem_map.mpr fun c member => (Text.toLower_toLower_of_ascii (ascii c member)).2

theorem isHidden_lowered (ascii : Text.IsAscii name.toList) :
    isHidden (lowered name) = isHidden name := by
  rw [isHidden, isHidden, lowered, String.toList_ofList, List.head?_map]
  cases first : name.toList.head? with
  | none => rfl
  | some c =>
    have dot := Unicode.forall_ascii (p := fun c => c.toLower = '.' ↔ c = '.')
      (by decide +kernel) (ascii c (List.mem_of_mem_head? first))
    rw [Bool.eq_iff_iff, beq_iff_eq, beq_iff_eq, Option.map_some, Option.some.injEq,
      Option.some.injEq]
    exact dot

variable (asciiDirectory : Text.IsAscii directory.toList) (ascii : Text.IsAscii file.toList)

include asciiDirectory ascii

private theorem tagOfFile?_lowered :
    tagOfFile? (lowered directory) file = some name ↔ NamesTag (lowered directory) file name :=
  tagOfFile?_eq_some (toLower_of_mem_lowered asciiDirectory) (isAscii_lowered asciiDirectory) ascii

/-- A file names one tag at most. -/
theorem NamesTag.unique {name' : String} (names : NamesTag (lowered directory) file name)
    (names' : NamesTag (lowered directory) file name') : name = name' := by
  have taken := (tagOfFile?_lowered asciiDirectory ascii).mpr names
  have taken' := (tagOfFile?_lowered asciiDirectory ascii).mpr names'
  exact Option.some.inj (taken.symm.trans taken')

private theorem fileTag_eq_ok : fileTag (lowered directory) path file = .ok (name, kind) ↔
    NamesTag (lowered directory) file name ∧ builtinTag? (lowered directory) name = some kind := by
  rw [← tagOfFile?_lowered asciiDirectory ascii, fileTag]
  cases tagOfFile? (lowered directory) file with
  | none => simp
  | some found =>
    cases known : builtinTag? (lowered directory) found with
    | none =>
      simp only [known, Option.some.injEq, reduceCtorEq, false_iff]
      rintro ⟨rfl, also⟩
      cases known.symm.trans also
    | some found' =>
      simp only [known, Except.ok.injEq, Prod.mk.injEq, Option.some.injEq]
      constructor
      · rintro ⟨rfl, rfl⟩
        exact ⟨rfl, known⟩
      · rintro ⟨rfl, also⟩
        exact ⟨rfl, Option.some.inj (known.symm.trans also)⟩

/-- The error about a file is the one it calls for, and such a file does not conform. -/
theorem refused_of_fileTag
    (failed : fileTag (lowered directory) (Path.join root directory) file = .error error) :
    Refused root directory file error ∧ ¬ Conforms directory file := by
  rw [fileTag] at failed
  split at failed
  · next unnamed =>
    have noName : ∀ name, ¬ NamesTag (lowered directory) file name := by
      intro name names
      rw [(tagOfFile?_lowered asciiDirectory ascii).mpr names] at unnamed
      cases unnamed
    cases failed
    exact ⟨.unnamed noName, fun ⟨name, _, names, _⟩ => noName name names⟩
  · next name taken =>
    have names := (tagOfFile?_lowered asciiDirectory ascii).mp taken
    split at failed
    · cases failed
    · next missing =>
      cases failed
      refine ⟨.missing names missing, fun ⟨other, kind, names', known⟩ => ?_⟩
      obtain rfl := names.unique asciiDirectory ascii names'
      cases missing.symm.trans known

end

/-! ### One find after the other -/

section

variable {root directory file : String} {found finds : List Find} {find : Find}
  {registry next : Registry} {error : CompileError}

theorem knows_empty : Knows [] .empty where
  conform := nofun
  namespaces namespaceName := by
    simp [Dict.get?, Dict.empty, Dict.lookup]
  tags namespaceName name kind := by
    simp [tag?, Dict.get?, Dict.empty, Dict.lookup]

theorem Knows.addNamespace (knows : Knows found registry) (directory : String) :
    Knows (found ++ [.space directory]) (registry.addNamespace (lowered directory)) where
  conform other file member := knows.conform other file (by simpa using member)
  namespaces namespaceName := by
    rw [isSome_get?_addNamespace, knows.namespaces]
    simp [or_and_right, exists_or, Find.directory, eq_comm, or_comm]
  tags namespaceName name kind := by
    rw [tag?_addNamespace, knows.tags]
    simp

theorem Knows.addTag {name : String} {kind : TagKind} (knows : Knows found registry)
    (ascii : (Find.tagFile directory file).IsAscii) (names : NamesTag (lowered directory) file name)
    (known : builtinTag? (lowered directory) name = some kind) :
    Knows (found ++ [.tagFile directory file]) (registry.addTag (lowered directory) name kind) where
  conform other otherFile member := by
    rcases List.mem_append.mp member with before | here
    · exact knows.conform other otherFile before
    · cases List.mem_singleton.mp here
      exact ⟨name, kind, names, known⟩
  namespaces namespaceName := by
    rw [isSome_get?_addTag, knows.namespaces]
    simp [or_and_right, exists_or, Find.directory, eq_comm, or_comm]
  tags namespaceName otherName otherKind := by
    rw [tag?_addTag]
    split
    · next same =>
      obtain ⟨rfl, rfl⟩ := same
      rw [known]
      constructor
      · intro same
        exact ⟨same, directory, file, by simp, rfl, names⟩
      · exact And.left
    · next apart =>
      rw [knows.tags]
      refine and_congr_right fun _ => ⟨?_, ?_⟩
      · rintro ⟨other, otherFile, member, rest⟩
        exact ⟨other, otherFile, List.mem_append_left _ member, rest⟩
      · -- The new file is named after no other tag.
        rintro ⟨other, otherFile, member, rfl, names'⟩
        rcases List.mem_append.mp member with before | here
        · exact ⟨other, otherFile, before, rfl, names'⟩
        · cases List.mem_singleton.mp here
          exact absurd ⟨rfl, names'.unique ascii.1 ascii.2 names⟩ apart

/-- Behind a find all is known that was before, and what the find adds. -/
theorem Knows.addFind (knows : Knows found registry) (ascii : find.IsAscii)
    (done : Registry.addFind root registry find = .ok next) : Knows (found ++ [find]) next := by
  cases find with
  | space directory =>
    cases done
    exact knows.addNamespace directory
  | tagFile directory file =>
    obtain ⟨⟨name, kind⟩, tagged, rfl⟩ := map_eq_ok.mp done
    obtain ⟨names, known⟩ := (fileTag_eq_ok ascii.1 ascii.2).mp tagged
    exact knows.addTag ascii names known

/-- Behind a run all is known that was found in it. -/
theorem Knows.run (knows : Knows found registry) (ascii : ∀ find ∈ finds, find.IsAscii)
    (done : finds.foldlM (Registry.addFind root) registry = .ok next) :
    Knows (found ++ finds) next := by
  induction finds generalizing found registry with
  | nil =>
    cases done
    rwa [List.append_nil]
  | cons find finds ih =>
    rw [List.foldlM_cons] at done
    obtain ⟨middle, here, later⟩ := bind_eq_ok.mp done
    obtain ⟨asciiHere, asciiLater⟩ := List.forall_mem_cons.mp ascii
    rw [List.append_cons]
    exact ih (knows.addFind asciiHere here) asciiLater later

/-- A find that cannot be added is a file that does not conform. -/
theorem addFind_eq_error (ascii : find.IsAscii)
    (failed : addFind root registry find = .error error) : ∃ directory file,
      find = .tagFile directory file ∧ Refused root directory file error ∧
        ¬ Conforms directory file := by
  cases find with
  | space directory => cases failed
  | tagFile directory file =>
    obtain ⟨refused, nonconform⟩ := refused_of_fileTag ascii.1 ascii.2 (map_eq_error failed)
    exact ⟨directory, file, rfl, refused, nonconform⟩

/-- A run that fails does so at the first file that does not conform. -/
theorem run_eq_error (ascii : ∀ find ∈ finds, find.IsAscii)
    (failed : finds.foldlM (addFind root) .empty = .error error) : ∃ before directory file after,
      finds = before ++ .tagFile directory file :: after ∧ Refused root directory file error ∧
        ¬ Conforms directory file ∧
        ∀ other otherFile, .tagFile other otherFile ∈ before → Conforms other otherFile := by
  obtain ⟨before, find, after, middle, rfl, upTo, here⟩ := exists_first_error failed
  obtain ⟨asciiBefore, asciiRest⟩ := List.forall_mem_append.mp ascii
  obtain ⟨asciiHere, -⟩ := List.forall_mem_cons.mp asciiRest
  obtain ⟨directory, file, rfl, refused, nonconform⟩ := addFind_eq_error asciiHere here
  have knows := knows_empty.run asciiBefore upTo
  exact ⟨before, directory, file, after, rfl, refused, nonconform, knows.conform⟩

end

end Registry

end Stencil
