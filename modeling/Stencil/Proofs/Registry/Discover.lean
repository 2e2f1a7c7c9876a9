import Mathlib.Tactic.Choose
import Stencil.Proofs.Files.Answers
import Stencil.Proofs.Files.Listing
import Stencil.Proofs.Registry.Known

/-!
# Discovering tags

What a tag directory defines is a matter of the directory tree alone: of the directories in it that
are not hidden and the files in those that are not hidden either. Every such file has to be named
after a built-in tag of its namespace, or discovering fails at the first one that is not. All of
that is one run over what counts in the tree (`TagTree.finds`).
-/
namespace Stencil

/-- What stands in a tag directory: a directory with what is in it, a file, or something else. -/
inductive Shelf where
  | directory (files : Dict FileKind)
  | file
  | other

def Shelf.kind : Shelf → FileKind
  | .directory _ => .directory
  | .file => .file
  | .other => .other

/-- A directory tree, as deep as tags are looked for. -/
abbrev TagTree := Dict Shelf

namespace TagTree

open Registry

/-- What counts in an entry of a tag directory, in the order it is come across. -/
def findsIn : String × Shelf → List Find
  | (name, .directory files) =>
    if isHidden name then []
    else
      .space name ::
        (files.entries.filter fun file => file.2 == .file && !isHidden file.1).map fun file =>
          .tagFile name file.1
  | (_, .file) => []
  | (_, .other) => []

/-- What counts in a tag directory, in the order it is come across. -/
def finds (tree : TagTree) : List Find := tree.entries.flatMap findsIn

/-- A directory that is not hidden. -/
def HasNamespace (tree : TagTree) (directory : String) : Prop :=
  isHidden directory = false ∧ ∃ files, (directory, .directory files) ∈ tree.entries

/-- A file that is not hidden, in a directory that is not hidden. -/
def HasTagFile (tree : TagTree) (directory file : String) : Prop :=
  isHidden directory = false ∧ isHidden file = false ∧
    ∃ files, (directory, .directory files) ∈ tree.entries ∧ (file, .file) ∈ files.entries

/-- That all names are ASCII texts. -/
structure IsAscii (tree : TagTree) : Prop where
  entries : ∀ entry ∈ tree.entries, Text.IsAscii entry.1.toList
  files : ∀ directory files, (directory, .directory files) ∈ tree.entries →
    ∀ file ∈ files.entries, Text.IsAscii file.1.toList

/-- The first of the files that do not conform, by directory and then by name. -/
structure FirstOffender (tree : TagTree) (directory file : String) : Prop where
  has : tree.HasTagFile directory file
  offends : ¬ Conforms directory file
  first : ∀ other otherFile, tree.HasTagFile other otherFile → ¬ Conforms other otherFile →
    directory < other ∨ directory = other ∧ file ≤ otherFile

/-- That a registry has what a tree defines and nothing else: the tags that its files are named
after, as they are built in, and its namespaces, in order. -/
structure Defines (tree : TagTree) (registry : Registry) : Prop where
  tags : ∀ namespaceName name, registry.containsTag namespaceName name ↔ ∃ directory file,
    tree.HasTagFile directory file ∧ lowered directory = namespaceName ∧
      NamesTag namespaceName file name
  builtin : ∀ namespaceName name, registry.containsTag namespaceName name →
    registry.tag? namespaceName name = builtinTag? namespaceName name
  namespaces : ∀ namespaceName, namespaceName ∈ registry.namespaces ↔
    ∃ directory, tree.HasNamespace directory ∧ lowered directory = namespaceName
  ascending : registry.namespaces.Pairwise (· < ·)

/-- That a tree is what is listed at a path. What is hidden need not be listed. -/
structure ListedBy (tree : TagTree) (answers : Answers) (root : String) : Prop where
  entries : answers (.list root) = .ok (tree.entries.map fun entry => (entry.1, entry.2.kind))
  files : ∀ directory files, (directory, .directory files) ∈ tree.entries →
    isHidden directory = false → answers (.list (Path.join root directory)) = .ok files.entries

/-! ### What is found -/

variable {tree : TagTree} {directory file : String}

private theorem mem_findsIn {find : Find} {name : String} {shelf : Shelf} :
    find ∈ findsIn (name, shelf) ↔ ∃ files, shelf = .directory files ∧ isHidden name = false ∧
      (find = .space name ∨ ∃ file, (file, .file) ∈ files.entries ∧ isHidden file = false ∧
        find = .tagFile name file) := by
  cases shelf with
  | directory files =>
    rw [findsIn]
    cases hidden : isHidden name with
    | true => simp
    | false =>
      simp only [Bool.false_eq_true, if_false, List.mem_cons, List.mem_map, List.mem_filter,
        Shelf.directory.injEq, exists_eq_left', true_and]
      refine or_congr_right ⟨?_, ?_⟩
      · rintro ⟨⟨file, kind⟩, ⟨member, counts⟩, rfl⟩
        simp only [Bool.and_eq_true, beq_iff_eq, Bool.not_eq_true'] at counts
        exact ⟨file, counts.1 ▸ member, counts.2, rfl⟩
      · rintro ⟨file, member, visible, rfl⟩
        exact ⟨_, ⟨member, by simp [visible]⟩, rfl⟩
  | file => simp [findsIn]
  | other => simp [findsIn]

private theorem mem_finds {find : Find} : find ∈ tree.finds ↔ ∃ name files,
    (name, .directory files) ∈ tree.entries ∧ isHidden name = false ∧
      (find = .space name ∨ ∃ file, (file, .file) ∈ files.entries ∧ isHidden file = false ∧
        find = .tagFile name file) := by
  rw [finds, List.mem_flatMap]
  constructor
  · rintro ⟨⟨name, shelf⟩, member, found⟩
    obtain ⟨files, rfl, rest⟩ := mem_findsIn.mp found
    exact ⟨name, files, member, rest⟩
  · rintro ⟨name, files, member, rest⟩
    exact ⟨(name, .directory files), member, mem_findsIn.mpr ⟨files, rfl, rest⟩⟩

private theorem tagFile_mem_finds :
    .tagFile directory file ∈ tree.finds ↔ tree.HasTagFile directory file := by
  rw [mem_finds]
  constructor
  · rintro ⟨name, files, member, visible, isSpace | ⟨file', there, counts, isFile⟩⟩
    · cases isSpace
    · cases isFile
      exact ⟨visible, counts, files, member, there⟩
  · rintro ⟨visible, counts, files, member, there⟩
    exact ⟨directory, files, member, visible, .inr ⟨file, there, counts, rfl⟩⟩

private theorem exists_find_iff : (∃ find ∈ tree.finds, find.directory = directory) ↔
    tree.HasNamespace directory := by
  constructor
  · rintro ⟨find, found, rfl⟩
    obtain ⟨name, files, member, visible, rfl | ⟨file, -, -, rfl⟩⟩ := mem_finds.mp found
    · exact ⟨visible, files, member⟩
    · exact ⟨visible, files, member⟩
  · rintro ⟨visible, files, member⟩
    exact ⟨.space directory, mem_finds.mpr ⟨directory, files, member, visible, .inl rfl⟩, rfl⟩

theorem IsAscii.finds (ascii : tree.IsAscii) : ∀ find ∈ tree.finds, find.IsAscii := by
  intro find found
  obtain ⟨name, files, member, -, rfl | ⟨file, there, -, rfl⟩⟩ := mem_finds.mp found
  · exact ascii.entries _ member
  · exact ⟨ascii.entries _ member, ascii.files name files member _ there⟩

/-- Files are found in the order of their directories and then of their names. -/
theorem pairwise_before_finds (tree : TagTree) : tree.finds.Pairwise Find.Before := by
  refine List.pairwise_flatMap.mpr ⟨?_, ?_⟩
  · rintro ⟨name, shelf⟩ -
    cases shelf with
    | directory files =>
      rw [findsIn]
      split
      · exact .nil
      · refine List.pairwise_cons.mpr ⟨fun _ _ => trivial, List.pairwise_map.mpr ?_⟩
        exact (files.ascending.filter _).imp fun order => .inr ⟨rfl, order⟩
    | file => exact .nil
    | other => exact .nil
  · refine tree.ascending.imp ?_
    rintro ⟨name, shelf⟩ ⟨name', shelf'⟩ order find found find' found'
    obtain ⟨files, -, -, rfl | ⟨file, -, -, rfl⟩⟩ := mem_findsIn.mp found
    · trivial
    · obtain ⟨files', -, -, rfl | ⟨file', -, -, rfl⟩⟩ := mem_findsIn.mp found'
      · trivial
      · exact .inl order

/-- Behind a run over what was found in a tree a registry has what the tree defines. -/
theorem defines_of_knows {registry : Registry} (ascii : tree.IsAscii)
    (knows : Knows tree.finds registry) : tree.Defines registry where
  tags namespaceName name := by
    rw [containsTag, Option.isSome_iff_exists]
    constructor
    · rintro ⟨kind, known⟩
      obtain ⟨-, directory, file, found, rest⟩ := (knows.tags _ _ _).mp known
      exact ⟨directory, file, tagFile_mem_finds.mp found, rest⟩
    · rintro ⟨directory, file, has, rfl, names⟩
      have found := tagFile_mem_finds.mpr has
      obtain ⟨asciiDirectory, asciiFile⟩ := ascii.finds _ found
      -- The built-in tag that the file conforms to is the one it is named after.
      obtain ⟨other, kind, names', builtin⟩ := knows.conform directory file found
      obtain rfl := names'.unique asciiDirectory asciiFile names
      exact ⟨kind, (knows.tags _ _ _).mpr ⟨builtin, directory, file, found, rfl, names⟩⟩
  builtin namespaceName name contains := by
    obtain ⟨kind, known⟩ := Option.isSome_iff_exists.mp contains
    rw [known, ((knows.tags _ _ _).mp known).1]
  namespaces namespaceName := by
    rw [Registry.namespaces, Dict.mem_keys, knows.namespaces]
    constructor
    · rintro ⟨find, found, rfl⟩
      exact ⟨find.directory, exists_find_iff.mp ⟨find, found, rfl⟩, rfl⟩
    · rintro ⟨directory, has, rfl⟩
      obtain ⟨find, found, rfl⟩ := exists_find_iff.mpr has
      exact ⟨find, found, rfl⟩
  ascending := Dict.ascending_keys registry

/-- The file at which a run over what was found fails is the first one that does not conform. -/
theorem firstOffender_of_split {before after : List Find}
    (split : tree.finds = before ++ .tagFile directory file :: after)
    (offends : ¬ Conforms directory file)
    (conform : ∀ other otherFile, .tagFile other otherFile ∈ before → Conforms other otherFile) :
    tree.FirstOffender directory file where
  has := tagFile_mem_finds.mp (by simp [split])
  offends := offends
  first other otherFile has otherOffends := by
    have found := tagFile_mem_finds.mpr has
    have order := tree.pairwise_before_finds
    rw [split] at found order
    obtain ⟨-, order, -⟩ := List.pairwise_append.mp order
    -- What was found earlier conforms, and what is found later is behind in the order.
    rcases List.mem_append.mp found with earlier | rest
    · exact absurd (conform other otherFile earlier) otherOffends
    · rcases List.mem_cons.mp rest with here | later
      · cases here
        exact .inr ⟨rfl, String.le_refl file⟩
      · refine ((List.pairwise_cons.mp order).1 _ later).imp_right ?_
        rintro ⟨same, order⟩
        exact ⟨same, String.not_lt.mp fun back => String.lt_irrefl _ (String.lt_trans order back)⟩

end TagTree

namespace Registry

/-! ### Listing directories -/

section

open TagTree

variable {answers : Answers} {root path name : String} {shelf : Shelf} {registry : Registry}

private theorem lists_readDirectory (path : String) : (readDirectory path).Lists := by
  refine (Job.lists_perform path).bind fun answer => ?_
  cases answer with
  | ok entries => exact Job.lists_pure entries
  | error fault => exact Job.lists_throw _

private theorem lists_discover (root : String) : (discover root).Lists := by
  refine (lists_readDirectory root).bind fun entries => Job.lists_foldlM (fun registry entry => ?_) _ _
  unfold addDirectory
  dsimp only
  split
  · exact Job.lists_pure registry
  · exact (lists_readDirectory _).bind fun files => Job.lists_compile _

private theorem answered_readDirectory {entries : List (String × FileKind)}
    (listed : answers (.list path) = .ok entries) :
    (readDirectory path).answered answers = .ok entries := by
  unfold readDirectory
  rw [Job.answered_bind]
  change (Except.ok (answers (.list path)) >>= _) = _
  rw [listed]
  rfl

/-- Adding files one by one, each by itself, adds those that count. -/
theorem foldlM_addFile (files : List (String × FileKind)) :
    files.foldlM (addFile (lowered name) (Path.join root name)) registry =
      ((files.filter fun file => file.2 == .file && !isHidden file.1).map fun file =>
        Find.tagFile name file.1).foldlM (addFind root) registry := by
  rw [List.foldlM_map, List.foldlM_filter]
  refine congrArg (fun step => files.foldlM step registry) ?_
  funext registry ⟨file, kind⟩
  unfold addFile
  dsimp only
  cases kind <;> cases isHidden file <;> rfl

/-- What is added for a directory is what counts in it. -/
theorem answered_addDirectory (registry : Registry) (ascii : Text.IsAscii name.toList)
    (listed : ∀ files, shelf = .directory files → isHidden name = false →
      answers (.list (Path.join root name)) = .ok files.entries) :
    (addDirectory root registry (name, shelf.kind)).answered answers
      = ((findsIn (name, shelf)).foldlM (addFind root) registry).mapError .compile := by
  unfold addDirectory
  dsimp only
  rw [lower_eq_lowered ascii, isHidden_lowered ascii]
  cases shelf with
  | directory files =>
    rw [findsIn]
    cases hidden : isHidden name with
    | true => rfl
    | false =>
      change (readDirectory _ >>= fun files => Job.compile _).answered answers = _
      rw [Job.answered_bind, answered_readDirectory (listed files rfl hidden)]
      change Except.mapError _ (files.entries.foldlM (addFile (lowered name) (Path.join root name))
        (registry.addNamespace (lowered name))) = _
      rw [foldlM_addFile]
      rfl
  | file => rfl
  | other => rfl

variable {tree : TagTree}

/-- Discovering tags is a run over what counts in the tree. -/
theorem answered_discover (listed : tree.ListedBy answers root) (ascii : tree.IsAscii) :
    (discover root).answered answers
      = (tree.finds.foldlM (addFind root) .empty).mapError .compile := by
  -- The registry is general, as what an entry adds is there for the next one.
  have run : ∀ entries ⊆ tree.entries, ∀ registry : Registry,
      entries.foldlM (fun registry entry =>
          (addDirectory root registry (entry.1, entry.2.kind)).answered answers) registry
        = ((entries.flatMap findsIn).foldlM (addFind root) registry).mapError .compile := by
    intro entries within
    induction entries with
    | nil => exact fun _ => rfl
    | cons entry entries ih =>
      intro registry
      obtain ⟨here, later⟩ := List.cons_subset.mp within
      have added := answered_addDirectory registry (ascii.entries entry here)
        fun files isDirectory visible => listed.files entry.1 files (isDirectory ▸ here) visible
      rw [List.foldlM_cons, added, List.flatMap_cons, List.foldlM_append]
      cases (findsIn entry).foldlM (addFind root) registry with
      | error error => rfl
      | ok next => exact ih later next
  unfold discover
  rw [Job.answered_bind, answered_readDirectory listed.entries]
  change ((tree.entries.map _).foldlM (addDirectory root) .empty).answered answers = _
  rw [Job.answered_foldlM, List.foldlM_map]
  exact run tree.entries (List.Subset.refl _) .empty

/-- Where directories can be listed there is a tree of what is listed. -/
theorem exists_listedBy {world : World} {entries : List (String × FileKind)}
    (listed : world.files.list root = .ok entries)
    (inner : ∀ name, (name, .directory) ∈ entries → isHidden name = false →
      ∃ files, world.files.list (Path.join root name) = .ok files) :
    ∃ tree : TagTree, tree.ListedBy (fun action => (world.perform action).1) root := by
  have each : ∀ entry : String × FileKind, ∃ shelf : Shelf, entry ∈ entries →
      shelf.kind = entry.2 ∧ ∀ files, shelf = .directory files → isHidden entry.1 = false →
        world.files.list (Path.join root entry.1) = .ok files.entries := by
    rintro ⟨name, kind⟩
    cases kind with
    | file => exact ⟨.file, fun _ => ⟨rfl, nofun⟩⟩
    | other => exact ⟨.other, fun _ => ⟨rfl, nofun⟩⟩
    | directory =>
      by_cases visible : (name, .directory) ∈ entries ∧ isHidden name = false
      · obtain ⟨files, listed⟩ := inner name visible.1 visible.2
        refine ⟨.directory ⟨files, FileTree.ascending_list listed⟩, fun _ => ⟨rfl, ?_⟩⟩
        rintro _ ⟨⟩ _
        exact listed
      · -- Nothing is said of the files of a hidden directory.
        refine ⟨.directory .empty, fun member => ⟨rfl, fun _ _ shown => ?_⟩⟩
        exact absurd ⟨member, shown⟩ visible
  choose shelf suits using each
  refine ⟨⟨entries.map fun entry => (entry.1, shelf entry), ?_⟩, ?_, ?_⟩
  · exact List.pairwise_map.mpr (FileTree.ascending_list listed)
  · change world.files.list root = _
    rw [listed, List.map_map]
    have kept : entries.map (fun entry => (entry.1, (shelf entry).kind)) = entries.map id :=
      List.map_congr_left fun entry member => Prod.ext rfl (suits entry member).1
    rw [List.map_id] at kept
    exact congrArg Except.ok kept.symm
  · intro directory files member visible
    obtain ⟨entry, there, same⟩ := List.mem_map.mp member
    obtain ⟨rfl, isDirectory⟩ := Prod.mk.inj same
    exact (suits entry there).2 files isDirectory visible

/-- Discovering tags is exact. It depends on the tree alone and leaves the world as it is, it
succeeds exactly if all files that count conform, then the registry has what the tree defines, and
if it fails, the error is about the first file that does not conform. -/
theorem discover_exact (listed : tree.ListedBy answers root) (ascii : tree.IsAscii) :
    (∀ world : World, (∀ path, answers (.list path) = world.files.list path) →
      (discover root).runIn world = ((discover root).answered answers, world)) ∧
    ((∃ registry, (discover root).answered answers = .ok registry) ↔
      ∀ directory file, tree.HasTagFile directory file → Conforms directory file) ∧
    (∀ registry, (discover root).answered answers = .ok registry → tree.Defines registry) ∧
    (∀ failure, (discover root).answered answers = .error failure →
      ∃ directory file error, tree.FirstOffender directory file ∧
        Refused root directory file error ∧ failure = .compile error) := by
  refine ⟨fun world agree => (lists_discover root).runIn agree, ?_⟩
  rw [answered_discover listed ascii]
  cases done : tree.finds.foldlM (addFind root) .empty with
  | ok registry =>
    -- The registry knows exactly the tags of the files that were added.
    have knows : Knows tree.finds registry := knows_empty.run ascii.finds done
    refine ⟨⟨fun _ directory file has => ?_, fun _ => ⟨registry, rfl⟩⟩, ?_, nofun⟩
    · exact knows.conform directory file (tagFile_mem_finds.mpr has)
    · rintro _ ⟨⟩
      exact defines_of_knows ascii knows
  | error error =>
    obtain ⟨before, directory, file, after, split, refused, offends, conform⟩ :=
      run_eq_error ascii.finds done
    -- The run stops at the first file that does not conform.
    have first := firstOffender_of_split split offends conform
    refine ⟨⟨nofun, fun conforms => ?_⟩, nofun, ?_⟩
    · exact absurd (conforms directory file first.has) offends
    · rintro _ ⟨⟩
      exact ⟨directory, file, error, first, refused, rfl⟩

/-- Two directories of one namespace, one without tags and a hidden one. -/
theorem discover_exact_folders :
    let world := World.holding [("tags/.git/config", ""), ("tags/FORM/formTextTag.json", ""),
      ("tags/form/FormUrlTag.tag.json", ""), ("tags/form/.keep", ""), ("tags/static/.keep", "")]
    let answers : Answers := fun action => (world.perform action).1
    let tree : TagTree := ⟨[(".git", .directory .empty),
      ("FORM", .directory ⟨[("formTextTag.json", .file)], by decide⟩),
      ("form", .directory ⟨[(".keep", .file), ("FormUrlTag.tag.json", .file)], by decide +kernel⟩),
      ("static", .directory ⟨[(".keep", .file)], by decide⟩)], by decide +kernel⟩
    tree.ListedBy answers "tags" ∧ tree.IsAscii ∧ ∃ registry,
      (discover "tags").runIn world = (.ok registry, world) ∧ tree.Defines registry := by
  intro world answers tree
  have inside : ∀ directory files, (directory, Shelf.directory files) ∈ tree.entries →
      directory = ".git" ∧ files = .empty ∨
        directory = "FORM" ∧ files = ⟨[("formTextTag.json", .file)], by decide⟩ ∨
        directory = "form" ∧ files = ⟨[(".keep", .file), ("FormUrlTag.tag.json", .file)], by
          decide +kernel⟩ ∨
        directory = "static" ∧ files = ⟨[(".keep", .file)], by decide⟩ := by
    intro directory files member
    simpa [tree] using member
  have listed : tree.ListedBy answers "tags" := by
    refine ⟨by decide +kernel, fun directory files member visible => ?_⟩
    rcases inside _ _ member with ⟨rfl, rfl⟩ | ⟨rfl, rfl⟩ | ⟨rfl, rfl⟩ | ⟨rfl, rfl⟩
    · cases visible
    all_goals decide +kernel
  have ascii : tree.IsAscii := by
    refine ⟨by decide +kernel, fun directory files member => ?_⟩
    rcases inside _ _ member with ⟨rfl, rfl⟩ | ⟨rfl, rfl⟩ | ⟨rfl, rfl⟩ | ⟨rfl, rfl⟩
    all_goals decide +kernel
  have text : Conforms "FORM" "formTextTag.json" := by
    refine ⟨"text", .text .text, ⟨"form".toList, "Text".toList, "Tag".toList, "json".toList, by decide,
      by decide, ⟨'T', "ext".toList, rfl, by decide, ?_⟩, by decide, by decide, ?_, by decide⟩, rfl⟩
    all_goals simp [Char.isAlphanum]
  have url : Conforms "form" "FormUrlTag.tag.json" := by
    refine ⟨"url", .text .url, ⟨"Form".toList, "Url".toList, "Tag".toList, "tag.json".toList, by decide,
      by decide, ⟨'U', "rl".toList, rfl, by decide, ?_⟩, by decide, by decide, ?_, by decide⟩, rfl⟩
    all_goals simp [Char.isAlphanum]
  have conform : ∀ directory file, tree.HasTagFile directory file → Conforms directory file := by
    rintro directory file ⟨visible, counts, files, member, there⟩
    rcases inside _ _ member with ⟨rfl, rfl⟩ | ⟨rfl, rfl⟩ | ⟨rfl, rfl⟩ | ⟨rfl, rfl⟩
    · cases visible
    · obtain rfl : file = "formTextTag.json" := by simpa using there
      exact text
    · obtain rfl | rfl : file = ".keep" ∨ file = "FormUrlTag.tag.json" := by simpa using there
      · cases counts
      · exact url
    · obtain rfl : file = ".keep" := by simpa using there
      cases counts
  obtain ⟨runs, succeeds, defines, -⟩ := discover_exact listed ascii
  obtain ⟨registry, found⟩ := succeeds.mpr conform
  refine ⟨listed, ascii, registry, ?_, defines registry found⟩
  rw [runs world fun path => rfl, found]

end

end Registry

end Stencil
