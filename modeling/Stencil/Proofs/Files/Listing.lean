import Stencil.Proofs.Files.Program
import Stencil.Proofs.Files.Tree

/-!
# Files and the directories they are in

A name in a directory that exists leads to a file as soon as one lies at its place, and a
directory lists all its files. No program ever takes a directory away, so a path that leads to
a directory keeps leading there.
-/
namespace Stencil

namespace FileTree

variable {tree after : FileTree} {path base name : String}

/-- There is a file at a path. -/
def HasFile (tree : FileTree) (path : String) : Prop :=
  ∃ content time, tree.find path = .ok (.file content time)

/-- A file that is found can be removed. -/
theorem remove_of_hasFile (has : tree.HasFile path) : ∃ after, tree.remove path = .ok after := by
  obtain ⟨content, time, found⟩ := has
  obtain ⟨spot, name, led, there⟩ := find_eq_file.mp found
  have held := there
  rw [child?_eq] at held
  obtain ⟨place, placed, -⟩ := Option.bind_eq_some_iff.mp held
  have file : tree.fileAt path = .ok (place, .file content time) := by
    rw [fileAt, led]
    simp only [bind, Except.bind, there, place_eq_ok.mpr placed, Bool.false_eq_true, if_false]
    rfl
  exact ⟨_, by rw [remove, file]; rfl⟩

/-- No file is left where one was removed. -/
theorem not_hasFile_of_remove (removed : tree.remove path = .ok after) : ¬ after.HasFile path := by
  rintro ⟨content, time, found⟩
  obtain ⟨place, entry, leads, -, -, rfl⟩ := remove_eq_ok removed
  obtain ⟨other, leads', there⟩ := placeOf?_of_find found
  obtain rfl := Option.some.inj (leads.symm.trans leads')
  simp at there

/-! ### Names in a directory -/

/-- What is found under a name in a directory. -/
theorem find_join (isName : Path.IsName name) : tree.find (Path.join base name) =
    tree.walk base >>= fun spot =>
      match tree.child? name spot with
      | some entry => .ok entry
      | none => .error .notFound := by
  rw [find, target_join isName]
  cases tree.walk base with
  | error fault => rfl
  | ok spot =>
    simp only [Except.map, bind, Except.bind]
    cases tree.child? name spot with
    | none => rfl
    | some entry => cases entry <;> rfl

/-- A name in a directory that exists leads to a file if one lies at its place. -/
theorem hasFile_join {spot : Spot} (isName : Path.IsName name) (walked : tree.walk base = .ok spot)
    {place : String} {content : Content} {time : Time}
    (leads : placeOf? (Path.join base name) = some place)
    (there : tree.entries.get? place = some (.file content time)) :
    tree.HasFile (Path.join base name) := by
  have followed : spotOf? base = some spot := follow?_of_walk walked
  rw [placeOf?_join isName, followed, Option.bind_some] at leads
  refine ⟨content, time, ?_⟩
  rw [find_join isName, walked]
  simp only [bind, Except.bind, child?_eq, leads, Option.bind_some, there]

/-- What lies in a directory has its key in front of the last slash. -/
theorem toList_key_concat {parts : List String} (filled : parts ≠ []) (name : String) :
    (key (parts ++ [name])).toList = (key parts).toList ++ '/' :: name.toList := by
  rw [toList_key, toList_key]
  induction parts with
  | nil => exact absurd rfl filled
  | cons first rest ih =>
    cases rest with
    | nil => simp [List.intercalate_cons_cons]
    | cons second rest =>
      have later := ih (by simp)
      simp only [List.cons_append, List.map_cons, List.intercalate_cons_cons] at later ⊢
      rw [later]
      simp

/-- What lies in a named directory is listed under its name. -/
theorem nameIn?_key {parts : List String} {last : String} (isLast : Path.IsName last)
    (isName : Path.IsName name) :
    nameIn? (key (parts ++ [last])) (key (parts ++ [last] ++ [name])) = some name := by
  have filled : (key (parts ++ [last])).isEmpty = false := by
    rw [Bool.eq_false_iff]
    intro empty
    have none : (key (parts ++ [last])).toList = [] := by simpa using empty
    have some_last : last.toList ≠ [] := by simpa using isLast.nonempty
    cases parts with
    | nil => exact some_last (by simpa [toList_key] using none)
    | cons first rest =>
      rw [toList_key_concat (by simp)] at none
      simp at none
  have behind : Text.afterStart? (key (parts ++ [last]) ++ "/").toList
      (key (parts ++ [last] ++ [name])).toList = some name.toList := by
    rw [Text.afterStart?_eq_some, toList_key_concat (by simp)]
    simp
  have noSlash : name.toList.contains '/' = false := by simpa using isName.noSlash
  rw [nameIn?, filled]
  simp only [Bool.false_eq_true, if_false, behind]
  change (if _ then _ else _) = _
  rw [noSlash]
  simp

/-- A file in a directory is listed there. -/
theorem mem_list_of_hasFile {last : String} (isLast : Path.IsName last) (isName : Path.IsName name)
    (has : tree.HasFile (Path.join (Path.join base last) name)) :
    ∃ entries, tree.list (Path.join base last) = .ok entries ∧ (name, .file) ∈ entries := by
  obtain ⟨content, time, found⟩ := has
  rw [find_join isName, walk_join isLast] at found
  obtain ⟨spot, walked, found⟩ := bind_eq_ok.mp found
  obtain ⟨outer, around, entered⟩ := bind_eq_ok.mp walked
  have directed : tree.directory (Path.join base last) = .ok spot := by
    rw [directory, target_join isLast, around]
    exact entered
  -- Neither name is a dot, so the file stands right below the directory.
  have into := into?_of_enter entered
  cases outer with
  | outside => simp [Spot.into?, isLast.notDot, isLast.notDots] at into
  | inside parts =>
    obtain rfl : Spot.inside (parts ++ [last]) = spot := by
      simpa [Spot.into?, isLast.notDot, isLast.notDots] using into
    split at found
    · next entry there =>
      cases found
      refine ⟨_, by rw [list, directed]; rfl, List.mem_filterMap.mpr ⟨_, Dict.mem_of_get? there, ?_⟩⟩
      dsimp only
      rw [nameIn?_key isLast isName]
      rfl
    · cases found

private theorem nameIn?_eq_some {directory entry name : String}
    (named : nameIn? directory entry = some name) : entry.toList =
      (if directory.isEmpty then "" else directory ++ "/").toList ++ name.toList := by
  obtain ⟨rest, behind, named⟩ := Option.bind_eq_some_iff.mp named
  split at named
  · cases named
  · cases named
    rw [String.toList_ofList]
    exact Text.afterStart?_eq_some.mp behind

private theorem lt_of_append_lt {start left right : List Char}
    (order : start ++ left < start ++ right) : left < right := by
  induction start with
  | nil => exact order
  | cons c start ih =>
    rw [List.cons_append, List.cons_append, List.cons_lt_cons_self] at order
    exact ih order

/-- A directory lists its entries in the order of their names. -/
theorem ascending_list {entries : List (String × FileKind)}
    (listed : tree.list path = .ok entries) : entries.Pairwise fun a b => a.1 < b.1 := by
  obtain ⟨spot, -, listed⟩ := bind_eq_ok.mp listed
  cases spot with
  | outside => cases listed
  | inside parts =>
    cases listed
    refine tree.entries.ascending.filterMap _ ?_
    rintro ⟨key, what⟩ ⟨key', what'⟩ order entry named entry' named'
    obtain ⟨name, found, rfl⟩ := Option.map_eq_some_iff.mp named
    obtain ⟨name', found', rfl⟩ := Option.map_eq_some_iff.mp named'
    -- Both keys start with that of the directory.
    rw [String.lt_iff, nameIn?_eq_some found, nameIn?_eq_some found'] at order
    exact String.lt_iff.mpr (lt_of_append_lt order)

end FileTree

/-! ### Directories stay -/

section

variable {α : Type} {world : World} {place : String} {made : Time}

/-- No action takes a directory away. -/
theorem World.get?_directory_perform
    (there : world.files.entries.get? place = some (.directory made)) (action : Action) :
    (world.perform action).2.files.entries.get? place = some (.directory made) := by
  -- A request that fails changes nothing.
  have changed {result : Except FileFault FileTree}
      (kept : ∀ files, result = .ok files → files.entries.get? place = some (.directory made)) :
      (world.change result).2.files.entries.get? place = some (.directory made) := by
    cases result with
    | error fault => exact there
    | ok files => exact kept files rfl
  -- No request puts an entry where a directory is.
  have put {other : String} {entry : Time → FileEntry}
      (free : world.files.entries.get? other ≠ some (.directory made)) :
      (world.files.put other entry).entries.get? place = some (.directory made) := by
    have apart : place ≠ other := fun same => free (same ▸ there)
    rw [FileTree.put, Dict.get?_insert, if_neg apart, there]
  cases action with
  | makeDirectory path =>
    refine changed fun files makes => ?_
    obtain ⟨other, -, absent, rfl⟩ := FileTree.makeDirectory_eq_ok makes
    exact put (by rw [absent]; simp)
  | write path content =>
    refine changed fun files written => ?_
    obtain ⟨other, -, noDirectory, rfl⟩ := FileTree.write_eq_ok written
    exact put (noDirectory made)
  | remove path =>
    refine changed fun files removed => ?_
    obtain ⟨other, entry, -, held, isFile, rfl⟩ := FileTree.remove_eq_ok removed
    have apart : place ≠ other := by
      rintro rfl
      cases held.symm.trans there
      cases isFile
    rw [Dict.get?_erase, if_neg apart, there]
  | rename source path =>
    refine changed fun files renamed => ?_
    obtain ⟨old, other, entry, -, -, held, isFile, noDirectory, rfl⟩ :=
      FileTree.rename_eq_ok renamed
    have apart : place ≠ other := fun same => noDirectory made (same ▸ there)
    have apart' : place ≠ old := by
      rintro rfl
      cases held.symm.trans there
      cases isFile
    rw [Dict.get?_insert, if_neg apart, Dict.get?_erase, if_neg apart', there]
  | _ => exact there

/-- No program takes a directory away. -/
theorem Program.get?_directory_run (program : Program α)
    (there : world.files.entries.get? place = some (.directory made)) :
    (program.run world).2.files.entries.get? place = some (.directory made) := by
  induction program generalizing world with
  | done result => exact there
  | step action next ih => exact ih _ (World.get?_directory_perform there action)

variable {after : World} {path : String} {spot : FileTree.Spot}

/-- A path that leads to a directory still leads there behind an action. -/
theorem World.walk_of_perform {action : Action} {answer : action.Answer}
    (performed : world.perform action = (answer, after))
    (walked : world.files.walk path = .ok spot) : after.files.walk path = .ok spot := by
  refine FileTree.walk_of_stay (fun place made there => ?_) walked
  have stays := World.get?_directory_perform there action
  rwa [performed] at stays

/-- A path that leads to a directory still leads there behind a task. -/
theorem Job.walk_of_run {task : Job α} {result : Except Failure α}
    (ran : task.runIn world = (result, after)) (walked : world.files.walk path = .ok spot) :
    after.files.walk path = .ok spot := by
  refine FileTree.walk_of_stay (fun place made there => ?_) walked
  have stays := Program.get?_directory_run task.run there
  rwa [← Job.runIn, ran] at stays

end

end Stencil
