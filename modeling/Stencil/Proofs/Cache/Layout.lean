import Mathlib.Data.List.Induction
import Stencil.Proofs.Cache.Places
import Stencil.Proofs.Files.Law

/-!
# What lies in a cache directory

A cache directory holds two directories of files. It lies at some names below a directory that
exists, and those names may still be free. What operations on its files do only depends on what
lies at their own places.
-/
namespace Stencil

/-- The directories a cache keeps its files in. -/
def Cache.IsStore (name : String) : Prop := name = "templates" ∨ name = "forms"

theorem Cache.IsStore.isName {name : String} (isStore : IsStore name) : Path.IsName name := by
  rcases isStore with rfl | rfl
  · exact isName_templates
  · exact isName_forms

/-- Where a cache directory lies or will be made. -/
structure Cache.Address where
  /-- The path of a directory. -/
  base : String
  /-- The names that lead to this directory. -/
  around : List String
  clean : (FileTree.Spot.inside around).Clean
  /-- The names that lead from there to the cache directory. -/
  names : List String
  areNames : ∀ name ∈ names, Path.IsName name

namespace Cache.Address

open FileTree

/-- The path to some names below the base. -/
def path (address : Address) (rest : List String) : String := rest.foldl Path.join address.base

def key (address : Address) (rest : List String) : String := FileTree.key (address.around ++ rest)

def cacheDir (address : Address) : String := address.path address.names

/-- What the cache keeps below the base: the directories on the way to its files, and these. -/
inductive Holds (address : Address) : List String → FileKind → Prop
  | directory {rest : List String} {store : String} (isStore : IsStore store) (filled : rest ≠ [])
      (onWay : rest <+: address.names ++ [store]) : address.Holds rest .directory
  | file {store name : String} (isStore : IsStore store) (isName : Path.IsName name) :
      address.Holds (address.names ++ [store] ++ [name]) .file

variable {address : Address} {front rest : List String} {last : String} {kind : FileKind}

theorem path_concat (front : List String) (last : String) :
    address.path (front ++ [last]) = Path.join (address.path front) last := by
  simp [path]

theorem path_stored (store name : String) : address.path (address.names ++ [store] ++ [name])
    = Path.join (Path.join address.cacheDir store) name := by
  rw [path_concat, path_concat, cacheDir]

private theorem child?_below (tree : FileTree) (front : List String) (last : String) :
    tree.child? last (.inside (address.around ++ front))
      = tree.entries.get? (address.key (front ++ [last])) := by
  rw [child?, key, List.append_assoc]

private theorem place_below (front : List String) (last : String) :
    FileTree.place (.inside (address.around ++ front)) last
      = .ok (address.key (front ++ [last])) := by
  rw [FileTree.place, key, List.append_assoc]

/-- Everything that is not at its end is a directory. -/
theorem Holds.isDirectory (holds : address.Holds (front ++ [last]) kind) (filled : front ≠ []) :
    address.Holds front .directory := by
  generalize whole : front ++ [last] = rest at holds
  cases holds with
  | directory isStore _ onWay =>
    exact .directory isStore filled ((List.prefix_append front [last]).trans (whole ▸ onWay))
  | file isStore isName =>
    exact .directory isStore filled ((List.append_inj' whole rfl).1 ▸ List.prefix_rfl)

theorem Holds.areNames (holds : address.Holds rest kind) : ∀ name ∈ rest, Path.IsName name := by
  intro name member
  cases holds with
  | directory isStore _ onWay =>
    rcases List.mem_append.mp (onWay.subset member) with within | below
    · exact address.areNames name within
    · exact List.mem_singleton.mp below ▸ isStore.isName
  | file isStore isName =>
    rcases List.mem_append.mp member with outer | here
    · rcases List.mem_append.mp outer with within | below
      · exact address.areNames name within
      · exact List.mem_singleton.mp below ▸ isStore.isName
    · exact List.mem_singleton.mp here ▸ isName

theorem Holds.isLast (holds : address.Holds (front ++ [last]) kind) : Path.IsName last :=
  holds.areNames last (by simp)

theorem Holds.ne_nil (holds : address.Holds rest kind) : rest ≠ [] := by
  cases holds with
  | directory _ filled _ => exact filled
  | file _ _ => simp

theorem Holds.exists_concat (holds : address.Holds rest kind) :
    ∃ front last, rest = front ++ [last] :=
  ⟨_, _, (List.dropLast_concat_getLast holds.ne_nil).symm⟩

theorem Holds.kind_eq {kind' : FileKind} (holds : address.Holds rest kind)
    (holds' : address.Holds rest kind') : kind = kind' := by
  have short {rest : List String} {kind : FileKind} (holds : address.Holds rest kind) :
      kind = .directory ∧ rest.length ≤ address.names.length + 1 ∨
        kind = .file ∧ rest.length = address.names.length + 2 := by
    cases holds with
    | directory _ _ onWay => exact .inl ⟨rfl, by simpa using onWay.length_le⟩
    | file _ _ => exact .inr ⟨rfl, by simp⟩
  rcases short holds with ⟨rfl, few⟩ | ⟨rfl, many⟩ <;>
    rcases short holds' with ⟨rfl, few'⟩ | ⟨rfl, many'⟩
  · rfl
  · omega
  · omega
  · rfl

/-- Different names lead to different places. -/
theorem key_inj {other : List String} {kind' : FileKind} (holds : address.Holds rest kind)
    (holds' : address.Holds other kind') (same : address.key rest = address.key other) :
    rest = other := by
  have noSlash {rest : List String} {kind : FileKind} (holds : address.Holds rest kind) :
      ∀ part ∈ address.around ++ rest, '/' ∉ part.toList := by
    intro part member
    rcases List.mem_append.mp member with before | below
    · exact address.clean part before
    · exact (holds.areNames part below).noSlash
  refine List.append_cancel_left (key_injective ?_ ?_ (noSlash holds) (noSlash holds') same)
  · exact List.append_ne_nil_of_right_ne_nil _ holds.ne_nil
  · exact List.append_ne_nil_of_right_ne_nil _ holds'.ne_nil

/-! ### Layouts -/

/-- There is a directory behind some names. -/
def Stands (address : Address) (tree : FileTree) (rest : List String) : Prop :=
  rest = [] ∨ ∃ time, tree.entries.get? (address.key rest) = some (.directory time)

private theorem not_stands {tree : FileTree} (filled : rest ≠ [])
    (absent : tree.entries.get? (address.key rest) = none) : ¬ address.Stands tree rest := by
  rintro (none | ⟨time, there⟩)
  · exact filled none
  · rw [absent] at there
    cases there

/-- In a tree there are only directories and files where the cache keeps such, each of them in
a directory that is there. -/
structure Layout (address : Address) (tree : FileTree) : Prop where
  leads : tree.walk address.base = .ok (.inside address.around)
  entries : ∀ rest kind entry, address.Holds rest kind →
    tree.entries.get? (address.key rest) = some entry →
      entry.kind = kind ∧ address.Stands tree rest.dropLast

/-- There is nothing yet where the cache will keep something. -/
structure Vacant (address : Address) (tree : FileTree) : Prop where
  leads : tree.walk address.base = .ok (.inside address.around)
  free : ∀ rest kind, address.Holds rest kind → tree.entries.get? (address.key rest) = none

theorem Vacant.layout {tree : FileTree} (vacant : address.Vacant tree) : address.Layout tree where
  leads := vacant.leads
  entries := by
    intro rest kind entry holds there
    rw [vacant.free rest kind holds] at there
    cases there

namespace Layout

variable {tree after : FileTree} (layout : address.Layout tree)
include layout

theorem noDirectory (holds : address.Holds rest .file) :
    NoDirectory (tree.entries.get? (address.key rest)) := by
  intro time there
  cases (layout.entries rest .file _ holds there).1

theorem exists_file {entry : FileEntry} (holds : address.Holds rest .file)
    (there : tree.entries.get? (address.key rest) = some entry) :
    ∃ content time, entry = .file content time := by
  have isFile := (layout.entries rest .file entry holds there).1
  cases entry with
  | file content time => exact ⟨content, time, rfl⟩
  | directory time => cases isFile

theorem exists_directory {entry : FileEntry} (holds : address.Holds rest .directory)
    (there : tree.entries.get? (address.key rest) = some entry) :
    ∃ time, entry = .directory time := by
  have isDirectory := (layout.entries rest .directory entry holds there).1
  cases entry with
  | file content time => cases isDirectory
  | directory time => exact ⟨time, rfl⟩

/-- Nothing lies in a directory that is not there. -/
theorem absent (holds : address.Holds (front ++ [last]) kind)
    (missing : ¬ address.Stands tree front) :
    tree.entries.get? (address.key (front ++ [last])) = none := by
  refine Option.eq_none_iff_forall_ne_some.mpr fun entry there => missing ?_
  have stands := (layout.entries _ kind entry holds there).2
  rwa [List.dropLast_concat] at stands

/-! ### Changes -/

/-- A layout stays if directories do and what is new lies in a directory. -/
theorem change
    (stay : ∀ place time, tree.entries.get? place = some (.directory time) →
      after.entries.get? place = some (.directory time))
    (lies : ∀ rest kind entry, address.Holds rest kind →
      after.entries.get? (address.key rest) = some entry →
        entry.kind = kind ∧ address.Stands tree rest.dropLast) : address.Layout after where
  leads := walk_of_stay stay layout.leads
  entries := by
    intro rest kind entry holds there
    obtain ⟨same, stands⟩ := lies rest kind entry holds there
    refine ⟨same, stands.imp id ?_⟩
    rintro ⟨time, there⟩
    exact ⟨time, stay _ time there⟩

theorem erase {place : String} (noDirectory : NoDirectory (tree.entries.get? place))
    (same : after.entries = tree.entries.erase place) : address.Layout after := by
  refine layout.change (fun other time there => ?_) fun rest kind entry holds there => ?_
  · rw [same, Dict.get?_erase]
    split
    · next here => exact absurd (here ▸ there) (noDirectory time)
    · exact there
  · rw [same, Dict.get?_erase] at there
    split at there
    · cases there
    · exact layout.entries rest kind entry holds there

/-- An entry is put at a place, which is as the layout says if it is one of the cache. -/
theorem insert {place : String} {entry : FileEntry}
    (noDirectory : NoDirectory (tree.entries.get? place))
    (lies : ∀ rest kind, address.Holds rest kind → address.key rest = place →
      entry.kind = kind ∧ address.Stands tree rest.dropLast)
    (same : after.entries = tree.entries.insert place entry) : address.Layout after := by
  refine layout.change (fun other time there => ?_) fun rest kind found holds there => ?_
  · rw [same, Dict.get?_insert]
    split
    · next here => exact absurd (here ▸ there) (noDirectory time)
    · exact there
  · rw [same, Dict.get?_insert] at there
    split at there
    · next here =>
      cases there
      exact lies rest kind holds here
    · exact layout.entries rest kind found holds there

/-- An entry is put where the cache keeps it. -/
theorem insert_held {entry : FileEntry} (holds : address.Holds rest entry.kind)
    (stands : address.Stands tree rest.dropLast)
    (noDirectory : NoDirectory (tree.entries.get? (address.key rest)))
    (same : after.entries = tree.entries.insert (address.key rest) entry) :
    address.Layout after := by
  refine layout.insert noDirectory (fun other kind holds' here => ?_) same
  obtain rfl := key_inj holds' holds here
  exact ⟨holds.kind_eq holds', stands⟩

/-! ### Operations -/

/-- A path leads into a directory that is there, and nowhere otherwise. -/
theorem walk_path (onWay : rest = [] ∨ address.Holds rest .directory) :
    address.Stands tree rest ∧
        tree.walk (address.path rest) = .ok (.inside (address.around ++ rest)) ∨
      ¬ address.Stands tree rest ∧ tree.walk (address.path rest) = .error .notFound := by
  induction rest using List.reverseRecOn with
  | nil => exact .inl ⟨.inl rfl, by rw [List.append_nil]; exact layout.leads⟩
  | append_singleton front last ih =>
    have holds := onWay.resolve_left (by simp)
    have isName := holds.isLast
    rw [path_concat, walk_join isName]
    rcases ih (or_iff_not_imp_left.mpr holds.isDirectory) with ⟨-, walked⟩ | ⟨missing, walked⟩
    · rw [walked]
      simp only [bind, Except.bind, enter, if_neg isName.notDot, if_neg isName.notDots,
        child?_below]
      cases there : tree.entries.get? (address.key (front ++ [last])) with
      | none => exact .inr ⟨not_stands (by simp) there, rfl⟩
      | some entry =>
        obtain ⟨time, rfl⟩ := layout.exists_directory holds there
        exact .inl ⟨.inr ⟨time, there⟩, by rw [List.append_assoc]⟩
    · rw [walked]
      exact .inr ⟨not_stands (by simp) (layout.absent holds missing), rfl⟩

private theorem target_path (holds : address.Holds (front ++ [last]) kind) :
    address.Stands tree front ∧ tree.target (address.path (front ++ [last]))
        = .ok (.child (.inside (address.around ++ front)) last false) ∨
      ¬ address.Stands tree front ∧
        tree.target (address.path (front ++ [last])) = .error .notFound := by
  rw [path_concat, target_join holds.isLast]
  rcases layout.walk_path (or_iff_not_imp_left.mpr holds.isDirectory) with
    ⟨stands, walked⟩ | ⟨missing, walked⟩
  · rw [walked]
    exact .inl ⟨stands, rfl⟩
  · rw [walked]
    exact .inr ⟨missing, rfl⟩

/-- What is found is what lies there. -/
theorem find_path (holds : address.Holds rest kind) : tree.find (address.path rest) =
    match tree.entries.get? (address.key rest) with
    | some entry => .ok entry
    | none => .error .notFound := by
  obtain ⟨front, last, rfl⟩ := holds.exists_concat
  rcases layout.target_path holds with ⟨-, led⟩ | ⟨missing, led⟩
  · rw [find, led]
    simp only [bind, Except.bind, child?_below]
    cases tree.entries.get? (address.key (front ++ [last])) with
    | none => rfl
    | some entry => cases entry <;> rfl
  · rw [find, led, layout.absent holds missing]
    rfl

theorem isDirectory_path (stands : address.Stands tree rest)
    (holds : address.Holds rest .directory) : tree.isDirectory (address.path rest) = true := by
  obtain ⟨time, there⟩ := stands.resolve_left holds.ne_nil
  rw [isDirectory, layout.find_path holds, there]

/-- A directory is made if the one around it is there. -/
theorem makeDirectory_path (holds : address.Holds (front ++ [last]) .directory) :
    address.Stands tree front ∧ tree.makeDirectory (address.path (front ++ [last])) =
        (if (tree.entries.get? (address.key (front ++ [last]))).isSome then .error .alreadyExists
        else .ok (tree.put (address.key (front ++ [last])) .directory)) ∨
      ¬ address.Stands tree front ∧
        tree.makeDirectory (address.path (front ++ [last])) = .error .notFound := by
  rcases layout.target_path holds with ⟨stands, led⟩ | ⟨missing, led⟩
  · refine .inl ⟨stands, ?_⟩
    rw [makeDirectory, led]
    simp only [bind, Except.bind, child?_below, place_below]
    rfl
  · refine .inr ⟨missing, ?_⟩
    rw [makeDirectory, led]
    rfl

theorem list_path (holds : address.Holds rest .directory) :
    (∃ entries, tree.list (address.path rest) = .ok entries) ∨
      tree.list (address.path rest) = .error .notFound := by
  obtain ⟨front, last, rfl⟩ := holds.exists_concat
  rcases layout.target_path holds with ⟨-, led⟩ | ⟨-, led⟩
  · rw [list, directory, led]
    simp only [bind, Except.bind, enter, if_neg holds.isLast.notDot, if_neg holds.isLast.notDots,
      child?_below]
    cases there : tree.entries.get? (address.key (front ++ [last])) with
    | none => exact .inr rfl
    | some entry =>
      obtain ⟨time, rfl⟩ := layout.exists_directory holds there
      exact .inl ⟨_, rfl⟩
  · rw [list, directory, led]
    exact .inr rfl

private theorem fileAt_path (holds : address.Holds rest .file) : tree.fileAt (address.path rest) =
    match tree.entries.get? (address.key rest) with
    | some entry => .ok (address.key rest, entry)
    | none => .error .notFound := by
  obtain ⟨front, last, rfl⟩ := holds.exists_concat
  rcases layout.target_path holds with ⟨-, led⟩ | ⟨missing, led⟩
  · rw [fileAt, led]
    simp only [bind, Except.bind, child?_below]
    cases there : tree.entries.get? (address.key (front ++ [last])) with
    | none => rfl
    | some entry =>
      obtain ⟨content, time, rfl⟩ := layout.exists_file holds there
      simp [place_below, pure, Except.pure]
  · rw [fileAt, led, layout.absent holds missing]
    rfl

theorem remove_path (holds : address.Holds rest .file) : tree.remove (address.path rest) =
    match tree.entries.get? (address.key rest) with
    | some _ => .ok { tree with entries := tree.entries.erase (address.key rest) }
    | none => .error .notFound := by
  rw [remove, layout.fileAt_path holds]
  cases tree.entries.get? (address.key rest) <;> rfl

section

variable (holds : address.Holds (front ++ [last]) .file) (stands : address.Stands tree front)
include holds stands

private theorem target_of_stands : tree.target (address.path (front ++ [last]))
    = .ok (.child (.inside (address.around ++ front)) last false) := by
  rcases layout.target_path holds with ⟨-, led⟩ | ⟨missing, -⟩
  · exact led
  · exact absurd stands missing

theorem write_path (content : Content) : tree.write (address.path (front ++ [last])) content
    = .ok (tree.put (address.key (front ++ [last])) (.file content)) := by
  rw [write, layout.target_of_stands holds stands]
  simp only [bind, Except.bind, child?_below, place_below, Bool.false_eq_true, if_false]
  split
  · next time there => exact absurd there (layout.noDirectory holds time)
  · rfl

theorem rename_path {other : String} {entry : FileEntry}
    (holds' : address.Holds (front ++ [other]) .file)
    (there : tree.entries.get? (address.key (front ++ [other])) = some entry) :
    tree.rename (address.path (front ++ [other])) (address.path (front ++ [last]))
      = .ok { tree with
          entries := (tree.entries.erase (address.key (front ++ [other]))).insert
            (address.key (front ++ [last])) entry } := by
  rw [rename, layout.target_of_stands holds' stands, layout.target_of_stands holds stands,
    layout.fileAt_path holds', there]
  simp only [bind, Except.bind, child?_below, place_below, Bool.false_eq_true, if_false]
  split
  · next time there => exact absurd there (layout.noDirectory holds time)
  · rfl

end

end Layout

end Cache.Address

end Stencil
