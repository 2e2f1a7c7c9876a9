import Stencil.Files.Tree
import Stencil.Proofs.Files.Path
import Stencil.Proofs.Related

/-!
# Places in a tree of files

There are no links in a tree, so a path leads to the same place in every tree in which it
leads anywhere. An operation that succeeds changes the entry at the place of its path, and no
operation takes a directory away.
-/
namespace Stencil.FileTree

/-! ### Keys -/

theorem toList_key (parts : List String) :
    (key parts).toList = ['/'].intercalate (parts.map String.toList) := by
  rw [key, String.toList_intercalate]
  rfl

/-- Entries with the same key have the same parts. -/
theorem key_injective {parts others : List String} (some_part : parts ≠ [])
    (some_other : others ≠ []) (noSlash : ∀ part ∈ parts, '/' ∉ part.toList)
    (noSlash' : ∀ part ∈ others, '/' ∉ part.toList)
    (same : key parts = key others) : parts = others := by
  have split {parts : List String} (some_part : parts ≠ [])
      (noSlash : ∀ part ∈ parts, '/' ∉ part.toList) :
      (key parts).toList.splitOn '/' = parts.map String.toList := by
    rw [toList_key]
    refine List.splitOn_intercalate '/' ?_ (by simpa using some_part)
    intro piece member
    obtain ⟨part, within, rfl⟩ := List.mem_map.mp member
    exact noSlash part within
  have texts : parts.map String.toList = others.map String.toList := by
    rw [← split some_part noSlash, same, split some_other noSlash']
  exact List.map_injective_iff.mpr (fun _ _ => String.toList_inj.mp) texts

/-! ### Where a path leads -/

/-- Where a part leads to, if it leads anywhere. -/
def Spot.into? : Spot → String → Option Spot
  | .outside, part => if part = "." ∨ part = ".." then some .outside else none
  | .inside parts, part =>
    if part = "." then some (.inside parts)
    else if part = ".." then some (if parts.isEmpty then .outside else .inside parts.dropLast)
    else some (.inside (parts ++ [part]))

/-- Where some parts lead to one after the other. -/
def Spot.follow? (spot : Spot) (parts : List String) : Option Spot := parts.foldlM Spot.into? spot

/-- Where a path starts. -/
def start (path : String) : Spot := if Path.isAbsolute path then .outside else .inside []

/-- The directory a path leads to, if it leads to one. -/
def spotOf? (path : String) : Option Spot := (start path).follow? (Path.steps path).1

/-- The place of the entry a path leads to, if it leads to one. -/
def placeOf? (path : String) : Option String :=
  match (Path.steps path).1.getLast? with
  | none => none
  | some last =>
    if last = "." ∨ last = ".." then none
    else match (start path).follow? (Path.steps path).1.dropLast with
    | some (.inside parts) => some (key (parts ++ [last]))
    | _ => none

/-- The directory all parts of a path lead to in a tree. -/
def walk (tree : FileTree) (path : String) : Except FileFault Spot :=
  (Path.steps path).1.foldlM tree.enter (start path)

theorem mem_steps {path part : String} (member : part ∈ (Path.steps path).1) :
    part ≠ "" ∧ '/' ∉ part.toList := by
  obtain ⟨segment, within, rfl⟩ := List.mem_map.mp member
  obtain ⟨cut, filled⟩ := List.mem_filter.mp within
  constructor
  · simpa [← String.toList_inj] using filled
  · rw [String.toList_ofList]
    exact Text.not_mem_of_mem_splitOnChar cut

/-- The parts of a directory are names. -/
def Spot.Clean : Spot → Prop
  | .outside => True
  | .inside parts => ∀ part ∈ parts, '/' ∉ part.toList

private theorem Spot.clean_into? {spot next : Spot} {part : String} (clean : spot.Clean)
    (noSlash : '/' ∉ part.toList) (entered : spot.into? part = some next) : next.Clean := by
  cases spot with
  | outside =>
    obtain ⟨-, rfl⟩ := by simpa [into?] using entered
    exact trivial
  | inside parts =>
    simp only [into?] at entered
    split at entered
    · cases entered
      exact clean
    · split at entered
      · cases entered
        split
        · exact trivial
        · exact fun other member => clean other (List.dropLast_subset _ member)
      · cases entered
        intro other member
        rcases List.mem_append.mp member with earlier | last
        · exact clean other earlier
        · obtain rfl := List.mem_singleton.mp last
          exact noSlash

private theorem Spot.clean_follow? {spot found : Spot} {parts : List String} (clean : spot.Clean)
    (noSlash : ∀ part ∈ parts, '/' ∉ part.toList) (followed : spot.follow? parts = some found) :
    found.Clean := by
  induction parts generalizing spot with
  | nil =>
    cases followed
    exact clean
  | cons part rest ih =>
    rw [follow?, List.foldlM_cons] at followed
    obtain ⟨next, entered, followed⟩ := Option.bind_eq_some_iff.mp followed
    have inside := Spot.clean_into? clean (noSlash part List.mem_cons_self) entered
    exact ih inside (fun other member => noSlash other (List.mem_cons_of_mem part member)) followed

private theorem clean_start (path : String) : (start path).Clean := by
  unfold start
  split
  · exact trivial
  · exact fun part member => nomatch member

theorem clean_spotOf? {path : String} {spot : Spot} (leads : spotOf? path = some spot) :
    spot.Clean :=
  Spot.clean_follow? (clean_start path) (fun _ member => (mem_steps member).2) leads

/-- What a path leads to is a name in the directory that the parts before it lead to. -/
theorem follow?_of_placeOf? {path place : String} (leads : placeOf? path = some place) :
    ∃ front last parts, (Path.steps path).1 = front ++ [last] ∧ Path.IsName last ∧
      (start path).follow? front = some (.inside parts) ∧ place = key (parts ++ [last]) := by
  unfold placeOf? at leads
  split at leads
  · cases leads
  · next last ends =>
    split at leads
    · cases leads
    · next named =>
      split at leads
      · next parts followed =>
        cases leads
        obtain ⟨front, whole⟩ := List.getLast?_eq_some_iff.mp ends
        obtain ⟨nonempty, noSlash⟩ := mem_steps (List.mem_of_getLast? ends)
        have isName : Path.IsName last :=
          ⟨nonempty, noSlash, fun same => named (.inl same), fun same => named (.inr same)⟩
        rw [whole, List.dropLast_concat] at followed
        exact ⟨front, last, parts, whole, isName, followed, rfl⟩
      · cases leads

/-- The parts of a place, the last of which is the last part of the path. -/
theorem placeOf?_eq_some {path place : String} (leads : placeOf? path = some place) :
    ∃ parts last, (Path.steps path).1.getLast? = some last ∧ Path.IsName last ∧
      (Spot.inside parts).Clean ∧ place = key (parts ++ [last]) := by
  obtain ⟨front, last, parts, whole, isName, followed, rfl⟩ := follow?_of_placeOf? leads
  refine ⟨parts, last, by simp [whole], isName, ?_, rfl⟩
  refine Spot.clean_follow? (clean_start path) (fun part member => ?_) followed
  exact (mem_steps (whole ▸ List.mem_append_left _ member)).2

/-- The place of a name in a directory. -/
def Spot.place? (spot : Spot) (name : String) : Option String :=
  match spot with
  | .inside parts => some (key (parts ++ [name]))
  | .outside => none

section

variable {tree : FileTree} {base name : String} (isName : Path.IsName name)
include isName

theorem start_join : start (Path.join base name) = start base := by
  rw [start, start, Path.isAbsolute_join base isName]

theorem placeOf?_join : placeOf? (Path.join base name) = (spotOf? base).bind (·.place? name) := by
  have named : ¬ (name = "." ∨ name = "..") := not_or.mpr ⟨isName.notDot, isName.notDots⟩
  rw [placeOf?, Path.steps_join_name base isName, start_join isName]
  simp only [List.getLast?_concat, List.dropLast_concat, if_neg named]
  change _ = (((start base).follow? (Path.steps base).1).bind _)
  cases (start base).follow? (Path.steps base).1 with
  | none => rfl
  | some spot => cases spot <;> rfl

theorem spotOf?_join : spotOf? (Path.join base name) = (spotOf? base).bind (·.into? name) := by
  rw [spotOf?, Path.steps_join_name base isName, start_join isName, Spot.follow?, List.foldlM_append]
  simp only [List.foldlM_cons, List.foldlM_nil, bind_pure]
  rfl

theorem target_join : tree.target (Path.join base name)
    = (tree.walk base).map fun spot => .child spot name false := by
  have named : ¬ (name = "." ∨ name = "..") := not_or.mpr ⟨isName.notDot, isName.notDots⟩
  rw [target, Path.isEmpty_join base isName, Path.steps_join_name base isName,
    Path.isAbsolute_join base isName]
  simp only [List.getLast?_concat, List.dropLast_concat, if_neg named]
  change ((Path.steps base).1.foldlM tree.enter (start base)).bind _ = _
  unfold walk
  cases (Path.steps base).1.foldlM tree.enter (start base) <;> rfl

theorem walk_join : tree.walk (Path.join base name)
    = tree.walk base >>= fun spot => tree.enter spot name := by
  rw [walk, Path.steps_join_name base isName, start_join isName, List.foldlM_append]
  simp only [List.foldlM_cons, List.foldlM_nil, bind_pure]
  rfl

end

variable {tree after : FileTree} {path : String}

theorem child?_eq (spot : Spot) (name : String) :
    tree.child? name spot = (spot.place? name).bind tree.entries.get? := by
  cases spot <;> rfl

theorem place_eq_ok {spot : Spot} {name place : String} :
    FileTree.place spot name = .ok place ↔ spot.place? name = some place := by
  cases spot <;> simp [FileTree.place, Spot.place?]

theorem into?_of_enter {spot next : Spot} {part : String}
    (entered : tree.enter spot part = .ok next) : spot.into? part = some next := by
  cases spot with
  | outside =>
    simp only [enter] at entered
    split at entered
    · next dot =>
      cases entered
      exact if_pos dot
    · cases entered
  | inside parts =>
    simp only [enter] at entered
    simp only [Spot.into?]
    split at entered
    · next dot =>
      cases entered
      exact if_pos dot
    · next notDot =>
      rw [if_neg notDot]
      split at entered
      · next dots =>
        cases entered
        exact if_pos dots
      · next notDots =>
        rw [if_neg notDots]
        split at entered
        · cases entered
        · cases entered
        · cases entered
          rfl

theorem follow?_of_walk {spot found : Spot} {parts : List String}
    (walked : parts.foldlM tree.enter spot = .ok found) : spot.follow? parts = some found := by
  induction parts generalizing spot with
  | nil =>
    cases walked
    rfl
  | cons part rest ih =>
    rw [List.foldlM_cons] at walked
    obtain ⟨next, entered, walked⟩ := bind_eq_ok.mp walked
    rw [Spot.follow?, List.foldlM_cons, into?_of_enter entered]
    exact ih walked

/-- All parts but the last one lead to a directory. -/
theorem target_of_getLast? {last : String} (filled : path.isEmpty = false)
    (ends : (Path.steps path).1.getLast? = some last) :
    tree.target path = (Path.steps path).1.dropLast.foldlM tree.enter (start path)
      >>= fun directory =>
        if last = "." ∨ last = ".." then (tree.enter directory last).map .spot
        else .ok (.child directory last (Path.steps path).2) := by
  rw [target, filled]
  dsimp only
  rw [ends]
  rfl

/-- A path to a name in a directory leads to the same place in every tree. -/
theorem placeOf?_of_target {spot : Spot} {name : String} {slash : Bool}
    (led : tree.target path = .ok (.child spot name slash)) : placeOf? path = spot.place? name := by
  cases filled : path.isEmpty with
  | true =>
    rw [target, filled] at led
    cases led
  | false =>
    cases ends : (Path.steps path).1.getLast? with
    | none =>
      rw [target, filled] at led
      dsimp only at led
      rw [ends] at led
      cases led
    | some last =>
      rw [target_of_getLast? filled ends] at led
      obtain ⟨inner, walked, led⟩ := bind_eq_ok.mp led
      have followed : (start path).follow? (Path.steps path).1.dropLast = some inner :=
        follow?_of_walk walked
      split at led
      · obtain ⟨next, -, led⟩ := map_eq_ok.mp led
        cases led
      · next named =>
        cases led
        rw [placeOf?, ends]
        dsimp only
        rw [if_neg named, followed]
        cases spot <;> rfl

/-- Paths to one place end with the same name. -/
theorem getLast?_of_placeOf? {other place : String} (leads : placeOf? path = some place)
    (leads' : placeOf? other = some place) :
    (Path.steps path).1.getLast? = (Path.steps other).1.getLast? := by
  obtain ⟨parts, last, ends, isName, clean, rfl⟩ := placeOf?_eq_some leads
  obtain ⟨parts', last', ends', isName', clean', same⟩ := placeOf?_eq_some leads'
  have noSlash {parts : List String} {last : String} (clean : (Spot.inside parts).Clean)
      (isName : Path.IsName last) : ∀ part ∈ parts ++ [last], '/' ∉ part.toList := by
    intro part member
    rcases List.mem_append.mp member with before | here
    · exact clean part before
    · obtain rfl := List.mem_singleton.mp here
      exact isName.noSlash
  have equal := key_injective (by simp) (by simp) (noSlash clean isName) (noSlash clean' isName') same
  rw [ends, ends', (List.append_inj' equal rfl).2 |> List.singleton_inj.mp]

/-- A name is the last one of each path that leads to its place. -/
theorem name_eq_of_placeOf? {base base' name name' place : String} (isName : Path.IsName name)
    (isName' : Path.IsName name') (leads : placeOf? (Path.join base name) = some place)
    (leads' : placeOf? (Path.join base' name') = some place) : name = name' := by
  have same := getLast?_of_placeOf? leads leads'
  rw [Path.steps_join_name base isName, Path.steps_join_name base' isName'] at same
  simpa using same

/-! ### More directories -/

section

variable (stay : ∀ place time, tree.entries.get? place = some (.directory time) →
  after.entries.get? place = some (.directory time))
include stay

private theorem enter_of_stay {spot next : Spot} {part : String}
    (entered : tree.enter spot part = .ok next) :
    after.enter spot part = .ok next := by
  cases spot with
  | outside => exact entered
  | inside parts =>
    simp only [enter] at entered ⊢
    split at entered
    · next dot => rwa [if_pos dot]
    · next notDot =>
      rw [if_neg notDot]
      split at entered
      · next dots => rwa [if_pos dots]
      · next notDots =>
        rw [if_neg notDots]
        split at entered
        · cases entered
        · cases entered
        · next time there =>
          have there' : after.child? part (.inside parts) = some (.directory time) := stay _ _ there
          rw [there']
          exact entered

theorem walk_of_stay {spot found : Spot} {parts : List String}
    (walked : parts.foldlM tree.enter spot = .ok found) :
    parts.foldlM after.enter spot = .ok found := by
  induction parts generalizing spot with
  | nil => exact walked
  | cons part rest ih =>
    rw [List.foldlM_cons] at walked ⊢
    obtain ⟨next, entered, walked⟩ := bind_eq_ok.mp walked
    rw [enter_of_stay stay entered]
    exact ih walked

/-- A path leads where it led before as long as all directories stay. -/
theorem target_of_stay {target : Target} (led : tree.target path = .ok target) :
    after.target path = .ok target := by
  cases filled : path.isEmpty with
  | true =>
    rw [FileTree.target, filled] at led
    cases led
  | false =>
    cases ends : (Path.steps path).1.getLast? with
    | none =>
      rw [FileTree.target, filled] at led ⊢
      dsimp only at led ⊢
      rw [ends] at led ⊢
      exact led
    | some last =>
      rw [target_of_getLast? filled ends] at led ⊢
      obtain ⟨inner, walked, led⟩ := bind_eq_ok.mp led
      -- Directories stay, so the walk to the last step goes as before.
      rw [walk_of_stay stay walked]
      change (if last = "." ∨ last = ".." then _ else _) = _
      split at led
      · next dots =>
        obtain ⟨next, entered, rfl⟩ := map_eq_ok.mp led
        rw [if_pos dots, enter_of_stay stay entered]
        rfl
      · next named => rwa [if_neg named]

end

/-- A file that is found lies at the place of its path. -/
theorem find_eq_file {content : Content} {time : Time} :
    tree.find path = .ok (.file content time) ↔ ∃ spot name,
      tree.target path = .ok (.child spot name false) ∧
        tree.child? name spot = some (.file content time) := by
  constructor
  · intro found
    obtain ⟨target, led, found⟩ := bind_eq_ok.mp found
    cases target with
    | spot spot => cases found
    | child spot name slash =>
      dsimp only at found
      split at found
      · cases found
      · next content' time' there =>
        -- A slash behind the name asks for a directory.
        cases slash with
        | true => cases found
        | false =>
          cases found
          exact ⟨spot, name, led, there⟩
      · next entry noFile _ =>
        cases found
        exact absurd rfl (noFile content time)
  · rintro ⟨spot, name, led, there⟩
    rw [find, led]
    simp only [bind, Except.bind, there]
    rfl

theorem placeOf?_of_find {content : Content} {time : Time}
    (found : tree.find path = .ok (.file content time)) :
    ∃ place, placeOf? path = some place ∧ tree.entries.get? place = some (.file content time) := by
  obtain ⟨spot, name, led, there⟩ := find_eq_file.mp found
  rw [child?_eq] at there
  obtain ⟨place, placed, there⟩ := Option.bind_eq_some_iff.mp there
  exact ⟨place, (placeOf?_of_target led).trans placed, there⟩

/-- A file is found as before as long as it and all directories stay. -/
theorem find_of_stay {content : Content} {time : Time}
    (stay : ∀ place time, tree.entries.get? place = some (.directory time) →
      after.entries.get? place = some (.directory time))
    (found : tree.find path = .ok (.file content time))
    (kept : ∀ place, placeOf? path = some place →
      tree.entries.get? place = some (.file content time) →
        after.entries.get? place = some (.file content time)) :
    after.find path = .ok (.file content time) := by
  obtain ⟨spot, name, led, there⟩ := find_eq_file.mp found
  refine find_eq_file.mpr ⟨spot, name, target_of_stay stay led, ?_⟩
  rw [child?_eq] at there ⊢
  obtain ⟨place, placed, there⟩ := Option.bind_eq_some_iff.mp there
  rw [placed, Option.bind_some, kept place ((placeOf?_of_target led).trans placed) there]

/-- A file that is put where there is no directory is found. -/
theorem find_put {spot : Spot} {name place : String} (content : Content)
    (led : tree.target path = .ok (.child spot name false)) (placed : spot.place? name = some place)
    (noDirectory : ∀ time, tree.entries.get? place ≠ some (.directory time)) :
    (tree.put place (.file content)).find path = .ok (.file content tree.clock) := by
  have stay (other : String) (made : Time)
      (isDirectory : tree.entries.get? other = some (.directory made)) :
      (tree.put place (.file content)).entries.get? other = some (.directory made) := by
    have apart : other ≠ place := fun same => noDirectory made (same ▸ isDirectory)
    rw [put, Dict.get?_insert, if_neg apart, isDirectory]
  refine find_eq_file.mpr ⟨spot, name, target_of_stay stay led, ?_⟩
  rw [child?_eq, placed, Option.bind_some, put, Dict.get?_insert, if_pos rfl]

/-- A file that is found can be given new content, with which it is found behind that. -/
theorem write_of_find {content : Content} {time : Time}
    (found : tree.find path = .ok (.file content time)) (new : Content) :
    ∃ place, placeOf? path = some place ∧ tree.entries.get? place = some (.file content time) ∧
      tree.write path new = .ok (tree.put place (.file new)) ∧
      (tree.put place (.file new)).find path = .ok (.file new tree.clock) := by
  obtain ⟨spot, name, led, there⟩ := find_eq_file.mp found
  have held := there
  rw [child?_eq] at held
  obtain ⟨place, placed, held⟩ := Option.bind_eq_some_iff.mp held
  refine ⟨place, (placeOf?_of_target led).trans placed, held, ?_, ?_⟩
  · rw [write, led]
    simp only [bind, Except.bind, there, place_eq_ok.mpr placed, Bool.false_eq_true, if_false]
    rfl
  · refine find_put new led placed fun made isDirectory => ?_
    cases held.symm.trans isDirectory

theorem find_of_read {content : Content} (held : tree.read path = .ok content) :
    ∃ time, tree.find path = .ok (.file content time) := by
  obtain ⟨entry, found, held⟩ := bind_eq_ok.mp held
  cases entry with
  | directory time => cases held
  | file content' time =>
    cases held
    exact ⟨time, found⟩

theorem read_of_find {content : Content} {time : Time}
    (found : tree.find path = .ok (.file content time)) : tree.read path = .ok content := by
  rw [read, found]
  rfl

/-- The names in a directory hold no slash. -/
theorem noSlash_of_list {entries : List (String × FileKind)}
    (listed : tree.list path = .ok entries) {entry : String × FileKind} (member : entry ∈ entries) :
    '/' ∉ entry.1.toList := by
  obtain ⟨spot, -, listed⟩ := bind_eq_ok.mp listed
  cases spot with
  | outside => cases listed
  | inside parts =>
    cases listed
    obtain ⟨⟨key, what⟩, -, named⟩ := List.mem_filterMap.mp member
    obtain ⟨name, found, rfl⟩ := Option.map_eq_some_iff.mp named
    obtain ⟨rest, -, found⟩ := Option.bind_eq_some_iff.mp found
    split at found
    · cases found
    · next noSlash =>
      cases found
      simpa using noSlash

/-! ### Operations that succeed -/

theorem makeDirectory_eq_ok (made : tree.makeDirectory path = .ok after) :
    ∃ place, placeOf? path = some place ∧ tree.entries.get? place = none ∧
      after = tree.put place .directory := by
  obtain ⟨target, led, made⟩ := bind_eq_ok.mp made
  cases target with
  | spot spot => cases made
  | child spot name slash =>
    dsimp only at made
    split at made
    · cases made
    · next absent =>
      obtain ⟨place, placed, made⟩ := bind_eq_ok.mp made
      cases made
      have placed := place_eq_ok.mp placed
      rw [child?_eq, placed] at absent
      exact ⟨place, (placeOf?_of_target led).trans placed, by simpa using absent, rfl⟩

theorem write_eq_ok {content : Content} (written : tree.write path content = .ok after) :
    ∃ place, placeOf? path = some place ∧
      (∀ time, tree.entries.get? place ≠ some (.directory time)) ∧
      after = tree.put place (.file content) := by
  obtain ⟨target, led, written⟩ := bind_eq_ok.mp written
  cases target with
  | spot spot => cases written
  | child spot name slash =>
    dsimp only at written
    split at written
    · cases written
    · split at written
      · cases written
      · next noDirectory =>
        obtain ⟨place, placed, written⟩ := bind_eq_ok.mp written
        cases written
        have placed := place_eq_ok.mp placed
        rw [child?_eq, placed] at noDirectory
        exact ⟨place, (placeOf?_of_target led).trans placed, noDirectory, rfl⟩

/-- What was written is found. -/
theorem find_of_write {content : Content} (written : tree.write path content = .ok after) :
    after.find path = .ok (.file content tree.clock) := by
  obtain ⟨target, led, written⟩ := bind_eq_ok.mp written
  cases target with
  | spot spot => cases written
  | child spot name slash =>
    cases slash with
    | true => cases written
    | false =>
      dsimp only at written
      rw [if_neg (by decide)] at written
      split at written
      · cases written
      · next noDirectory =>
        obtain ⟨place, placed, written⟩ := bind_eq_ok.mp written
        cases written
        have placed := place_eq_ok.mp placed
        rw [child?_eq, placed] at noDirectory
        exact find_put content led placed noDirectory

private theorem fileAt_eq_ok {place : String} {entry : FileEntry}
    (found : tree.fileAt path = .ok (place, entry)) :
    placeOf? path = some place ∧ tree.entries.get? place = some entry ∧ entry.kind = .file := by
  obtain ⟨target, led, found⟩ := bind_eq_ok.mp found
  cases target with
  | spot spot => cases found
  | child spot name slash =>
    dsimp only at found
    split at found
    · cases found
    · cases found
    · next entry' noDirectory there =>
      split at found
      · cases found
      · obtain ⟨place', placed, found⟩ := bind_eq_ok.mp found
        cases found
        have placed := place_eq_ok.mp placed
        rw [child?_eq, placed] at there
        refine ⟨(placeOf?_of_target led).trans placed, there, ?_⟩
        cases entry with
        | file content modified => rfl
        | directory modified => exact absurd rfl (noDirectory modified)

theorem remove_eq_ok (removed : tree.remove path = .ok after) :
    ∃ place entry, placeOf? path = some place ∧ tree.entries.get? place = some entry ∧
      entry.kind = .file ∧ after = { tree with entries := tree.entries.erase place } := by
  obtain ⟨⟨place, entry⟩, found, removed⟩ := bind_eq_ok.mp removed
  obtain ⟨leads, there, isFile⟩ := fileAt_eq_ok found
  cases removed
  exact ⟨place, entry, leads, there, isFile, rfl⟩

theorem rename_eq_ok {source : String} (renamed : tree.rename source path = .ok after) :
    ∃ old place entry, placeOf? source = some old ∧ placeOf? path = some place ∧
      tree.entries.get? old = some entry ∧ entry.kind = .file ∧
      (∀ time, tree.entries.get? place ≠ some (.directory time)) ∧
      after = { tree with entries := (tree.entries.erase old).insert place entry } := by
  obtain ⟨-, -, renamed⟩ := bind_eq_ok.mp renamed
  obtain ⟨target, led, renamed⟩ := bind_eq_ok.mp renamed
  cases target with
  | spot spot => cases renamed
  | child spot name slash =>
    obtain ⟨⟨old, entry⟩, found, renamed⟩ := bind_eq_ok.mp renamed
    obtain ⟨leads, there, isFile⟩ := fileAt_eq_ok found
    dsimp only at renamed
    split at renamed
    · cases renamed
    · split at renamed
      · cases renamed
      · next noDirectory =>
        obtain ⟨place, placed, renamed⟩ := bind_eq_ok.mp renamed
        cases renamed
        have placed := place_eq_ok.mp placed
        rw [child?_eq, placed] at noDirectory
        exact ⟨old, place, entry, leads, (placeOf?_of_target led).trans placed, there, isFile,
          noDirectory, rfl⟩

/-- What was renamed is found under its new name. -/
theorem find_of_rename {source place : String} {content : Content} {time : Time}
    (renamed : tree.rename source path = .ok after) (leads : placeOf? source = some place)
    (there : tree.entries.get? place = some (.file content time)) :
    after.find path = .ok (.file content time) := by
  obtain ⟨-, -, renamed⟩ := bind_eq_ok.mp renamed
  obtain ⟨target, led, renamed⟩ := bind_eq_ok.mp renamed
  cases target with
  | spot spot => cases renamed
  | child spot name slash =>
    obtain ⟨⟨old, entry⟩, found, renamed⟩ := bind_eq_ok.mp renamed
    obtain ⟨leads', there', -⟩ := fileAt_eq_ok found
    obtain rfl := Option.some.inj (leads.symm.trans leads')
    obtain rfl := Option.some.inj (there.symm.trans there')
    cases slash with
    | true => cases renamed
    | false =>
      dsimp only at renamed
      rw [if_neg (by decide)] at renamed
      split at renamed
      · cases renamed
      · next noDirectory =>
        obtain ⟨new, placed, renamed⟩ := bind_eq_ok.mp renamed
        cases renamed
        have placed := place_eq_ok.mp placed
        rw [child?_eq, placed] at noDirectory
        -- The directories stay, so the path still leads to the same place.
        have stay (other : String) (made : Time)
            (isDirectory : tree.entries.get? other = some (.directory made)) :
            ((tree.entries.erase place).insert new (.file content time)).get? other
              = some (.directory made) := by
          rw [Dict.get?_insert, Dict.get?_erase]
          split
          · next same => exact absurd (same ▸ isDirectory) (noDirectory made)
          · split
            · next same => cases there.symm.trans (same ▸ isDirectory)
            · exact isDirectory
        refine find_eq_file.mpr ⟨spot, name, target_of_stay stay led, ?_⟩
        rw [child?_eq, placed, Option.bind_some, Dict.get?_insert, if_pos rfl]

end Stencil.FileTree
