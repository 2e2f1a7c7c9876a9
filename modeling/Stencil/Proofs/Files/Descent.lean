import Mathlib.Data.List.Induction
import Stencil.Proofs.Files.Listing

/-!
# The way down to a place

In a sound tree everything lies in a directory, so on the way to a place where something lies
there are directories only. A path climbs soundly if each `..` in it stands behind directories
that are there; what comes behind the last one only leads down. So long as nothing but
directories is added on the way of such a path, what was absent stays absent, and is not hidden
behind a fault.
-/
namespace Stencil.FileTree

variable {tree now : FileTree} {path base name : String}

/-- The key of the directory around an entry, unless that is the root. -/
def outerKey? (key : String) : Option String :=
  if '/' ∈ key.toList then
    some (String.ofList ((key.toList.reverse.dropWhile (· ≠ '/')).drop 1).reverse)
  else none

/-- Each entry lies in a directory that is there. -/
def Sound (tree : FileTree) : Prop :=
  ∀ entry ∈ tree.entries.entries, ∀ outer ∈ outerKey? entry.1,
    (tree.entries.get? outer).map FileEntry.kind = some .directory

/-- Each `..` in a path stands behind directories that are there. -/
def Climbs (tree : FileTree) (path : String) : Prop :=
  ∀ front back, (Path.steps path).1 = front ++ ".." :: back →
    ∃ spot, front.foldlM tree.enter (start path) = .ok spot

/-! ### Sound trees -/

private theorem outerKey?_key {parts : List String} (filled : parts ≠ []) {name : String}
    (noSlash : '/' ∉ name.toList) : outerKey? (key (parts ++ [name])) = some (key parts) := by
  have text := toList_key_concat filled name
  have slash : '/' ∈ (key (parts ++ [name])).toList := by simp [text]
  rw [outerKey?, if_pos slash, text]
  have passed : ∀ c ∈ name.toList.reverse, decide (c ≠ '/') = true := by
    intro c member
    rw [decide_eq_true_eq]
    rintro rfl
    exact noSlash (List.mem_reverse.mp member)
  rw [List.reverse_append, List.reverse_cons, List.append_assoc, List.dropWhile_append_of_pos passed]
  simp

/-- What an entry lies in is a directory. -/
theorem Sound.around (sound : tree.Sound) {parts : List String} (filled : parts ≠ [])
    (noSlash : '/' ∉ name.toList) {entry : FileEntry}
    (there : tree.entries.get? (key (parts ++ [name])) = some entry) :
    ∃ time, tree.entries.get? (key parts) = some (.directory time) := by
  have isDirectory := sound _ (Dict.mem_of_get? there) _ (outerKey?_key filled noSlash)
  obtain ⟨outer, found, kind⟩ := Option.map_eq_some_iff.mp isDirectory
  cases outer with
  | file content time => cases kind
  | directory time => exact ⟨time, found⟩

/-- One gets to wherever something lies. -/
private theorem Sound.walk_down (sound : tree.Sound) {parts names : List String}
    (isDown : ".." ∉ names)
    (noSlash : ∀ part ∈ names, '/' ∉ part.toList) {last : String} (noSlash' : '/' ∉ last.toList)
    {entry : FileEntry}
    (there : tree.entries.get? (key (parts ++ names.filter (· ≠ ".") ++ [last])) = some entry) :
    names.foldlM tree.enter (.inside parts) = .ok (.inside (parts ++ names.filter (· ≠ "."))) := by
  -- Induction from the last name: each directory is there because something lies in it.
  induction names using List.reverseRecOn generalizing last entry with
  | nil => simp [pure, Except.pure]
  | append_singleton front name ih =>
    have isDown' : ".." ∉ front := fun member => isDown (List.mem_append_left _ member)
    have notDots : name ≠ ".." := fun same => isDown (by simp [same])
    have noSlashes : ∀ part ∈ front, '/' ∉ part.toList :=
      fun part member => noSlash part (List.mem_append_left _ member)
    have noSlashName : '/' ∉ name.toList := noSlash name (by simp)
    rw [List.foldlM_append]
    by_cases dot : name = "."
    · have dropped : (front ++ [name]).filter (· ≠ ".") = front.filter (· ≠ ".") := by simp [dot]
      rw [dropped] at there ⊢
      rw [ih isDown' noSlashes noSlash' there]
      simp [bind, Except.bind, pure, Except.pure, enter, dot]
    · have kept : (front ++ [name]).filter (· ≠ ".") = front.filter (· ≠ ".") ++ [name] := by
        simp [dot]
      rw [kept, ← List.append_assoc] at there ⊢
      obtain ⟨time, directory⟩ := sound.around (by simp) noSlash' there
      rw [ih isDown' noSlashes noSlashName directory]
      have entered : tree.enter (.inside (parts ++ front.filter (· ≠ "."))) name
          = .ok (.inside (parts ++ front.filter (· ≠ ".") ++ [name])) := by
        simp only [enter, if_neg dot, if_neg notDots, child?, directory]
      change List.foldlM tree.enter _ [name] = _
      rw [List.foldlM_cons, entered]
      rfl

/-! ### Ways down -/

/-- Names lead down to one place after the other. -/
private theorem follow?_down {parts names : List String} (isDown : ".." ∉ names) :
    (Spot.inside parts).follow? names = some (.inside (parts ++ names.filter (· ≠ "."))) := by
  induction names generalizing parts with
  | nil => simp [Spot.follow?]
  | cons name rest ih =>
    have isDown' : ".." ∉ rest := fun member => isDown (List.mem_cons_of_mem name member)
    have notDots : name ≠ ".." := fun same => isDown (by simp [same])
    rw [Spot.follow?, List.foldlM_cons]
    by_cases dot : name = "."
    · have later : rest.foldlM Spot.into? (.inside parts) = _ := ih isDown'
      simp [Spot.into?, dot, later]
    · have later : rest.foldlM Spot.into? (.inside (parts ++ [name])) = _ := ih isDown'
      simp [Spot.into?, dot, notDots, later]

/-- Outside of the tree there is no way in. -/
private theorem follow?_outside {names : List String} {parts : List String} :
    Spot.outside.follow? names ≠ some (.inside parts) := by
  induction names with
  | nil => simp [Spot.follow?]
  | cons name rest ih =>
    rw [Spot.follow?, List.foldlM_cons]
    simp only [Spot.into?]
    split
    · exact ih
    · simp

/-- Outside of the tree nothing is found. -/
private theorem walk_outside (tree : FileTree) (names : List String) :
    names.foldlM tree.enter .outside = .ok .outside ∨
      names.foldlM tree.enter .outside = .error .notFound := by
  induction names with
  | nil => exact .inl rfl
  | cons name rest ih =>
    rw [List.foldlM_cons, enter]
    by_cases dots : name = "." ∨ name = ".."
    · rw [if_pos dots]
      exact ih
    · rw [if_neg dots]
      exact .inr rfl

/-- A way down ends where a name is missing, unless a file is on it. -/
theorem exists_file_of_stuck {parts names : List String} (isDown : ".." ∉ names) {fault : FileFault}
    (stuck : names.foldlM tree.enter (.inside parts) = .error fault) :
    fault = .notFound ∨ ∃ front name back content time, names = front ++ name :: back ∧
      name ≠ "." ∧ tree.entries.get? (key (parts ++ front.filter (· ≠ ".") ++ [name]))
        = some (.file content time) := by
  induction names generalizing parts with
  | nil => cases stuck
  | cons name rest ih =>
    have isDown' : ".." ∉ rest := fun member => isDown (List.mem_cons_of_mem name member)
    have notDots : name ≠ ".." := fun same => isDown (by simp [same])
    rw [List.foldlM_cons] at stuck
    -- A dot stays where it is, any other name is looked up where one stands.
    by_cases dot : name = "."
    · have entered : tree.enter (.inside parts) name = .ok (.inside parts) := by
        simp [enter, dot]
      rw [entered] at stuck
      rcases ih isDown' stuck with absent | ⟨front, other, back, content, time, rfl, notDot, file⟩
      · exact .inl absent
      · refine .inr ⟨name :: front, other, back, content, time, rfl, notDot, ?_⟩
        simpa [dot] using file
    · cases there : tree.child? name (.inside parts) with
      | none =>
        have missing : tree.enter (.inside parts) name = .error .notFound := by
          simp [enter, dot, notDots, there]
        rw [missing] at stuck
        cases stuck
        exact .inl rfl
      | some entry =>
        cases entry with
        | file content time =>
          -- Nothing lies below a file.
          refine .inr ⟨[], name, rest, content, time, rfl, dot, ?_⟩
          simpa [child?] using there
        | directory time =>
          have entered : tree.enter (.inside parts) name = .ok (.inside (parts ++ [name])) := by
            simp [enter, dot, notDots, there]
          rw [entered] at stuck
          rcases ih isDown' stuck with
            absent | ⟨front, other, back, content, time, rfl, notDot, file⟩
          · exact .inl absent
          · refine .inr ⟨name :: front, other, back, content, time, rfl, notDot, ?_⟩
            simpa [dot] using file

/-! ### Paths that climb soundly -/

/-- What comes behind the last `..` of a path leads down. -/
theorem Climbs.descend (climbs : tree.Climbs path) : ∃ front names spot,
    (Path.steps path).1 = front ++ names ∧ ".." ∉ names ∧
      front.foldlM tree.enter (start path) = .ok spot := by
  by_cases up : ".." ∈ (Path.steps path).1
  · obtain ⟨behind, before, split, first⟩ :=
      List.eq_append_cons_of_mem (List.mem_reverse.mpr up)
    have whole : (Path.steps path).1 = before.reverse ++ ".." :: behind.reverse := by
      rw [← List.reverse_reverse (Path.steps path).1, split]
      simp
    obtain ⟨spot, led⟩ := climbs before.reverse behind.reverse whole
    have climbed : ∃ outer, tree.enter spot ".." = .ok outer := by
      cases spot with
      | outside => exact ⟨_, rfl⟩
      | inside parts => exact ⟨_, rfl⟩
    obtain ⟨outer, climbed⟩ := climbed
    refine ⟨before.reverse ++ [".."], behind.reverse, outer, by simp [whole], by simpa using first, ?_⟩
    rw [List.foldlM_append, led]
    change List.foldlM tree.enter spot [".."] = _
    rw [List.foldlM_cons, climbed]
    rfl
  · exact ⟨[], _, _, rfl, up, rfl⟩

theorem Climbs.join (climbs : tree.Climbs base) (isName : Path.IsName name) :
    tree.Climbs (Path.join base name) := by
  intro front back split
  rw [Path.steps_join_name base isName] at split
  rw [start_join isName]
  -- The name is not the `..`, so that stands in the base.
  cases back using List.reverseRecOn with
  | nil => exact absurd (List.append_inj' split rfl).2 (by simp [isName.notDots])
  | append_singleton back last =>
    rw [← List.cons_append, ← List.append_assoc] at split
    exact climbs front back (List.append_inj' split rfl).1

/-- A directory that is reached under a name lies there. -/
theorem exists_directory_of_walk {spot : Spot} {place : String} (walked : tree.walk path = .ok spot)
    (leads : placeOf? path = some place) :
    ∃ time, tree.entries.get? place = some (.directory time) := by
  obtain ⟨front, last, parts, whole, isName, followed, rfl⟩ := follow?_of_placeOf? leads
  rw [walk, whole, List.foldlM_append] at walked
  obtain ⟨inner, led, entered⟩ := bind_eq_ok.mp walked
  cases followed.symm.trans (follow?_of_walk led)
  rw [List.foldlM_cons] at entered
  obtain ⟨next, entered, -⟩ := bind_eq_ok.mp entered
  simp only [enter, if_neg isName.notDot, if_neg isName.notDots, child?] at entered
  split at entered
  · cases entered
  · cases entered
  · next time there => exact ⟨time, there⟩

/-- A directory on the way of a path is there already, or it is on the way down to where the path
leads. -/
theorem Climbs.on_way (climbs : tree.Climbs path) {directory place : String} {whole : List String}
    (sameStart : Path.isAbsolute directory = Path.isAbsolute path)
    (within : (Path.steps directory).1 <+: (Path.steps path).1)
    (leads : placeOf? directory = some place) (led : spotOf? path = some (.inside whole)) :
    (∃ time, tree.entries.get? place = some (.directory time)) ∨
      ∃ inner last, inner ++ [last] <+: whole ∧ place = key (inner ++ [last]) := by
  obtain ⟨front, names, spot, split, isDown, led'⟩ := climbs.descend
  have start_eq : start directory = start path := by rw [start, start, sameStart]
  obtain ⟨behind, split'⟩ := within
  rw [split] at split'
  rcases List.append_eq_append_iff.mp split' with ⟨rest, rfl, -⟩ | ⟨down, parts, rfl⟩
  -- It is behind an earlier part than the last `..`.
  · rw [List.foldlM_append] at led'
    obtain ⟨inner, walked, -⟩ := bind_eq_ok.mp led'
    rw [← start_eq] at walked
    exact .inl (exists_directory_of_walk walked leads)
  · cases down using List.reverseRecOn with
    | nil =>
      rw [List.append_nil] at parts
      have walked : tree.walk directory = .ok spot := by rw [walk, parts, start_eq, led']
      exact .inl (exists_directory_of_walk walked leads)
    | append_singleton middle last =>
      obtain ⟨front', last', inner, parts', isName, followed, rfl⟩ := follow?_of_placeOf? leads
      rw [← List.append_assoc] at parts
      obtain ⟨rfl, same⟩ := List.append_inj' (parts'.symm.trans parts) rfl
      cases same
      -- It is the last of some names that lead down from where the last `..` led.
      have isDown' : ".." ∉ middle := fun member => isDown (by simp [member])
      rw [Spot.follow?, List.foldlM_append, start_eq] at followed
      obtain ⟨spot', climbed, followed⟩ := Option.bind_eq_some_iff.mp followed
      cases climbed.symm.trans (follow?_of_walk led')
      cases spot with
      | outside => exact absurd followed follow?_outside
      | inside outer =>
        rw [spotOf?, split, Spot.follow?, List.foldlM_append, climbed] at led
        cases (follow?_down isDown).symm.trans led
        cases (follow?_down isDown').symm.trans followed
        refine .inr ⟨_, _, ?_, rfl⟩
        simp [isName.notDot]

/-- What is absent stays absent as long as nothing is put at its place and nothing but directories
is put on the way. -/
theorem Climbs.find_absent (climbs : tree.Climbs base) (sound : tree.Sound)
    (isName : Path.IsName name) (absent : tree.find (Path.join base name) = .error .notFound)
    (stay : ∀ place time, tree.entries.get? place = some (.directory time) →
      now.entries.get? place = some (.directory time))
    (free : ∀ place, placeOf? (Path.join base name) = some place →
      now.entries.get? place = none ∨ now.entries.get? place = tree.entries.get? place)
    (onWay : ∀ whole inner last content time, spotOf? base = some (.inside whole) →
      inner ++ [last] <+: whole →
        now.entries.get? (key (inner ++ [last])) = some (.file content time) →
          tree.entries.get? (key (inner ++ [last])) = some (.file content time)) :
    now.find (Path.join base name) = .error .notFound := by
  obtain ⟨front, names, spot, split, isDown, led⟩ := climbs.descend
  have noSlash : ∀ part ∈ names, '/' ∉ part.toList := by
    intro part member
    exact (mem_steps (split ▸ List.mem_append_right front member)).2
  have walked (other : FileTree) (led : front.foldlM other.enter (start base) = .ok spot) :
      other.walk base = names.foldlM other.enter spot := by
    rw [walk, split, List.foldlM_append, led]
    rfl
  have walked_now := walked now (walk_of_stay stay led)
  have walked := walked tree led
  rw [find_join isName] at absent ⊢
  rw [walked_now]
  cases spot with
  | outside =>
    rcases walk_outside now names with out | fault
    · rw [out]
      rfl
    · rw [fault]
      rfl
  | inside outer =>
    have led' : spotOf? base = some (.inside (outer ++ names.filter (· ≠ "."))) := by
      rw [spotOf?, split, Spot.follow?, List.foldlM_append]
      exact Option.bind_eq_some_iff.mpr ⟨_, follow?_of_walk led, follow?_down isDown⟩
    have placed : placeOf? (Path.join base name)
        = some (key (outer ++ names.filter (· ≠ ".") ++ [name])) := by
      rw [placeOf?_join isName, led']
      rfl
    -- Nothing lies at the place: whatever lay there would have been found.
    have empty : tree.entries.get? (key (outer ++ names.filter (· ≠ ".") ++ [name])) = none := by
      refine Option.eq_none_iff_forall_ne_some.mpr fun entry there => ?_
      rw [walked, sound.walk_down isDown noSlash isName.noSlash there] at absent
      simp only [bind, Except.bind, child?, there] at absent
      cases absent
    have empty' : now.entries.get? (key (outer ++ names.filter (· ≠ ".") ++ [name])) = none := by
      rcases free _ placed with none | same
      · exact none
      · rw [same, empty]
    cases result : names.foldlM now.enter (.inside outer) with
    | ok found =>
      cases (follow?_down isDown).symm.trans (follow?_of_walk result)
      simp only [bind, Except.bind, child?, empty']
    | error fault =>
      rcases exists_file_of_stuck isDown result with rfl | ⟨before, part, behind, content, time, rfl,
        notDot, file⟩
      · rfl
      -- A file on the way was there before, so the path was stuck there before.
      · have inner : outer ++ before.filter (· ≠ ".") ++ [part]
            <+: outer ++ (before ++ part :: behind).filter (· ≠ ".") := by simp [notDot]
        have file := onWay _ _ _ content time led' inner file
        have isDown' : ".." ∉ before := fun member => isDown (List.mem_append_left _ member)
        have reached := sound.walk_down isDown'
          (fun part member => noSlash part (List.mem_append_left _ member))
          (noSlash part (by simp)) file
        have notDots : part ≠ ".." := fun same => isDown (by simp [same])
        have stuck : tree.enter (.inside (outer ++ before.filter (· ≠ "."))) part
            = .error .notDirectory := by
          simp only [enter, if_neg notDot, if_neg notDots, child?, file]
        rw [walked, List.foldlM_append, reached] at absent
        change (List.foldlM tree.enter _ (part :: behind) >>= _) = _ at absent
        rw [List.foldlM_cons, stuck] at absent
        cases absent

end Stencil.FileTree
