import Stencil.Compiler
import Stencil.Proofs.Cache.Layout
import Stencil.Proofs.Cache.Law

/-!
# Storing and removing in a cache

In a cache whose directories and files are where they belong, files are stored and removed
without fail. Nothing that is there changes but files of the cache.
-/
namespace Stencil

namespace Cache.Address

open FileTree

/-- A world in which a cache can be used. -/
structure Ready (address : Address) (world : World) : Prop where
  staging : '/' ∉ world.stagingId.toList
  layout : address.Layout world.files

/-- A world that is left behind by some work on a cache. Only files of the cache have been
replaced or removed, while anything may have been added. -/
structure Follows (address : Address) (before after : World) : Prop where
  ready : address.Ready after
  clock : before.files.clock ≤ after.files.clock
  stay : ∀ place entry, before.files.entries.get? place = some entry →
    (∀ rest, address.Holds rest .file → place ≠ address.key rest) →
      after.files.entries.get? place = some entry

variable {address : Address} {world : World} {front rest : List String} {last : String}

namespace Follows

theorem refl (ready : address.Ready world) : address.Follows world world :=
  ⟨ready, Int.le_refl _, fun _ _ there _ => there⟩

theorem trans {before between after : World} (first : address.Follows before between)
    (second : address.Follows between after) : address.Follows before after where
  ready := second.ready
  clock := Int.le_trans first.clock second.clock
  stay := by
    intro place entry there apart
    exact second.stay place entry (first.stay place entry there apart) apart

/-- No directory goes. -/
theorem stands {before after : World} (follows : address.Follows before after)
    (onWay : rest = [] ∨ address.Holds rest .directory)
    (stands : address.Stands before.files rest) : address.Stands after.files rest := by
  rcases stands with none | ⟨time, there⟩
  · exact .inl none
  · rcases onWay with none | holds
    · exact .inl none
    · refine .inr ⟨time, follows.stay _ _ there fun other holds' same => ?_⟩
      cases (key_inj holds holds' same ▸ holds').kind_eq holds

section

variable {after : World} (ready : address.Ready world) (sameId : after.stagingId = world.stagingId)
  (clock : world.files.clock ≤ after.files.clock)
include ready sameId clock

/-- Something is put where the cache keeps it, in a directory that is there. Only files are
replaced. -/
theorem insert {entry : FileEntry}
    (put : after.files.entries = world.files.entries.insert (address.key (front ++ [last])) entry)
    (holds : address.Holds (front ++ [last]) entry.kind)
    (stands : address.Stands world.files front)
    (free : world.files.entries.get? (address.key (front ++ [last])) = none ∨
      address.Holds (front ++ [last]) .file) : address.Follows world after where
  ready := by
    have noDirectory : NoDirectory (world.files.entries.get? (address.key (front ++ [last]))) := by
      rcases free with absent | isFile
      · exact absent ▸ noDirectory_none
      · exact ready.layout.noDirectory isFile
    refine ⟨sameId ▸ ready.staging, ready.layout.insert_held holds ?_ noDirectory put⟩
    rwa [List.dropLast_concat]
  clock := clock
  stay := by
    intro place old there apart
    have other : place ≠ address.key (front ++ [last]) := by
      rintro rfl
      rcases free with absent | isFile
      · rw [absent] at there
        cases there
      · exact apart _ isFile rfl
    rw [put, Dict.get?_insert, if_neg other, there]

theorem erase (gone : after.files.entries = world.files.entries.erase (address.key rest))
    (holds : address.Holds rest .file) : address.Follows world after where
  ready := ⟨sameId ▸ ready.staging, ready.layout.erase (ready.layout.noDirectory holds) gone⟩
  clock := clock
  stay := by
    intro place old there apart
    rw [gone, Dict.get?_erase, if_neg (apart _ holds), there]

end

end Follows

/-! ### Directories -/

/-- A directory is made where there is none yet. -/
theorem perform_makeDirectory (ready : address.Ready world)
    (holds : address.Holds (front ++ [last]) .directory)
    (stands : address.Stands world.files front) :
    ∃ result after,
      world.perform (.makeDirectory (address.path (front ++ [last]))) = (result, after) ∧
      (result = .ok () ∨ result = .error .alreadyExists) ∧ address.Follows world after ∧
        address.Stands after.files (front ++ [last]) := by
  rcases ready.layout.makeDirectory_path holds with ⟨-, made⟩ | ⟨missing, -⟩
  · rw [World.perform, made]
    cases there : world.files.entries.get? (address.key (front ++ [last])) with
    | some entry =>
      obtain ⟨time, rfl⟩ := ready.layout.exists_directory holds there
      exact ⟨_, _, rfl, .inr rfl, .refl ready, .inr ⟨time, there⟩⟩
    | none =>
      have later := Int.le_of_lt (Int.lt_succ world.files.clock)
      refine ⟨_, _, rfl, .inl rfl, .insert ready rfl later rfl holds stands (.inl there), ?_⟩
      exact .inr ⟨world.files.clock, by simp [FileTree.put]⟩
  · exact absurd stands missing

private theorem run_isDirectory (ready : address.Ready world)
    (holds : address.Holds rest .directory)
    (stands : address.Stands world.files rest) (fault : FileFault) : (do
      if ← Program.perform (.isDirectory (address.path rest)) then return .ok ()
      else return .error fault : Program (Except FileFault Unit)).run world = (.ok (), world) := by
  rw [Program.run_bind, Program.run_perform]
  simp only [World.perform, ready.layout.isDirectory_path stands holds]
  rfl

private theorem run_makeOne (ready : address.Ready world)
    (holds : address.Holds (front ++ [last]) .directory)
    (stands : address.Stands world.files front) :
    ∃ after, (Job.makeOne (address.path (front ++ [last]))).run world = (.ok (), after) ∧
      address.Follows world after ∧ address.Stands after.files (front ++ [last]) := by
  obtain ⟨result, after, made, outcome, follows, stands⟩ := perform_makeDirectory ready holds stands
  refine ⟨after, ?_, follows, stands⟩
  rw [Job.makeOne, Program.run_bind, Program.run_perform, made]
  rcases outcome with rfl | rfl
  · rfl
  · exact run_isDirectory follows.ready holds stands _

private theorem length_le_path (address : Address) (areNames : ∀ name ∈ rest, Path.IsName name) :
    rest.length ≤ (address.path rest).length := by
  induction rest using List.reverseRecOn with
  | nil => exact Nat.zero_le _
  | append_singleton front last ih =>
    have shorter := ih fun name member => areNames name (List.mem_append_left _ member)
    have longer := Path.length_lt_join (address.path front) (areNames last (by simp))
    rw [path_concat, List.length_append, List.length_singleton]
    omega

/-- The path itself comes first, then those around it. -/
private theorem outward_path (n : Nat) (holds : address.Holds (front ++ [last]) .directory) :
    ∃ outer, Path.outward (n + 1) (address.path (front ++ [last]))
        = address.path (front ++ [last]) :: outer ∧
      (front ≠ [] → outer = Path.outward n (address.path front)) := by
  have parent (filled : front ≠ []) :
      Path.parent? (address.path (front ++ [last])) = some (address.path front) := by
    have inner := holds.isDirectory filled
    obtain ⟨before, middle, rfl⟩ := inner.exists_concat
    rw [path_concat, path_concat, Path.parent?_join inner.isLast holds.isLast]
  rw [Path.outward]
  cases found : Path.parent? (address.path (front ++ [last])) with
  | none =>
    refine ⟨[], rfl, fun filled => ?_⟩
    cases found.symm.trans (parent filled)
  | some outer =>
    refine ⟨_, rfl, fun filled => ?_⟩
    cases found.symm.trans (parent filled)
    rfl

/-- Directories are made from the outside in. -/
theorem run_makeDirectories {n : Nat} (ready : address.Ready world)
    (holds : address.Holds rest .directory) (enough : rest.length ≤ n) :
    ∃ after,
      (Job.makeDirectories (Path.outward n (address.path rest))).run world = (.ok (), after) ∧
      address.Follows world after ∧ address.Stands after.files rest := by
  -- Induction on how many names are below the base, where a directory is known to be.
  induction rest using List.reverseRecOn generalizing n with
  | nil => exact absurd rfl holds.ne_nil
  | append_singleton front last ih =>
    have filled : (address.path (front ++ [last])).isEmpty = false := by
      rw [path_concat]
      exact Path.isEmpty_join _ holds.isLast
    rw [List.length_append, List.length_singleton] at enough
    obtain ⟨n, rfl⟩ := Nat.exists_eq_add_of_le' (Nat.le_of_add_left_le enough)
    obtain ⟨outer, outward, inner⟩ := outward_path n holds
    rw [outward, Job.makeDirectories, filled]
    simp only [Bool.false_eq_true, if_false]
    rw [Program.run_bind, Program.run_perform]
    by_cases stands : address.Stands world.files front
    -- The directory around is there, so those further out are not looked at.
    · obtain ⟨result, after, made, outcome, follows, stands⟩ :=
        perform_makeDirectory ready holds stands
      refine ⟨after, ?_, follows, stands⟩
      rw [made]
      rcases outcome with rfl | rfl
      · rfl
      · exact run_isDirectory follows.ready holds stands _
    -- It is not: the hypothesis makes it, and then this one is tried again.
    · have around : front ≠ [] := fun none => stands (.inl none)
      obtain ⟨between, made, follows, stands'⟩ := ih (n := n) (holds.isDirectory around) (by omega)
      obtain ⟨after, made', follows', stands''⟩ := run_makeOne follows.ready holds stands'
      have missing := (ready.layout.makeDirectory_path holds).resolve_left fun made => stands made.1
      rw [World.perform, missing.2]
      refine ⟨after, ?_, follows.trans follows', stands''⟩
      change (Job.makeDirectories outer >>= _).run world = _
      rw [inner around, Program.run_bind, made]
      exact made'

/-- The directories on the way are made. -/
theorem run_makeDirectory (ready : address.Ready world) (holds : address.Holds rest .directory) :
    ∃ after, (Job.makeDirectory (address.path rest)).run world = (.ok (), after) ∧
      address.Follows world after ∧ address.Stands after.files rest := by
  refine run_makeDirectories ready holds ?_
  have shorter := length_le_path address holds.areNames
  omega

/-! ### Files -/

section

variable {name : String} (holds : address.Holds (front ++ [name]) .file)
include holds

private theorem perform_write (content : Content) (ready : address.Ready world)
    (stands : address.Stands world.files front) :
    ∃ after, world.perform (.write (address.path (front ++ [name])) content) = (.ok (), after) ∧
      address.Follows world after ∧ address.Stands after.files front ∧
        after.files.clock = world.files.clock + 1 ∧
          after.files.entries.get? (address.key (front ++ [name]))
            = some (.file content world.files.clock) := by
  have later := Int.le_of_lt (Int.lt_succ world.files.clock)
  have follows : address.Follows world
      { world with files := world.files.put (address.key (front ++ [name])) (.file content) } :=
    .insert ready rfl later rfl holds stands (.inr holds)
  rw [World.perform, ready.layout.write_path holds stands]
  refine ⟨_, rfl, follows, ?_, rfl, by simp [FileTree.put]⟩
  exact follows.stands (or_iff_not_imp_left.mpr holds.isDirectory) stands

private theorem perform_rename {staging : String} {content : Content} {time : Time}
    (staged : address.Holds (front ++ [staging]) .file) (ready : address.Ready world)
    (stands : address.Stands world.files front)
    (there : world.files.entries.get? (address.key (front ++ [staging]))
      = some (.file content time)) :
    ∃ after,
      world.perform
          (.rename (address.path (front ++ [staging])) (address.path (front ++ [name])))
        = (.ok (), after) ∧ address.Follows world after ∧ after.files.clock = world.files.clock ∧
      after.files.entries.get? (address.key (front ++ [name])) = some (.file content time) := by
  rw [World.perform, ready.layout.rename_path holds stands staged there]
  refine ⟨_, rfl, ?_, rfl, by simp⟩
  let gone := world.files.entries.erase (address.key (front ++ [staging]))
  have freed : address.Follows world { world with files := ⟨gone, world.files.clock⟩ } :=
    .erase ready rfl (Int.le_refl _) rfl staged
  have stands := freed.stands (or_iff_not_imp_left.mpr holds.isDirectory) stands
  exact freed.trans (.insert freed.ready rfl (Int.le_refl _) rfl holds stands (.inr holds))

/-- A file is filled under another name in its directory and then renamed. Its time is that of
the filling. -/
theorem run_stage {staging : String} (staged : address.Holds (front ++ [staging]) .file)
    (content : Content) (ready : address.Ready world) (stands : address.Stands world.files front) :
    ∃ after time, (do
        Job.attempt (.createFile (address.path (front ++ [staging])))
          (.perform (.write (address.path (front ++ [staging])) (.text "")))
        Job.attempt (.writeFile (address.path (front ++ [staging])))
          (.perform (.write (address.path (front ++ [staging])) content))
        Job.attempt (.rename (address.path (front ++ [staging])) (address.path (front ++ [name])))
          (.perform (.rename (address.path (front ++ [staging])) (address.path (front ++ [name]))))
          : Job Unit).runIn world = (.ok (), after) ∧
      address.Follows world after ∧ world.files.clock ≤ time ∧ time < after.files.clock ∧
        after.files.entries.get? (address.key (front ++ [name])) = some (.file content time) := by
  -- Each request leaves the directory standing for the next one.
  obtain ⟨created, create, follows, stands, -, -⟩ := perform_write staged (.text "") ready stands
  obtain ⟨filled, fill, follows', stands', clock, there⟩ :=
    perform_write staged content follows.ready stands
  obtain ⟨after, rename, follows'', sameClock, there'⟩ :=
    perform_rename holds staged follows'.ready stands' there
  have whole := follows.trans (follows'.trans follows'')
  refine ⟨after, created.files.clock, ?_, whole, follows.clock, ?_, there'⟩
  · rw [Job.runIn_bind, Job.runIn_attempt, Program.run_perform, create]
    dsimp only [Except.mapError]
    rw [Job.runIn_bind, Job.runIn_attempt, Program.run_perform, fill]
    dsimp only [Except.mapError]
    rw [Job.runIn_attempt, Program.run_perform, rename]
    rfl
  · rw [sameClock, clock]
    exact Int.lt_succ _

end

/-- A file is stored at once, and nothing fails on the way. -/
theorem run_writeAtomic {store name : String} (isStore : IsStore store) (isName : Path.IsName name)
    (content : Content) (ready : address.Ready world) :
    ∃ after time,
      (Job.writeAtomic (address.path (address.names ++ [store] ++ [name])) content).runIn world
        = (.ok (), after) ∧ address.Follows world after ∧
      world.files.clock ≤ time ∧ time < after.files.clock ∧
        after.files.entries.get? (address.key (address.names ++ [store] ++ [name]))
          = some (.file content time) := by
  have inner : address.Holds (address.names ++ [store]) .directory :=
    .directory isStore (by simp) List.prefix_rfl
  have parent : Path.parent? (address.path (address.names ++ [store] ++ [name]))
      = some (address.path (address.names ++ [store])) := by
    rw [path_concat, path_concat, Path.parent?_join isStore.isName isName]
  have named : Path.fileName? (address.path (address.names ++ [store] ++ [name])) = some name := by
    rw [path_concat, path_concat, Path.fileName?_join isStore.isName isName]
  -- The directory is made first, then the file is staged in it and renamed.
  obtain ⟨between, made, follows, stands⟩ := run_makeDirectory ready inner
  have isStaging : Path.IsName (Job.stagingName name between.stagingId) :=
    isName_stagingName isName.noSlash follows.ready.staging
  obtain ⟨after, time, ran, follows', since, before, there⟩ :=
    run_stage (.file isStore isName) (.file isStore isStaging) content follows.ready stands
  refine ⟨after, time, ?_, follows.trans follows', Int.le_trans follows.clock since, before, there⟩
  rw [Job.writeAtomic, parent, named]
  dsimp only [Option.getD_some]
  rw [Job.runIn_bind, Job.runIn_attempt, made]
  dsimp only [Except.mapError]
  rw [Job.runIn_bind, Job.runIn_perform]
  dsimp only [World.perform]
  rw [← path_concat, Job.runIn_tryCatch, ran]

/-- A stored file is removed. -/
theorem run_removeStale (holds : address.Holds rest .file) (ready : address.Ready world) :
    ∃ after, (Compiler.removeStale (address.path rest)).runIn world = (.ok (), after) ∧
      address.Follows world after ∧ after.files.entries.get? (address.key rest) = none := by
  rw [Compiler.removeStale, Job.runIn_bind, Job.runIn_perform, World.perform,
    ready.layout.remove_path holds]
  cases there : world.files.entries.get? (address.key rest) with
  | none => exact ⟨world, rfl, .refl ready, there⟩
  | some entry => exact ⟨_, rfl, .erase ready rfl (Int.le_refl _) rfl holds, by simp [World.change]⟩

/-! ### Tasks that do not fail -/

/-- A task that works on the cache and cannot fail. -/
def Does (address : Address) (task : Job Unit) : Prop :=
  ∀ world, address.Ready world →
    ∃ after, task.runIn world = (.ok (), after) ∧ address.Follows world after

private theorem does_pure : address.Does (pure ()) := fun world ready => ⟨world, rfl, .refl ready⟩

theorem Does.seq {first second : Job Unit} (does : address.Does first)
    (does' : address.Does second) : address.Does (first >>= fun _ => second) := by
  intro world ready
  obtain ⟨between, ran, follows⟩ := does world ready
  obtain ⟨after, ran', follows'⟩ := does' between follows.ready
  exact ⟨after, by rw [Job.runIn_bind_of_ok ran, ran'], follows.trans follows'⟩

private theorem does_forM {α : Type} {items : List α} {task : α → Job Unit}
    (each : ∀ item ∈ items, address.Does (task item)) : address.Does (items.forM task) := by
  induction items with
  | nil => exact does_pure
  | cons item rest ih =>
    have later := ih fun other member => each other (List.mem_cons_of_mem item member)
    exact (each item List.mem_cons_self).seq later

private theorem does_removeStale (holds : address.Holds rest .file) :
    address.Does (Compiler.removeStale (address.path rest)) := by
  intro world ready
  obtain ⟨after, ran, follows, -⟩ := run_removeStale holds ready
  exact ⟨after, ran, follows⟩

end Cache.Address

namespace Compiler

open Cache

variable {compiler : Compiler} {address : Address}
  (lies : compiler.config.cacheDir = address.cacheDir)
include lies

theorem viewPath_address (source : String) :
    compiler.viewPath source
      = address.path (address.names ++ ["templates"] ++ [viewName source]) := by
  rw [Address.path_stored, ← lies]
  rfl

private theorem formPath_address (source id : String) :
    compiler.formPath source id
      = address.path (address.names ++ ["forms"] ++ [formName source id]) := by
  rw [Address.path_stored, ← lies]
  rfl

private theorem does_removeEntry (source : String) (keep : List String) {entry : String × FileKind}
    (noSlash : '/' ∉ entry.1.toList) : address.Does (compiler.removeEntry source keep entry) := by
  unfold removeEntry
  split
  · exact Address.does_pure
  · split
    · exact Address.does_pure
    · next id ofTemplate =>
      split
      · exact Address.does_pure
      · have named := formId?_eq_some.mp ofTemplate
        have noSlash' : '/' ∉ id.toList := fun slash => noSlash (by simp [named, formName, slash])
        rw [formPath_address lies]
        exact Address.does_removeStale (.file (.inr rfl) (isName_formName source noSlash'))

/-- The forms of a template are removed, or there is no directory of forms. -/
theorem does_removeForms (source : String) (keep : List String) :
    address.Does (compiler.removeForms source keep) := by
  intro world ready
  have isDirectory : address.Holds (address.names ++ ["forms"]) .directory :=
    .directory (.inr rfl) (by simp) List.prefix_rfl
  have forms : formsDirectory compiler.config.cacheDir
      = address.path (address.names ++ ["forms"]) := by
    rw [Address.path_concat, formsDirectory, lies]
    rfl
  rw [removeForms, Job.runIn_bind, Job.runIn_perform, World.perform, forms]
  rcases ready.layout.list_path isDirectory with ⟨entries, listed⟩ | absent
  · rw [listed]
    refine Address.does_forM (fun entry member => ?_) world ready
    exact does_removeEntry lies source keep (FileTree.noSlash_of_list listed member)
  · rw [absent]
    exact Address.does_pure world ready

theorem does_storeForms (source : String) {forms : List Form}
    (flat : ∀ form ∈ forms, '/' ∉ form.id.toList) :
    address.Does (forms.forM (compiler.storeForm source)) := by
  refine Address.does_forM fun form member world ready => ?_
  obtain ⟨after, time, ran, follows, -⟩ := Address.run_writeAtomic (.inr rfl)
    (isName_formName source (flat form member)) (.text form.toJson) ready
  rw [storeForm, formPath_address lies]
  exact ⟨after, ran, follows⟩

end Compiler

end Stencil
