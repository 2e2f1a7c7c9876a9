import Stencil.Files.Access
import Stencil.Proofs.Files.Program
import Stencil.Proofs.Files.Tree

/-!
# Laws on files

A law says what may lie at which place. It stays in the course of a task if each action keeps
it, up to some action if only what comes before that is watched. Writing a file at once keeps a
law if nothing is laid down on where the staging file goes and the file may hold what is written.
-/
namespace Stencil

/-- What may lie at a place. -/
abbrev Law := String → Option FileEntry → Prop

/-- There is no directory. -/
def NoDirectory (entry : Option FileEntry) : Prop := ∀ time, entry ≠ some (.directory time)

theorem noDirectory_none : NoDirectory none := fun _ same => nomatch same

theorem noDirectory_file (content : Content) (time : Time) :
    NoDirectory (some (.file content time)) := fun _ same => nomatch same

theorem noDirectory_of_kind {entry : FileEntry} (isFile : entry.kind = .file) :
    NoDirectory (some entry) := by
  rintro time ⟨⟩
  cases isFile

namespace Law

/-- A directory may be made where there is nothing. -/
def Makes (law : Law) : Prop := ∀ place time, law place none → law place (some (.directory time))

/-- A directory may be made at a path where there is nothing. -/
def MakesAt (law : Law) (path : String) : Prop :=
  ∀ place time, FileTree.placeOf? path = some place → law place none →
    law place (some (.directory time))

theorem Makes.at {law : Law} (makes : law.Makes) (path : String) : law.MakesAt path :=
  fun place time _ => makes place time

/-- The file at a path may be removed. -/
def Removes (law : Law) (path : String) : Prop :=
  ∀ place entry, FileTree.placeOf? path = some place → entry.kind = .file →
    law place (some entry) → law place none

/-- The file at a path may be written with some content. -/
def Takes (law : Law) (path : String) (content : Content) : Prop :=
  ∀ place before time, FileTree.placeOf? path = some place → NoDirectory before →
    law place before → law place (some (.file content time))

/-- Any file may lie at a path, and none as well. -/
def Frees (law : Law) (path : String) : Prop :=
  ∀ place before after, FileTree.placeOf? path = some place → NoDirectory before →
    NoDirectory after → law place before → law place after

/-- A law that only speaks of directories and of what lies where a path leads. -/
structure About (law : Law) (kept : String) : Prop where
  makes : law.Makes
  frees : ∀ path, (∀ place, FileTree.placeOf? path = some place →
    FileTree.placeOf? kept ≠ some place) → law.Frees path

theorem Frees.takes {law : Law} {path : String} (frees : law.Frees path) (content : Content) :
    law.Takes path content := by
  intro place before time leads noDirectory obeys
  exact frees place before _ leads noDirectory (noDirectory_file content time) obeys

theorem Frees.removes {law : Law} {path : String} (frees : law.Frees path) : law.Removes path := by
  intro place entry leads isFile obeys
  exact frees place _ none leads (noDirectory_of_kind isFile) noDirectory_none obeys

end Law

/-- Everything in a world is as a law says, and staging files stand beside the files they are
for. -/
structure World.Obeys (world : World) (law : Law) : Prop where
  staging : '/' ∉ world.stagingId.toList
  entries : ∀ place, law place (world.files.entries.get? place)

namespace World.Obeys

variable {world : World} {law : Law} (obeys : world.Obeys law)
include obeys

theorem change {result : Except FileFault FileTree}
    (next : ∀ files, result = .ok files → ∀ place, law place (files.entries.get? place)) :
    (world.change result).2.Obeys law := by
  cases result with
  | ok files => exact ⟨obeys.staging, next files rfl⟩
  | error fault => exact obeys

theorem put {place : String} {entry : Time → FileEntry}
    (lies : ∀ time, law place (some (entry time))) (other : String) :
    law other ((world.files.put place entry).entries.get? other) := by
  rw [FileTree.put, Dict.get?_insert]
  split
  · next same => exact same ▸ lies _
  · exact obeys.entries other

theorem makeDirectory {path : String} (makes : law.MakesAt path) :
    (world.perform (.makeDirectory path)).2.Obeys law := by
  refine obeys.change fun files made => ?_
  obtain ⟨place, leads, absent, rfl⟩ := FileTree.makeDirectory_eq_ok made
  refine obeys.put fun time => makes place time leads ?_
  have here := obeys.entries place
  rwa [absent] at here

theorem write {path : String} {content : Content} (takes : law.Takes path content) :
    (world.perform (.write path content)).2.Obeys law := by
  refine obeys.change fun files written => ?_
  obtain ⟨place, leads, noDirectory, rfl⟩ := FileTree.write_eq_ok written
  exact obeys.put fun time => takes place _ time leads noDirectory (obeys.entries place)

theorem remove {path : String} (removes : law.Removes path) :
    (world.perform (.remove path)).2.Obeys law := by
  refine obeys.change fun files removed => ?_
  obtain ⟨place, entry, leads, there, isFile, rfl⟩ := FileTree.remove_eq_ok removed
  intro other
  rw [Dict.get?_erase]
  split
  · next same =>
    have here := obeys.entries place
    rw [there] at here
    exact same ▸ removes place entry leads isFile here
  · exact obeys.entries other

/-- A file with some content is renamed. -/
theorem rename {source path : String} {content : Content} (frees : law.Frees source)
    (takes : law.Takes path content)
    (holds : ∀ place, FileTree.placeOf? source = some place →
      ∃ time, world.files.entries.get? place = some (.file content time)) :
    (world.perform (.rename source path)).2.Obeys law := by
  refine obeys.change fun files renamed => ?_
  obtain ⟨old, place, entry, leadsOld, leads, there, -, noDirectory, rfl⟩ :=
    FileTree.rename_eq_ok renamed
  obtain ⟨time, held⟩ := holds old leadsOld
  rw [there] at held
  cases held
  intro other
  rw [Dict.get?_insert, Dict.get?_erase]
  split
  · next same => exact same ▸ takes place _ time leads noDirectory (obeys.entries place)
  · split
    · next same =>
      have here := obeys.entries old
      rw [there] at here
      exact same ▸ frees old _ none leadsOld (noDirectory_file content time) noDirectory_none here
    · exact obeys.entries other

end World.Obeys

/-! ### Tasks -/

variable {α β : Type} {law : Law} {stop : Action → Prop}

/-- A law holds in each world that a program comes through, up to an action that ends the
watch. -/
inductive Program.Abides (stop : Action → Prop) (law : Law) : Program α → World → Prop where
  | done {result : α} {world : World} (obeys : world.Obeys law) :
      Abides stop law (.done result) world
  | step {action : Action} {next : action.Answer → Program α} {world : World}
      (obeys : world.Obeys law)
      (later : ¬ stop action →
        Abides stop law (next (world.perform action).1) (world.perform action).2) :
      Abides stop law (.step action next) world

/-- A program in the course of which a law stays. -/
def Program.Steady (stop : Action → Prop) (law : Law) (program : Program α) : Prop :=
  ∀ world : World, world.Obeys law → program.Abides stop law world

/-- A task in the course of which a law stays, whether it succeeds or not. -/
def Job.Steady (stop : Action → Prop) (law : Law) (task : Job α) : Prop :=
  Program.Steady stop law task.run

/-- A task after which a law holds if it did before, whether it succeeds or not. -/
def Job.Keeps (law : Law) (task : Job α) : Prop :=
  ∀ world : World, world.Obeys law → (task.runIn world).2.Obeys law

namespace Program

variable {world : World}

/-- The actions that are performed before a program is stopped. -/
def performed (world : World) : Nat → Program α → List Action
  | 0, _ => []
  | _ + 1, .done _ => []
  | n + 1, .step action next =>
    action :: (next (world.perform action).1).performed (world.perform action).2 n

theorem Abides.run {program : Program α} (abides : program.Abides (fun _ => False) law world) :
    (program.run world).2.Obeys law := by
  induction abides with
  | done obeys => exact obeys
  | step obeys later ih => exact ih id

/-- Wherever a program is stopped, a law holds as long as the watch had not ended. -/
theorem Abides.interrupt {program : Program α} (abides : program.Abides stop law world) {n : Nat}
    (watched : ∀ action ∈ program.performed world n, ¬ stop action) :
    (program.interrupt world n).Obeys law := by
  induction abides generalizing n with
  | done obeys => cases n <;> exact obeys
  | @step action next world obeys later ih =>
    cases n with
    | zero => exact obeys
    | succ n =>
      have here := watched action List.mem_cons_self
      exact ih here fun other member => watched other (List.mem_cons_of_mem action member)

theorem Abides.bind {program : Program α} {next : α → Program β}
    (first : program.Abides stop law world) (rest : ∀ result, (next result).Steady stop law) :
    (program >>= next).Abides stop law world := by
  induction first with
  | done obeys => exact rest _ _ obeys
  | step obeys later ih => exact .step obeys ih

theorem steady_pure (result : α) : (pure result : Program α).Steady stop law :=
  fun _ obeys => .done obeys

theorem Steady.bind {program : Program α} {next : α → Program β} (first : program.Steady stop law)
    (rest : ∀ result, (next result).Steady stop law) : (program >>= next).Steady stop law :=
  fun world obeys => (first world obeys).bind rest

theorem steady_perform {action : Action}
    (keeps : ¬ stop action → ∀ world : World, world.Obeys law → (world.perform action).2.Obeys law) :
    (perform action).Steady stop law :=
  fun world obeys => .step obeys fun watched => .done (keeps watched world obeys)

private theorem steady_isDirectory (path : String) :
    (perform (.isDirectory path)).Steady stop law :=
  steady_perform fun _ _ obeys => obeys

private theorem steady_read (path : String) : (perform (.read path)).Steady stop law :=
  steady_perform fun _ _ obeys => obeys

private theorem steady_makeDirectory {path : String} (makes : law.MakesAt path) :
    (perform (.makeDirectory path)).Steady stop law :=
  steady_perform fun _ _ obeys => obeys.makeDirectory makes

/-- A law stays while something is attempted. -/
theorem Steady.attempt {program : Program (Except FileFault α)} (steady : program.Steady stop law)
    (what : Attempt) : (Job.attempt what program).Steady stop law :=
  steady.bind fun _ => steady_pure _

end Program

namespace Job

/-- A law that stays in the course of a task is kept by it. -/
theorem Steady.keeps {task : Job α} (steady : task.Steady (fun _ => False) law) :
    task.Keeps law := fun world obeys => (steady world obeys).run

theorem steady_pure (result : α) : (pure result : Job α).Steady stop law :=
  fun _ obeys => .done obeys

theorem steady_throw (failure : Failure) : (throw failure : Job α).Steady stop law :=
  fun _ obeys => .done obeys

private theorem steady_bindCont {next : α → Job β} (rest : ∀ result, (next result).Steady stop law)
    (result : Except Failure α) : (ExceptT.bindCont next result).Steady stop law := by
  cases result with
  | ok value => exact rest value
  | error failure => exact Program.steady_pure _

theorem Steady.bind {task : Job α} {next : α → Job β} (first : task.Steady stop law)
    (rest : ∀ result, (next result).Steady stop law) : (task >>= next).Steady stop law :=
  Program.Steady.bind first (steady_bindCont rest)

theorem steady_perform {action : Action}
    (keeps : ¬ stop action → ∀ world : World, world.Obeys law → (world.perform action).2.Obeys law) :
    (perform action).Steady stop law :=
  fun world obeys => .step obeys fun watched => .done (keeps watched world obeys)

theorem steady_warn (text : String) : (perform (.warn text)).Steady stop law :=
  steady_perform fun _ _ obeys => ⟨obeys.staging, obeys.entries⟩

theorem steady_forM {items : List α} {task : α → Job Unit}
    (each : ∀ item ∈ items, (task item).Steady stop law) : (items.forM task).Steady stop law := by
  induction items with
  | nil => exact steady_pure ()
  | cons item rest ih =>
    have later := ih fun other member => each other (List.mem_cons_of_mem item member)
    exact (each item List.mem_cons_self).bind fun _ => later

theorem steady_readText (path : String) : (readText path).Steady stop law := by
  refine Steady.bind ((Program.steady_read path).attempt _) fun content => ?_
  cases content with
  | text s => exact steady_pure s
  | binary bytes => exact steady_throw _

private theorem steady_makeOne {path : String} (makes : law.MakesAt path) :
    (makeOne path).Steady stop law := by
  refine (Program.steady_makeDirectory makes).bind fun result => ?_
  cases result with
  | ok _ => exact Program.steady_pure _
  | error fault =>
    refine (Program.steady_isDirectory path).bind fun isDirectory => ?_
    cases isDirectory <;> exact Program.steady_pure _

private theorem steady_makeDirectories {paths : List String}
    (makes : ∀ path ∈ paths, law.MakesAt path) : (makeDirectories paths).Steady stop law := by
  have already (path : String) (fault : FileFault) : (do
      if ← Program.perform (.isDirectory path) then return .ok () else return .error fault
        : Program (Except FileFault Unit)).Steady stop law := by
    refine (Program.steady_isDirectory path).bind fun isDirectory => ?_
    cases isDirectory <;> exact Program.steady_pure _
  induction paths with
  | nil => exact Program.steady_pure _
  | cons path outer ih =>
    have here := makes path List.mem_cons_self
    have further := ih fun other member => makes other (List.mem_cons_of_mem path member)
    rw [makeDirectories]
    split
    · exact Program.steady_pure _
    · refine (Program.steady_makeDirectory here).bind fun result => ?_
      split
      · exact Program.steady_pure _
      · refine further.bind fun made => ?_
        cases made with
        | ok _ => exact steady_makeOne here
        | error fault => exact Program.steady_pure _
      · exact already path _

/-- What was just written is what is renamed. -/
theorem steady_write_rename {staging path : String} {content : Content} (frees : law.Frees staging)
    (takes : ¬ stop (.rename staging path) → law.Takes path content) : (do
      attempt (.writeFile staging) (.perform (.write staging content))
      attempt (.rename staging path) (.perform (.rename staging path)) : Job Unit).Steady stop law := by
  intro world obeys
  have behind := obeys.write (frees.takes content)
  refine .step obeys fun _ => ?_
  cases written : world.files.write staging content with
  | error fault =>
    rw [World.perform, written] at behind ⊢
    exact .done behind
  | ok files =>
    obtain ⟨place, leads, -, rfl⟩ := FileTree.write_eq_ok written
    rw [World.perform, written] at behind ⊢
    refine .step behind fun watched => .done ?_
    refine behind.rename frees (takes watched) fun other leadsOther => ?_
    obtain rfl := Option.some.inj (leads.symm.trans leadsOther)
    exact ⟨world.files.clock, by simp [World.change, FileTree.put]⟩

theorem Steady.tryCatch {task : Job α} {handle : Failure → Job α} (steady : task.Steady stop law)
    (handles : ∀ failure, (handle failure).Steady stop law) :
    (tryCatch task handle).Steady stop law := by
  refine Program.Steady.bind steady fun result => ?_
  cases result with
  | ok value => exact Program.steady_pure _
  | error failure => exact handles failure

/-- A file is filled under another name, which is freed if that fails. -/
theorem steady_stage {staging path : String} {content : Content} (frees : law.Frees staging)
    (takes : ¬ stop (.rename staging path) → law.Takes path content) : (tryCatch (do
      attempt (.createFile staging) (.perform (.write staging (.text "")))
      attempt (.writeFile staging) (.perform (.write staging content))
      attempt (.rename staging path) (.perform (.rename staging path)))
      fun failure => do
        let _ ← perform (.remove staging)
        throw failure : Job Unit).Steady stop law := by
  refine Steady.tryCatch (Steady.bind (Program.Steady.attempt ?_ _) fun _ => ?_) fun failure => ?_
  · exact Program.steady_perform fun _ _ obeys => obeys.write (frees.takes (.text ""))
  · exact steady_write_rename frees takes
  · refine Steady.bind ?_ fun _ => steady_throw failure
    exact steady_perform fun _ _ obeys => obeys.remove frees.removes

end Job

/-- A law that leaves it to a task to write a file at once. While that is under way the content
lies where the staging file goes. -/
structure Law.Admits (law : Law) (stop : Action → Prop) (path : String) (content : Content) :
    Prop where
  makes : ∀ directory ∈ Path.outward (((Path.parent? path).getD ".").length + 1)
    ((Path.parent? path).getD "."), law.MakesAt directory
  frees : ∀ name id, Path.fileName? path = some name → '/' ∉ id.toList →
    law.Frees (Path.join ((Path.parent? path).getD ".") (Job.stagingName name id))
  takes : ∀ staging, ¬ stop (.rename staging path) → law.Takes path content

theorem Job.steady_writeAtomic {path : String} {content : Content}
    (admits : law.Admits stop path content) : (writeAtomic path content).Steady stop law := by
  have made : (makeDirectory ((Path.parent? path).getD ".")).Steady stop law := by
    rw [makeDirectory]
    exact steady_makeDirectories admits.makes
  refine Steady.bind (made.attempt _) fun _ => ?_
  cases named : Path.fileName? path with
  | none => exact steady_throw _
  | some name =>
    intro world obeys
    have staged := admits.frees name world.stagingId named obeys.staging
    exact .step obeys fun _ => steady_stage staged (admits.takes _) world obeys

end Stencil
