import Stencil.Files.Access

/-!
# Running tasks

The outcome of a task that is put together follows from those of its parts.
-/
namespace Stencil

variable {α β : Type}

/-- A world with files that hold some texts, and with the directories around them. -/
def World.holding (texts : List (String × String)) : World where
  files := texts.foldl (fun tree (path, text) => tree.plant path (.file (.text text) tree.clock))
    { clock := 0 }
  stagingId := "id"

namespace Program

/-- A program that goes on with another one. -/
@[simp]
theorem run_bind (program : Program α) (next : α → Program β) (world : World) :
    (program >>= next).run world = (next (program.run world).1).run (program.run world).2 := by
  change (program.bind next).run world = _
  induction program generalizing world with
  | done result => rfl
  | step action rest ih => exact ih (world.perform action).1 (world.perform action).2

@[simp]
theorem run_perform (action : Action) (world : World) :
    (perform action).run world = world.perform action := rfl

end Program

/-- No action changes what staging files have in their names. -/
theorem World.stagingId_perform (world : World) (action : Action) :
    (world.perform action).2.stagingId = world.stagingId := by
  have changed (result : Except FileFault FileTree) :
      (world.change result).2.stagingId = world.stagingId := by
    cases result <;> rfl
  cases action with
  | makeDirectory path => exact changed _
  | write path content => exact changed _
  | rename source target => exact changed _
  | remove path => exact changed _
  | _ => rfl

private theorem Program.stagingId_run (program : Program α) (world : World) :
    (program.run world).2.stagingId = world.stagingId := by
  induction program generalizing world with
  | done result => rfl
  | step action next ih => exact (ih _ _).trans (world.stagingId_perform action)

theorem World.change_eq_ok {world after : World} {result : Except FileFault FileTree} :
    world.change result = (.ok (), after) ↔
      ∃ files, result = .ok files ∧ after = { world with files } := by
  cases result with
  | error fault => simp [World.change]
  | ok files => simp [World.change, eq_comm]

namespace Job

/-- The result of a task in a world, and the world behind it. -/
def runIn (task : Job α) (world : World) : Except Failure α × World := Program.run world task.run

theorem stagingId_of_run {task : Job α} {world after : World} {result : Except Failure α}
    (ran : task.runIn world = (result, after)) : after.stagingId = world.stagingId := by
  have same := Program.stagingId_run task.run world
  rwa [← runIn, ran] at same

variable (world : World)

/-- The second part of a task is only run behind a first one that succeeds. -/
theorem runIn_bind (task : Job α) (next : α → Job β) : (task >>= next).runIn world =
    match task.runIn world with
    | (.ok result, world) => (next result).runIn world
    | (.error failure, world) => (.error failure, world) := by
  have ran := Program.run_bind task.run (ExceptT.bindCont next) world
  change Program.run world (task.run >>= ExceptT.bindCont next) = _
  rw [ran]
  unfold runIn
  cases Program.run world task.run with
  | mk result world => cases result <;> rfl

section

variable {world : World} {task : Job α} {next : α → Job β} {after : World}

theorem runIn_bind_of_ok {result : α} (ran : task.runIn world = (.ok result, after)) :
    (task >>= next).runIn world = (next result).runIn after := by
  rw [runIn_bind, ran]

theorem runIn_bind_of_error {failure : Failure} (ran : task.runIn world = (.error failure, after)) :
    (task >>= next).runIn world = (.error failure, after) := by
  rw [runIn_bind, ran]

end

/-- What a sequence gives is what its second part makes of what the first one gives. -/
theorem runIn_bind_eq_ok {world : World} {task : Job α} {next : α → Job β} {result : β}
    {after : World} : (task >>= next).runIn world = (.ok result, after) ↔
      ∃ first between, task.runIn world = (.ok first, between) ∧
        (next first).runIn between = (.ok result, after) := by
  rw [runIn_bind]
  cases task.runIn world with
  | mk first between => cases first <;> simp [and_assoc]

@[simp]
theorem runIn_perform (action : Action) :
    (perform action).runIn world = (.ok (world.perform action).1, (world.perform action).2) := rfl

theorem runIn_attempt (what : Attempt) (program : Program (Except FileFault α)) :
    (attempt what program).runIn world =
      ((program.run world).1.mapError fun fault => .within what (.file fault),
        (program.run world).2) :=
  Program.run_bind program _ world

theorem runIn_attempt_eq_ok {world after : World} {what : Attempt}
    {program : Program (Except FileFault α)} {result : α} :
    (attempt what program).runIn world = (.ok result, after) ↔
      program.run world = (.ok result, after) := by
  rw [runIn_attempt]
  cases program.run world with
  | mk outcome later =>
    cases outcome with
    | error fault => exact ⟨nofun, nofun⟩
    | ok value =>
      constructor
      · rintro ⟨⟩
        rfl
      · rintro ⟨⟩
        rfl

/-- What is done about a failure is done where the task was left. -/
theorem runIn_tryCatch (task : Job α) (handle : Failure → Job α) :
    (tryCatch task handle).runIn world =
      match task.runIn world with
      | (.ok result, world) => (.ok result, world)
      | (.error failure, world) => (handle failure).runIn world := by
  change Program.run world (task.run >>= _) = _
  rw [Program.run_bind]
  unfold runIn
  cases Program.run world task.run with
  | mk result world => cases result <;> rfl

/-- If failures are passed on, a task only succeeds by itself. -/
theorem runIn_tryCatch_eq_ok {world after : World} {task : Job α} {handle : Failure → Job α}
    (passedOn : ∀ failure world, ((handle failure).runIn world).1.toOption = none) {result : α} :
    (tryCatch task handle).runIn world = (.ok result, after) ↔
      task.runIn world = (.ok result, after) := by
  rw [runIn_tryCatch]
  cases task.runIn world with
  | mk outcome later =>
    cases outcome with
    | ok value => rfl
    | error failure =>
      have fails := passedOn failure later
      cases ran : (handle failure).runIn later with
      | mk handled last =>
        rw [ran] at fails
        cases handled with
        | ok value => cases fails
        | error reason => simp [ran]

/-- A run over items up to one of them, over it, and on. -/
theorem runIn_forM_around {world after : World} {front back : List α} {item : α}
    {task : α → Job Unit} : ((front ++ item :: back).forM task).runIn world = (.ok (), after) ↔
      ∃ before behind, (front.forM task).runIn world = (.ok (), before) ∧
        (task item).runIn before = (.ok (), behind) ∧
        (back.forM task).runIn behind = (.ok (), after) := by
  induction front generalizing world with
  | nil =>
    refine runIn_bind_eq_ok.trans ⟨?_, ?_⟩
    · rintro ⟨_, behind, here, later⟩
      exact ⟨world, behind, rfl, here, later⟩
    · rintro ⟨before, behind, start, here, later⟩
      cases start
      exact ⟨(), behind, here, later⟩
  | cons first rest ih =>
    refine runIn_bind_eq_ok.trans ⟨?_, ?_⟩
    · rintro ⟨_, next, ran, later⟩
      obtain ⟨before, behind, start, here, later⟩ := ih.mp later
      exact ⟨before, behind, runIn_bind_eq_ok.mpr ⟨(), next, ran, start⟩, here, later⟩
    · rintro ⟨before, behind, start, here, later⟩
      obtain ⟨_, next, ran, start⟩ := runIn_bind_eq_ok.mp start
      exact ⟨(), next, ran, ih.mpr ⟨before, behind, start, here, later⟩⟩

/-- A file is read if it holds a text, and nothing changes. -/
theorem runIn_readText (path : String) : (readText path).runIn world =
    (match world.files.read path with
      | .ok (.text text) => .ok text
      | .ok (.binary _) => .error (.within (.read path) (.file .notText))
      | .error fault => .error (.within (.read path) (.file fault)), world) := by
  rw [readText, runIn_bind, runIn_attempt, Program.run_perform, World.perform]
  cases world.files.read path with
  | error fault => rfl
  | ok content => cases content <;> rfl

theorem readText_eq_ok {path text : String} {after : World} :
    (readText path).runIn world = (.ok text, after) ↔
      world.files.read path = .ok (.text text) ∧ after = world := by
  rw [runIn_readText]
  cases world.files.read path with
  | error fault => simp
  | ok content =>
    cases content with
    | text s => simp [eq_comm]
    | binary bytes => simp

end Job

end Stencil
