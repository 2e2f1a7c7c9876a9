import Stencil.Proofs.Files.Program
import Stencil.Proofs.Related

/-!
# Tasks that only list directories

Such a task depends on nothing but what is listed, and leaves the world as it is.
-/
namespace Stencil

/-- What each action is answered, whenever it is performed. -/
abbrev Answers := (action : Action) → action.Answer

variable {α β : Type} {answers : Answers}

namespace Program

/-- The result of a program whose actions are answered so. -/
def answered (answers : Answers) : Program α → α
  | .done result => result
  | .step action next => (next (answers action)).answered answers

theorem answered_bind (program : Program α) (next : α → Program β) :
    (program >>= next).answered answers = (next (program.answered answers)).answered answers := by
  change (program.bind next).answered answers = _
  induction program with
  | done result => rfl
  | step action rest ih => exact ih (answers action)

/-- That a program lists directories and does nothing else. -/
inductive Lists : Program α → Prop where
  | done (result : α) : Lists (.done result)
  | step (path : String) {next : Action.Answer (.list path) → Program α} :
      (∀ answer, Lists (next answer)) → Lists (.step (.list path) next)

theorem Lists.bind {program : Program α} {next : α → Program β} (lists : program.Lists)
    (rest : ∀ result, (next result).Lists) : (program >>= next).Lists := by
  change (program.bind next).Lists
  induction lists with
  | done result => exact rest result
  | step path _ ih => exact .step path ih

theorem Lists.run {program : Program α} (lists : program.Lists) {world : World}
    (agree : ∀ path, answers (.list path) = world.files.list path) :
    program.run world = (program.answered answers, world) := by
  induction lists with
  | done result => rfl
  | step path _ ih =>
    rw [Program.run, answered, agree path]
    exact ih (world.files.list path)

end Program

namespace Job

def answered (answers : Answers) (task : Job α) : Except Failure α :=
  Program.answered answers task.run

theorem answered_bind (task : Job α) (next : α → Job β) : (task >>= next).answered answers =
    task.answered answers >>= fun result => (next result).answered answers := by
  refine (Program.answered_bind task.run (ExceptT.bindCont next)).trans ?_
  unfold answered
  cases Program.answered answers task.run <;> rfl

theorem answered_foldlM {ι : Type} (step : α → ι → Job α) (items : List ι) (start : α) :
    (items.foldlM step start).answered answers
      = items.foldlM (fun state item => (step state item).answered answers) start := by
  induction items generalizing start with
  | nil => rfl
  | cons item items ih =>
    rw [List.foldlM_cons, List.foldlM_cons, answered_bind]
    simp only [ih]

/-- That a task lists directories and does nothing else. -/
def Lists (task : Job α) : Prop := Program.Lists task.run

theorem lists_pure (result : α) : (pure result : Job α).Lists := .done _

theorem lists_throw (failure : Failure) : (throw failure : Job α).Lists := .done _

theorem lists_compile (result : Except CompileError α) : (compile result).Lists := .done _

theorem lists_perform (path : String) : (perform (.list path)).Lists := .step path fun _ => .done _

theorem Lists.bind {task : Job α} {next : α → Job β} (lists : task.Lists)
    (rest : ∀ result, (next result).Lists) : (task >>= next).Lists := by
  refine Program.Lists.bind lists fun outcome => ?_
  cases outcome with
  | ok result => exact rest result
  | error failure => exact .done _

theorem lists_foldlM {ι : Type} {step : α → ι → Job α} (lists : ∀ state item, (step state item).Lists)
    (items : List ι) (start : α) : (items.foldlM step start).Lists := by
  induction items generalizing start with
  | nil => exact lists_pure start
  | cons item items ih =>
    rw [List.foldlM_cons]
    exact (lists start item).bind ih

theorem Lists.runIn {task : Job α} (lists : task.Lists) {world : World}
    (agree : ∀ path, answers (.list path) = world.files.list path) :
    task.runIn world = (task.answered answers, world) :=
  Program.Lists.run lists agree

end Job

end Stencil
