import Stencil.Failure
import Stencil.Files.Tree

/-!
# Programs that work on files

A program is either done or performs one action and goes on with the answer. Here it
runs on a tree of files; it can be stopped after any number of actions.
-/
namespace Stencil

inductive Action where
  | read (path : String)
  | modified (path : String)
  | list (path : String)
  | isDirectory (path : String)
  | makeDirectory (path : String)
  | write (path : String) (content : Content)
  | rename (source target : String)
  | remove (path : String)
  /-- A text that no staging file has in its name. -/
  | stagingId
  /-- Look up an environment variable. -/
  | environment (name : String)
  | print (text : String)
  | printError (text : String)
  | warn (text : String)

/-- What an action answers. -/
abbrev Action.Answer : Action → Type
  | .read _ => Except FileFault Content
  | .modified _ => Except FileFault Time
  | .list _ => Except FileFault (List (String × FileKind))
  | .isDirectory _ => Bool
  | .makeDirectory _ | .write _ _ | .rename _ _ | .remove _ => Except FileFault Unit
  | .stagingId => String
  | .environment _ => Option Content
  | .print _ | .printError _ | .warn _ => Unit

inductive Program (α : Type) where
  | done (result : α)
  | step (action : Action) (next : action.Answer → Program α)

namespace Program

variable {α β : Type}

def bind (program : Program α) (f : α → Program β) : Program β :=
  match program with
  | .done result => f result
  | .step action next => .step action fun answer => (next answer).bind f

instance : Monad Program where
  pure := .done
  bind := .bind

/-- The program that performs one action. -/
def perform (action : Action) : Program action.Answer := .step action .done

/-- The same program without its warnings. -/
def quiet : Program α → Program α
  | .done result => .done result
  | .step action next =>
    match action, next with
    | .warn _, next => (next ()).quiet
    | action, next => .step action fun answer => (next answer).quiet

end Program

/-- What programs work on. -/
structure World where
  files : FileTree
  environment : Dict Content := .empty
  /-- What staging files have in their names. -/
  stagingId : String
  output : String := ""
  errors : String := ""

namespace World

/-- The world after an operation that changes its files, if it succeeds. -/
def change (world : World) (result : Except FileFault FileTree) : Except FileFault Unit × World :=
  match result with
  | .ok files => (.ok (), { world with files })
  | .error fault => (.error fault, world)

def perform (world : World) : (action : Action) → action.Answer × World
  | .read path => (world.files.read path, world)
  | .modified path => (world.files.modified path, world)
  | .list path => (world.files.list path, world)
  | .isDirectory path => (world.files.isDirectory path, world)
  | .makeDirectory path => world.change (world.files.makeDirectory path)
  | .write path content => world.change (world.files.write path content)
  | .rename source target => world.change (world.files.rename source target)
  | .remove path => world.change (world.files.remove path)
  | .stagingId => (world.stagingId, world)
  | .environment name => (world.environment.get? name, world)
  | .print text => ((), { world with output := world.output ++ text })
  | .printError text => ((), { world with errors := world.errors ++ text })
  | .warn text => ((), { world with errors := world.errors ++ "W: " ++ text ++ "\n" })

end World

namespace Program

variable {α : Type}

/-- Run a program to its end. -/
def run (world : World) : Program α → α × World
  | .done result => (result, world)
  | .step action next =>
    let (answer, world) := world.perform action
    (next answer).run world

/-- Run a program, but stop it after a number of actions. -/
def interrupt (world : World) : Nat → Program α → World
  | 0, _ => world
  | _ + 1, .done _ => world
  | n + 1, .step action next =>
    let (answer, world) := world.perform action
    (next answer).interrupt world n

end Program

/-- A program that may fail. -/
abbrev Job := ExceptT Failure Program

namespace Job

variable {α : Type}

def perform (action : Action) : Job action.Answer := ExceptT.lift (.perform action)

/-- A failure of files in the course of an attempt. -/
def attempt (what : Attempt) (program : Program (Except FileFault α)) : Job α :=
  ExceptT.mk <| program.bind fun result =>
    .done (result.mapError fun fault => .within what (.file fault))

/-- Say what was attempted when a task failed. -/
def within (what : Attempt) (task : Job α) : Job α :=
  ExceptT.mk <| task.run.bind fun result => .done (result.mapError (.within what))

def compile (result : Except CompileError α) : Job α :=
  ExceptT.mk (.done (result.mapError .compile))

end Job

end Stencil
