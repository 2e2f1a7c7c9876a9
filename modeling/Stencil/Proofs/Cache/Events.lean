import Stencil.Compiler
import Stencil.Proofs.Files.Program

/-!
# Runs of edits and loads

Templates are edited and their views are asked for, in any order. What holds at the start and
stays when any of this happens holds whenever a view is asked for.
-/
namespace Stencil

/-- What happens to a template. -/
inductive Event where
  /-- It is given a new text. -/
  | edit (template text : String)
  /-- Its view is asked for. -/
  | load (template : String)

def Event.template : Event → String
  | .edit template _ | .load template => template

/-- A view that was asked for, in which world, and what came back. -/
structure Answer where
  template : String
  before : World
  result : Except Failure View

namespace Compiler

variable {compiler : Compiler}

/-- The world after an event. -/
def after (compiler : Compiler) (world : World) : Event → World
  | .edit template text => (world.perform (.write template (.text text))).2
  | .load template => ((compiler.loadView template).runIn world).2

/-- The answers in the course of some events. -/
def answers (compiler : Compiler) (world : World) : List Event → List Answer
  | [] => []
  | .edit template text :: rest =>
    compiler.answers (compiler.after world (.edit template text)) rest
  | .load template :: rest =>
    ⟨template, world, ((compiler.loadView template).runIn world).1⟩
      :: compiler.answers (compiler.after world (.load template)) rest

/-- Each answer is what a load of one of the events gave, in a world where all invariants of
the events hold. -/
theorem answers_of_invariant {invariant : World → Prop} {events : List Event} {world : World}
    (keeps : ∀ event ∈ events, ∀ world, invariant world → invariant (compiler.after world event))
    (start : invariant world) {answer : Answer} (member : answer ∈ compiler.answers world events) :
    .load answer.template ∈ events ∧ invariant answer.before ∧
      answer.result = ((compiler.loadView answer.template).runIn answer.before).1 := by
  induction events generalizing world with
  | nil => cases member
  | cons event rest ih =>
    have next := keeps event List.mem_cons_self world start
    have later (member : answer ∈ compiler.answers (compiler.after world event) rest) :=
      ih (fun other isIn => keeps other (List.mem_cons_of_mem event isIn)) next member
    cases event with
    | edit template text =>
      obtain ⟨isIn, holds, same⟩ := later member
      exact ⟨List.mem_cons_of_mem _ isIn, holds, same⟩
    | load template =>
      rcases List.mem_cons.mp member with rfl | behind
      · exact ⟨List.mem_cons_self, start, rfl⟩
      · obtain ⟨isIn, holds, same⟩ := later behind
        exact ⟨List.mem_cons_of_mem _ isIn, holds, same⟩

end Compiler

end Stencil
