import Stencil.Cache
import Stencil.Proofs.Files.Program

/-!
# Checks of what is stored

A check looks at the times of what is stored and of the template, and changes nothing.
-/
namespace Stencil.Cache

variable {template stored : String}

/-- What is at a path has a time, and what is not found has none. -/
theorem runIn_modified? (path : String) (world : World) : (modified? path).runIn world =
    (match world.files.find path with
      | .ok entry => .ok (some entry.modified)
      | .error .notFound => .ok none
      | .error fault => .error (.within (.examine path) (.file fault)), world) := by
  rw [modified?, Job.runIn_bind, Job.runIn_perform, World.perform, FileTree.modified]
  cases world.files.find path with
  | ok entry => rfl
  | error fault => cases fault <;> rfl

/-- A stored file is missing, or older than its template. -/
def Outdated (tree : FileTree) (template stored : String) : Prop :=
  tree.find stored = .error .notFound ∨ ∃ old current, tree.find stored = .ok old ∧
    tree.find template = .ok current ∧ old.modified < current.modified

/-- A check asks for a compile when what is stored is out of date. -/
theorem needsCompile_eq_true {world : World} :
    (needsCompile .check template stored).runIn world = (.ok true, world) ↔
      Outdated world.files template stored := by
  unfold Outdated
  rw [needsCompile, if_neg (by decide), Job.runIn_bind, runIn_modified? stored]
  -- A stored file that is missing is out of date, any other fault is reported.
  cases world.files.find stored with
  | error fault =>
    cases fault with
    | notFound => exact ⟨fun _ => .inl rfl, fun _ => rfl⟩
    | _ => simp
  | ok old =>
    dsimp only
    rw [if_neg (by decide), Job.runIn_bind, runIn_modified? template]
    -- Without the template there is nothing to compare with.
    cases world.files.find template with
    | error fault =>
      cases fault with
      | notFound =>
        constructor
        · intro ran
          cases ran
        · simp
      | _ => simp
    | ok current =>
      constructor
      · intro ran
        have later : decide (current.modified > old.modified) = true := by
          injection ran with result
          injection result
        exact .inr ⟨old, current, rfl, rfl, of_decide_eq_true later⟩
      · simp only [Except.ok.injEq, reduceCtorEq, false_or]
        rintro ⟨_, _, rfl, rfl, later⟩
        exact Prod.ext (congrArg Except.ok (decide_eq_true later)) rfl

end Stencil.Cache
