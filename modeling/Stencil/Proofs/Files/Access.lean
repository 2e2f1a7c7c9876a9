import Stencil.Proofs.Files.Program
import Stencil.Proofs.Files.Tree

/-!
# Files that are written at once

What was written at once is found where it should be.
-/
namespace Stencil.Job

/-- A file that was written at once holds its contents. -/
theorem find_of_writeAtomic {world after : World} {path : String} {content : Content}
    (written : (writeAtomic path content).runIn world = (.ok (), after)) :
    ∃ time, after.files.find path = .ok (.file content time) := by
  obtain ⟨-, made, -, written⟩ := runIn_bind_eq_ok.mp written
  cases named : Path.fileName? path with
  | none =>
    rw [named] at written
    cases written
  | some name =>
    rw [named] at written
    obtain ⟨id, between, -, written⟩ := runIn_bind_eq_ok.mp written
    have staged := (runIn_tryCatch_eq_ok fun _ _ => rfl).mp written
    obtain ⟨-, created, -, staged⟩ := runIn_bind_eq_ok.mp staged
    obtain ⟨_, filled, fill, move⟩ := runIn_bind_eq_ok.mp staged
    obtain ⟨files, wrote, rfl⟩ := World.change_eq_ok.mp (runIn_attempt_eq_ok.mp fill)
    obtain ⟨place, leads, -, rfl⟩ := FileTree.write_eq_ok wrote
    obtain ⟨files, renamed, rfl⟩ := World.change_eq_ok.mp (runIn_attempt_eq_ok.mp move)
    exact ⟨_, FileTree.find_of_rename renamed leads (by simp [FileTree.put]; rfl)⟩

end Stencil.Job
