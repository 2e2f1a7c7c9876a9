import Stencil.Compiler
import Stencil.Proofs.Files.Program
import Stencil.Proofs.Tag.Outcome

/-!
# What a registry holds

A compiler only knows tags that hold nothing yet: whether its registry is built in or was
read from a directory, every tag in it is one of the built-in ones as it is before
initialization.
-/
namespace Stencil

namespace Registry

section

variable {registry : Registry} {namespaceName other name otherName : String} {kind : TagKind}

theorem isSome_get?_addNamespace : ((registry.addNamespace namespaceName).get? other).isSome ↔
    other = namespaceName ∨ (registry.get? other).isSome :=
  Dict.isSome_get?_insert

theorem isSome_get?_addTag : ((registry.addTag namespaceName name kind).get? other).isSome ↔
    other = namespaceName ∨ (registry.get? other).isSome :=
  Dict.isSome_get?_insert

private theorem get?_getD : (registry.getD other .empty).get? name = registry.tag? other name := by
  rw [tag?, Dict.getD]
  cases registry.get? other <;> rfl

theorem tag?_addNamespace :
    (registry.addNamespace namespaceName).tag? other name = registry.tag? other name := by
  unfold addNamespace
  rw [tag?, Dict.get?_insert]
  split
  · next same => rw [Option.bind_some, get?_getD, same]
  · rfl

theorem tag?_addTag : (registry.addTag namespaceName name kind).tag? other otherName =
    if other = namespaceName ∧ otherName = name then some kind else registry.tag? other otherName := by
  unfold addTag
  rw [tag?, Dict.get?_insert]
  by_cases same : other = namespaceName
  · rw [if_pos same, Option.bind_some, Dict.get?_insert, get?_getD]
    simp [same]
  · rw [if_neg same, if_neg fun both => same both.1, tag?]

end

/-- No tag of a registry holds anything yet. -/
def Bare (registry : Registry) : Prop :=
  ∀ namespaceName name kind, registry.tag? namespaceName name = some kind → kind.bare = kind

private theorem bare_empty : Bare .empty := by
  intro namespaceName name kind known
  cases known

/-- A namespace that is made known gets no tags by that. -/
theorem Bare.addNamespace {registry : Registry} (bare : registry.Bare) (namespaceName : String) :
    (registry.addNamespace namespaceName).Bare := by
  intro other name kind known
  rw [tag?_addNamespace] at known
  exact bare other name kind known

theorem Bare.addTag {registry : Registry} {kind : TagKind} (bare : registry.Bare)
    (holdsNothing : kind.bare = kind) (namespaceName name : String) :
    (registry.addTag namespaceName name kind).Bare := by
  intro other otherName found known
  rw [tag?_addTag] at known
  split at known
  · cases known
    exact holdsNothing
  · exact bare other otherName found known

private theorem bare_of_mem_builtinTags {tag : String × String × TagKind}
    (member : tag ∈ builtinTags) : tag.2.2.bare = tag.2.2 := by
  have all : ∀ tag ∈ builtinTags, tag.2.2.bare = tag.2.2 := by
    unfold builtinTags
    simp [TagKind.bare]
  exact all tag member

private theorem bare_of_builtinTag? {namespaceName name : String} {kind : TagKind}
    (known : builtinTag? namespaceName name = some kind) : kind.bare = kind := by
  obtain ⟨tag, found, rfl⟩ := Option.map_eq_some_iff.mp known
  exact bare_of_mem_builtinTags (List.mem_of_find?_eq_some found)

theorem bare_builtin : builtin.Bare := by
  have run : ∀ tags ⊆ builtinTags, ∀ registry : Registry, registry.Bare →
      (tags.foldl (fun registry tag => registry.addTag tag.1 tag.2.1 tag.2.2) registry).Bare := by
    intro tags listed
    induction tags with
    | nil =>
      intro registry bare
      exact bare
    | cons tag rest ih =>
      intro registry bare
      have holdsNothing := bare_of_mem_builtinTags (listed List.mem_cons_self)
      exact ih (fun _ later => listed (List.mem_cons_of_mem _ later)) _
        (bare.addTag holdsNothing _ _)
  exact run builtinTags (List.Subset.refl _) .empty bare_empty

theorem Bare.addFile {registry next : Registry} {namespaceName directory : String}
    {entry : String × FileKind} (bare : registry.Bare)
    (done : Registry.addFile namespaceName directory registry entry = .ok next) : next.Bare := by
  unfold Registry.addFile at done
  split at done
  · cases done
    exact bare
  · obtain ⟨⟨name, kind⟩, found, rfl⟩ := map_eq_ok.mp done
    unfold fileTag at found
    dsimp only at found
    split at found
    · cases found
    · split at found
      · next kind' known =>
        cases found
        exact bare.addTag (bare_of_builtinTag? known) _ _
      · cases found

private theorem Bare.addFiles {registry next : Registry} {namespaceName directory : String}
    {entries : List (String × FileKind)} (bare : registry.Bare)
    (done : entries.foldlM (Registry.addFile namespaceName directory) registry = .ok next) :
    next.Bare := by
  induction entries generalizing registry with
  | nil =>
    cases done
    exact bare
  | cons entry rest ih =>
    rw [List.foldlM_cons] at done
    obtain ⟨middle, here, later⟩ := bind_eq_ok.mp done
    exact ih (bare.addFile here) later

theorem Bare.addDirectory {registry next : Registry} {directory : String}
    {entry : String × FileKind} {world after : World} (bare : registry.Bare)
    (done : (Registry.addDirectory directory registry entry).runIn world = (.ok next, after)) :
    next.Bare := by
  unfold Registry.addDirectory at done
  dsimp only at done
  split at done
  · cases done
    exact bare
  · obtain ⟨files, between, -, done⟩ := Job.runIn_bind_eq_ok.mp done
    -- The files of a namespace are added without a look at the world.
    generalize made : files.foldlM (Registry.addFile _ _) (registry.addNamespace _) = result at done
    cases result with
    | error error => cases done
    | ok registry' =>
      cases done
      exact (bare.addNamespace _).addFiles made

private theorem bare_of_discover {registry : Registry} {directory : String} {world after : World}
    (done : (discover directory).runIn world = (.ok registry, after)) : registry.Bare := by
  obtain ⟨entries, between, -, done⟩ := Job.runIn_bind_eq_ok.mp done
  -- The registry and the world are general, as each directory may change both.
  have run : ∀ (entries : List (String × FileKind)) (start : Registry) (world : World),
      start.Bare → (entries.foldlM (addDirectory directory) start).runIn world
        = (.ok registry, after) → registry.Bare := by
    intro entries
    induction entries with
    | nil =>
      intro start world bare ran
      cases ran
      exact bare
    | cons entry rest ih =>
      intro start world bare ran
      rw [List.foldlM_cons] at ran
      obtain ⟨middle, later, here, ran⟩ := Job.runIn_bind_eq_ok.mp ran
      exact ih middle later (bare.addDirectory here) ran
  exact run entries .empty between bare_empty done

end Registry

/-- However a compiler is made, no tag it knows holds anything yet. -/
theorem Compiler.bare_of_ofConfig {config : Config} {compiler : Compiler} {world after : World}
    (made : (ofConfig config).runIn world = (.ok compiler, after)) : compiler.registry.Bare := by
  unfold ofConfig at made
  split at made
  · obtain ⟨registry, between, found, made⟩ := Job.runIn_bind_eq_ok.mp made
    cases made
    exact Registry.bare_of_discover found
  · cases made
    exact Registry.bare_builtin

end Stencil
