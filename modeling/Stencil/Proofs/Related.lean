import Mathlib.Data.List.Forall2

/-!
# Computations side by side

Two computations that may fail are related if both succeed, with related results, or
both fail, with related errors. The relation goes through sequencing and through runs
over lists.
-/
namespace Stencil

variable {ε α β γ δ : Type}

/-- What a sequence gives is what its second part makes of what the first one gives. -/
theorem bind_eq_ok {first : Except ε α} {next : α → Except ε β} {b : β} :
    (first >>= next) = .ok b ↔ ∃ a, first = .ok a ∧ next a = .ok b := by
  cases first with
  | error e => simp [bind, Except.bind]
  | ok a => simp [bind, Except.bind]

/-- An error of a sequence is one of its first part, or of what comes next. -/
theorem bind_eq_error {first : Except ε α} {next : α → Except ε β} {e : ε}
    (failed : (first >>= next) = .error e) :
    first = .error e ∨ ∃ a, first = .ok a ∧ next a = .error e := by
  cases first with
  | error reason =>
    cases failed
    exact .inl rfl
  | ok a => exact .inr ⟨a, rfl, failed⟩

theorem map_eq_ok {x : Except ε α} {f : α → β} {b : β} :
    x.map f = .ok b ↔ ∃ a, x = .ok a ∧ f a = b := by
  cases x with
  | error e => simp [Except.map]
  | ok a => simp [Except.map]

theorem map_eq_error {x : Except ε α} {f : α → β} {e : ε} (failed : x.map f = .error e) :
    x = .error e := by
  cases x with
  | error reason =>
    cases failed
    rfl
  | ok a => cases failed

/-- A run up to a step, over it, up to another one behind it, and on. -/
theorem foldlM_around {ι : Type} (f : α → ι → Except ε α) (before inner behind : List ι)
    (opening closing : ι) (a : α) :
    (before ++ opening :: inner ++ closing :: behind).foldlM f a =
      before.foldlM f a >>= fun b => f b opening >>= fun c =>
        (inner ++ [closing]).foldlM f c >>= fun d => behind.foldlM f d := by
  simp [List.foldlM_append, bind_assoc]

/-- A run that fails does so at the first step that does. -/
theorem exists_first_error {ι : Type} {f : α → ι → Except ε α} {is : List ι} {a : α} {e : ε}
    (failed : is.foldlM f a = .error e) : ∃ before i after b, is = before ++ i :: after ∧
      before.foldlM f a = .ok b ∧ f b i = .error e := by
  induction is generalizing a with
  | nil => cases failed
  | cons i is ih =>
    rw [List.foldlM_cons] at failed
    cases here : f a i with
    | error reason =>
      rw [here] at failed
      cases failed
      exact ⟨[], i, is, a, rfl, rfl, here⟩
    | ok next =>
      rw [here] at failed
      obtain ⟨before, j, after, b, rfl, upTo, fails⟩ := ih failed
      refine ⟨i :: before, j, after, b, rfl, ?_, fails⟩
      rw [List.foldlM_cons, here]
      exact upTo

/-- A run that fails does so at one of its steps. -/
theorem foldlM_eq_error {ι : Type} {f : α → ι → Except ε α} {is : List ι} {a : α} {e : ε}
    (failed : is.foldlM f a = .error e) : ∃ b, ∃ i ∈ is, f b i = .error e := by
  obtain ⟨before, i, after, b, rfl, -, fails⟩ := exists_first_error failed
  exact ⟨b, i, by simp, fails⟩

/-- A result with a property that was evaluated. -/
theorem exists_of_any {result : Except ε α} {p : α → Prop} [DecidablePred p]
    (evaluated : (result.toOption.any fun a => p a) = true) : ∃ a, result = .ok a ∧ p a := by
  cases result with
  | error error => cases evaluated
  | ok a => exact ⟨a, rfl, of_decide_eq_true evaluated⟩

/-- The error of what fails. -/
def error? : Except ε α → Option ε
  | .ok _ => none
  | .error e => some e

theorem error?_eq_some {result : Except ε α} {e : ε} : error? result = some e ↔ result = .error e := by
  cases result <;> simp [error?]

theorem exists_of_forall₂ {R : α → β → Prop} {as : List α} {bs : List β}
    (related : List.Forall₂ R as bs) {a : α} (member : a ∈ as) : ∃ b ∈ bs, R a b := by
  induction related with
  | nil => cases member
  | cons here _ ih =>
    rcases List.mem_cons.mp member with rfl | later
    · exact ⟨_, List.mem_cons_self, here⟩
    · obtain ⟨b, found, same⟩ := ih later
      exact ⟨b, List.mem_cons_of_mem _ found, same⟩

/-- Both succeed with related results, or both fail with related errors. -/
inductive Related (errors : ε → ε → Prop) (results : α → β → Prop) :
    Except ε α → Except ε β → Prop where
  | ok {a b} : results a b → Related errors results (.ok a) (.ok b)
  | error {e f} : errors e f → Related errors results (.error e) (.error f)

namespace Related

variable {E : ε → ε → Prop} {R : α → β → Prop} {S : γ → δ → Prop}
  {x : Except ε α} {y : Except ε β}

theorem refl {R : α → α → Prop} (errors : ∀ e, E e e) (results : ∀ a, R a a) (x : Except ε α) :
    Related E R x x := by
  cases x with
  | ok a => exact .ok (results a)
  | error e => exact .error (errors e)

theorem mono {E' : ε → ε → Prop} {R' : α → β → Prop} (related : Related E R x y)
    (errors : ∀ e f, E e f → E' e f) (results : ∀ a b, R a b → R' a b) : Related E' R' x y := by
  cases related with
  | ok r => exact .ok (results _ _ r)
  | error e => exact .error (errors _ _ e)

theorem bind {f : α → Except ε γ} {g : β → Except ε δ} (first : Related E R x y)
    (next : ∀ a b, R a b → Related E S (f a) (g b)) : Related E S (x >>= f) (y >>= g) := by
  cases first with
  | ok r => exact next _ _ r
  | error e => exact .error e

/-- Two computations that begin alike. -/
theorem bind_same {f : α → Except ε γ} {g : α → Except ε δ} (errors : ∀ e, E e e)
    (next : ∀ a, x = .ok a → Related E S (f a) (g a)) : Related E S (x >>= f) (x >>= g) := by
  cases x with
  | ok a => exact next a rfl
  | error e => exact .error (errors e)

/-- Results are related together with where they come from. -/
theorem retrace (related : Related E R x y) :
    Related E (fun a b => R a b ∧ x = .ok a ∧ y = .ok b) x y := by
  cases related with
  | ok r => exact .ok ⟨r, rfl, rfl⟩
  | error e => exact .error e

theorem map {f : α → γ} {g : β → δ} (first : Related E R x y)
    (next : ∀ a b, R a b → S (f a) (g b)) : Related E S (x.map f) (y.map g) := by
  cases first with
  | ok r => exact .ok (next _ _ r)
  | error e => exact .error e

/-- A relation that every step keeps is kept by a run. -/
theorem foldlM {ι κ : Type} {T : ι → κ → Prop} {f : α → ι → Except ε α} {g : β → κ → Except ε β}
    (step : ∀ a b i j, R a b → T i j → Related E R (f a i) (g b j))
    {is : List ι} {js : List κ} (inputs : List.Forall₂ T is js) {a : α} {b : β} (start : R a b) :
    Related E R (is.foldlM f a) (js.foldlM g b) := by
  induction inputs generalizing a b with
  | nil => exact .ok start
  | cons here _ ih =>
    rw [List.foldlM_cons, List.foldlM_cons]
    exact (step _ _ _ _ start here).bind fun _ _ next => ih next

theorem mapM {ι : Type} {f : ι → Except ε γ} {g : ι → Except ε δ}
    (step : ∀ i, Related E S (f i) (g i)) (is : List ι) :
    Related E (List.Forall₂ S) (is.mapM f) (is.mapM g) := by
  induction is with
  | nil => exact .ok .nil
  | cons i is ih =>
    rw [List.mapM_cons, List.mapM_cons]
    exact (step i).bind fun _ _ here => ih.bind fun _ _ later => .ok (.cons here later)

theorem exists_of_ok {a : α} (related : Related E R x y) (ok : x = .ok a) :
    ∃ b, y = .ok b ∧ R a b := by
  cases related with
  | ok r => cases ok; exact ⟨_, rfl, r⟩
  | error e => cases ok

theorem exists_of_ok_right {b : β} (related : Related E R x y) (ok : y = .ok b) :
    ∃ a, x = .ok a ∧ R a b := by
  cases related with
  | ok r => cases ok; exact ⟨_, rfl, r⟩
  | error e => cases ok

theorem exists_of_error {e : ε} (related : Related E R x y) (error : x = .error e) :
    ∃ f, y = .error f ∧ E e f := by
  cases related with
  | ok r => cases error
  | error related => cases error; exact ⟨_, rfl, related⟩

/-- Two computations with the same errors fail alike. -/
theorem eq_error_iff (related : Related (· = ·) R x y) (e : ε) : x = .error e ↔ y = .error e := by
  cases related with
  | ok _ => exact ⟨nofun, nofun⟩
  | error same =>
    subst same
    rw [Except.error.injEq, Except.error.injEq]

/-- Computations that give the same are equal. -/
theorem eq {x y : Except ε α} (related : Related (· = ·) (· = ·) x y) : x = y := by
  cases related with
  | ok same => rw [same]
  | error same => rw [same]

end Related

end Stencil
