import Stencil.Proofs.Expr.Literals

/-!
# Where tokens stand

A token is read from the text at its offset, and what it leaves is the end of that text. A text
that is moved has the same tokens and the same faults, with their offsets moved along.
-/
namespace Stencil.Expr

variable {text rest : List Char} {c : Char} {t : Token}

/-! ### What a token leaves -/

private theorem path?_suffix {name : List Char} {done path : List String}
    (read : path? name done text = some (path, rest)) : rest <:+ text := by
  fun_induction path? name done text with
  | case1 | case4 => cases read
  | case2 | case6 =>
    cases read
    exact List.suffix_rfl
  | case3 name done c text letter ih => exact (ih read).trans (List.suffix_cons c text)
  | case5 name done text filled ends ih => exact (ih read).trans (List.suffix_cons '.' text)

private theorem stringBody_suffix {quote : Char} {done body : List Char}
    (read : stringBody quote done text = some (body, rest)) : rest <:+ text := by
  fun_induction stringBody quote done text with
  | case1 | case2 => cases read
  | case3 done c text ih =>
    exact (ih read).trans ((List.suffix_cons c text).trans (List.suffix_cons '\\' (c :: text)))
  | case4 =>
    cases read
    exact List.suffix_cons _ _
  | case5 done c text alone escape other ih => exact (ih read).trans (List.suffix_cons c text)

/-- A symbol has one character or two. -/
private theorem symbol?_suffix {symbol : Symbol} (read : symbol? text = some (symbol, rest)) :
    rest <:+ text.tail := by
  unfold symbol? at read
  split at read
  all_goals cases read
  all_goals first | exact List.suffix_rfl | exact List.suffix_cons _ _

/-- What is behind a token is the end of the text. -/
theorem token_suffix (read : token c text = .ok (t, rest)) : rest <:+ text := by
  -- The cases are those of the tokenizer: the first character tells what is read.
  unfold token at read
  split at read
  · split at read
    · next found =>
      cases read
      exact path?_suffix found
    · cases read
  split at read
  · split at read
    · next found =>
      cases read
      exact stringBody_suffix found
    · cases read
  split at read
  · split at read
    · cases read
      exact List.dropWhile_suffix _
    · cases read
  split at read
  · cases read
    exact List.dropWhile_suffix _
  split at read
  · cases read
    exact List.suffix_rfl
  split at read
  · cases read
    exact List.suffix_rfl
  split at read
  · next found =>
    cases read
    exact symbol?_suffix found
  · cases read

/-- A token is what is between the text from its first character on and the text behind it. -/
theorem exists_written (read : token c text = .ok (t, rest)) :
    ∃ written, c :: text = written ++ rest := by
  obtain ⟨more, rfl⟩ := token_suffix read
  exact ⟨c :: more, rfl⟩

/-! ### Moving a text -/

/-- Tokens further on in a text. -/
def moved (distance : Nat) (placed : List (Nat × Token)) : List (Nat × Token) :=
  placed.map (Prod.map (distance + ·) id)

/-- The same fault further on in a text. -/
def ParseError.moved (distance : Nat) (error : ParseError) : ParseError :=
  ⟨distance + error.position, error.fault⟩

/-- The tokens of the end of a text are those of the end alone, further on. -/
theorem tokensFrom_add (distance : Nat) {size : Nat} (fits : Text.byteSize text ≤ size) :
    tokensFrom (distance + size) text
      = ((tokensFrom size text).map (moved distance)).mapError (.moved distance) := by
  induction text using tokensFrom.induct size with
  | case1 =>
    rw [tokensFrom, tokensFrom]
    rfl
  | case2 c rest blank ih =>
    rw [tokensFrom, if_pos blank, tokensFrom, if_pos blank]
    apply ih
    rw [Text.byteSize] at fits
    omega
  | case3 c rest solid t after read shorter ih =>
    have solid := (Bool.not_eq_true _).mp solid
    -- A token is at least one character, so what is behind it still fits.
    obtain ⟨written, whole⟩ := exists_written read
    have further : distance + size - Text.byteSize (c :: rest)
        = distance + (size - Text.byteSize (c :: rest)) := Nat.add_sub_assoc fits distance
    rw [whole, Text.byteSize_append] at fits
    rw [tokensFrom_of_token solid read, tokensFrom_of_token solid read, ih (by omega), further]
    cases tokensFrom size after <;> rfl
  | case4 c rest solid fault failed =>
    have solid := (Bool.not_eq_true _).mp solid
    rw [tokensFrom_of_fault solid failed, tokensFrom_of_fault solid failed,
      Nat.add_sub_assoc fits distance]
    rfl

/-- A run over tokens further on ends in the same way, further on. -/
theorem run_moved (distance size : Nat) (state : State) (placed : List (Nat × Token)) :
    run (distance + size) state (moved distance placed)
      = (run size state placed).mapError (.moved distance) := by
  induction placed generalizing state with
  | nil =>
    rw [moved, List.map_nil, run, run]
    cases finish state <;> rfl
  | cons entry placed ih =>
    rw [moved, List.map_cons, run, run]
    cases stepped : step state entry.2 with
    | ok next => simpa [moved, stepped] using ih next
    | error fault => simp [stepped, Except.mapError, ParseError.moved]

end Stencil.Expr
