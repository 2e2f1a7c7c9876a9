import Stencil.Proofs.Expr.Parsing

/-!
# Constants in expressions

The values that stand in an expression that was parsed are the constants one can write:
null, truth values, texts, and integers that are signed and have 64 bits.
-/
namespace Stencil

namespace Text

private theorem readDigits_lt {limit n m : Nat} {text : List Char} (nonempty : text ≠ [])
    (read : readDigits limit n text = .ok m) : m < limit := by
  induction text generalizing n with
  | nil => exact absurd rfl nonempty
  | cons c rest ih =>
    rw [readDigits] at read
    split at read
    · cases read
    · dsimp only at read
      split at read
      · next below =>
        by_cases last : rest = []
        · subst last
          cases read
          exact below
        · exact ih last read
      · cases read

theorem natural_lt {limit n : Nat} {text : List Char} (read : natural limit text = .ok n) :
    n < limit := by
  unfold natural at read
  split at read
  · cases read
  · cases read
  · next rest alone =>
    refine readDigits_lt ?_ read
    rintro rfl
    exact alone rfl
  · next empty _ _ => exact readDigits_lt empty read

end Text

namespace Expr

/-- The values that stand in an expression. -/
def literals : Expr → List Value
  | .literal value => [value]
  | .var _ => []
  | .not operand => operand.literals
  | .neg operand => operand.literals
  | .binary _ left right => left.literals ++ right.literals

/-- The constants that expressions are written with. -/
inductive IsConstant : Value → Prop where
  | null : IsConstant .null
  | bool (b : Bool) : IsConstant (.bool b)
  | string (s : String) : IsConstant (.string s)
  | integer {n : Nat} : n < Text.signedLimit64 → IsConstant (.integer n)

/-- The integers that tokens stand for are in range. -/
theorem token_int_lt {c : Char} {text rest : List Char} {n : Nat}
    (read : token c text = .ok (.int n, rest)) : n < Text.signedLimit64 := by
  unfold token at read
  split at read
  · split at read <;> cases read
  · split at read
    · split at read <;> cases read
    · split at read
      · split at read
        · next m digits =>
          cases read
          exact Text.natural_lt digits
        · cases read
      · split at read
        · cases read
        · split at read
          · cases read
          · split at read
            · cases read
            · split at read <;> cases read

theorem tokensFrom_of_token {size : Nat} {c : Char} {rest after : List Char} {t : Token}
    (solid : Text.isBlank c = false) (read : token c rest = .ok (t, after)) :
    tokensFrom size (c :: rest)
      = (tokensFrom size after).map ((size - Text.byteSize (c :: rest), t) :: ·) := by
  rw [tokensFrom, if_neg (by simp [solid])]
  dsimp only
  split
  · next t' after' read' =>
    cases read.symm.trans read'
    rfl
  · next fault failed => cases read.symm.trans failed

theorem tokensFrom_of_fault {size : Nat} {c : Char} {rest : List Char} {fault : Fault}
    (solid : Text.isBlank c = false) (failed : token c rest = .error fault) :
    tokensFrom size (c :: rest) = .error ⟨size - Text.byteSize (c :: rest), fault⟩ := by
  rw [tokensFrom, if_neg (by simp [solid])]
  dsimp only
  split
  · next t after read => cases failed.symm.trans read
  · next fault' failed' =>
    cases failed.symm.trans failed'
    rfl

private theorem tokensFrom_int_lt {size : Nat} {text : List Char} {ts : List (Nat × Token)}
    (cut : tokensFrom size text = .ok ts) {n : Nat} (member : .int n ∈ ts.map Prod.snd) :
    n < Text.signedLimit64 := by
  induction text using tokensFrom.induct size generalizing ts with
  | case1 =>
    rw [tokensFrom] at cut
    cases cut
    cases member
  | case2 c rest blank ih =>
    rw [tokensFrom, if_pos blank] at cut
    exact ih cut member
  | case3 c rest solid t after read shorter ih =>
    rw [tokensFrom_of_token ((Bool.not_eq_true _).mp solid) read] at cut
    obtain ⟨later, cut', rfl⟩ := map_eq_ok.mp cut
    rcases List.mem_cons.mp member with here | behind
    · cases here
      exact token_int_lt read
    · exact ih cut' behind
  | case4 c rest solid fault failed =>
    rw [tokensFrom_of_fault ((Bool.not_eq_true _).mp solid) failed] at cut
    cases cut

/-- The values in an expression are those its tokens stand for. -/
theorem Derives.isConstant {category : Category} {ts : List Token} {expr : Expr}
    (derives : Derives category ts expr) (bounded : ∀ n, .int n ∈ ts → n < Text.signedLimit64)
    {value : Value} (member : value ∈ expr.literals) : IsConstant value := by
  induction derives with
  | operand _ ih => exact ih bounded member
  | binary _ _ _ first second =>
    rcases List.mem_append.mp member with left | right
    · exact first (fun n within => bounded n (by simp [within])) left
    · exact second (fun n within => bounded n (by simp [within])) right
  | not _ ih | neg _ ih | paren _ ih =>
    exact ih (fun n within => bounded n (by simp [within])) member
  | var => cases member
  | string s =>
    obtain rfl := List.mem_singleton.mp member
    exact .string s
  | integer n =>
    obtain rfl := List.mem_singleton.mp member
    exact .integer (bounded n (List.mem_singleton_self _))
  | true | false =>
    obtain rfl := List.mem_singleton.mp member
    exact .bool _
  | null =>
    obtain rfl := List.mem_singleton.mp member
    exact .null

/-- The expressions texts are parsed to. -/
def Parsed (expr : Expr) : Prop :=
  ∃ source, parse source = .ok expr ∨ ∃ name, parseAssignment source = .ok (name, expr)

/-- The values in an expression that was parsed are constants. -/
theorem Parsed.isConstant {expr : Expr} (parsed : expr.Parsed) {value : Value}
    (member : value ∈ expr.literals) : IsConstant value := by
  obtain ⟨source, alone | ⟨name, assigned⟩⟩ := parsed
  · obtain ⟨ts, cut, ran⟩ := bind_eq_ok.mp alone
    have derives := run_eq_ok_iff_derives.mp ran
    exact derives.isConstant (fun n => tokensFrom_int_lt cut) member
  · obtain ⟨ts, cut, ran⟩ := bind_eq_ok.mp assigned
    split at ran
    · next first second rest =>
      obtain ⟨expr', ran, same⟩ := bind_eq_ok.mp ran
      cases same
      have derives := run_eq_ok_iff_derives.mp ran
      refine derives.isConstant (fun n within => tokensFrom_int_lt cut ?_) member
      simp [within]
    · cases ran

end Expr

end Stencil
