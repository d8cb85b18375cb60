import Mathlib.Algebra.BigOperators.Group.List.Basic
import Mathlib.Algebra.GroupWithZero.Nat
import Rlirsh.Lib.Machine

namespace Rlirsh.Lib.Machine

universe u v

variable {σ : Type u} {ε : Type v} {step : σ → ε → Option σ} {potential : σ → Nat}
  {credit : ε → Nat} {s t : σ}

/-- Every step is paid for, by the potential or by the credit of its event. -/
def Paid (step : σ → ε → Option σ) (potential : σ → Nat) (credit : ε → Nat) : Prop :=
  ∀ s e t, step s e = some t → potential t + 1 ≤ potential s + credit e

/-- A run is not longer than what its potential and its credits pay for. -/
theorem Paid.length_le (h : Paid step potential credit) {es : List ε}
    (hrun : run step s es = some t) :
    es.length + potential t ≤ potential s + (es.map credit).sum := by
  induction es generalizing s with
  | nil =>
      obtain rfl := Option.some.inj hrun
      simp
  | cons e es ih =>
      obtain ⟨r, hstep, hrest⟩ := Option.bind_eq_some_iff.mp hrun
      have hpaid := h s e r hstep
      have hlength := ih hrest
      rw [List.length_cons, List.map_cons, List.sum_cons]
      omega

/-- Without credits every run comes to an end, and if it can be continued as long as `P`
does not hold, then where `P` holds. -/
theorem Paid.inevitable (h : Paid step potential credit) {ok : σ → ε → Prop} {P : σ → Prop}
    (hcredit : ∀ s e, ok s e → credit e = 0)
    (henabled : ∀ r, Reach step ok s r → P r ∨ ∃ t, Step step ok r t) :
    Inevitable step ok P s := by
  refine Inevitable.of_rank (I := Reach step ok s) potential (Reach.refl s) henabled ?_
  intro a e b hreach hok hstep
  right
  have hpaid := h a e b hstep
  rw [hcredit a e hok] at hpaid
  exact ⟨hreach.snoc hok hstep, hpaid⟩

end Rlirsh.Lib.Machine
