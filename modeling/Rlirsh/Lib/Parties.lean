import Mathlib.Order.Defs.LinearOrder
import Rlirsh.Lib.Machine

namespace Rlirsh.Lib.Parties

open Rlirsh.Lib.Machine

universe u v w x

/-- What a party does by itself, the message it is sending, and what it makes of a message
it takes. -/
structure Party (σ : Type u) (ε : Type v) (Out In : Type w) where
  step : σ → ε → Option σ
  offer : σ → Option Out
  sent : σ → Option σ
  reads : σ → Bool
  receive : σ → In → Option σ

variable {σ τ : Type u} {ε δ : Type v} {U D Out In : Type w}

/-- Two parties and what is under way between them. -/
structure Joint (σ τ : Type u) (U D : Type w) where
  left : σ
  right : τ
  forth : List U
  back : List D

def Joint.swap (s : Joint σ τ U D) : Joint τ σ D U :=
  { left := s.right, right := s.left, forth := s.back, back := s.forth }

@[simp] theorem Joint.swap_swap (s : Joint σ τ U D) : s.swap.swap = s := rfl

/-- What a party can do in a conversation. -/
inductive Move (ε : Type v)
  | own (e : ε)
  | sent
  | receive
deriving DecidableEq, Repr

/-- A move of the left party, over a channel with room for `capacity` messages. -/
def move (P : Party σ ε U D) (capacity : Nat) (s : Joint σ τ U D) :
    Move ε → Option (Joint σ τ U D)
  | .own e => (P.step s.left e).map fun left => { s with left }
  | .sent =>
      match P.offer s.left with
      | none => none
      | some m =>
          if s.forth.length < capacity then
            (P.sent s.left).map fun left => { s with left, forth := s.forth ++ [m] }
          else none
  | .receive =>
      match s.back with
      | [] => none
      | m :: back => (P.receive s.left m).map fun left => { s with left, back }

/-- Who moves, and how. -/
inductive Event (ε δ : Type v)
  | left (m : Move ε)
  | right (m : Move δ)
deriving DecidableEq, Repr

def step (L : Party σ ε U D) (R : Party τ δ D U) (capacity : Nat) (s : Joint σ τ U D) :
    Event ε δ → Option (Joint σ τ U D)
  | .left m => move L capacity s m
  | .right m => (move R capacity s.swap m).map Joint.swap

variable {P : Party σ ε U D} {L : Party σ ε U D} {R : Party τ δ D U} {s t : Joint σ τ U D}

/-- What the three moves come to. -/
inductive Moved (P : Party σ ε U D) (s : Joint σ τ U D) : Move ε → Joint σ τ U D → Prop
  | own {e : ε} {left : σ} (hstep : P.step s.left e = some left) :
      Moved P s (.own e) { s with left }
  | sent {m : U} {left : σ} (hoffer : P.offer s.left = some m)
      (hsent : P.sent s.left = some left) :
      Moved P s .sent { s with left, forth := s.forth ++ [m] }
  | receive {m : D} {back : List D} {left : σ} (hback : s.back = m :: back)
      (hreceive : P.receive s.left m = some left) :
      Moved P s .receive { s with left, back }

theorem move_spec {capacity : Nat} {m : Move ε} (h : move P capacity s m = some t) :
    Moved P s m t := by
  cases m with
  | own e =>
      obtain ⟨left, hstep, rfl⟩ := Option.map_eq_some_iff.mp h
      exact .own hstep
  | sent =>
      simp only [move] at h
      split at h
      · cases h
      · rename_i m hoffer
        split at h
        · obtain ⟨left, hsent, rfl⟩ := Option.map_eq_some_iff.mp h
          exact .sent hoffer hsent
        · cases h
  | receive =>
      simp only [move] at h
      split at h
      · cases h
      · rename_i m back hback
        obtain ⟨left, hreceive, rfl⟩ := Option.map_eq_some_iff.mp h
        exact .receive hback hreceive

theorem Moved.right_eq {m : Move ε} (h : Moved P s m t) : t.right = s.right := by
  cases h <;> rfl

theorem room_of_sent {capacity : Nat} (h : move P capacity s .sent = some t) :
    s.forth.length < capacity := by
  simp only [move] at h
  split at h
  · cases h
  · split at h
    · assumption
    · cases h

theorem move_mono {capacity capacity' : Nat} (hle : capacity ≤ capacity') {m : Move ε}
    (h : move P capacity s m = some t) : move P capacity' s m = some t := by
  cases m with
  | own e => exact h
  | receive => exact h
  | sent =>
      simp only [move] at h ⊢
      split at h
      · cases h
      · split at h
        · rename_i hlt
          rw [if_pos (Nat.lt_of_lt_of_le hlt hle)]
          exact h
        · cases h

theorem step_mono {capacity capacity' : Nat} (hle : capacity ≤ capacity') {e : Event ε δ}
    (h : step L R capacity s e = some t) : step L R capacity' s e = some t := by
  cases e with
  | left m => exact move_mono hle h
  | right m =>
      obtain ⟨r, hmove, rfl⟩ := Option.map_eq_some_iff.mp h
      rw [step, move_mono hle hmove]
      rfl

theorem reach_mono {ok : Joint σ τ U D → Event ε δ → Prop} {capacity capacity' : Nat}
    (hle : capacity ≤ capacity') (h : Reach (step L R capacity) ok s t) :
    Reach (step L R capacity') ok s t := by
  refine Relation.ReflTransGen.mono ?_ _ _ h
  rintro a b ⟨e, hok, hstep⟩
  exact ⟨e, hok, step_mono hle hstep⟩

/-- A property of conversations that each party keeps, whichever of the two it is. -/
theorem step_invariant {I : Joint σ τ U D → Prop} {J : Joint τ σ D U → Prop}
    (hswap : ∀ s, I s ↔ J s.swap) (hleft : ∀ s m t, I s → Moved L s m t → I t)
    (hright : ∀ s m t, J s → Moved R s m t → J t) {capacity : Nat} {e : Event ε δ} (hI : I s)
    (h : step L R capacity s e = some t) : I t := by
  cases e with
  | left m => exact hleft s m t hI (move_spec h)
  | right m =>
      obtain ⟨r, hmove, rfl⟩ := Option.map_eq_some_iff.mp h
      exact (hswap _).mpr (hright _ m r ((hswap s).mp hI) (move_spec hmove))

end Rlirsh.Lib.Parties
