import Mathlib.Data.List.Induction
import Mathlib.Logic.Relation
import Mathlib.Order.RelClasses

/-!
Machines given by a partial transition function.  A run is restricted by a
predicate on the steps it may take, so that one invariant rule serves both the
unrestricted runs and the runs under an assumption on the environment.
-/

namespace Rlirsh.Lib.Machine

universe u v w x

variable {σ : Type u} {ε : Type v}

/-- One step on an event that `ok` admits in the state it is taken from. -/
def Step (step : σ → ε → Option σ) (ok : σ → ε → Prop) (s t : σ) : Prop :=
  ∃ e, ok s e ∧ step s e = some t

/-- `t` is reached from `s` by admitted steps. -/
def Reach (step : σ → ε → Option σ) (ok : σ → ε → Prop) : σ → σ → Prop :=
  Relation.ReflTransGen (Step step ok)

/-- Every step is admitted. -/
def Any : σ → ε → Prop := fun _ _ => True

/-- Execute a list of events, failing at the first one that is not enabled. -/
def run (step : σ → ε → Option σ) : σ → List ε → Option σ
  | s, [] => some s
  | s, e :: es => (step s e).bind fun t => run step t es

variable {step : σ → ε → Option σ} {ok ok' : σ → ε → Prop} {s t r : σ}

theorem Reach.refl (s : σ) : Reach step ok s s := Relation.ReflTransGen.refl

theorem Reach.snoc {e : ε} (h : Reach step ok s t) (hok : ok t e)
    (hstep : step t e = some r) : Reach step ok s r :=
  Relation.ReflTransGen.tail h ⟨e, hok, hstep⟩

theorem Reach.trans (h : Reach step ok s t) (h' : Reach step ok t r) :
    Reach step ok s r :=
  Relation.ReflTransGen.trans h h'

theorem Reach.mono (himp : ∀ s e, ok s e → ok' s e) (h : Reach step ok s t) :
    Reach step ok' s t :=
  Relation.ReflTransGen.mono (fun _ _ ⟨e, hok, hstep⟩ => ⟨e, himp _ e hok, hstep⟩) _ _ h

/-- The invariant rule: what holds at the start and is kept by every admitted
step out of a reached state holds in every reached state. -/
theorem Reach.invariant {P : σ → Prop} (h : Reach step ok s t) (hinit : P s)
    (hstep : ∀ a e b, Reach step ok s a → P a → ok a e → step a e = some b → P b) :
    P t := by
  induction h with
  | refl => exact hinit
  | tail hreach hlast ih =>
      obtain ⟨e, hok, he⟩ := hlast
      exact hstep _ e _ hreach ih hok he

/-- Narrow the admitted steps with facts that hold in every reached state. -/
theorem Reach.restrict {P : σ → Prop} (h : Reach step ok s t) (hinit : P s)
    (hstep : ∀ a e b, P a → ok a e → step a e = some b → ok' a e ∧ P b) :
    Reach step ok' s t ∧ P t := by
  induction h with
  | refl => exact ⟨Reach.refl s, hinit⟩
  | tail _ hlast ih =>
      obtain ⟨e, hok, he⟩ := hlast
      obtain ⟨hok', hP⟩ := hstep _ e _ ih.2 hok he
      exact ⟨ih.1.snoc hok' he, hP⟩

/-- Functional simulation with stuttering: every admitted step of the concrete
machine is one admitted step of the abstract one, or leaves its state alone. -/
theorem Reach.simulate {τ : Type w} {δ : Type x} {astep : τ → δ → Option τ}
    {aok : τ → δ → Prop} (f : σ → τ) {P : σ → Prop}
    (h : Reach step ok s t) (hinit : P s)
    (hstep : ∀ a e b, P a → ok a e → step a e = some b →
      P b ∧ (f b = f a ∨ Step astep aok (f a) (f b))) :
    Reach astep aok (f s) (f t) := by
  have hboth : P t ∧ Reach astep aok (f s) (f t) := by
    induction h with
    | refl => exact ⟨hinit, Reach.refl _⟩
    | tail _ hlast ih =>
        obtain ⟨e, hok, he⟩ := hlast
        obtain ⟨hP, hcase⟩ := hstep _ e _ ih.1 hok he
        rcases hcase with heq | hastep
        · exact ⟨hP, heq ▸ ih.2⟩
        · exact ⟨hP, Relation.ReflTransGen.tail ih.2 hastep⟩
  exact hboth.2

/-- Every run of admitted steps out of `s` that is continued as long as a step is
admitted comes to a state where `P` holds. -/
inductive Inevitable (step : σ → ε → Option σ) (ok : σ → ε → Prop) (P : σ → Prop) : σ → Prop
  | now {s : σ} (h : P s) : Inevitable step ok P s
  | later {s : σ} (henabled : ∃ t, Step step ok s t)
      (hnext : ∀ t, Step step ok s t → Inevitable step ok P t) : Inevitable step ok P s

/-- The rank rule: away from `P` some step is admitted, and every admitted step reaches
`P` or keeps the invariant and lowers the rank. -/
theorem Inevitable.of_rank {α : Type w} [LT α] [WellFoundedLT α] {I P : σ → Prop}
    (rank : σ → α) (hI : I s) (henabled : ∀ a, I a → P a ∨ ∃ b, Step step ok a b)
    (hstep : ∀ a e b, I a → ok a e → step a e = some b → P b ∨ I b ∧ rank b < rank a) :
    Inevitable step ok P s := by
  induction hn : rank s using WellFoundedLT.induction generalizing s with
  | ind n ih =>
      rcases henabled s hI with hP | hsome
      · exact .now hP
      · refine .later hsome fun t ht => ?_
        obtain ⟨e, hok, he⟩ := ht
        rcases hstep s e t hI hok he with hP | ⟨hIt, hlt⟩
        · exact .now hP
        · exact ih (rank t) (hn ▸ hlt) hIt rfl

theorem run_append (es es' : List ε) :
    run step s (es ++ es') = (run step s es).bind fun t => run step t es' := by
  induction es generalizing s with
  | nil => rfl
  | cons e es ih =>
      simp only [List.cons_append, run]
      cases step s e with
      | none => rfl
      | some t => simpa using ih (s := t)

theorem run_history {P : List ε → σ → Prop} {es : List ε} (hrun : run step s es = some t)
    (hinit : P [] s)
    (hstep : ∀ es a e b, P es a → step a e = some b → P (es ++ [e]) b) : P es t := by
  induction es using List.reverseRecOn generalizing t with
  | nil =>
      obtain rfl := Option.some.inj hrun
      exact hinit
  | append_singleton es e ih =>
      rw [run_append, Option.bind_eq_some_iff] at hrun
      obtain ⟨a, hes, he⟩ := hrun
      simp only [run, Option.bind_eq_some_iff, Option.some.injEq] at he
      obtain ⟨b, hb, rfl⟩ := he
      exact hstep es a e b (ih hes) hb

theorem reach_of_run {es : List ε} (h : run step s es = some t) :
    Reach step Any s t := by
  induction es generalizing s with
  | nil =>
      simp only [run, Option.some.injEq] at h
      exact h ▸ Reach.refl s
  | cons e es ih =>
      simp only [run, Option.bind_eq_some_iff] at h
      obtain ⟨a, hstep, hrun⟩ := h
      exact ((Reach.refl s).snoc trivial hstep).trans (ih hrun)

/-- The transition function that takes the admitted steps only. -/
def guarded (step : σ → ε → Option σ) (ok : σ → ε → Prop) [∀ s e, Decidable (ok s e)]
    (s : σ) (e : ε) : Option σ :=
  if ok s e then step s e else none

theorem reach_of_guarded [∀ s e, Decidable (ok s e)] {es : List ε}
    (h : run (guarded step ok) s es = some t) :
    run step s es = some t ∧ Reach step ok s t := by
  induction es generalizing s with
  | nil =>
      simp only [run, Option.some.injEq] at h
      exact ⟨congrArg some h, h ▸ Reach.refl s⟩
  | cons e es ih =>
      simp only [run, guarded, Option.bind_eq_some_iff] at h
      obtain ⟨a, hstep, hrun⟩ := h
      by_cases hok : ok s e
      · rw [if_pos hok] at hstep
        obtain ⟨hrun', hreach⟩ := ih hrun
        exact ⟨by simp [run, hstep, hrun'], ((Reach.refl s).snoc hok hstep).trans hreach⟩
      · simp [hok] at hstep

end Rlirsh.Lib.Machine
