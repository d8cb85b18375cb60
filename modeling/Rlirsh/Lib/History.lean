import Mathlib.Data.List.Basic

namespace Rlirsh.Lib.History

universe u

variable {α : Type u} {R : List α → α → Prop} {log : List α} {a : α}

/-- Every entry is in the relation `R` with what is before it. -/
def Each (R : List α → α → Prop) (log : List α) : Prop :=
  ∀ before a after, log = before ++ a :: after → R before a

theorem each_nil : Each R [] := by
  intro before a after h
  simp at h

theorem each_snoc : Each R (log ++ [a]) ↔ Each R log ∧ R log a := by
  constructor
  · intro h
    refine ⟨fun before b after hlog => ?_, h log a [] rfl⟩
    exact h before b (after ++ [a]) (by simp [hlog])
  · rintro ⟨h, ha⟩ before b after hlog
    rcases List.eq_nil_or_concat after with rfl | ⟨after, c, rfl⟩
    · obtain ⟨rfl, rfl⟩ := List.append_singleton_inj.mp hlog
      exact ha
    · rw [List.concat_eq_append, ← List.cons_append, ← List.append_assoc] at hlog
      exact h before b after (List.append_singleton_inj.mp hlog).1

theorem Each.next {before after : List α} (h : Each R log) (hlog : log = before ++ a :: after) :
    R before a :=
  h before a after hlog

end Rlirsh.Lib.History
