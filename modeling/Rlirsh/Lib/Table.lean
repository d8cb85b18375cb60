import Mathlib.Algebra.BigOperators.Group.List.Basic
import Mathlib.Algebra.GroupWithZero.Nat
import Mathlib.Data.List.AList

namespace Rlirsh.Lib

universe u v

/-- A finite partial function. -/
structure Table (κ : Type u) (α : Type v) where
  entries : AList fun _ : κ => α

namespace Table

variable {κ : Type u} {α : Type v}

def empty : Table κ α := ⟨∅⟩

/-- The sum of `f` over the entries. -/
def sum (t : Table κ α) (f : α → Nat) : Nat := (t.entries.entries.map fun e => f e.2).sum

@[simp] theorem sum_empty (f : α → Nat) : (empty : Table κ α).sum f = 0 := rfl

variable [DecidableEq κ]

def get (t : Table κ α) (k : κ) : Option α := t.entries.lookup k

def set (t : Table κ α) (k : κ) (a : α) : Table κ α := ⟨t.entries.insert k a⟩

def ofEntries (es : List (κ × α)) : Table κ α := es.foldr (fun e t => t.set e.1 e.2) empty

/-- The table of `f` on a list of keys. -/
def ofList (ks : List κ) (f : κ → α) : Table κ α := ofEntries (ks.map fun k => (k, f k))

/-- Every entry satisfies `P`. -/
def All (t : Table κ α) (P : α → Prop) : Prop := ∀ e ∈ t.entries.entries, P e.2

instance (t : Table κ α) (P : α → Prop) [DecidablePred P] : Decidable (t.All P) :=
  inferInstanceAs (Decidable (∀ e ∈ t.entries.entries, P e.2))

@[simp] theorem get_empty (k : κ) : (empty : Table κ α).get k = none := rfl

@[grind =] theorem get_set (t : Table κ α) (k k' : κ) (a : α) :
    (t.set k a).get k' = if k' = k then some a else t.get k' := by
  unfold get set
  split
  · rename_i h
    rw [h, AList.lookup_insert]
  · rename_i h
    exact AList.lookup_insert_ne h

@[simp] theorem get_set_self (t : Table κ α) (k : κ) (a : α) : (t.set k a).get k = some a := by
  simp [get_set]

theorem get_ofList (ks : List κ) (f : κ → α) (k : κ) :
    (ofList ks f).get k = if k ∈ ks then some (f k) else none := by
  induction ks with
  | nil => rfl
  | cons k' ks ih =>
      simp only [ofList, ofEntries, List.map_cons, List.foldr_cons] at ih ⊢
      rw [get_set, ih]
      by_cases h : k = k' <;> simp [h]

theorem get_ofEntries {es : List (κ × α)} (hnodup : (es.map Prod.fst).Nodup) {k : κ} {a : α} :
    (ofEntries es).get k = some a ↔ (k, a) ∈ es := by
  induction es with
  | nil => simp [ofEntries]
  | cons e es ih =>
      obtain ⟨k', a'⟩ := e
      rw [List.map_cons, List.nodup_cons] at hnodup
      have hget := ih hnodup.2
      simp only [ofEntries, List.foldr_cons] at hget ⊢
      rw [get_set, List.mem_cons]
      by_cases h : k = k'
      · subst h
        have hnot : (k, a) ∉ es := by
          intro hmem
          exact hnodup.1 (List.mem_map.mpr ⟨_, hmem, rfl⟩)
        simp [hnot, eq_comm]
      · simp [h, hget]

theorem sum_kerase (es : List (Sigma fun _ : κ => α)) (k : κ) (f : α → Nat) :
    ((es.kerase k).map fun e => f e.2).sum + (es.dlookup k).elim 0 f =
      (es.map fun e => f e.2).sum := by
  induction es with
  | nil => rfl
  | cons e es ih =>
      obtain ⟨k', a⟩ := e
      by_cases hk : k = k'
      · subst hk
        have hkerase : List.kerase k (⟨k, a⟩ :: es) = es := List.kerase_cons_eq rfl
        rw [hkerase, List.dlookup_cons_eq, List.map_cons, List.sum_cons]
        exact Nat.add_comm _ _
      · rw [List.kerase_cons_ne hk, List.dlookup_cons_ne es ⟨k', a⟩ hk, List.map_cons,
          List.map_cons, List.sum_cons, List.sum_cons, ← ih, Nat.add_assoc]

theorem sum_set (t : Table κ α) (k : κ) (a : α) (f : α → Nat) :
    (t.set k a).sum f + (t.get k).elim 0 f = t.sum f + f a := by
  have hsum := sum_kerase t.entries.entries k f
  have hset : (t.set k a).sum f = f a + ((t.entries.entries.kerase k).map fun e => f e.2).sum := by
    rw [sum, set, AList.entries_insert, List.map_cons, List.sum_cons]
  have hget : (t.get k).elim 0 f = (t.entries.entries.dlookup k).elim 0 f := rfl
  rw [hset, hget, sum, ← hsum]
  omega

theorem sum_set_of_get {t : Table κ α} {k : κ} {a b : α} (f : α → Nat) (h : t.get k = some b) :
    (t.set k a).sum f + f b = t.sum f + f a := by
  have hsum := sum_set t k a f
  rwa [h] at hsum

theorem sum_set_le (t : Table κ α) (k : κ) (a : α) (f : α → Nat) :
    (t.set k a).sum f ≤ t.sum f + f a := by
  have hsum := sum_set t k a f
  omega

theorem sum_ofEntries_le (es : List (κ × α)) (f : α → Nat) {n : Nat}
    (h : ∀ e ∈ es, f e.2 ≤ n) : (ofEntries es).sum f ≤ es.length * n := by
  induction es with
  | nil => exact Nat.zero_le _
  | cons e es ih =>
      have he := h e (List.mem_cons_self ..)
      have hes := ih fun e' he' => h e' (List.mem_cons_of_mem _ he')
      have hset := sum_set_le (ofEntries es) e.1 e.2 f
      rw [List.length_cons, Nat.succ_mul]
      exact hset.trans (by omega)

theorem all_iff {t : Table κ α} {P : α → Prop} :
    t.All P ↔ ∀ k a, t.get k = some a → P a := by
  constructor
  · intro h k a hget
    exact h ⟨k, a⟩ (AList.mem_lookup_iff.mp hget)
  · rintro h ⟨k, a⟩ hmem
    exact h k a (AList.mem_lookup_iff.mpr hmem)

end Table

end Rlirsh.Lib
