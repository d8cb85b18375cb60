import Mathlib.Data.Prod.Lex
import Rlirsh.Lib.Framed

/-!
Streams run dry.  Between two steps of the conversation only finitely many bytes can be written
and read, so that a conversation that comes to its end does so over the streams.
-/

namespace Rlirsh.Lib.Framed

open Rlirsh.Lib.Machine
open Rlirsh.Lib.Parties

universe u v w x

variable {β : Type u} {F : Framer.{u, v} β} {M : Type w} {encode : M → Option (List β)}
  {offer : Option M} {q q' : Pipe F M} {n : Nat}

/-- What is left to write of the message a writer offers. -/
def Pipe.left (encode : M → Option (List β)) (offer : Option M) (q : Pipe F M) : List β :=
  match offer.bind encode with
  | none => []
  | some b => (q.writing.map Prod.snd).getD (F.frame b)

/-- The writes and reads that are due at most.  A byte that is written is still to be read. -/
def Pipe.due (encode : M → Option (List β)) (offer : Option M) (q : Pipe F M) : Nat :=
  2 * (q.left encode offer).length + q.bytes.length

theorem Pipe.due_write {m : M} (hwrite : q.write encode m n = some (false, q')) :
    q'.due encode (some m) < q.due encode (some m) := by
  obtain ⟨b, hencode, hpos, ⟨-, hlt, rfl⟩ | ⟨hdone, -⟩⟩ := Pipe.write_spec hwrite
  · simp only [Pipe.due, Pipe.left, Option.bind_some, hencode, Option.map_some, Option.getD_some,
      List.length_append, List.length_drop, List.length_take]
    omega
  · cases hdone

theorem Pipe.due_read {decode : List β → Option M} {res : Option M}
    (hread : q.read decode n = some (res, q')) : q'.due encode offer < q.due encode offer := by
  obtain ⟨hpos, hle, hbytes, hwriting⟩ : 0 < n ∧ n ≤ q.bytes.length ∧
      q'.bytes = q.bytes.drop n ∧ q'.writing = q.writing := by
    unfold Pipe.read at hread
    split at hread
    · cases hread
    · split at hread
      · rename_i hn
        refine ⟨hn.1, hn.2.2, ?_⟩
        repeat' split at hread
        all_goals
          obtain ⟨-, rfl⟩ := Prod.mk.inj (Option.some.inj hread)
          exact ⟨rfl, rfl⟩
      · cases hread
  simp only [Pipe.due, Pipe.left, hbytes, hwriting, List.length_drop]
  omega

variable {σ τ : Type x} {ε δ : Type x} {U D : Type w} {L : Coded β σ ε U D}
  {R : Coded β τ δ D U} {s t : Wired F σ τ U D}

/-- The writes and reads that are due in both directions. -/
def Wired.due (L : Coded β σ ε U D) (R : Coded β τ δ D U) (s : Wired F σ τ U D) : Nat :=
  s.forth.due L.encode (L.offer s.left) + s.back.due R.encode (R.offer s.right)

theorem due_swap : s.swap.due R L = s.due L R := Nat.add_comm ..

theorem act_due [DecidableEq U] {a : Act ε} (hcompletes : completes L s a = none)
    (hact : act L s a = some t) : t.due L R < s.due L R := by
  cases a with
  | own e => cases hcompletes
  | write n =>
      simp only [act] at hact
      split at hact
      · cases hact
      · rename_i m hoffer
        split at hact
        · cases hact
        · rename_i forth hwrite
          obtain rfl := Option.some.inj hact
          have hlt := Pipe.due_write hwrite
          simp only [Wired.due, hoffer]
          omega
        · rename_i forth hwrite
          simp [completes, hoffer, hwrite] at hcompletes
  | read n =>
      simp only [act] at hact
      split at hact
      · split at hact
        · cases hact
        · rename_i back hread
          obtain rfl := Option.some.inj hact
          have hlt : back.due R.encode (R.offer s.right) < s.back.due R.encode (R.offer s.right) :=
            Pipe.due_read hread
          simp only [Wired.due]
          omega
        · rename_i m back hread
          simp [completes, hread] at hcompletes
      · cases hact

theorem move_of_serves [DecidableEq U] {m m' : Move ε} {a : Act ε} (hserves : Serves m a)
    (hcompletes : completes L s a = some m') : m' = m := by
  cases hserves with
  | own e => exact (Option.some.inj hcompletes).symm
  | write n =>
      simp only [completes] at hcompletes
      split at hcompletes
      · exact (Option.some.inj hcompletes).symm
      · cases hcompletes
  | read n =>
      simp only [completes] at hcompletes
      split at hcompletes
      · exact (Option.some.inj hcompletes).symm
      · cases hcompletes

variable [DecidableEq U] [DecidableEq D]

theorem step_due {e : Event ε δ} (hspeaks : speaks L R s e = none)
    (hstep : step L R s e = some t) : t.due L R < s.due L R := by
  cases e with
  | left a => exact act_due (Option.map_eq_none_iff.mp hspeaks) hstep
  | right a =>
      obtain ⟨r, hact, rfl⟩ := Option.map_eq_some_iff.mp hstep
      have hlt := act_due (R := L) (Option.map_eq_none_iff.mp hspeaks) hact
      rw [due_swap] at hlt
      rw [← due_swap]
      exact hlt

omit [DecidableEq D] in
theorem admitted_of_serves {ok : Joint σ τ U D → Parties.Event ε δ → Prop} {m : Move ε}
    {a : Act ε} (hok : ok s.conversation (.left m)) (hserves : Serves m a) :
    Admitted L R ok s (.left a) := by
  intro e hspeaks
  obtain ⟨m', hcompletes, rfl⟩ := Option.map_eq_some_iff.mp hspeaks
  rw [move_of_serves hserves hcompletes]
  exact hok

omit [DecidableEq U] in
theorem admitted_of_serves_right {ok : Joint σ τ U D → Parties.Event ε δ → Prop} {m : Move δ}
    {a : Act δ} (hok : ok s.conversation (.right m)) (hserves : Serves m a) :
    Admitted L R ok s (.right a) := by
  intro e hspeaks
  obtain ⟨m', hcompletes, rfl⟩ := Option.map_eq_some_iff.mp hspeaks
  rw [move_of_serves hserves hcompletes]
  exact hok

/-- What a step comes to over the streams is admitted with it, if reading always is. -/
theorem admitted_of_answers {ok : Joint σ τ U D → Parties.Event ε δ → Prop}
    {e : Parties.Event ε δ} {e' : Event ε δ} (hok : ok s.conversation e)
    (hleft : ok s.conversation (.left .receive)) (hright : ok s.conversation (.right .receive))
    (hanswers : Answers e e') : Admitted L R ok s e' := by
  cases hanswers with
  | left hserves => exact admitted_of_serves hok hserves
  | right hserves => exact admitted_of_serves_right hok hserves
  | forth n => exact admitted_of_serves_right hright (.read n)
  | back n => exact admitted_of_serves hleft (.read n)

/-- A conversation that every admitted step brings nearer to its end comes to it over the
streams, however little room they have, or to a message that has no form. -/
theorem Flows.inevitable {hL : Orderly L} {hR : Orderly R}
    {ok : Joint σ τ U D → Parties.Event ε δ → Prop} {I P : Joint σ τ U D → Prop}
    (rank : Joint σ τ U D → Nat) (hflows : Flows hL hR s) (hI : I s.conversation)
    (hfitsL : ∀ m b, L.encode m = some b → F.Fits b)
    (hfitsR : ∀ m b, R.encode m = some b → F.Fits b)
    (hreadsL : ∀ l m l', L.receive l m = some l' → L.reads l = true)
    (hreadsR : ∀ r m r', R.receive r m = some r' → R.reads r = true)
    (hagreed : ∀ a, I a → Agreed L R a ∧ Agreed R L a.swap)
    (hreceives : ∀ a, I a → ok a (.left .receive) ∧ ok a (.right .receive))
    (henabled : ∀ a, I a → P a ∨ ∃ e capacity b, ok a e ∧ Heard L R a e ∧
      Parties.step L.toParty R.toParty capacity a e = some b)
    (hstep : ∀ capacity a e b, I a → ok a e →
      Parties.step L.toParty R.toParty capacity a e = some b → I b ∧ rank b < rank a) :
    Inevitable (Framed.step L R) (Admitted L R ok)
      (fun t => P t.conversation ∨ ¬ Sendable L R t) s := by
  refine Inevitable.of_rank (I := fun t => Flows hL hR t ∧ I t.conversation)
    (fun t => toLex (rank t.conversation, t.due L R)) ⟨hflows, hI⟩ ?_ ?_
  · rintro a ⟨hflows, hI⟩
    obtain ⟨hagreedL, hagreedR⟩ := hagreed a.conversation hI
    rcases henabled a.conversation hI with hP | ⟨e, capacity, b, hok, hheard, hb⟩
    · exact Or.inl (Or.inl hP)
    · by_cases hsendable : Sendable L R a
      · obtain ⟨e', t, hanswers, ht⟩ := enabled_of_step hflows hfitsL hfitsR hagreedL hagreedR
          hsendable (hreadsL a.left) (hreadsR a.right) hheard hb
        obtain ⟨hleft, hright⟩ := hreceives a.conversation hI
        exact Or.inr ⟨t, e', admitted_of_answers hok hleft hright hanswers, ht⟩
      · exact Or.inl (Or.inr hsendable)
  · rintro a e b ⟨hflows, hI⟩ hadmitted hb
    obtain ⟨hagreedL, hagreedR⟩ := hagreed a.conversation hI
    obtain ⟨hflows', hspoken⟩ := hflows.step hfitsL hfitsR hagreedL hagreedR hb
    right
    cases hspeaks : speaks L R a e with
    | none =>
        -- bytes have moved and nothing has been said: fewer of them are due
        rw [hspeaks] at hspoken
        refine ⟨⟨hflows', ?_⟩, ?_⟩
        · rw [hspoken]
          exact hI
        · refine Prod.Lex.toLex_lt_toLex.mpr (Or.inr ⟨?_, step_due hspeaks hb⟩)
          rw [hspoken]
    | some e' =>
        rw [hspeaks] at hspoken
        obtain ⟨room, hroom⟩ := hspoken
        obtain ⟨hI', hlt⟩ :=
          hstep room a.conversation e' b.conversation hI (hadmitted e' hspeaks) (hroom room le_rfl)
        exact ⟨⟨hflows', hI'⟩, Prod.Lex.toLex_lt_toLex.mpr (Or.inl hlt)⟩

end Rlirsh.Lib.Framed
