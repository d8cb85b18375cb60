import Rlirsh.Session.Potential

namespace Rlirsh.Session

open Rlirsh.Protocol
open Rlirsh.Terminal (PtyMaster)
open Rlirsh.Lib
open Rlirsh.Lib.Machine
open Rlirsh.Stream
open Rlirsh.Execute

/-- A read of the standard input of the client. -/
def stdinRead : Event → Bool
  | .client (.side (.source _ (.read _))) => true
  | _ => false

/-- Nothing comes into the session any more: the output of the child is at its end, and its
standard input is too or, without `eof`, says nothing. -/
def Draining (eof : Bool) (s : State) (e : Event) : Prop :=
  Steady s e ∧ credit e = 0 ∧ (stdinRead e = true → eof = true)

instance (eof : Bool) (s : State) (e : Event) : Decidable (Draining eof s e) :=
  inferInstanceAs (Decidable (_ ∧ _))

variable {capacity : Nat} {pty : Option PtyMaster} {eof : Bool} {s t : State} {id : StreamId}

theorem credit_of_internal {e : Event} (hinternal : external e = false) : credit e = 0 := by
  have hside {e : Side.Event} (he : Side.external e = false) : Side.credit e = 0 := by
    unfold Side.credit
    split
    · unfold Source.Event.credit
      split
      · cases he
      · rfl
    · rename_i e
      cases e <;> first | rfl | cases he
    · rfl
  cases e with
  | client e =>
      cases e with
      | side e => exact hside hinternal
      | windowSignal size => cases hinternal
      | _ => rfl
  | server e =>
      cases e with
      | side e => exact hside hinternal
      | _ => rfl

theorem draining_of_internal {e : Event} (hinternal : external e = false)
    (hunfailing : unfailing e = true) : Draining eof s e := by
  have hconnected : connected e = true := by
    unfold connected
    split <;> first | rfl | cases hinternal
  have htidy {e : Side.Event} (he : Side.external e = false) : tidy e = true := by
    unfold tidy
    split <;> first | rfl | cases he
  have horderly : orderly e = true := by
    unfold orderly
    split
    · exact htidy hinternal
    · exact htidy hinternal
    · rfl
  refine ⟨⟨⟨hconnected, horderly⟩, hunfailing⟩, credit_of_internal hinternal, fun hread => ?_⟩
  unfold stdinRead at hread
  split at hread
  · cases hinternal
  · cases hread

theorem reader_enabled {T : Type} [Message T] {env : Env} {side : Side T} {a : Source.Task}
    (get : side.sources.get id = some a) (hreading : a.reading = true) :
    (side.step env (.source id (.read (.ok [])))).isSome = true := by
  have hpc : a.pc = .select := by
    unfold Source.Task.reading at hreading
    split at hreading
    · assumption
    · cases hreading
  simp [Side.step, Side.stepSource, get, Source.Task.onRead, hpc, Side.steppedSource]

theorem writer_enabled {T : Type} [Message T] {env : Env} {side : Side T} {a : Sink.Task}
    (get : side.sinks.get id = some a) (hvalid : Sink.Valid a) (hwriting : a.writing = true) :
    ∃ e, (e = .written .ok ∨ e = .flushed .ok ∨ e = .shutdownDone) ∧
      (side.step env (.sink id e)).isSome = true := by
  have hcurrent (hpc : a.pc = .write ∨ a.pc = .flush) :
      ∃ c, a.current = some c ∧ a.isClosed = false := by
    cases hc : a.current with
    | none =>
        rcases hvalid.idle hc with hidle | hidle | hidle <;> rw [hidle] at hpc <;> simp at hpc
    | some c =>
        have hstage := hvalid.stage c hc
        rcases hpc with hpc | hpc <;> rw [hpc] at hstage <;> exact ⟨c, rfl, hstage.1⟩
  unfold Sink.Task.writing at hwriting
  split at hwriting
  · rename_i hpc
    obtain ⟨c, hc, hopen⟩ := hcurrent (Or.inl hpc)
    refine ⟨.written .ok, Or.inl rfl, ?_⟩
    simp [Side.step, Side.stepSink, get, Sink.Task.onWritten, hpc, hc, hopen, Sink.doIfNotClosed,
      Side.steppedSink]
  · rename_i hpc
    obtain ⟨c, hc, hopen⟩ := hcurrent (Or.inr hpc)
    refine ⟨.flushed .ok, Or.inr (Or.inl rfl), ?_⟩
    simp [Side.step, Side.stepSink, get, Sink.Task.onFlushed, hpc, hc, hopen, Sink.doIfNotClosed,
      Side.steppedSink]
  · rename_i hpc
    refine ⟨.shutdownDone, Or.inr (Or.inr rfl), ?_⟩
    simp [Side.step, Side.stepSink, get, Sink.Task.onShutdown, hpc, Side.steppedSink]
  · cases hwriting

theorem server_side_enabled {e : Side.Event}
    (h : (s.server.side.step s.server.env e).isSome = true) (hne : e ≠ .sender .sent) :
    ∃ t, step capacity s (.server (.side e)) = some t := by
  obtain ⟨side, hside⟩ := Option.isSome_iff_exists.mp h
  exact ⟨_, server_side_step hside hne⟩

theorem client_side_enabled {e : Side.Event} (halive : s.client.returned = false)
    (h : (s.client.side.step s.client.env e).isSome = true) (hne : e ≠ .sender .sent) :
    ∃ t, step capacity s (.client (.side e)) = some t := by
  obtain ⟨side, hside⟩ := Option.isSome_iff_exists.mp h
  exact ⟨_, client_side_step halive hside hne⟩

theorem draining_writer {e : Sink.Event} (he : e = .written .ok ∨ e = .flushed .ok ∨
    e = .shutdownDone) (s : State) : Draining eof s (.client (.side (.sink id e))) ∧
      Draining eof s (.server (.side (.sink id e))) := by
  rcases he with rfl | rfl | rfl <;>
    exact ⟨⟨⟨⟨rfl, rfl⟩, rfl⟩, rfl, nofun⟩, ⟨⟨⟨rfl, rfl⟩, rfl⟩, rfl, nofun⟩⟩

theorem client_alive_of_writing {a : Sink.Task} (hintact : Intact pty s)
    (get : s.client.side.sinks.get id = some a) (hwriting : a.writing = true) :
    s.client.returned = false := by
  apply Bool.eq_false_iff.mpr
  intro hreturned
  obtain ⟨-, -, hsender⟩ := hintact.of_returned hreturned
  obtain ⟨hquiet, -⟩ :=
    hintact.sound.settled.transit.client.sender.closed (by rw [Side.closing, hsender])
  rw [hquiet.not_writing get] at hwriting
  cases hwriting

theorem Waiting.enabled (h : Waiting s) (hintact : Intact pty s) :
    ∃ e t, Draining eof s e ∧ heard s e = true ∧ step capacity s e = some t := by
  cases h with
  | child running =>
      have hsome : (step capacity s (.server (.childExited (.code 0)))).isSome = true := by
        simp [step, Server.step, running, push, pull, Server.State.output, Server.Event.input]
      obtain ⟨t, ht⟩ := Option.isSome_iff_exists.mp hsome
      exact ⟨.server (.childExited (.code 0)), t, ⟨⟨⟨rfl, rfl⟩, rfl⟩, rfl, fun h => by cases h⟩,
        rfl, ht⟩
  | @output id a get hreading =>
      obtain ⟨t, ht⟩ := server_side_enabled (reader_enabled get hreading) (by simp)
      exact ⟨.server (.side (.source id (.read (.ok [])))), t,
        ⟨⟨⟨rfl, rfl⟩, rfl⟩, rfl, fun h => by cases h⟩, rfl, ht⟩
  | @serverWriter id a get hwriting =>
      have hvalid := (hintact.sound.inward id).inv.tasks.2
      obtain ⟨e, he, hsome⟩ := writer_enabled get (Side.view_sink get ▸ hvalid) hwriting
      obtain ⟨t, ht⟩ := server_side_enabled hsome (by simp)
      exact ⟨_, t, (draining_writer he s).2, rfl, ht⟩
  | @clientWriter id a get hwriting =>
      have hvalid := (hintact.sound.outward id).inv.tasks.2
      obtain ⟨e, he, hsome⟩ := writer_enabled get (Side.view_sink get ▸ hvalid) hwriting
      obtain ⟨t, ht⟩ :=
        client_side_enabled (client_alive_of_writing hintact get hwriting) hsome (by simp)
      exact ⟨_, t, (draining_writer he s).1, rfl, ht⟩

/-- A task that can take a step can take one that does not fail. -/
theorem unfailing_enabled {e : Event} (hinternal : external e = false) (hheard : heard s e = true)
    (hstep : step capacity s e = some t) :
    ∃ e' t', external e' = false ∧ unfailing e' = true ∧ heard s e' = true ∧
      step capacity s e' = some t' := by
  by_cases hunfailing : unfailing e = true
  · exact ⟨e, t, hinternal, hunfailing, hheard, hstep⟩
  · obtain rfl : e = .client (.handlersJoined false) := by
      unfold unfailing at hunfailing
      split at hunfailing
      · cases hinternal
      · rfl
      · exact absurd rfl hunfailing
    obtain ⟨hstepped, halive, -⟩ := client_spec hstep
    generalize t.client = d at hstepped
    cases hstepped with
    | notLeft pc ok =>
        have hsome : (step capacity s (.client (.handlersJoined true))).isSome = true := by
          simp [step, Client.step, halive, pc, ok, push, pull, Client.State.output,
            Client.Event.input]
        obtain ⟨t', ht'⟩ := Option.isSome_iff_exists.mp hsome
        exact ⟨_, t', rfl, rfl, rfl, ht'⟩

theorem draining_enabled (eof : Bool) (hcapacity : 0 < capacity)
    (h : Reach (step capacity) Steady (new pty []) s) :
    (∃ status, Final status s) ∨
      ∃ e t, Draining eof s e ∧ heard s e = true ∧ step capacity s e = some t := by
  have hintact := intact_of_reach h
  by_cases hjammed : Jammed capacity s
  · by_cases hwaiting : Waiting s
    · exact Or.inr (hwaiting.enabled hintact)
    · exact Or.inl (Idle.final ⟨hjammed, hintact, hjammed.calm hintact hcapacity, hwaiting⟩)
  · right
    simp only [Jammed, not_forall] at hjammed
    obtain ⟨e, hinternal, hheard, hstep⟩ := hjammed
    obtain ⟨t, ht⟩ := Option.ne_none_iff_exists'.mp hstep
    obtain ⟨e', t', hinternal', hunfailing, hheard', hstep'⟩ :=
      unfailing_enabled hinternal hheard ht
    exact ⟨e', t', draining_of_internal hinternal' hunfailing, hheard', hstep'⟩

/-- Every session without forwarded ports, whatever has happened in it so far, comes to its
end when nothing more comes into it, whichever steps its tasks take. -/
theorem ends (capacity : Nat) (hcapacity : 0 < capacity) (pty : Option PtyMaster) (eof : Bool)
    (s : State) (h : Reach (step capacity) Steady (new pty []) s) :
    Inevitable (step capacity) (Draining eof) (fun t => ∃ status, Final status t) s := by
  apply paid.inevitable (fun _ _ hok => hok.2.1)
  intro r hr
  rcases draining_enabled eof hcapacity (h.trans (hr.mono fun _ _ hok => hok.1)) with
    hfinal | ⟨e, t, hdraining, -, hstep⟩
  · exact Or.inl hfinal
  · exact Or.inr ⟨t, e, hdraining, hstep⟩

theorem ends_silent :
    Inevitable (step 1) (Draining false) (fun t => ∃ status, Final status t)
      (new (some (.accepting ⟨24, 80, 0, 0⟩)) []) :=
  ends 1 Nat.zero_lt_one _ false _ (Reach.refl _)

end Rlirsh.Session
