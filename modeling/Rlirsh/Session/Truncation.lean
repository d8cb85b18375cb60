import Rlirsh.Session.Ending

namespace Rlirsh.Session

open Rlirsh.Protocol
open Rlirsh.Terminal (PtyMaster)
open Rlirsh.Lib
open Rlirsh.Lib.Machine
open Rlirsh.Stream
open Rlirsh.Execute

instance (s : State) (id : StreamId) : Decidable (Closed s id) :=
  inferInstanceAs (Decidable (_ ∈ _))

/-- The receiver of the client is not cut off between the exit status and the end of the
output. -/
def attentive (s : State) : Event → Bool
  | .client (.side (.receiver (.abort _ _ _))) =>
      match s.client.exitStatus with
      | some (some _) => decide (Closed s .stdout ∧ Closed s .stderr)
      | _ => true
  | _ => true

def Attentive (s : State) (e : Event) : Prop := attentive s e = true

instance (s : State) (e : Event) : Decidable (Attentive s e) :=
  inferInstanceAs (Decidable (_ = true))

/-- When the receiver of the client is cut off with the exit status, it has heard the end
of the output. -/
def Heeded (s : State) : Prop :=
  s.client.side.receiver.drained = true → ∀ status, s.client.exitStatus = some (some status) →
    Closed s .stdout ∧ Closed s .stderr

variable {capacity : Nat} {pty : Option PtyMaster} {ports : List Port} {s t : State}

theorem Heeded.step {e : Event} (h : Heeded s) (hok : Attentive s e)
    (hstep : step capacity s e = some t) : Heeded t := by
  cases e with
  | server e =>
      unfold Heeded Closed
      rw [(server_spec hstep).client]
      exact h
  | client e =>
      have hc := client_spec hstep
      have hgrow {id : StreamId} (hclosed : Closed s id) : Closed t id :=
        hc.stepped.holds.delivered.subset hclosed
      have hgrows (hclosed : Closed s .stdout ∧ Closed s .stderr) :
          Closed t .stdout ∧ Closed t .stderr := hclosed.imp hgrow hgrow
      suffices hbefore : t.client.side.receiver.drained = true →
          ∀ status, t.client.exitStatus = some (some status) →
            Closed s .stdout ∧ Closed s .stderr from
        fun hdrained status hexit => hgrows (hbefore hdrained status hexit)
      have hstepped := hc.stepped
      revert hstepped
      generalize t.client = d
      intro hstepped
      cases hstepped with
      | @side e side step =>
          intro hdrained status hexit
          rcases Side.drained_step step hdrained with hdrained' | ⟨_, _, _, rfl⟩
          · exact h hdrained' status hexit
          · simp only [] at hexit
            simpa [Attentive, attentive, hexit] using hok
      | take pc =>
          intro hdrained
          simp only [Side.take] at hdrained
          split at hdrained <;> simp [ReceiverPc.drained] at hdrained
      | exit pc => simp [pc, ReceiverPc.drained]
      | exitTwice | finished => simp [ReceiverPc.drained]
      | leave pc =>
          intro _ status hexit
          apply h (by simp [pc, ReceiverPc.drained]) status
          cases hexit' : s.client.exitStatus <;> simp_all
      | _ => exact h

theorem heeded_of_reach (h : Reach (step capacity) Attentive (new pty ports) s) : Heeded s :=
  h.invariant (P := Heeded) (by simp [Heeded, new, Client.new])
    fun _ _ _ _ hheeded hok hstep => hheeded.step hok hstep

theorem Settled.written_eq (h : Settled s) {id : StreamId} (hclosed : Closed s id)
    (hpc : (s.client.side.view.sink id).pc = .done)
    (hnot : ¬ (s.client.side.view.sink id).broken) :
    (s.server.side.view.source id).pc = .done ∧
      (s.client.side.view.sink id).written = (s.server.side.view.source id).read := by
  have hinv := (h.outward id).1
  have hmem : .sourceClosed ∈ (s.outward id).delivered := mem_filterMap_sourceOf.mpr hclosed
  have htook : (s.client.side.view.sink id).tookClosed = true := by
    rcases h.transit.client.abandoned id (Or.inr hpc) with htook | ⟨hrx, -, -⟩
    · exact htook
    · -- with an empty inbox it has taken all there was, and that is among it
      have htaken := hinv.conserved.taken_eq
      simp only [State.outward, Channel.channel, hrx, List.append_nil] at htaken hmem
      have hmem' := List.mem_append_left
        (Sink.closing (s.client.side.view.sink id).shut) hmem
      rw [← htaken] at hmem'
      simp only [Sink.Task.taken, List.mem_append, List.mem_map, reduceCtorEq, and_false,
        exists_false, false_or] at hmem'
      cases htook : (s.client.side.view.sink id).tookClosed with
      | true => rfl
      | false =>
          rw [htook] at hmem'
          cases hmem'
  exact ⟨(hinv.delivered_all hmem).1, hinv.written_of_delivered hmem htook hnot⟩

/-- A client that returns a status has heard the end of the output of the child. -/
theorem closed_of_ok (h : Reach (step capacity) Attentive (new pty ports) s)
    {status : ExitStatus} (hok : s.client.main = .ok status) {id : StreamId}
    (hid : id = .stdout ∨ id = .stderr) : Closed s id := by
  have hs := settled_of_reach h
  obtain ⟨⟨finished, hdone⟩, -⟩ := hs.client.ended status hok
  cases finished with
  | false =>
      have hclosed := heeded_of_reach h (by simp [hdone, ReceiverPc.drained]) status
        (hs.client.status status (Or.inr (Or.inr hok)))
      rcases hid with rfl | rfl
      · exact hclosed.1
      · exact hclosed.2
  | true =>
      have htold : Told s id := by
        rcases hid with rfl | rfl
        · exact told_of_client_done hs (farewell_of_reach h) hdone rfl hs.server.present.2.1
            hs.client.present.2.1
        · exact told_of_client_done hs (farewell_of_reach h) hdone rfl hs.server.present.2.2
            hs.client.present.2.2
      have hpc : (s.client.side.view.sink id).pc = .done := by
        have hjoined := hs.client.joined status (Or.inr hok)
        rcases hid with rfl | rfl
        · exact hjoined.1
        · exact hjoined.2
      rcases htold with hfailed | hclosed | ⟨-, hne⟩
      · simp [hfailed] at hpc
      · exact hclosed
      · exact absurd hdone hne

theorem exited_of_ok (hs : Settled s) {status : ExitStatus} (hok : s.client.main = .ok status) :
    s.server.exited = some status ∧ .exit status ∈ s.server.side.log := by
  have hreceived := hs.client.received status (hs.client.status status (Or.inr (Or.inr hok)))
  have hmem : ServerAction.exit status ∈ s.server.side.log := by
    rw [hs.transit.down]
    simp [hreceived]
  have hexit : status ∈ s.server.side.log.filterMap exitOf :=
    List.mem_filterMap.mpr ⟨_, hmem, rfl⟩
  rw [hs.server.exits] at hexit
  refine ⟨?_, hmem⟩
  split at hexit
  · simpa [Option.mem_toList] using hexit
  · simp at hexit

/-- No silent truncation of the output.  In every run in which the receiver of the client
is not cut off between the exit status and the end of the output, a client that returns
a status has it from the server, has heard the end of both streams, and has written all
that the server has read for each stream whose writer has not failed. -/
theorem no_truncation (capacity : Nat) (pty : Option PtyMaster) (ports : List Port) (s : State)
    (h : Reach (step capacity) Attentive (new pty ports) s) (status : ExitStatus)
    (hok : s.client.main = .ok status) :
    s.server.exited = some status ∧ .exit status ∈ s.server.side.log ∧
      ∀ id, id = .stdout ∨ id = .stderr →
        .source id .sourceClosed ∈ s.client.side.delivered ∧
        ∃ source sink, s.server.side.sources.get id = some source ∧
          s.client.side.sinks.get id = some sink ∧
          (¬ sink.broken → source.pc = .done ∧ sink.written = source.read) := by
  have hs := settled_of_reach h
  obtain ⟨hexited, hmem⟩ := exited_of_ok hs hok
  refine ⟨hexited, hmem, fun id hid => ?_⟩
  have hclosed := closed_of_ok h hok hid
  have hparts : (s.server.side.sources.get id).isSome = true ∧
      (s.client.side.sinks.get id).isSome = true ∧
      (s.client.side.view.sink id).pc = .done := by
    have hjoined := hs.client.joined status (Or.inr hok)
    rcases hid with rfl | rfl
    · exact ⟨hs.server.present.2.1, hs.client.present.2.1, hjoined.1⟩
    · exact ⟨hs.server.present.2.2, hs.client.present.2.2, hjoined.2⟩
  obtain ⟨hsource, hsink, hpc⟩ := hparts
  obtain ⟨a, ha⟩ := Option.isSome_iff_exists.mp hsource
  obtain ⟨c, hc⟩ := Option.isSome_iff_exists.mp hsink
  have hview := Side.view_source ha
  have hview' := Side.view_sink hc
  refine ⟨hclosed, a, c, ha, hc, fun hnot => ?_⟩
  have hwritten := hs.written_eq hclosed hpc (by rwa [hview'])
  rwa [hview, hview'] at hwritten

/-- The child writes two bytes; they come through, and so does its status. -/
def answered : List Event :=
  [.server (.side (.source .stdout (.read (.ok [104, 105])))),
    .server (.side (.source .stdout .sent))] ++
  passDown (.stream (.source .stdout (.data [104, 105]))) ++
  [.client (.side (.sink .stdout .recv)), .client (.side (.sink .stdout (.written .ok))),
    .client (.side (.sink .stdout .sent)), .client (.side (.sink .stdout (.flushed .ok)))] ++
  passUp (.stream (.sink .stdout .ack)) ++
  [.server (.side (.source .stdout .recv)), .server (.childExited (.code 0)),
    .server .mainSent, .server .mainSent] ++
  passDown (.stream (.sink .stdin .sinkClosed)) ++ passDown (.exit (.code 0)) ++
  [.client .status]

/-- The end of both outputs is heard before the connection fails. -/
def heardOut : List Event :=
  answered ++
  [.server (.side (.source .stdout (.read (.ok [])))), .server (.side (.source .stdout .sent)),
    .server (.side (.source .stderr (.read (.ok [])))),
    .server (.side (.source .stderr .sent))] ++
  passDown (.stream (.source .stdout .sourceClosed)) ++
  passDown (.stream (.source .stderr .sourceClosed)) ++
  [.client (.side (.sink .stdout .recv)), .client (.side (.sink .stdout .shutdownDone)),
    .client (.side (.sink .stderr .recv)), .client (.side (.sink .stderr .shutdownDone)),
    .client (.side (.source .stdin .recv)), .client (.side (.source .stdin .sent)),
    .client (.handlersJoined true), .client (.side (.sender .recv)),
    .client (.side (.sender .failed)), .client (.side (.sender .recvNone)),
    .client (.side (.receiver (.abort true [.stdout, .stderr] [.stdin]))),
    .client (.side (.receiver .shutdownSink)), .client (.side (.receiver .shutdownSink)),
    .client (.side (.receiver .shutdownSource)), .client .leave, .client .tasksJoined]

theorem no_truncation_heardOut :
    ∃ s, run (step 1) (new none []) heardOut = some s ∧ s.client.main = .ok (.code 0) ∧
      s.server.exited = some (.code 0) ∧
      (s.server.side.view.source .stdout).read = [104, 105] ∧
      (s.client.side.view.sink .stdout).written = [104, 105] := by
  obtain ⟨s, hrun⟩ : ∃ s, run (guarded (step 1) Attentive) (new none []) heardOut = some s :=
    ⟨_, rfl⟩
  obtain ⟨hrun', hreach⟩ := reach_of_guarded hrun
  have hok : s.client.main = .ok (.code 0) := by
    obtain rfl := Option.some.inj hrun
    rfl
  obtain ⟨hexited, -, hstreams⟩ := no_truncation 1 none [] s hreach (.code 0) hok
  obtain ⟨-, a, c, ha, hc, hwritten⟩ := hstreams .stdout (Or.inl rfl)
  have hread : (s.server.side.view.source .stdout).read = [104, 105] := by
    obtain rfl := Option.some.inj hrun
    rfl
  have hopen : (s.client.side.view.sink .stdout).isClosed = false ∧
      (s.client.side.view.sink .stdout).pc = .done := by
    obtain rfl := Option.some.inj hrun
    exact ⟨rfl, rfl⟩
  have hvalid := ((settled_of_reach hreach).outward .stdout).1.tasks.2
  simp only [State.outward, Channel.channel] at hvalid
  rw [Side.view_source ha] at hread
  rw [Side.view_sink hc] at hopen hvalid
  refine ⟨s, hrun', hok, hexited, by rw [Side.view_source ha, hread], ?_⟩
  rw [Side.view_sink hc, ← hread]
  refine (hwritten fun hbroken => ?_).2
  rcases hvalid.closed_of_broken hbroken with hclosed | hfailed
  · simp [hopen.1] at hclosed
  · simp [hopen.2] at hfailed

/-- The connection fails when the status is heard and the output is still on its way. -/
def cutOffAfterExit : List Event :=
  answered ++
  [.server (.side (.source .stdout (.read (.ok [33])))), .server (.side (.source .stdout .sent)),
    .client (.side (.receiver (.abort false [.stdout, .stderr] [.stdin]))),
    .client (.side (.source .stdin .recv)), .client (.side (.source .stdin .sent)),
    .client (.side (.receiver .shutdownSink)), .client (.side (.receiver .shutdownSink)),
    .client (.side (.receiver .shutdownSource)), .client .leave,
    .client (.side (.sink .stdout .recv)), .client (.side (.sink .stdout .shutdownDone)),
    .client (.side (.sink .stderr .recv)), .client (.side (.sink .stderr .shutdownDone)),
    .client (.handlersJoined true), .client (.side (.sender .recv)),
    .client (.side (.sender .failed)), .client (.side (.sender .recvNone)),
    .client .tasksJoined]

/-- The client returns the status although the end of the output is lost, with no writer
that has failed. -/
theorem truncated_after_exit :
    ∃ s, run (step 1) (new none []) cutOffAfterExit = some s ∧
      s.client.main = .ok (.code 0) ∧
      (s.client.side.view.sink .stdout).writes = [([104, 105], .ok)] ∧
      (s.client.side.view.sink .stdout).written = [104, 105] ∧
      (s.server.side.view.source .stdout).read = [104, 105, 33] ∧
      ¬ (s.client.side.view.sink .stdout).broken := by
  obtain ⟨s, hrun⟩ : ∃ s, run (step 1) (new none []) cutOffAfterExit = some s := ⟨_, rfl⟩
  have hvalid := ((settled_of_reach (reach_of_run hrun)).outward .stdout).1.tasks.2
  simp only [State.outward, Channel.channel] at hvalid
  obtain rfl := Option.some.inj hrun
  refine ⟨_, hrun, rfl, rfl, rfl, rfl, fun hbroken => ?_⟩
  rcases hvalid.closed_of_broken hbroken with h | h <;> cases h

end Rlirsh.Session
