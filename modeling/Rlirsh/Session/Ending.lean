import Rlirsh.Execute.Ending
import Rlirsh.Session.Streams

namespace Rlirsh.Session

open Rlirsh.Protocol
open Rlirsh.Terminal (PtyMaster)
open Rlirsh.Lib
open Rlirsh.Lib.Machine
open Rlirsh.Stream
open Rlirsh.Execute

/-- What every run of a session keeps. -/
structure Settled (s : State) : Prop where
  transit : Transit s
  unreplaced : Unreplaced s
  watched : Server.Watched s.server
  server : Server.Reported s.server
  client : Client.Reported s.client
  outward : ∀ id, Integrity.Inv (s.outward id) ∧ Window.Bounded (s.outward id)
  inward : ∀ id, Integrity.Inv (s.inward id) ∧ Window.Bounded (s.inward id)
  not_panicked : ∀ id, (s.server.side.view.source id).pc ≠ .panicked ∧
    (s.client.side.view.source id).pc ≠ .panicked

variable {capacity : Nat} {ok : State → Event → Prop} {pty : Option PtyMaster} {ports : List Port}
  {s t : State}

theorem settled_of_reach (h : Reach (step capacity) ok (new pty ports) s) : Settled s := by
  have hparts : Transit s ∧ Server.Watched s.server ∧ Server.Reported s.server ∧
      Client.Reported s.client := by
    refine h.invariant (P := fun s => Transit s ∧ Server.Watched s.server ∧
        Server.Reported s.server ∧ Client.Reported s.client)
      ⟨transit_new pty ports, Server.watched_new _ _, Server.reported_new _ _,
        Client.reported_new _ _⟩ fun a e b _ ⟨htransit, hw, hs, hc⟩ _ hstep => ?_
    refine ⟨htransit.step hstep, ?_⟩
    cases e with
    | client e =>
        obtain ⟨hstepped, halive, -, -, hserver⟩ := client_spec hstep
        rw [hserver]
        exact ⟨hw, hs, hc.step halive hstepped⟩
    | server e =>
        obtain ⟨hstepped, -, -, hclient⟩ := server_spec hstep
        rw [hclient]
        exact ⟨hw.step hstepped, hs.step hw.kept hstepped, hc⟩
  obtain ⟨htransit, hw, hs, hc⟩ := hparts
  have hout (id : StreamId) :
      Reach Pair.step Any (Pair.new (Client.writer id)) (s.outward id) :=
    outward_reach id h (fun _ => trivial) (fun _ => trivial) fun _ _ _ _ _ _ _ _ => trivial
  have hin (id : StreamId) :
      Reach Pair.step Any (Pair.new (Server.writer pty id)) (s.inward id) :=
    inward_reach id h fun _ _ _ _ _ _ _ _ => trivial
  exact ⟨htransit, unreplaced_of_reach h, hw, hs, hc,
    fun id => ⟨Integrity.inv_of_reach (hout id), Window.bounded_of_reach (hout id)⟩,
    fun id => ⟨Integrity.inv_of_reach (hin id), Window.bounded_of_reach (hin id)⟩,
    fun id => ⟨Window.not_panicked_of_reach (hout id), Window.not_panicked_of_reach (hin id)⟩⟩

theorem prefix_append_drop {α : Type*} {xs ys : List α} (h : xs <+: ys) :
    xs ++ ys.drop xs.length = ys := by
  obtain ⟨zs, rfl⟩ := h
  simp

theorem Settled.outward_sent (h : Settled s) (id : StreamId) :
    s.server.side.view.log.filterMap (Channel.sourceOf id) =
      (s.server.side.view.source id).sent := by
  have hsent := (h.outward id).1.conserved.sent_eq
  have hbefore := Channel.filterMap_isPrefix_of (Channel.sourceOf id) h.transit.fifo.2
  simp only [State.outward, Channel.channel] at hsent
  rw [hsent, prefix_append_drop hbefore]

theorem mem_filterMap_sourceOf {id : StreamId} {a : SourceAction} {actions : List StreamAction} :
    a ∈ actions.filterMap (Channel.sourceOf id) ↔ .source id a ∈ actions := by
  simp only [List.mem_filterMap]
  constructor
  · rintro ⟨action, hmem, haction⟩
    cases action with
    | source id' a' =>
        simp only [Channel.sourceOf, Option.ite_none_right_eq_some, Option.some.injEq] at haction
        obtain ⟨rfl, rfl⟩ := haction
        exact hmem
    | _ => simp [Channel.sourceOf] at haction
  · intro hmem
    exact ⟨_, hmem, by simp [Channel.sourceOf]⟩

theorem eq_nil_of_last {T : Type} {m : T} {log received rest pre : List T}
    (hlog : log = received ++ rest) (hlast : log = pre ++ [m]) (hnot : m ∉ pre)
    (hmem : m ∈ received) : rest = [] := by
  obtain ⟨as, bs, rfl⟩ := List.append_of_mem hmem
  have heq : as ++ m :: (bs ++ rest) = pre ++ [m] := by
    rw [← hlast, hlog]
    simp
  exact (List.append_eq_nil_iff.mp (Integrity.eq_nil_of_append_last as heq hnot)).2

theorem queue_of_unsent {T : Type} [Message T] {side : Side T} (h : side.unsent = []) :
    side.sending = [] ∧ side.queue = [] := by
  rw [Side.unsent, List.append_assoc] at h
  exact List.append_eq_nil_iff.mp (List.append_eq_nil_iff.mp h).2

theorem eq_nil_of_unsent {T : Type} {log received wire unsent : List T}
    (hlog : log = received ++ wire ++ unsent) (hall : received = log) : unsent = [] := by
  rw [← hall, List.append_assoc, List.self_eq_append_right] at hlog
  exact (List.append_eq_nil_iff.mp hlog).2

theorem received_all {T : Type} [Message T] {held : Bool} {side : Side T}
    {received wire : List T} (h : Side.SenderInv held side)
    (hlog : side.log = received ++ wire ++ side.unsent) (hmem : Message.finished ∈ received) :
    Message.finished ∈ side.log ∧ received = side.log ∧ wire = [] := by
  rw [List.append_assoc] at hlog
  have hfinished : Message.finished ∈ side.log := by
    rw [hlog]
    exact List.mem_append_left _ hmem
  obtain ⟨-, pre, hpre, hnot⟩ := h.finished_last hfinished
  have hnil := eq_nil_of_last hlog hpre hnot hmem
  rw [hnil, List.append_nil] at hlog
  exact ⟨hfinished, hlog.symm, (List.append_eq_nil_iff.mp hnil).1⟩

theorem Settled.client_received (h : Settled s) (hdone : s.client.side.receiver = .done true) :
    .finished ∈ s.server.side.log ∧ s.client.received = s.server.side.log ∧
      s.client.side.delivered = s.server.side.view.log := by
  obtain ⟨hfinished, hall, -⟩ := received_all h.transit.server.sender h.transit.down
    (h.transit.client.finished.mp hdone)
  refine ⟨hfinished, hall, ?_⟩
  have hreceived := h.transit.client.received_eq
  rw [hdone, hall] at hreceived
  simpa [ReceiverPc.hand, Side.view] using hreceived.symm

theorem Settled.server_received (h : Settled s) (hdone : s.server.side.receiver = .done true) :
    .finished ∈ s.client.side.log ∧ s.server.received = s.client.side.log ∧
      s.server.side.delivered = s.client.side.view.log := by
  obtain ⟨hfinished, hall, -⟩ := received_all h.transit.client.sender h.transit.up
    (h.transit.server.finished.mp hdone)
  refine ⟨hfinished, hall, ?_⟩
  have hreceived := h.transit.server.received_eq
  rw [hdone, hall] at hreceived
  simpa [ReceiverPc.hand, Side.view] using hreceived.symm

theorem Settled.down_eq_nil (h : Settled s) (hdone : s.client.side.receiver = .done true) :
    s.down = [] :=
  (received_all h.transit.server.sender h.transit.down (h.transit.client.finished.mp hdone)).2.2

theorem Settled.up_eq_nil (h : Settled s) (hdone : s.server.side.receiver = .done true) :
    s.up = [] :=
  (received_all h.transit.client.sender h.transit.up (h.transit.server.finished.mp hdone)).2.2

theorem Settled.client_sending_eq_nil (h : Settled s)
    (hdone : s.server.side.receiver = .done true) : s.client.side.sending = [] :=
  (queue_of_unsent (eq_nil_of_unsent h.transit.up (h.server_received hdone).2.1)).1

theorem Settled.server_sending_eq_nil (h : Settled s)
    (hdone : s.client.side.receiver = .done true) : s.server.side.sending = [] :=
  (queue_of_unsent (eq_nil_of_unsent h.transit.down (h.client_received hdone).2.1)).1

theorem quiet_of_finished {T U : Type} [Message T] [Message U] {held : Bool} {received : List U}
    {side : Side T} (h : Execute.Kept held received side)
    (hfinished : Message.finished ∈ side.log) :
    Side.Quiet side ∧ side.queue = [] ∧ held = false := by
  apply h.sender.closed
  rcases (h.sender.finished_last hfinished).1 with hpc | hpc <;> simp [Side.closing, hpc]

/-- The receiver has left its loop on an error. -/
def Cut (pc : ReceiverPc) : Prop := pc.left = true ∧ pc ≠ .done true

/-- The `SourceClosed` of the stream of `id` is dispatched on the client. -/
def Closed (s : State) (id : StreamId) : Prop :=
  .source id .sourceClosed ∈ s.client.side.delivered

/-- A sink of the client that has ended has been told to, or the session is broken. -/
def Told (s : State) (id : StreamId) : Prop :=
  (s.client.side.view.sink id).pc = .failed ∨ Closed s id ∨ Cut s.client.side.receiver

theorem Settled.closed_of_left (h : Settled s) {id : StreamId}
    (hpc : (s.client.side.view.sink id).pc = .shutdown ∨
      (s.client.side.view.sink id).pc = .done) :
    Closed s id ∨ s.client.side.receiver.left = true := by
  rcases h.transit.client.abandoned id hpc with htook | ⟨-, hleft, -⟩
  · have htaken := (h.outward id).1.conserved.taken_eq
    simp only [State.outward, Channel.channel] at htaken
    have hmem : .sourceClosed ∈ (s.client.side.view.sink id).taken := by
      simp [Sink.Task.taken, htook]
    have hmem' : .sourceClosed ∈ s.client.side.delivered.filterMap (Channel.sourceOf id) ++
        Sink.closing (s.client.side.view.sink id).shut := by
      have := List.mem_append_left (s.client.side.view.sink id).rx hmem
      rwa [htaken] at this
    rcases List.mem_append.mp hmem' with hmem' | hmem'
    · exact Or.inl (mem_filterMap_sourceOf.mp hmem')
    · right
      have hshut : (s.client.side.view.sink id).shut = true := by
        cases hs : (s.client.side.view.sink id).shut with
        | true => rfl
        | false => simp [hs] at hmem'
      have hdrained := (h.transit.client.shutting.sink_shut id hshut).1
      cases hrpc : s.client.side.receiver <;> simp_all [ReceiverPc.drained, ReceiverPc.left]
  · exact Or.inr hleft

theorem pc_of_ended {t : Sink.Task} (h : t.ended = true) : t.pc = .done ∨ t.pc = .failed := by
  simp only [Sink.Task.ended] at h
  grind

theorem not_ended_of_new {writer : Sink.Writer} {u : Sink.Task} {e : Sink.Event}
    (hstep : (Sink.Task.new writer).step e = some u) : u.ended = false := by
  cases e <;>
    simp only [Sink.Task.step, Sink.Task.new, Sink.Task.onRecv, Sink.Task.onRecvNone,
      Sink.Task.onWritten, Sink.Task.onSent, Sink.Task.onSendFailed, Sink.Task.onFlushed,
      Sink.Task.onShutdown, Sink.Task.deliver, Sink.Task.shutdown, Sink.Task.pending,
      Sink.Task.ended] at hstep ⊢ <;>
    grind

/-- When the server has taken the client's `Finished`, the sinks of the client have been
told. -/
def Farewell (s : State) : Prop :=
  s.server.side.receiver = .done true → ∀ id,
    (s.client.side.view.sink id).ended = true → Told s id

theorem Told.client {e : Client.Event} (h : ClientStep s e t) {id : StreamId}
    (htold : Told s id) : Told t id := by
  rcases htold with hfailed | hclosed | ⟨hleft, hne⟩
  · left
    rcases h.stepped.holds.sink id with heq | ⟨e', -, hstep⟩
    · rw [heq, hfailed]
    · rw [(Sink.ended_step (by simp [Sink.Task.ended, hfailed]) hstep).1, hfailed]
  · exact Or.inr (Or.inl (h.stepped.holds.delivered.subset hclosed))
  · obtain ⟨hleft', hiff⟩ := h.stepped.left hleft
    exact Or.inr (Or.inr ⟨hleft', fun hdone => hne (hiff.mp hdone)⟩)

theorem Told.server {e : Server.Event} (h : ServerStep s e t) {id : StreamId}
    (htold : Told s id) : Told t id := by
  unfold Told Closed
  rw [h.client]
  exact htold

theorem Settled.told_of_finished (h : Settled s) (hopen : s.client.side.receiver ≠ .done true)
    (id : StreamId) (hended : (s.client.side.view.sink id).ended = true) : Told s id := by
  rcases pc_of_ended hended with hdone | hfailed
  · rcases h.closed_of_left (Or.inr hdone) with hclosed | hleft
    · exact Or.inr (Or.inl hclosed)
    · exact Or.inr (Or.inr ⟨hleft, hopen⟩)
  · exact Or.inl hfailed

theorem Farewell.step {e : Event} (h : Farewell s) (hs : Settled s) (ht : Settled t)
    (hstep : step capacity s e = some t) : Farewell t := by
  intro hdone id hended
  cases e with
  | client e =>
      have hc := client_spec hstep
      rw [hc.server] at hdone
      by_cases hended' : (s.client.side.view.sink id).ended = true
      · exact (h hdone id hended').client hc
      · -- the client is through: there is no sink left that could end
        exfalso
        obtain ⟨hfinished, -, -⟩ := hs.server_received hdone
        obtain ⟨hquiet, -, -⟩ := quiet_of_finished hs.transit.client hfinished
        cases hget : s.client.side.sinks.get id with
        | some a =>
            rw [Side.view_sink hget] at hended'
            exact hended' (hquiet.sinks id a hget)
        | none =>
            have hnew : s.client.side.view.sink id = .new .socket := by
              simp [Side.view, hget]
            rcases hc.stepped.holds.sink id with heq | ⟨e', -, hstep'⟩
            · rw [heq] at hended
              exact hended' hended
            · rw [hnew] at hstep'
              rw [not_ended_of_new hstep'] at hended
              simp at hended
  | server e =>
      have hv := server_spec hstep
      by_cases hdone' : s.server.side.receiver = .done true
      · rw [hv.client] at hended
        exact (h hdone' id hended).server hv
      · -- the client cannot have taken the server's `Finished` before
        refine ht.told_of_finished (fun hcdone => ?_) id hended
        rw [hv.client] at hcdone
        obtain ⟨hfinished, -, -⟩ := hs.client_received hcdone
        obtain ⟨b, hb⟩ := hs.server.receiver_done hs.watched hfinished
        have hleft : s.server.side.receiver.left = true := by simp [hb, ReceiverPc.left]
        exact hdone' ((hv.stepped.left hleft).2.mp hdone)

theorem farewell_of_reach (h : Reach (step capacity) ok (new pty ports) s) : Farewell s := by
  apply h.invariant (P := Farewell) (by simp [Farewell, new, Server.new])
  intro a e b ha hfarewell hok hstep
  exact hfarewell.step (settled_of_reach ha) (settled_of_reach (ha.snoc hok hstep)) hstep

/-- When the client has taken the server's `Finished`, the streams of the child have been
closed. -/
theorem told_of_client_done (hs : Settled s) (hf : Farewell s)
    (hdone : s.client.side.receiver = .done true) {id : StreamId} (hid : id.isForward = false)
    (hsource : (s.server.side.sources.get id).isSome = true)
    (hsink : (s.client.side.sinks.get id).isSome = true) : Told s id := by
  obtain ⟨hfinished, -, hdelivered⟩ := hs.client_received hdone
  obtain ⟨hquiet, -, -⟩ := quiet_of_finished hs.transit.server hfinished
  obtain ⟨a, ha⟩ := Option.isSome_iff_exists.mp hsource
  have hended := hquiet.sources id a ha
  have hview := Side.view_source ha
  have hpc : (∃ b, a.pc = .failed b) ∨ a.pc = .panicked ∨ a.pc = .done := by
    simp only [Source.Task.ended] at hended
    grind
  rcases hpc with ⟨b, hfailed⟩ | hpanicked | hpc
  · obtain ⟨hleft, hdrained⟩ := hs.transit.server.deserted id b (by rw [hview, hfailed])
      (hs.unreplaced.server.not_orphaned id)
    obtain ⟨finished, hvdone⟩ := hs.server.receiver_done hs.watched hfinished
    cases finished with
    | false => simp [hvdone, ReceiverPc.drained, hid] at hdrained
    | true =>
        obtain ⟨hcfinished, -, -⟩ := hs.server_received hvdone
        obtain ⟨hcquiet, -, -⟩ := quiet_of_finished hs.transit.client hcfinished
        obtain ⟨c, hc⟩ := Option.isSome_iff_exists.mp hsink
        exact hf hvdone id (by rw [Side.view_sink hc]; exact hcquiet.sinks id c hc)
  · exact absurd (by rw [hview, hpanicked]) (hs.not_panicked id).1
  · refine Or.inr (Or.inl ?_)
    have hvalid := (hs.outward id).1.tasks.1
    simp only [State.outward, Channel.channel, hview] at hvalid
    obtain ⟨pre, hsent, -⟩ := hvalid.closed_last hpc
    have hlog := hs.outward_sent id
    rw [hview, hsent, ← hdelivered] at hlog
    exact mem_filterMap_sourceOf.mp (by rw [hlog]; simp)

end Rlirsh.Session
