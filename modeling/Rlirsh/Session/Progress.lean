import Rlirsh.Session.Steady

namespace Rlirsh.Session

open Rlirsh.Protocol
open Rlirsh.Terminal (PtyMaster)
open Rlirsh.Lib
open Rlirsh.Lib.Machine
open Rlirsh.Stream
open Rlirsh.Stream.Closure (Still)
open Rlirsh.Stream.Window (Counted)
open Rlirsh.Execute

/-- The event completes what goes on outside of the two processes. -/
def external : Event → Bool
  | .client (.side e) | .server (.side e) => Side.external e
  | .client (.windowSignal _) | .server (.childExited _) | .server .waitFailed => true
  | _ => false

/-- No task of the client or of the server can take a step. -/
def Stuck (capacity : Nat) (s : State) : Prop :=
  ∀ e, external e = false → step capacity s e = none

/-- What is sent is going to be taken. -/
def heard (s : State) : Event → Bool
  | .client (.side (.sender .sent)) => s.server.side.receiver = .recv
  | .server (.side (.sender .sent)) => !s.client.returned && s.client.side.receiver = .recv
  | _ => true

/-- No task can take a step, but for a sender whose message nobody is going to take. -/
def Jammed (capacity : Nat) (s : State) : Prop :=
  ∀ e, external e = false → heard s e = true → step capacity s e = none

/-- The child has not exited, or a read of its output, or the writer of a sink, is pending.
A read of the standard input of the client does not count. -/
inductive Waiting (s : State) : Prop
  | child (running : s.server.main = .select)
  | output {id : StreamId} {t : Source.Task} (get : s.server.side.sources.get id = some t)
      (reading : t.reading = true)
  | serverWriter {id : StreamId} {t : Sink.Task} (get : s.server.side.sinks.get id = some t)
      (writing : t.writing = true)
  | clientWriter {id : StreamId} {t : Sink.Task} (get : s.client.side.sinks.get id = some t)
      (writing : t.writing = true)

/-- Both processes are through with all their tasks, have finished and have heard each other
out, and the client returns the status of the child. -/
structure Final (status : ExitStatus) (s : State) : Prop where
  clientMain : s.client.main = .ok status
  serverMain : s.server.main = .ok
  exitStatus : s.client.exitStatus = some (some status)
  exited : s.server.exited = some status
  clientSender : s.client.side.sender = .done ∧ .finished ∈ s.client.side.log
  serverSender : s.server.side.sender = .done ∧ .finished ∈ s.server.side.log
  clientReceiver : s.client.side.receiver = .done true
  serverReceiver : s.server.side.receiver = .done true
  clientQuiet : Side.Quiet s.client.side
  serverQuiet : Side.Quiet s.server.side
  windowEnded : s.client.windowEnded = true

variable {capacity : Nat} {pty : Option PtyMaster} {s t : State} {id : StreamId}

theorem Stuck.jammed (h : Stuck capacity s) : Jammed capacity s :=
  fun e hinternal _ => h e hinternal

theorem Jammed.client (h : Jammed capacity s) {e : Client.Event}
    (hinternal : external (.client e) = false) (hheard : heard s (.client e) = true)
    (hout : s.client.output e = none) (hin : e.input = none) : Client.step s.client e = none := by
  cases hstep : Client.step s.client e with
  | none => rfl
  | some c =>
      have hnone := h (.client e) hinternal hheard
      simp [step, hstep, hout, hin, push, pull] at hnone

theorem Jammed.server (h : Jammed capacity s) {e : Server.Event}
    (hinternal : external (.server e) = false) (hheard : heard s (.server e) = true)
    (hout : s.server.output e = none) (hin : e.input = none) : Server.step s.server e = none := by
  cases hstep : Server.step s.server e with
  | none => rfl
  | some v =>
      have hnone := h (.server e) hinternal hheard
      simp [step, hstep, hout, hin, push, pull] at hnone

theorem Jammed.client_blocked (h : Jammed capacity s) (halive : s.client.returned = false) :
    Side.Blocked s.client.env s.client.side := by
  intro e hinternal hne
  cases hside : s.client.side.step s.client.env e with
  | none => rfl
  | some side =>
      have hheard : heard s (.client (.side e)) = true := by
        unfold heard
        split
        · rename_i heq
          exact absurd (Client.Event.side.inj (Event.client.inj heq)) hne
        · rename_i heq
          cases heq
        · rfl
      have hnone := h (.client (.side e)) hinternal hheard
      rw [client_side_step halive hside hne] at hnone
      cases hnone

theorem Jammed.server_blocked (h : Jammed capacity s) :
    Side.Blocked s.server.env s.server.side := by
  intro e hinternal hne
  cases hside : s.server.side.step s.server.env e with
  | none => rfl
  | some side =>
      have hheard : heard s (.server (.side e)) = true := by
        unfold heard
        split
        · rename_i heq
          cases heq
        · rename_i heq
          exact absurd (Server.Event.side.inj (Event.server.inj heq)) hne
        · rfl
      have hnone := h (.server (.side e)) hinternal hheard
      rw [server_side_step hside hne] at hnone
      cases hnone

theorem Jammed.client_sending (h : Jammed capacity s) (hcapacity : 0 < capacity)
    (halive : s.client.returned = false) (hheard : s.server.side.receiver = .recv)
    (hup : s.up = []) : s.client.side.sending = [] := by
  have hnone := h (.client (.side (.sender .sent))) rfl (decide_eq_true hheard)
  cases hpc : s.client.side.sender with
  | send | finish =>
      simp [step, Client.step, halive, Side.step, Side.stepSender, hpc, Client.State.output,
        Side.sending, push, pull, hup, hcapacity, Client.Event.input] at hnone
  | _ => simp [Side.sending, hpc]

theorem Jammed.server_sending (h : Jammed capacity s) (hcapacity : 0 < capacity)
    (halive : s.client.returned = false) (hheard : s.client.side.receiver = .recv)
    (hdown : s.down = []) : s.server.side.sending = [] := by
  have hnone := h (.server (.side (.sender .sent))) rfl (by simp [heard, halive, hheard])
  cases hpc : s.server.side.sender with
  | send | finish =>
      simp [step, Server.step, Side.step, Side.stepSender, hpc, Server.State.output,
        Side.sending, push, pull, hdown, hcapacity, Server.Event.input] at hnone
  | _ => simp [Side.sending, hpc]

theorem Jammed.down_eq_nil (h : Jammed capacity s) (halive : s.client.returned = false)
    (hpc : s.client.side.receiver = .recv) : s.down = [] := by
  cases hdown : s.down with
  | nil => rfl
  | cons m down =>
      obtain ⟨c, hc⟩ := Option.isSome_iff_exists.mp (Client.receive_enabled halive hpc m)
      have hnone := h (.client (.receive m)) rfl rfl
      simp [step, hc, push, pull, Client.State.output, Client.Event.input, hdown] at hnone

theorem Jammed.up_eq_nil (h : Jammed capacity s) (hpc : s.server.side.receiver = .recv) :
    s.up = [] := by
  cases hup : s.up with
  | nil => rfl
  | cons m up =>
      obtain ⟨v, hv⟩ := Option.isSome_iff_exists.mp (Server.receive_enabled hpc m)
      have hnone := h (.server (.receive m)) rfl rfl
      simp [step, hv, push, pull, Server.State.output, Server.Event.input, hup] at hnone

theorem Sound.not_shut {ports : List Port} (h : Sound pty ports s) (id : StreamId) :
    (s.client.side.view.source id).shut = false ∧
      (s.server.side.view.source id).shut = false := by
  constructor
  · apply Bool.eq_false_iff.mpr
    intro hshut
    have hdrained := (h.settled.transit.client.shutting.source_shut id hshut).1
    rw [(ReceiverPc.attending_iff.mp h.client).1] at hdrained
    cases hdrained
  · apply Bool.eq_false_iff.mpr
    intro hshut
    have hdrained := (h.settled.transit.server.shutting.source_shut id hshut).1
    rw [(ReceiverPc.attending_iff.mp h.server).1] at hdrained
    cases hdrained

theorem Intact.outward_counted (h : Intact pty s) (id : StreamId) : Counted (s.outward id) where
  inv := (h.sound.outward id).inv
  closing := (h.sound.outward id).closing
  bounded := (h.sound.outward id).bounded
  injected := by
    have hzero : (s.outward id).injected = 0 := by
      show 0 + (if (s.server.side.view.source id).shut = true then 1 else 0) = 0
      rw [(h.sound.not_shut id).2]
      rfl
    exact ⟨by rw [hzero]; exact Nat.zero_le 1, fun hpos => by rw [hzero] at hpos; cases hpos⟩

theorem Intact.inward_counted (h : Intact pty s) (id : StreamId) : Counted (s.inward id) where
  inv := (h.sound.inward id).inv
  closing := (h.sound.inward id).closing
  bounded := (h.sound.inward id).bounded
  injected := by
    have hinjected : (s.inward id).injected = if id = .stdin then s.server.injected else 0 := by
      show (if id = .stdin then s.server.injected else 0) +
        (if (s.client.side.view.source id).shut = true then 1 else 0) = _
      rw [(h.sound.not_shut id).1]
      rfl
    constructor
    · rw [hinjected, h.sound.settled.server.injected]
      split
      · exact Bool.toNat_le _
      · exact Nat.zero_le 1
    · intro hpos
      rw [hinjected] at hpos
      split at hpos
      · rename_i hid
        subst hid
        show (s.server.side.view.sink .stdin).writer.flushReady = true
        rw [h.writer]
        cases pty <;> rfl
      · cases hpos

theorem Intact.client_not_dispatching (h : Intact pty s)
    (hblocked : Side.Blocked s.client.env s.client.side) (action : StreamAction) :
    s.client.side.receiver ≠ .dispatch action := by
  intro hpc
  have hnone := hblocked.undispatched hpc
  have hforwarding := h.sound.forwarding
  obtain ⟨rest, hlog⟩ := h.sound.hand_down hpc
  have hmem : action ∈ s.server.side.view.log := by
    rw [hlog]
    exact List.mem_append_right _ (List.mem_cons_self ..)
  cases action with
  | source id a =>
      obtain ⟨b, hb⟩ := Option.isSome_iff_exists.mp
        (hforwarding.serverStreams.logged _ hmem rfl)
      obtain ⟨u, hu⟩ := hforwarding.client_sink hb
      have hfwd : (s.outward id).fwd ≠ [] := by
        rw [State.outward, Channel.channel_fwd_cons 0 hlog]
        exact List.cons_ne_nil _ _
      exact hblocked.dispatch_source (h.outward_counted id) (h.sound.outward id).toServed hfwd hu
        (Side.view_sink hu) a hnone
  | sink id a =>
      obtain ⟨b, hb⟩ := Option.isSome_iff_exists.mp
        (hforwarding.serverStreams.logged _ hmem rfl)
      obtain ⟨u, hu⟩ := hforwarding.client_source hb
      have hback : (s.inward id).back ≠ [] := by
        rw [State.inward, Channel.channel_back_cons _ hlog]
        exact List.cons_ne_nil _ _
      exact hblocked.dispatch_sink (h.inward_counted id) hback hu (Side.view_source hu) a hnone
  | listener port a => exact hforwarding.server.not_listener port a hmem
  | connecter id a => exact hforwarding.not_connecter a hmem

theorem Intact.server_not_dispatching (h : Intact pty s)
    (hblocked : Side.Blocked s.server.env s.server.side) (action : StreamAction) :
    s.server.side.receiver ≠ .dispatch action := by
  intro hpc
  have hnone := hblocked.undispatched hpc
  have hforwarding := h.sound.forwarding
  obtain ⟨rest, hlog⟩ := h.sound.hand_up hpc
  have hmem : action ∈ s.client.side.view.log := by
    rw [hlog]
    exact List.mem_append_right _ (List.mem_cons_self ..)
  cases action with
  | source id a =>
      obtain ⟨b, hb⟩ := Option.isSome_iff_exists.mp
        (hforwarding.clientStreams.logged _ hmem rfl)
      obtain ⟨-, u, hu⟩ := hforwarding.server_sink hb
      have hfwd : (s.inward id).fwd ≠ [] := by
        rw [State.inward, Channel.channel_fwd_cons _ hlog]
        exact List.cons_ne_nil _ _
      exact hblocked.dispatch_source (h.inward_counted id) (h.sound.inward id).toServed hfwd hu
        (Side.view_sink hu) a hnone
  | sink id a =>
      obtain ⟨b, hb⟩ := Option.isSome_iff_exists.mp
        (hforwarding.clientStreams.logged _ hmem rfl)
      obtain ⟨u, hu⟩ := hforwarding.server_source hb
      have hback : (s.outward id).back ≠ [] := by
        rw [State.outward, Channel.channel_back_cons _ hlog]
        exact List.cons_ne_nil _ _
      exact hblocked.dispatch_sink (h.outward_counted id) hback hu (Side.view_source hu) a hnone
  | listener port a =>
      exact absurd (hforwarding.client.logged port a hmem) List.not_mem_nil
  | connecter id a => exact hforwarding.client.not_connecter id a hmem

/-- Nothing is under way, and the sources and the sinks have nothing to take or to
enqueue. -/
structure Calm (s : State) : Prop where
  up : s.up = []
  down : s.down = []
  clientUnsent : s.client.side.unsent = []
  serverUnsent : s.server.side.unsent = []
  clientHand : s.client.side.receiver.hand = []
  serverHand : s.server.side.receiver.hand = []
  clientRested : Side.Rested s.client.side
  serverRested : Side.Rested s.server.side

theorem recv_or_done {pc : ReceiverPc} (h : pc.attending = true)
    (hnot : ∀ action, pc ≠ .dispatch action) : pc = .recv ∨ pc = .done true := by
  cases pc with
  | recv => exact Or.inl rfl
  | dispatch action => exact absurd rfl (hnot action)
  | done finished =>
      cases finished with
      | true => exact Or.inr rfl
      | false => cases h
  | shutdown | failed => cases h

theorem Intact.of_returned (h : Intact pty s) (hreturned : s.client.returned = true) :
    (∃ status, s.client.main = .ok status) ∧ s.client.side.receiver = .done true ∧
      s.client.side.sender = .done := by
  have hmain : ∃ status, s.client.main = .ok status := by
    have hnot := h.client.main
    cases hmain : s.client.main <;> simp_all [Client.State.returned]
  obtain ⟨status, hok⟩ := hmain
  obtain ⟨⟨finished, hdone⟩, hsender⟩ := h.sound.settled.client.ended status hok
  refine ⟨⟨status, hok⟩, ReceiverPc.done_of_left h.sound.client ?_, hsender⟩
  rw [hdone]
  rfl

theorem unsent_eq_nil {T : Type} [Message T] {held : Bool} {side : Side T}
    (h : Side.SenderInv held side) (hsends : side.isFailed = false) (hsending : side.sending = [])
    (hqueue : side.queue = []) : side.unsent = [] := by
  rw [Side.unsent, h.lost_nil hsends, hsending, hqueue]
  rfl

theorem Jammed.calm (h : Jammed capacity s) (hintact : Intact pty s) (hcapacity : 0 < capacity) :
    Calm s := by
  have hsettled := hintact.sound.settled
  have hvalid (id : StreamId) :
      Sink.Valid (s.client.side.view.sink id) ∧ Sink.Valid (s.server.side.view.sink id) :=
    ⟨(hintact.sound.outward id).inv.tasks.2, (hintact.sound.inward id).inv.tasks.2⟩
  have hserver := recv_or_done hintact.sound.server
    (hintact.server_not_dispatching h.server_blocked)
  -- a receiver that waits has taken all there is, and for one that is done nothing is under way
  have hup : s.up = [] := by
    rcases hserver with hpc | hpc
    · exact h.up_eq_nil hpc
    · exact hsettled.up_eq_nil hpc
  have hsender := hsettled.transit.client.sender
  have hsender' := hsettled.transit.server.sender
  obtain ⟨hclient, hdown, hsending, hqueue, hrested, hsending'⟩ :
      s.client.side.receiver.hand = [] ∧ s.down = [] ∧ s.client.side.sending = [] ∧
        s.client.side.queue = [] ∧ Side.Rested s.client.side ∧ s.server.side.sending = [] := by
    cases hreturned : s.client.returned with
    | true =>
        obtain ⟨-, hdone, hpc⟩ := hintact.of_returned hreturned
        obtain ⟨hquiet, hqueue, -⟩ := hsender.closed (by rw [Side.closing, hpc])
        refine ⟨by rw [hdone]; rfl, hsettled.down_eq_nil hdone, ?_, hqueue, hquiet.rested,
          hsettled.server_sending_eq_nil hdone⟩
        rw [Side.sending, hpc]
    | false =>
        have hblocked := h.client_blocked hreturned
        have hsending : s.client.side.sending = [] := by
          rcases hserver with hpc | hpc
          · exact h.client_sending hcapacity hreturned hpc hup
          · exact hsettled.client_sending_eq_nil hpc
        have hpc := recv_or_done hintact.sound.client
          (hintact.client_not_dispatching hblocked)
        have hdown : s.down = [] := by
          rcases hpc with hpc | hpc
          · exact h.down_eq_nil hreturned hpc
          · exact hsettled.down_eq_nil hpc
        refine ⟨?_, hdown, hsending, hblocked.drained hsender hsending,
          hblocked.rested hsender (fun id => (hvalid id).1) hsending, ?_⟩
        · rcases hpc with hpc | hpc <;> rw [hpc] <;> rfl
        · rcases hpc with hpc | hpc
          · exact h.server_sending hcapacity hreturned hpc hdown
          · exact hsettled.server_sending_eq_nil hpc
  refine ⟨hup, hdown, ?_, ?_, hclient, ?_, hrested, ?_⟩
  · exact unsent_eq_nil hsender hintact.client.sends hsending hqueue
  · exact unsent_eq_nil hsender' hintact.server.sends hsending'
      (h.server_blocked.drained hsender' hsending')
  · rcases hserver with hpc | hpc <;> rw [hpc] <;> rfl
  · exact h.server_blocked.rested hsender' (fun id => (hvalid id).2) hsending'

theorem Calm.client_received (h : Calm s) (htransit : Transit s) :
    s.client.received = s.server.side.log ∧
      s.client.side.delivered = s.server.side.view.log := by
  constructor
  · rw [htransit.down, h.down, h.serverUnsent, List.append_nil, List.append_nil]
  · rw [htransit.down_log, h.clientHand, h.down, h.serverUnsent]
    simp

theorem Calm.server_received (h : Calm s) (htransit : Transit s) :
    s.server.received = s.client.side.log ∧
      s.server.side.delivered = s.client.side.view.log := by
  constructor
  · rw [htransit.up, h.up, h.clientUnsent, List.append_nil, List.append_nil]
  · rw [htransit.up_log, h.serverHand, h.up, h.clientUnsent]
    simp

theorem Calm.outward (h : Calm s) (htransit : Transit s) (id : StreamId) :
    Still (s.outward id) where
  fwd := Channel.channel_fwd_nil id _ (h.client_received htransit).2
  back := Channel.channel_back_nil id _ (h.server_received htransit).2
  source_recv := (h.serverRested.source id).1
  source_pending := (h.serverRested.source id).2
  sink_recv := (h.clientRested.sink id).1
  sink_pending := (h.clientRested.sink id).2

theorem Calm.inward (h : Calm s) (htransit : Transit s) (id : StreamId) :
    Still (s.inward id) where
  fwd := Channel.channel_fwd_nil id _ (h.server_received htransit).2
  back := Channel.channel_back_nil id _ (h.client_received htransit).2
  source_recv := (h.clientRested.source id).1
  source_pending := (h.clientRested.source id).2
  sink_recv := (h.serverRested.sink id).1
  sink_pending := (h.serverRested.sink id).2

/-- What is known of a jammed session that waits for nothing. -/
structure Idle (capacity : Nat) (pty : Option PtyMaster) (s : State) : Prop where
  jammed : Jammed capacity s
  intact : Intact pty s
  calm : Calm s
  not_waiting : ¬ Waiting s

theorem Idle.server_main (h : Idle capacity pty s) :
    s.server.main = .join ∨ s.server.main = .ok := by
  have hsender := h.intact.sound.settled.transit.server.sender
  have hnone := h.jammed.server (e := .mainSent) rfl rfl rfl rfl
  have hroom : s.server.side.queue.length < Side.queueCapacity := by
    rw [(queue_of_unsent h.calm.serverUnsent).2]
    exact Nat.zero_lt_succ _
  have hopen (hheld : s.server.released = false) : s.server.side.sender ≠ .done := by
    intro hdone
    have hreleased := (hsender.closed (by rw [Side.closing, hdone])).2.2
    rw [hheld] at hreleased
    cases hreleased
  cases hmain : s.server.main with
  | select => exact absurd (.child hmain) h.not_waiting
  | sendSinkClosed status | sendExit status =>
      have henqueue (m : ServerAction) := Side.enqueue_eq m
        (hopen (by rw [Server.State.released, hmain])) hroom
      simp [Server.step, hmain, henqueue] at hnone
  | kill => exact absurd hmain h.intact.server.main.2
  | err => exact absurd hmain h.intact.server.main.1
  | join => exact Or.inl rfl
  | ok => exact Or.inr rfl

theorem Idle.exited (h : Idle capacity pty s) : ∃ status, s.server.exited = some status := by
  refine Option.isSome_iff_exists.mp (h.intact.server.exited fun hmain => ?_)
  exact h.not_waiting (.child hmain)

theorem Idle.released (h : Idle capacity pty s) : s.server.released = true := by
  rcases h.server_main with hmain | hmain <;> rw [Server.State.released, hmain]

theorem Idle.exitStatus (h : Idle capacity pty s) {status : ExitStatus}
    (hexited : s.server.exited = some status) :
    s.client.exitStatus = some (some status) := by
  have hsettled := h.intact.sound.settled
  have hattending : s.client.side.receiver ≠ .done false := by
    intro hpc
    have hclient := h.intact.sound.client
    rw [hpc] at hclient
    cases hclient
  refine exitStatus_of_received hsettled h.intact.client.notified hattending
    (h.calm.client_received hsettled.transit).1 ?_
  rw [hsettled.server.exits, h.released, hexited]
  rfl

theorem Idle.outward_done (h : Idle capacity pty s) {a : Source.Task} {b : Sink.Task}
    (hsource : s.server.side.sources.get id = some a)
    (hsink : s.client.side.sinks.get id = some b) : a.pc = .done ∧ b.pc = .done := by
  have hstill := h.calm.outward h.intact.sound.settled.transit id
  have hlively := h.intact.sound.outward id
  have ha : (s.outward id).source = a := Side.view_source hsource
  have hb : (s.outward id).sink = b := Side.view_sink hsink
  have hwriting : (s.outward id).sink.writing = false := by
    rw [hb]
    exact Bool.eq_false_iff.mpr fun hwriting => h.not_waiting (.clientWriter hsink hwriting)
  have hreading : (s.outward id).source.reading = false := by
    rw [ha]
    exact Bool.eq_false_iff.mpr fun hreading => h.not_waiting (.output hsource hreading)
  have hdone := hstill.source_done hlively (h.intact.sound.settled.not_panicked id).1
    hwriting hreading
  have hdone' := hstill.sink_done hlively hdone hwriting
  rw [ha] at hdone
  rw [hb] at hdone'
  exact ⟨hdone, hdone'⟩

theorem Idle.inward_done (h : Idle capacity pty s) {a : Source.Task} {b : Sink.Task}
    (hsource : s.client.side.sources.get .stdin = some a)
    (hsink : s.server.side.sinks.get .stdin = some b) : a.pc = .done ∧ b.pc = .done := by
  have hsettled := h.intact.sound.settled
  have hstill := h.calm.inward hsettled.transit .stdin
  have hlively := h.intact.sound.inward .stdin
  have ha : (s.inward .stdin).source = a := Side.view_source hsource
  have hb : (s.inward .stdin).sink = b := Side.view_sink hsink
  have hwriting : (s.inward .stdin).sink.writing = false := by
    rw [hb]
    exact Bool.eq_false_iff.mpr fun hwriting => h.not_waiting (.serverWriter hsink hwriting)
  -- `serve` has enqueued a `SinkClosed` in the name of the sink
  have hinjected : s.server.injected = 1 := by
    obtain ⟨status, hexited⟩ := h.exited
    rw [hsettled.server.injected]
    rcases h.server_main with hmain | hmain <;>
      rw [Server.State.stdinClosed, hmain, hexited] <;> rfl
  have hclosings : 0 < Closure.closings (s.inward .stdin) := by
    have hle : s.server.injected ≤ (s.inward .stdin).injected := Nat.le_add_right _ _
    simp only [Closure.closings]
    omega
  have hdone := hstill.source_done_of_closing hlively (hsettled.not_panicked .stdin).2 hclosings
  have hdone' := hstill.sink_done hlively hdone hwriting
  rw [ha] at hdone
  rw [hb] at hdone'
  exact ⟨hdone, hdone'⟩

theorem ended_of_done {a : Source.Task} (h : a.pc = .done) : a.ended = true := by
  rw [Source.Task.ended, h]

theorem sink_ended_of_done {b : Sink.Task} (h : b.pc = .done) : b.ended = true := by
  rw [Sink.Task.ended, h]

theorem Idle.client_quiet (h : Idle capacity pty s) : Side.Quiet s.client.side := by
  have hforwarding := h.intact.sound.forwarding
  refine hforwarding.client_quiet (fun id a ha => ?_) (fun id b hb => ?_)
  · obtain ⟨rfl, b, hb⟩ := hforwarding.server_sink ha
    exact ended_of_done (h.inward_done ha hb).1
  · obtain ⟨a, ha⟩ := hforwarding.server_source hb
    exact sink_ended_of_done (h.outward_done ha hb).2

theorem Idle.server_quiet (h : Idle capacity pty s) : Side.Quiet s.server.side := by
  have hforwarding := h.intact.sound.forwarding
  refine hforwarding.server_quiet (fun id a ha => ?_) (fun id b hb => ?_)
  · obtain ⟨b, hb⟩ := hforwarding.client_sink ha
    exact ended_of_done (h.outward_done ha hb).1
  · obtain ⟨a, ha⟩ := hforwarding.client_source hb
    obtain ⟨rfl, -⟩ := hforwarding.server_sink ha
    exact sink_ended_of_done (h.inward_done ha hb).2

theorem Idle.taskEnd (h : Idle capacity pty s) : s.client.taskEnd = true := by
  apply h.intact.client.taskEnd
  intro hmain
  obtain ⟨status, hexited⟩ := h.exited
  have hnone := h.jammed.client (e := .status) rfl rfl rfl rfl
  simp [Client.step, Client.State.returned, hmain, h.exitStatus hexited] at hnone

theorem Idle.window_ended (h : Idle capacity pty s) : s.client.windowEnded = true := by
  by_contra hwindow
  have hsender := h.intact.sound.settled.transit.client.sender
  have hopen : s.client.side.sender ≠ .done := by
    intro hdone
    have hheld := (hsender.closed (by rw [Side.closing, hdone])).2.2
    simp [hwindow] at hheld
  have halive : s.client.returned = false :=
    Bool.eq_false_iff.mpr fun hreturned => hopen (h.intact.of_returned hreturned).2.2
  have hroom : s.client.side.queue.length < Side.queueCapacity := by
    rw [(queue_of_unsent h.calm.clientUnsent).2]
    exact Nat.zero_lt_succ _
  unfold Client.State.windowEnded at hwindow
  split at hwindow
  · rename_i hpc
    have hnone := h.jammed.client (e := .windowEnd) rfl rfl rfl rfl
    simp [Client.step, halive, hpc, h.taskEnd] at hnone
  · rename_i size hpc
    have hnone := h.jammed.client (e := .windowSent) rfl rfl rfl rfl
    simp [Client.step, halive, hpc, Side.enqueue_eq _ hopen hroom] at hnone
  · exact hwindow rfl

theorem Idle.client_sender (h : Idle capacity pty s) : s.client.side.sender = .done := by
  cases hreturned : s.client.returned with
  | true => exact (h.intact.of_returned hreturned).2.2
  | false =>
      have hsending := (queue_of_unsent h.calm.clientUnsent).1
      cases hpc : s.client.side.sender with
      | recv =>
          have hheld := (h.jammed.client_blocked hreturned).held hpc h.client_quiet
          simp [Client.State.env, h.window_ended] at hheld
      | send m | finish => simp [Side.sending, hpc] at hsending
      | notified => exact absurd hpc h.intact.client.impatient
      | done => rfl

theorem Idle.client_finished (h : Idle capacity pty s) : .finished ∈ s.client.side.log :=
  h.intact.sound.settled.transit.client.sender.finished_mem
    (Or.inr ⟨h.client_sender, h.intact.client.sends⟩)

theorem Idle.server_receiver (h : Idle capacity pty s) :
    s.server.side.receiver = .done true := by
  have htransit := h.intact.sound.settled.transit
  apply htransit.server.finished.mpr
  rw [(h.calm.server_received htransit).1]
  exact h.client_finished

theorem Idle.server_sender (h : Idle capacity pty s) : s.server.side.sender = .done := by
  have hsending := (queue_of_unsent h.calm.serverUnsent).1
  cases hpc : s.server.side.sender with
  | recv =>
      have hheld := h.jammed.server_blocked.held hpc h.server_quiet
      simp [Server.State.env, h.released] at hheld
  | send m | finish => simp [Side.sending, hpc] at hsending
  | notified =>
      have hpermit := h.jammed.server_blocked.unpermitted hpc
      have hnotified := h.intact.sound.settled.watched.notified.mpr ⟨true, h.server_receiver⟩
      simp [Server.State.env, hnotified] at hpermit
  | done => rfl

theorem Idle.server_finished (h : Idle capacity pty s) : .finished ∈ s.server.side.log :=
  h.intact.sound.settled.transit.server.sender.finished_mem
    (Or.inr ⟨h.server_sender, h.intact.server.sends⟩)

theorem Idle.client_receiver (h : Idle capacity pty s) :
    s.client.side.receiver = .done true := by
  have htransit := h.intact.sound.settled.transit
  apply htransit.client.finished.mpr
  rw [(h.calm.client_received htransit).1]
  exact h.server_finished

theorem Idle.client_handlers (h : Idle capacity pty s) : s.client.handlersOk = true := by
  have hforwarding := h.intact.sound.forwarding
  have hsink (id : StreamId) (b : Sink.Task) (hb : b ∈ s.client.side.sinks.get id) :
      b.pc = .done := by
    obtain ⟨a, ha⟩ := hforwarding.server_source hb
    exact (h.outward_done ha hb).2
  have hsource (a : Source.Task) (ha : a ∈ s.client.side.sources.get .stdin) : a.pc = .done := by
    obtain ⟨-, b, hb⟩ := hforwarding.server_sink ha
    exact (h.inward_done ha hb).1
  have hwindow (pc : Client.WindowPc) (hpc : pc ∈ s.client.window) : pc = .done := by
    have hended := h.window_ended
    have hnot := h.intact.client.window
    rw [Option.mem_def.mp hpc] at hnot
    rw [Client.State.windowEnded, Option.mem_def.mp hpc] at hended
    cases pc <;> simp_all
  simp only [Client.State.handlersOk, Bool.and_eq_true, decide_eq_true_eq]
  exact ⟨⟨⟨hsource, hsink .stdout⟩, hsink .stderr⟩, hwindow⟩

theorem Idle.server_handlers (h : Idle capacity pty s) : s.server.handlersOk = true := by
  have hforwarding := h.intact.sound.forwarding
  have hsource (id : StreamId) (a : Source.Task) (ha : a ∈ s.server.side.sources.get id) :
      a.pc = .done := by
    obtain ⟨b, hb⟩ := hforwarding.client_sink ha
    exact (h.outward_done ha hb).1
  have hsink (b : Sink.Task) (hb : b ∈ s.server.side.sinks.get .stdin) : b.pc = .done := by
    obtain ⟨a, ha⟩ := hforwarding.client_source hb
    exact (h.inward_done ha hb).2
  simp only [Server.State.handlersOk, Bool.and_eq_true, decide_eq_true_eq]
  exact ⟨⟨hsink, hsource .stdout⟩, hsource .stderr⟩

theorem Idle.client_main (h : Idle capacity pty s) {status : ExitStatus}
    (hexited : s.server.exited = some status) : s.client.main = .ok status := by
  have hreported := h.intact.sound.settled.client
  have hsame {status' : ExitStatus} (hmain : s.client.main = .joinHandlers status' ∨
      s.client.main = .joinTasks status' ∨ s.client.main = .ok status') : status' = status := by
    have hstatus := hreported.status status' hmain
    rw [h.exitStatus hexited] at hstatus
    exact (Option.some.inj (Option.some.inj hstatus)).symm
  cases hmain : s.client.main with
  | awaitStatus =>
      have hnone := h.jammed.client (e := .status) rfl rfl rfl rfl
      simp [Client.step, Client.State.returned, hmain, h.exitStatus hexited] at hnone
  | joinHandlers status' =>
      have hnone := h.jammed.client (e := .handlersJoined true) rfl rfl rfl rfl
      simp [Client.step, Client.State.returned, hmain, h.client_handlers] at hnone
  | joinTasks status' =>
      have hnone := h.jammed.client (e := .tasksJoined) rfl rfl rfl rfl
      simp [Client.step, Client.State.returned, hmain, h.client_receiver, h.client_sender]
        at hnone
  | ok status' => rw [hsame (Or.inr (Or.inr hmain))]
  | err => exact absurd hmain h.intact.client.main

theorem Idle.server_ok (h : Idle capacity pty s) : s.server.main = .ok := by
  apply h.server_main.resolve_left
  intro hmain
  have hnone := h.jammed.server (e := .joined) rfl rfl rfl rfl
  simp [Server.step, hmain, h.server_handlers, h.server_receiver, h.server_sender] at hnone

theorem Idle.final (h : Idle capacity pty s) : ∃ status, Final status s := by
  obtain ⟨status, hexited⟩ := h.exited
  exact ⟨status,
    { clientMain := h.client_main hexited
      serverMain := h.server_ok
      exitStatus := h.exitStatus hexited
      exited := hexited
      clientSender := ⟨h.client_sender, h.client_finished⟩
      serverSender := ⟨h.server_sender, h.server_finished⟩
      clientReceiver := h.client_receiver
      serverReceiver := h.server_receiver
      clientQuiet := h.client_quiet
      serverQuiet := h.server_quiet
      windowEnded := h.window_ended }⟩

/-- In every steady session without forwarded ports some task can take a step, unless the
session waits for the child or for a writer, or has come to its end. -/
theorem deadlock_free (capacity : Nat) (hcapacity : 0 < capacity) (pty : Option PtyMaster)
    (s : State) (h : Reach (step capacity) Steady (new pty []) s) :
    (∃ e t, external e = false ∧ step capacity s e = some t) ∨ Waiting s ∨
      ∃ status, Final status s := by
  have hintact := intact_of_reach h
  by_cases hstuck : Stuck capacity s
  · right
    by_cases hwaiting : Waiting s
    · exact Or.inl hwaiting
    · have hcalm := hstuck.jammed.calm hintact hcapacity
      exact Or.inr (Idle.final ⟨hstuck.jammed, hintact, hcalm, hwaiting⟩)
  · left
    simp only [Stuck, not_forall] at hstuck
    obtain ⟨e, hinternal, hstep⟩ := hstuck
    obtain ⟨t, ht⟩ := Option.ne_none_iff_exists'.mp hstep
    exact ⟨e, t, hinternal, ht⟩

theorem stuck_of_returned (hreturned : s.client.returned = true) (hmain : s.server.main = .ok)
    (hreceiver : s.server.side.receiver = .done true) (hsender : s.server.side.sender = .done)
    (hquiet : Side.Quiet s.server.side) : Stuck capacity s := by
  intro e hinternal
  cases e with
  | client e => simp [step, Client.step, hreturned]
  | server e =>
      suffices hnone : Server.step s.server e = none by simp [step, hnone]
      cases e with
      | side e =>
          have hnone : s.server.side.step s.server.env e = none := by
            refine hquiet.step_internal (fun e => ?_) (Or.inr hreceiver) hinternal
            cases e <;> simp [Side.stepSender, hsender]
          simp [Server.step, hnone]
      | receive m => simp [Server.step, Server.State.receive, hreceiver]
      | leave => simp [Server.step, Server.State.leave, hreceiver]
      | childExited | waitFailed => cases hinternal
      | _ => simp [Server.step, hmain]

theorem not_waiting_of_quiet (hmain : s.server.main ≠ .select)
    (hclient : Side.Quiet s.client.side) (hserver : Side.Quiet s.server.side) : ¬ Waiting s := by
  rintro (hselect | ⟨get, hreading⟩ | ⟨get, hwriting⟩ | ⟨get, hwriting⟩)
  · exact hmain hselect
  · rw [hserver.not_reading get] at hreading
    cases hreading
  · rw [hserver.not_writing get] at hwriting
    cases hwriting
  · rw [hclient.not_writing get] at hwriting
    cases hwriting

theorem Final.stuck {status : ExitStatus} (h : Final status s) :
    Stuck capacity s ∧ ¬ Waiting s :=
  ⟨stuck_of_returned (by rw [Client.State.returned, h.clientMain]) h.serverMain
      h.serverReceiver h.serverSender.1 h.serverQuiet,
    not_waiting_of_quiet (by simp [h.serverMain]) h.clientQuiet h.serverQuiet⟩

/-- The processes join what has ended. -/
def joining : List Event :=
  [.client (.handlersJoined true), .client .tasksJoined, .server .joined]

theorem deadlock_free_exiting :
    ∃ s, run (step 1) (new none []) (exiting ++ finishing ++ joining) = some s ∧
      Stuck 1 s ∧ ∃ status, Final status s := by
  have hjoined : (run (guarded (step 1) Steady) (new none [])
      (exiting ++ finishing ++ joining)).any (fun s => decide (s.client.returned = true ∧
        s.server.main = .ok ∧ s.server.side.receiver = .done true ∧
        s.server.side.sender = .done ∧ s.server.side.quiet = true ∧
        s.client.side.quiet = true)) = true := by decide +kernel
  obtain ⟨s, hs, hfacts⟩ := (Option.any_eq_true _ _).mp hjoined
  obtain ⟨hreturned, hmain, hreceiver, hsender, hserver, hclient⟩ := of_decide_eq_true hfacts
  obtain ⟨hs', hreach⟩ := reach_of_guarded hs
  have hserver := Side.quiet_iff.mp hserver
  have hclient := Side.quiet_iff.mp hclient
  have hstuck : Stuck 1 s := stuck_of_returned hreturned hmain hreceiver hsender hserver
  refine ⟨s, hs', hstuck, ?_⟩
  rcases deadlock_free 1 Nat.zero_lt_one none s hreach with ⟨e, t, hinternal, hstep⟩ | hrest
  · rw [hstuck e hinternal] at hstep
    cases hstep
  · exact hrest.resolve_left (not_waiting_of_quiet (by simp [hmain]) hclient hserver)

end Rlirsh.Session
