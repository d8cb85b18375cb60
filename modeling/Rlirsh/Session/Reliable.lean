import Rlirsh.Session.Ending
import Rlirsh.Session.Handshake
import Rlirsh.Execute.Orderly

namespace Rlirsh.Session

open Rlirsh.Protocol
open Rlirsh.Terminal (PtyMaster)
open Rlirsh.Lib
open Rlirsh.Lib.History
open Rlirsh.Lib.Machine
open Rlirsh.Stream
open Rlirsh.Stream.Ports (Held)
open Rlirsh.Stream.Closure (Lively)
open Rlirsh.Execute

/-- A writer that fails does so with `BrokenPipe`. -/
def orderly : Event → Bool
  | .client (.side e) | .server (.side e) => tidy e
  | _ => true

/-- The connection does not fail, and the writers fail with `BrokenPipe` only. -/
def Reliable (s : State) (e : Event) : Prop := Connected s e ∧ orderly e = true

instance (s : State) (e : Event) : Decidable (Reliable s e) :=
  inferInstanceAs (Decidable (_ ∧ _))

/-- The receiver of the client does not take an action of a forwarded connection before the
listener has woken up from the response that accepted it. -/
def awake (s : State) : Event → Bool
  | .client (.receive (.stream action)) =>
      match streamOf action with
      | some (.forward port conn) => !decide (Held s.client.side.ports port conn)
      | _ => true
  | _ => true

def Attended (s : State) (e : Event) : Prop := Reliable s e ∧ awake s e = true

instance (s : State) (e : Event) : Decidable (Attended s e) :=
  inferInstanceAs (Decidable (_ ∧ _))

/-- What every attended session keeps. -/
structure Sound (pty : Option PtyMaster) (ports : List Port) (s : State) : Prop where
  forwarding : Forwarding ports s
  routed : Routed pty ports s
  settled : Settled s
  client : s.client.side.receiver.attending = true
  server : s.server.side.receiver.attending = true
  status : s.client.exitStatus ≠ some none
  outward : ∀ id, Lively (s.outward id)
  inward : ∀ id, Lively (s.inward id)
  -- the standard error of a child with a pty is closed from the start
  closedSource : pty.isSome = true → s.server.side.view.source .stderr = Server.closedSource

variable {pty : Option PtyMaster} {ports : List Port} {s t : State} {id : StreamId}

theorem exists_forward (hid : id.isForward = true) :
    ∃ port conn, id = .forward port conn := by
  cases id with
  | forward port conn => exact ⟨port, conn, rfl⟩
  | _ => cases hid

/-- A stream that is used on the client is registered on the server. -/
theorem Routed.server_registered (h : Routed pty ports s) (hforwarding : Forwarding ports s)
    (hid : id.isForward = true) (huses : s.client.side.ports.uses id) :
    id ∈ s.server.side.sinkTxMap ∧ id ∈ s.server.side.sourceTxMap := by
  obtain ⟨port, conn, rfl⟩ := exists_forward hid
  obtain ⟨hacc, -⟩ := hforwarding.client.used port conn huses
  exact h.server.registered port conn (hforwarding.transit.fifo.2.subset hacc)

theorem Routed.client_registered (h : Routed pty ports s) (hforwarding : Forwarding ports s)
    (hid : id.isForward = true) (hquiet : Side.Quiet s.client.side)
    (huses : s.server.side.ports.uses id) :
    id ∈ s.client.side.sinkTxMap ∧ id ∈ s.client.side.sourceTxMap := by
  obtain ⟨port, conn, rfl⟩ := exists_forward hid
  have hacc : accepted (.forward port conn) ∈ s.server.side.view.log :=
    hforwarding.server.used port conn huses
  have hpos : 0 < responses port conn s.server.side.view.log := Ports.responses_pos hacc
  have hasked := Nat.lt_of_lt_of_le hpos (hforwarding.responses_le_requests port conn)
  have hanswered : 0 < responses port conn s.client.side.delivered := by
    by_contra hnone
    obtain ⟨a, ha⟩ := hforwarding.awaiting hasked (Nat.eq_zero_of_not_pos hnone)
    have hended := hquiet.listeners port a ha.get
    rw [Listener.Task.ended, ha.pc] at hended
    cases hended
  have hdelivered : accepted (.forward port conn) ∈ s.client.side.delivered := by
    have hone := hforwarding.responses_le_one port conn
    obtain ⟨rest, hrest⟩ := hforwarding.transit.fifo.2
    rw [← hrest] at hacc hone
    apply (List.mem_append.mp hacc).resolve_right
    intro hmem
    have hsecond := Ports.responses_pos hmem
    rw [responses, List.countP_append] at hone
    simp only [responses] at hanswered hsecond
    have hsame : s.client.side.view.delivered = s.client.side.delivered := rfl
    rw [hsame] at hone
    omega
  rcases h.client.registered port conn hdelivered with hmem | hheld
  · exact hmem
  · obtain ⟨a, ha, -, hok⟩ := hheld
    have hended := hquiet.listeners port a ha
    have hreq := (hforwarding.client.asking port a ha).heard (List.ne_nil_of_mem hok)
    unfold Listener.Task.ended at hended
    unfold Listener.Task.requesting at hreq
    grind

theorem Routed.source_of_sink (h : Routed pty ports s) (hforwarding : Forwarding ports s)
    (hsink : (s.client.side.sinks.get id).isSome = true) :
    (s.server.side.sources.get id).isSome = true := by
  cases hid : id.isForward with
  | false =>
      exact (hforwarding.serverStreams.sources id hid).mpr
        ((hforwarding.clientStreams.sinks id hid).mp hsink)
  | true =>
      have huses : s.client.side.ports.uses id := Or.inr (Or.inr (Or.inr hsink))
      exact h.serverMapped.sources id (h.server_registered hforwarding hid huses).2

theorem Routed.sink_of_source (h : Routed pty ports s) (hforwarding : Forwarding ports s)
    (hsource : (s.client.side.sources.get id).isSome = true) :
    (s.server.side.sinks.get id).isSome = true := by
  cases hid : id.isForward with
  | false =>
      exact (hforwarding.serverStreams.sinks id hid).mpr
        ((hforwarding.clientStreams.sources id hid).mp hsource)
  | true =>
      have huses : s.client.side.ports.uses id := Or.inr (Or.inr (Or.inl hsource))
      exact h.serverMapped.sinks id (h.server_registered hforwarding hid huses).1

theorem Routed.client_source_of_sink (h : Routed pty ports s) (hforwarding : Forwarding ports s)
    (hquiet : Side.Quiet s.client.side) (hsink : (s.server.side.sinks.get id).isSome = true) :
    (s.client.side.sources.get id).isSome = true := by
  cases hid : id.isForward with
  | false =>
      exact (hforwarding.clientStreams.sources id hid).mpr
        ((hforwarding.serverStreams.sinks id hid).mp hsink)
  | true =>
      have huses : s.server.side.ports.uses id := Or.inr (Or.inr (Or.inr hsink))
      exact h.clientMapped.sources id (h.client_registered hforwarding hid hquiet huses).2

theorem Routed.client_sink_of_source (h : Routed pty ports s) (hforwarding : Forwarding ports s)
    (hquiet : Side.Quiet s.client.side)
    (hsource : (s.server.side.sources.get id).isSome = true) :
    (s.client.side.sinks.get id).isSome = true := by
  cases hid : id.isForward with
  | false =>
      exact (hforwarding.clientStreams.sinks id hid).mpr
        ((hforwarding.serverStreams.sources id hid).mp hsource)
  | true =>
      have huses : s.server.side.ports.uses id := Or.inr (Or.inr (Or.inl hsource))
      exact h.clientMapped.sinks id (h.client_registered hforwarding hid hquiet huses).1

theorem Sound.server_quiet (h : Sound pty ports s)
    (hdone : s.client.side.receiver = .done true) : Side.Quiet s.server.side :=
  (quiet_of_finished h.settled.transit.server (h.settled.client_received hdone).1).1

theorem Sound.client_quiet (h : Sound pty ports s)
    (hdone : s.server.side.receiver = .done true) : Side.Quiet s.client.side :=
  (quiet_of_finished h.settled.transit.client (h.settled.server_received hdone).1).1

theorem done_of_ended {a : Source.Task} (hended : a.ended = true)
    (halive : ∀ bytes, a.pc ≠ .failed bytes) (hpanicked : a.pc ≠ .panicked) : a.pc = .done := by
  unfold Source.Task.ended at hended
  split at hended
  · assumption
  · rename_i bytes hpc
    exact absurd hpc (halive bytes)
  · rename_i hpc
    exact absurd hpc hpanicked
  · cases hended

theorem Sound.client_source_done (h : Sound pty ports s)
    (hdone : s.client.side.receiver = .done true)
    (hsource : (s.client.side.sources.get id).isSome = true) :
    (s.client.side.view.source id).pc = .done := by
  obtain ⟨b, hb⟩ := Option.isSome_iff_exists.mp (h.routed.sink_of_source h.forwarding hsource)
  apply (h.inward id).source_done
  show (s.server.side.view.sink id).ended = true
  rw [Side.view_sink hb]
  exact (h.server_quiet hdone).sinks id b hb

theorem Sound.client_sink_fed (h : Sound pty ports s)
    (hdone : s.client.side.receiver = .done true)
    (hsink : (s.client.side.sinks.get id).isSome = true)
    (hpc : (s.client.side.view.sink id).pc = .recv) :
    (s.client.side.view.sink id).rx ≠ [] := by
  obtain ⟨b, hb⟩ := Option.isSome_iff_exists.mp (h.routed.source_of_sink h.forwarding hsink)
  have hended : (s.server.side.view.source id).ended = true := by
    rw [Side.view_source hb]
    exact (h.server_quiet hdone).sources id b hb
  have hclosed := done_of_ended hended (h.outward id).source_alive (h.settled.not_panicked id).1
  exact (h.outward id).rx_ne_nil hclosed
    (Channel.channel_fwd_nil id _ (h.settled.client_received hdone).2.2) hpc

theorem Sound.server_source_done (h : Sound pty ports s)
    (hdone : s.server.side.receiver = .done true)
    (hsource : (s.server.side.sources.get id).isSome = true) :
    (s.server.side.view.source id).pc = .done := by
  have hquiet := h.client_quiet hdone
  obtain ⟨b, hb⟩ := Option.isSome_iff_exists.mp
    (h.routed.client_sink_of_source h.forwarding hquiet hsource)
  apply (h.outward id).source_done
  show (s.client.side.view.sink id).ended = true
  rw [Side.view_sink hb]
  exact hquiet.sinks id b hb

theorem Sound.server_sink_fed (h : Sound pty ports s)
    (hdone : s.server.side.receiver = .done true)
    (hsink : (s.server.side.sinks.get id).isSome = true)
    (hpc : (s.server.side.view.sink id).pc = .recv) :
    (s.server.side.view.sink id).rx ≠ [] := by
  have hquiet := h.client_quiet hdone
  obtain ⟨b, hb⟩ := Option.isSome_iff_exists.mp
    (h.routed.client_source_of_sink h.forwarding hquiet hsink)
  have hended : (s.client.side.view.source id).ended = true := by
    rw [Side.view_source hb]
    exact hquiet.sources id b hb
  have hclosed := done_of_ended hended (h.inward id).source_alive (h.settled.not_panicked id).2
  exact (h.inward id).rx_ne_nil hclosed
    (Channel.channel_fwd_nil id _ (h.settled.server_received hdone).2.2) hpc

variable {capacity : Nat}

theorem Sound.outward_orderly {e : Event} (h : Sound pty ports s) (hok : Reliable s e)
    (hstep : step capacity s e = some t) {pe : Pair.Event}
    (hpe : s.outwardEvent id e = some pe) : Window.Orderly (s.outward id) pe := by
  cases e with
  | client e =>
      have hstepped := (client_spec hstep).stepped
      cases e with
      | side e =>
          have hfar := h.settled.transit.client.far_step Client.State.left_of_gone h.client
            hstepped.of_side hpe
          exact hfar.orderly hok.2 h.client_sink_fed _
      | _ => cases hpe
  | server e =>
      have hstepped := (server_spec hstep).stepped
      cases e with
      | side e =>
          have hnear := h.settled.transit.server.near_step h.settled.unreplaced.server
            Server.State.left_of_gone h.server hstepped.of_side hpe
          exact hnear.orderly h.server_source_done _
      | mainSent =>
          simp only [State.outwardEvent, Server.State.effect] at hpe
          split at hpe <;> cases hpe
      | _ => cases hpe

theorem Sound.inward_orderly {e : Event} (h : Sound pty ports s) (hok : Reliable s e)
    (hstep : step capacity s e = some t) {pe : Pair.Event}
    (hpe : s.inwardEvent id e = some pe) : Window.Orderly (s.inward id) pe := by
  cases e with
  | client e =>
      have hstepped := (client_spec hstep).stepped
      cases e with
      | side e =>
          have hnear := h.settled.transit.client.near_step h.settled.unreplaced.client
            Client.State.left_of_gone h.client hstepped.of_side hpe
          exact hnear.orderly h.client_source_done _
      | _ => cases hpe
  | server e =>
      have hstepped := (server_spec hstep).stepped
      cases e with
      | side e =>
          have hfar := h.settled.transit.server.far_step Server.State.left_of_gone h.server
            hstepped.of_side hpe
          exact hfar.orderly hok.2 h.server_sink_fed _
      | mainSent =>
          simp only [State.inwardEvent, Server.State.effect] at hpe
          split at hpe
          · simp only [Channel.far] at hpe
            rw [Option.ite_none_right_eq_some] at hpe
            obtain rfl := Option.some.inj hpe.2
            trivial
          · cases hpe
      | _ => cases hpe

theorem Sound.next_down (h : Sound pty ports s) {action : StreamAction}
    {down : List ServerAction} (hpc : s.client.side.receiver = .recv)
    (hdown : s.down = .stream action :: down) :
    ∃ rest, s.server.side.view.log = s.client.side.delivered ++ action :: rest := by
  refine ⟨(down ++ s.server.side.unsent).filterMap Message.toStream, ?_⟩
  rw [h.settled.transit.down_log, hpc, hdown]
  exact congrArg (· ++ _) (List.append_nil _)

theorem Sound.next_up (h : Sound pty ports s) {action : StreamAction}
    {up : List ClientAction} (hpc : s.server.side.receiver = .recv)
    (hup : s.up = .stream action :: up) :
    ∃ rest, s.client.side.view.log = s.server.side.delivered ++ action :: rest := by
  refine ⟨(up ++ s.client.side.unsent).filterMap Message.toStream, ?_⟩
  rw [h.settled.transit.up_log, hpc, hup]
  exact congrArg (· ++ _) (List.append_nil _)

theorem Sound.hand_down (h : Sound pty ports s) {action : StreamAction}
    (hpc : s.client.side.receiver = .dispatch action) :
    ∃ rest, s.server.side.view.log = s.client.side.delivered ++ action :: rest := by
  refine ⟨(s.down ++ s.server.side.unsent).filterMap Message.toStream, ?_⟩
  rw [h.settled.transit.down_log, hpc, ReceiverPc.hand, List.append_assoc]
  rfl

theorem Sound.hand_up (h : Sound pty ports s) {action : StreamAction}
    (hpc : s.server.side.receiver = .dispatch action) :
    ∃ rest, s.client.side.view.log = s.server.side.delivered ++ action :: rest := by
  refine ⟨(s.up ++ s.client.side.unsent).filterMap Message.toStream, ?_⟩
  rw [h.settled.transit.up_log, hpc, ReceiverPc.hand, List.append_assoc]
  rfl

theorem Sound.client_mapped (h : Sound pty ports s) {action : StreamAction}
    {rest : List StreamAction}
    (hlog : s.server.side.view.log = s.client.side.delivered ++ action :: rest)
    (hid : streamOf action = some id)
    (hawake : awake s (.client (.receive (.stream action))) = true) :
    (s.server.side.ports.sources id = true → id ∈ s.client.side.sinkTxMap) ∧
      (s.server.side.ports.sinks id = true → id ∈ s.client.side.sourceTxMap) := by
  cases hforward : id.isForward with
  | false =>
      refine ⟨fun hsource => h.routed.client.sinks ?_, fun hsink => h.routed.client.sources ?_⟩
      · exact (h.forwarding.serverStreams.sources id hforward).mp hsource
      · exact (h.forwarding.serverStreams.sinks id hforward).mp hsink
  | true =>
      have hacc : accepted id ∈ s.client.side.delivered :=
        (h.forwarding.server.announced.next hlog) id hforward hid
      obtain ⟨port, conn, rfl⟩ := exists_forward hforward
      have hnot : ¬ Held s.client.side.ports port conn := by
        simpa [awake, hid] using hawake
      obtain ⟨hsink, hsource⟩ :=
        (h.routed.client.registered port conn hacc).resolve_right hnot
      exact ⟨fun _ => hsink, fun _ => hsource⟩

theorem Sound.client_found (h : Sound pty ports s) {action : StreamAction}
    (hpc : s.client.side.receiver = .recv)
    (hawake : awake s (.client (.receive (.stream action))) = true)
    (hstep : step capacity s (.client (.receive (.stream action))) = some t) :
    s.client.side.found action = true := by
  have hdown : s.down = .stream action :: t.down := (client_spec hstep).down
  obtain ⟨rest, hlog⟩ := h.next_down hpc hdown
  have hmem : action ∈ s.server.side.view.log := by
    rw [hlog]
    exact List.mem_append_right _ (List.mem_cons_self ..)
  cases action with
  | source id a =>
      have hknown := h.forwarding.serverStreams.logged _ hmem rfl
      exact decide_eq_true ((h.client_mapped hlog rfl hawake).1 hknown)
  | sink id a =>
      have hknown := h.forwarding.serverStreams.logged _ hmem rfl
      exact decide_eq_true ((h.client_mapped hlog rfl hawake).2 hknown)
  | listener port a => exact absurd hmem (h.forwarding.server.not_listener port a)
  | connecter id a =>
      have hmem' : .stream (.connecter id a) ∈ s.down := by
        rw [hdown]
        exact List.mem_cons_self ..
      obtain ⟨port, conn, res, b, rfl, -, hb⟩ := h.forwarding.expected_down hmem'
      exact decide_eq_true (h.forwarding.mem_of_awaiting hb)

theorem Sound.silent (h : Sound pty ports s) (hpty : pty.isSome = true) {a : SinkAction}
    {rest : List StreamAction} :
    s.client.side.view.log ≠ s.server.side.delivered ++ .sink .stderr a :: rest := by
  intro hlog
  have hsource : (s.outward .stderr).source = Server.closedSource := h.closedSource hpty
  have hback : (s.outward .stderr).back = [] := by
    refine Closure.back_of_empty (h.outward .stderr).toServed (by rw [hsource]; rfl)
      (by rw [hsource]; rfl) ?_
    show 0 + (if (s.outward .stderr).source.shut = true then 1 else 0) = 0
    rw [hsource]
    rfl
  rw [State.outward, Channel.channel_back_cons 0 hlog] at hback
  cases hback

theorem Sound.server_found (h : Sound pty ports s) {action : StreamAction}
    (hpc : s.server.side.receiver = .recv)
    (hstep : step capacity s (.server (.receive (.stream action))) = some t) :
    s.server.side.found action = true := by
  have hup : s.up = .stream action :: t.up := (server_spec hstep).up
  obtain ⟨rest, hlog⟩ := h.next_up hpc hup
  have hmem : action ∈ s.client.side.view.log := by
    rw [hlog]
    exact List.mem_append_right _ (List.mem_cons_self ..)
  cases action with
  | source id a =>
      have hknown : s.client.side.ports.sources id = true :=
        h.forwarding.clientStreams.logged _ hmem rfl
      apply decide_eq_true
      cases hforward : id.isForward with
      | false =>
          exact h.routed.server.sinks
            ((h.forwarding.clientStreams.sources id hforward).mp hknown)
      | true =>
          have huses : s.client.side.ports.uses id := Or.inr (Or.inr (Or.inl hknown))
          exact (h.routed.server_registered h.forwarding hforward huses).1
  | sink id a =>
      have hknown : s.client.side.ports.sinks id = true :=
        h.forwarding.clientStreams.logged _ hmem rfl
      apply decide_eq_true
      cases hforward : id.isForward with
      | false =>
          apply h.routed.server.sources
          have hid := (h.forwarding.clientStreams.sinks id hforward).mp hknown
          unfold sourceIds
          split
          · rename_i hpty
            rcases List.mem_cons.mp hid with rfl | hid
            · exact List.mem_singleton_self _
            · obtain rfl := List.mem_singleton.mp hid
              exact absurd hlog (h.silent hpty)
          · exact hid
      | true =>
          have huses : s.client.side.ports.uses id := Or.inr (Or.inr (Or.inr hknown))
          exact (h.routed.server_registered h.forwarding hforward huses).2
  | listener port a =>
      apply decide_eq_true
      have hport := h.forwarding.client.logged port a hmem
      rwa [← h.routed.server.connecterTxMap] at hport
  | connecter id a => exact absurd hmem (h.forwarding.client.not_connecter id a)

theorem Sound.client_handed (h : Sound pty ports s) {action : StreamAction}
    (hpc : s.client.side.receiver = .dispatch action) :
    s.client.side.dispatch action ≠ some (s.client.side.unhanded action) := by
  intro hgone
  suffices hlistening : s.client.side.listening action = true by
    cases Side.dispatch_of_listening hlistening hgone
  obtain ⟨rest, hlog⟩ := h.hand_down hpc
  have hmem : action ∈ s.server.side.view.log := by
    rw [hlog]
    exact List.mem_append_right _ (List.mem_cons_self ..)
  cases action with
  | source id a =>
      have halive := (h.outward id).alive_of_fwd
        (by rw [State.outward, Channel.channel_fwd_cons 0 hlog]; exact List.cons_ne_nil _ _)
      cases hget : s.client.side.sinks.get id with
      | none => simp [Side.dispatch, hget] at hgone
      | some b =>
          have halive : (s.client.side.view.sink id).ended = false := halive
          rw [Side.view_sink hget] at halive
          simp [Side.listening, hget, halive]
  | sink id a => rfl
  | listener port a => exact absurd hmem (h.forwarding.server.not_listener port a)
  | connecter id a =>
      have hhand : .connecter id a ∈ s.client.side.receiver.hand := by
        rw [hpc]
        exact List.mem_singleton_self _
      obtain ⟨port, conn, res, b, rfl, rfl, hb⟩ := h.forwarding.expected_hand hhand
      simp [Side.listening, hb.get, hb.number, Listener.Task.requesting, hb.pc]

theorem Sound.server_handed (h : Sound pty ports s) {action : StreamAction}
    (hpc : s.server.side.receiver = .dispatch action) :
    s.server.side.dispatch action ≠ some (s.server.side.unhanded action) := by
  intro hgone
  suffices hlistening : s.server.side.listening action = true by
    cases Side.dispatch_of_listening hlistening hgone
  obtain ⟨rest, hlog⟩ := h.hand_up hpc
  have hmem : action ∈ s.client.side.view.log := by
    rw [hlog]
    exact List.mem_append_right _ (List.mem_cons_self ..)
  cases action with
  | source id a =>
      have halive := (h.inward id).alive_of_fwd
        (by rw [State.inward, Channel.channel_fwd_cons _ hlog]; exact List.cons_ne_nil _ _)
      cases hget : s.server.side.sinks.get id with
      | none => simp [Side.dispatch, hget] at hgone
      | some b =>
          have halive : (s.server.side.view.sink id).ended = false := halive
          rw [Side.view_sink hget] at halive
          simp [Side.listening, hget, halive]
  | sink id a => rfl
  | listener port a =>
      cases hget : s.server.side.connecters.get port with
      | none => simp [Side.dispatch, hget] at hgone
      | some b =>
          have halive : b.pc ≠ .done := by
            intro hdone
            have hclosed := h.routed.server.closed port b hget hdone
            exact h.forwarding.client.closed_last.next hlog port ⟨a, rfl⟩ hclosed
          simp [Side.listening, hget, halive]
  | connecter id a => exact absurd hmem (h.forwarding.client.not_connecter id a)

theorem Sound.client_waiting (h : Sound pty ports s) {status : ExitStatus}
    (hstep : step capacity s (.client (.receive (.exit status))) = some t) :
    s.client.exitStatus = none := by
  cases hexit : s.client.exitStatus with
  | none => rfl
  | some sent =>
      cases sent with
      | none => exact absurd hexit h.status
      | some first =>
          have hreceived : first ∈ s.client.received.filterMap exitOf :=
            List.mem_filterMap.mpr ⟨_, h.settled.client.received first hexit, rfl⟩
          have hexits := h.settled.server.exits
          rw [h.settled.transit.down, (client_spec hstep).down, List.filterMap_append,
            List.filterMap_append, List.filterMap_append] at hexits
          have hlength := congrArg List.length hexits
          have hpos := List.length_pos_of_mem hreceived
          have hone : (if s.server.released = true then s.server.exited.toList
              else []).length ≤ 1 := by
            split
            · cases s.server.exited <;> simp
            · exact Nat.zero_le 1
          simp only [List.length_append] at hlength
          simp only [Client.Event.input, Option.toList_some, List.filterMap_cons, exitOf,
            List.length_cons] at hlength
          omega

theorem Sound.client_attending {e : Client.Event} (h : Sound pty ports s)
    (hok : Attended s (.client e)) (hstep : step capacity s (.client e) = some t) :
    t.client.side.receiver.attending = true := by
  have hstepped := (client_spec hstep).stepped
  obtain ⟨hdrained, hfailed⟩ := ReceiverPc.attending_iff.mp h.client
  refine ReceiverPc.attending_iff.mpr ⟨Bool.eq_false_iff.mpr fun hdrained' => ?_,
    fun undelivered hfailed' => ?_⟩
  · rcases hstepped.drained hdrained' with hbefore | ⟨_, _, _, rfl⟩
    · rw [hdrained] at hbefore
      cases hbefore
    · cases hok.1.1
  · rcases hstepped.failed hfailed' with hbefore | hfails
    · exact hfailed _ hbefore
    · cases hfails with
      | unknown pc unknown =>
          rw [h.client_found pc hok.2 hstep] at unknown
          cases unknown
      | twice second => exact second (h.client_waiting hstep)
      | gone pc gone => exact h.client_handed pc gone

theorem Sound.server_attending {e : Server.Event} (h : Sound pty ports s)
    (hok : Reliable s (.server e)) (hstep : step capacity s (.server e) = some t) :
    t.server.side.receiver.attending = true := by
  have hstepped := (server_spec hstep).stepped
  obtain ⟨hdrained, hfailed⟩ := ReceiverPc.attending_iff.mp h.server
  refine ReceiverPc.attending_iff.mpr ⟨Bool.eq_false_iff.mpr fun hdrained' => ?_,
    fun undelivered hfailed' => ?_⟩
  · rcases hstepped.drained hdrained' with hbefore | ⟨_, _, _, rfl⟩
    · rw [hdrained] at hbefore
      cases hbefore
    · cases hok.1
  · rcases hstepped.failed hfailed' with hbefore | hfails
    · exact hfailed _ hbefore
    · cases hfails with
      | unknown pc unknown =>
          rw [h.server_found pc hstep] at unknown
          cases unknown
      | gone pc gone => exact h.server_handed pc gone

theorem Sound.attending_step {e : Event} (h : Sound pty ports s) (hok : Attended s e)
    (hstep : step capacity s e = some t) :
    t.client.side.receiver.attending = true ∧ t.server.side.receiver.attending = true := by
  cases e with
  | client e =>
      refine ⟨h.client_attending hok hstep, ?_⟩
      rw [(client_spec hstep).server]
      exact h.server
  | server e =>
      refine ⟨?_, h.server_attending hok.1 hstep⟩
      rw [(server_spec hstep).client]
      exact h.client

theorem closedSource_step {u : Source.Task} {e : Source.Event} (hne : e ≠ .shutdown)
    (hstep : Server.closedSource.step e = some u) : u = Server.closedSource := by
  cases e with
  | shutdown => exact absurd rfl hne
  | deliver action => exact (Option.some.inj hstep).symm
  | _ => cases hstep

theorem Sound.step {e : Event} (h : Sound pty ports s) (hsettled : Settled t)
    (hok : Attended s e) (hstep : Session.step capacity s e = some t) : Sound pty ports t where
  forwarding := h.forwarding.step hstep
  routed := h.routed.step h.forwarding hok.1.1 hstep
  settled := hsettled
  client := (h.attending_step hok hstep).1
  server := (h.attending_step hok hstep).2
  status := by
    cases e with
    | client e =>
        intro hnone
        have hstepped := (client_spec hstep).stepped
        generalize t.client = d at hstepped hnone
        cases hstepped with
        | exit => cases hnone
        | leave pc =>
            have hattending := h.client
            rw [pc] at hattending
            cases hattending
        | _ => exact h.status hnone
    | server e =>
        rw [(server_spec hstep).client]
        exact h.status
  outward id := by
    rcases outward_step h.settled.transit h.settled.unreplaced hstep id with heq | ⟨pe, hpe, hpstep⟩
    · rw [heq]
      exact h.outward id
    · exact (h.outward id).step (h.outward_orderly hok.1 hstep hpe) hpstep
  inward id := by
    rcases inward_step h.settled.transit h.settled.unreplaced hstep id with heq | ⟨pe, hpe, hpstep⟩
    · rw [heq]
      exact h.inward id
    · exact (h.inward id).step (h.inward_orderly hok.1 hstep hpe) hpstep
  closedSource hpty := by
    cases e with
    | client e =>
        rw [(client_spec hstep).server]
        exact h.closedSource hpty
    | server e =>
        have hstepped := (server_spec hstep).stepped
        rcases hstepped.holds.source .stderr with heq | ⟨e', -, hmoved⟩
        · rw [heq, h.closedSource hpty]
        · rw [h.closedSource hpty] at hmoved
          refine closedSource_step ?_ hmoved
          -- a shutdown of the router has drained it, which a receiver that attends has not done
          rintro rfl
          have hshut : (t.server.side.view.source .stderr).shut = true := by
            rw [Source.shut_step hmoved]
            rfl
          have hdrained := (hsettled.transit.server.shutting.source_shut _ hshut).1
          have hattending := (h.attending_step hok hstep).2
          rw [(ReceiverPc.attending_iff.mp hattending).1] at hdrained
          cases hdrained

theorem sound_new (pty : Option PtyMaster) (ports : List Port) :
    Sound pty ports (new pty ports) := by
  have hrefl : Reach (Session.step 1) (fun _ _ => False) (new pty ports) (new pty ports) := .refl _
  refine ⟨forwarding_new pty ports, routed_new pty ports, settled_of_reach hrefl, rfl, rfl, ?_,
    fun id => ?_, fun id => ?_, ?_⟩
  · rintro hnone
    cases hnone
  · exact Closure.lively_of_reach (outward_reach id hrefl (fun _ => trivial) (fun _ => trivial)
      fun _ _ _ _ _ hok => hok.elim)
  · exact Closure.lively_of_reach (inward_reach id hrefl fun _ _ _ _ _ hok => hok.elim)
  · intro hpty
    obtain ⟨ptyMaster, rfl⟩ := Option.isSome_iff_exists.mp hpty
    exact Server.source_new (some ptyMaster) _ .stderr

theorem sound_of_reach (h : Reach (step capacity) Attended (new pty ports) s) :
    Sound pty ports s := by
  exact h.invariant (sound_new pty ports) fun _ _ _ hreach hsound hok hstep =>
    hsound.step (settled_of_reach (hreach.snoc hok hstep)) hok hstep

end Rlirsh.Session
