import Rlirsh.Session.Reliable

namespace Rlirsh.Session

open Rlirsh.Protocol
open Rlirsh.Terminal (PtyMaster)
open Rlirsh.Lib
open Rlirsh.Lib.Machine
open Rlirsh.Stream
open Rlirsh.Stream.Answers (Flushing Muting muting_new)
open Rlirsh.Execute

variable {capacity : Nat} {pty : Option PtyMaster} {ports : List Port} {s t : State} {id : StreamId}

/-- No dispatch has failed. -/
def Undisturbed (s : State) : Prop :=
  ∀ undelivered, s.client.side.receiver ≠ .failed undelivered ∧
    s.server.side.receiver ≠ .failed undelivered

/-- Both receivers attend to the connection. -/
def Attending (s : State) : Prop :=
  s.client.side.receiver.attending = true ∧ s.server.side.receiver.attending = true

theorem not_drained_of_reach (h : Reach (step capacity) Connected (new pty ports) s) :
    s.client.side.receiver.drained = false ∧ s.server.side.receiver.drained = false := by
  apply h.invariant (P := fun s => s.client.side.receiver.drained = false ∧
    s.server.side.receiver.drained = false) ⟨rfl, rfl⟩
  intro a e b _ hopen hok hstep
  cases e with
  | client e =>
      obtain ⟨hstepped, -, -, -, hserver⟩ := client_spec hstep
      refine ⟨Bool.eq_false_iff.mpr fun hdrained => ?_, hserver ▸ hopen.2⟩
      rcases hstepped.drained hdrained with hbefore | ⟨_, _, _, rfl⟩
      · rw [hopen.1] at hbefore
        cases hbefore
      · cases hok
  | server e =>
      obtain ⟨hstepped, -, -, hclient⟩ := server_spec hstep
      refine ⟨hclient ▸ hopen.1, Bool.eq_false_iff.mpr fun hdrained => ?_⟩
      rcases hstepped.drained hdrained with hbefore | ⟨_, _, _, rfl⟩
      · rw [hopen.2] at hbefore
        cases hbefore
      · cases hok

theorem attending_of_reach (h : Reach (step capacity) Connected (new pty ports) s)
    (hundisturbed : Undisturbed s) : Attending s := by
  obtain ⟨hclient, hserver⟩ := not_drained_of_reach h
  exact ⟨ReceiverPc.attending_iff.mpr ⟨hclient, fun undelivered => (hundisturbed undelivered).1⟩,
    ReceiverPc.attending_iff.mpr ⟨hserver, fun undelivered => (hundisturbed undelivered).2⟩⟩

theorem left_of_not_attending {pc : ReceiverPc} (h : pc.attending = false) :
    pc.left = true ∧ pc ≠ .done true := by
  constructor
  · cases pc with
    | recv | dispatch => cases h
    | _ => rfl
  · rintro rfl
    cases h

theorem Attending.before {e : Event} (h : Attending t) (hstep : step capacity s e = some t) :
    Attending s := by
  cases e with
  | client e =>
      obtain ⟨hstepped, -, -, -, hserver⟩ := client_spec hstep
      refine ⟨Bool.not_eq_false _ ▸ fun hnot => ?_, hserver ▸ h.2⟩
      obtain ⟨hleft, hopen⟩ := left_of_not_attending hnot
      obtain ⟨hleft', hiff⟩ := hstepped.left hleft
      exact hopen (hiff.mp (ReceiverPc.done_of_left h.1 hleft'))
  | server e =>
      obtain ⟨hstepped, -, -, hclient⟩ := server_spec hstep
      refine ⟨hclient ▸ h.1, Bool.not_eq_false _ ▸ fun hnot => ?_⟩
      obtain ⟨hleft, hopen⟩ := left_of_not_attending hnot
      obtain ⟨hleft', hiff⟩ := hstepped.left hleft
      exact hopen (hiff.mp (ReceiverPc.done_of_left h.2 hleft'))

/-- A `flush` of a sink of the client that fails does so with `BrokenPipe`. -/
def flushed : Event → Bool
  | .client (.side (.sink _ (.flushed res))) => decide res.orderly
  | _ => true

/-- The connection does not fail, and a `flush` of the client with `BrokenPipe` only. -/
def Flushed (s : State) (e : Event) : Prop := Connected s e ∧ flushed e = true

instance (s : State) (e : Event) : Decidable (Flushed s e) :=
  inferInstanceAs (Decidable (_ ∧ _))

theorem outward_flushing {e : Event} (hs : Settled s) (hforwarding : Forwarding ports s)
    (hrouted : Routed pty ports s) (hattending : Attending s) (hok : Flushed s e)
    (hstep : step capacity s e = some t) {pe : Pair.Event}
    (hpe : s.outwardEvent id e = some pe) : Flushing (s.outward id) pe := by
  cases e with
  | client e =>
      have hstepped := (client_spec hstep).stepped
      cases e with
      | side e =>
          cases hs.transit.client.far_step Client.State.left_of_gone hattending.1
            hstepped.of_side hpe with
          | @own e' eq not_shutdown open_queue recvNone =>
              subst eq
              cases e' with
              | recvNone =>
                  obtain ⟨hdone, hsink, -, -⟩ := recvNone rfl
                  obtain ⟨b, hb⟩ :=
                    Option.isSome_iff_exists.mp (hrouted.source_of_sink hforwarding hsink)
                  show (s.server.side.view.source id).ended = true
                  rw [Side.view_source hb]
                  exact (quiet_of_finished hs.transit.server
                    (hs.client_received hdone).1).1.sources id b hb
              | sendFailed => exact absurd rfl open_queue
              | shutdown => exact absurd rfl not_shutdown
              | flushed res =>
                  show res.orderly
                  exact of_decide_eq_true hok.2
              | _ => trivial
          | _ => trivial
      | _ => cases hpe
  | server e =>
      have hstepped := (server_spec hstep).stepped
      cases e with
      | side e =>
          cases hs.transit.server.near_step hs.unreplaced.server Server.State.left_of_gone
            hattending.2 hstepped.of_side hpe with
          | @own e' eq not_shutdown =>
              cases e' with
              | shutdown => exact absurd rfl not_shutdown
              | _ => trivial
          | deliver => trivial
      | mainSent =>
          simp only [State.outwardEvent, Server.State.effect] at hpe
          split at hpe <;> cases hpe
      | _ => cases hpe

theorem muting_of_reach (h : Reach (step capacity) Flushed (new pty ports) s)
    (hattending : Attending s) : ∀ id, Muting (s.outward id) := by
  refine h.invariant (P := fun s => Attending s → ∀ id, Muting (s.outward id)) ?_ ?_ hattending
  · intro _ id
    have hrefl : Reach (step 1) (fun _ _ => False) (new pty ports) (new pty ports) := .refl _
    refine (outward_reach id hrefl (fun _ => trivial) (fun _ => trivial)
      fun _ _ _ _ _ hok => hok.elim).invariant (muting_new _)
      fun _ _ _ _ hmuting hok hstep => hmuting.step hok hstep
  · intro a e b hreach ih hok hstep hattending id
    have hbefore := hattending.before hstep
    have hconnected := hreach.mono fun _ _ hok => hok.1
    have hs := settled_of_reach hreach
    rcases outward_step hs.transit hs.unreplaced hstep id with heq | ⟨pe, hpe, hpstep⟩
    · rw [heq]
      exact ih hbefore id
    · exact (ih hbefore id).step (outward_flushing hs (forwarding_of_reach hreach)
        (routed_of_reach hconnected) hbefore hok hstep hpe) hpstep

theorem Settled.client_quiet (hs : Settled s) (hdone : s.server.side.receiver = .done true) :
    Side.Quiet s.client.side :=
  (quiet_of_finished hs.transit.client (hs.server_received hdone).1).1

theorem pending_eq_none (hs : Settled s) (hforwarding : Forwarding ports s)
    (hrouted : Routed pty ports s) (hmuting : ∀ id, Muting (s.outward id))
    (hattending : Attending s) (hdone : s.server.side.receiver = .done true)
    {a : Source.Task} (get : s.server.side.sources.get id = some a) : a.pending = none := by
  have hquiet := hs.client_quiet hdone
  obtain ⟨b, hb⟩ := Option.isSome_iff_exists.mp
    (hrouted.client_sink_of_source hforwarding hquiet (by rw [get]; rfl))
  have hended : (s.client.side.view.sink id).ended = true := by
    rw [Side.view_sink hb]
    exact hquiet.sinks id b hb
  have hopen : (s.server.side.view.source id).shut = false := by
    apply Bool.eq_false_iff.mpr
    intro hshut
    have hdrained := (hs.transit.server.shutting.source_shut id hshut).1
    rw [(ReceiverPc.attending_iff.mp hattending.2).1] at hdrained
    cases hdrained
  have hnone := (hmuting id).pending_eq_none (by simp [State.outward, Channel.channel, hopen])
    hended
  rw [← Side.view_source get]
  exact hnone

theorem connects_ended (hs : Settled s) (hforwarding : Forwarding ports s)
    (hdone : s.server.side.receiver = .done true) {c : Connecter.Connect}
    (hc : c ∈ s.server.side.connects) : c.ended = true := by
  by_contra hlive
  obtain ⟨port, conn, hid, -, -⟩ := hforwarding.server.connects c hc
  obtain ⟨hasked, hopen⟩ :=
    hforwarding.open_of_pending (.tried hc hid (Bool.eq_false_iff.mpr hlive))
  obtain ⟨a, ha⟩ := hforwarding.awaiting hasked hopen
  have hended := (hs.client_quiet hdone).listeners port a ha.get
  rw [Listener.Task.ended, ha.pc] at hended
  cases hended

/-- The message may come from the server after the client has finished: it answers what the
client has sent before, or is the last of the server. -/
inductive Trailing : ServerAction → Prop
  | sink (id : StreamId) (action : SinkAction) : Trailing (.stream (.sink id action))
  | exit (status : ExitStatus) : Trailing (.exit status)
  | finished : Trailing .finished

/-- Only trailing messages are enqueued. -/
def Trails (v w : Side ServerAction) : Prop :=
  ∃ ms, w.log = v.log ++ ms ∧ ∀ m ∈ ms, Trailing m

theorem trails_of_log_eq {v w : Side ServerAction} (h : w.log = v.log) : Trails v w :=
  ⟨[], by rw [h, List.append_nil], fun _ hmem => absurd hmem List.not_mem_nil⟩

theorem trails_finish (v : Side ServerAction) : Trails v v.finish := by
  unfold Side.finish
  split
  · exact trails_of_log_eq rfl
  · exact ⟨[.finished], rfl, fun m hm => List.mem_singleton.mp hm ▸ .finished⟩

theorem trails_side {env : Env} {v w : Side ServerAction} {e : Side.Event}
    (hsources : ∀ id a, v.sources.get id = some a → a.pending = none)
    (hlisteners : ∀ port, v.listeners.get port = none)
    (hconnects : ∀ c ∈ v.connects, c.ended = true)
    (hdone : v.receiver = .done true) (hstep : v.step env e = some w) : Trails v w := by
  cases e with
  | source id e =>
      obtain ⟨a, u, hs⟩ := Side.stepSource_spec hstep
      apply trails_of_log_eq
      have hout : Side.sourceOutput ServerAction a id e = [] := by
        cases e <;> simp [Side.sourceOutput, Source.Task.emitted, hsources id a hs.get]
      rw [hs.eq, hout, Side.enqueued_nil]
      rfl
  | sink id e =>
      obtain ⟨a, u, hs⟩ := Side.stepSink_spec hstep
      refine ⟨Side.sinkOutput ServerAction a id e, by rw [hs.eq]; rfl, fun m hm => ?_⟩
      obtain ⟨action, -, rfl⟩ := List.mem_map.mp hm
      exact .sink id action
  | listener port e =>
      obtain ⟨a, ha, -⟩ := Side.stepListener_spec hstep
      rw [hlisteners port] at ha
      cases ha
  | connecter port e =>
      obtain ⟨a, -, haccepting⟩ := Side.stepConnecter_spec hstep
      cases haccepting <;> exact trails_of_log_eq rfl
  | connect i e =>
      obtain ⟨a, ha, hconnecting⟩ := Side.stepConnect_spec hstep
      have hended := hconnects a (List.mem_of_getElem? ha)
      unfold Connecter.Connect.ended at hended
      cases hconnecting with
      | connected res pc | refuse pc | accept pc | sendFailed pc =>
          rw [pc] at hended
          cases hended
  | sender e =>
      cases Side.stepSender_spec hstep with
      | close | notified => exact trails_finish v
      | _ => exact trails_of_log_eq rfl
  | receiver e =>
      cases Side.stepReceiver_spec hstep with
      | dispatch pc | abort pc | shutdownSink pc | shutdownSource pc | shutdownOrphan pc =>
          rw [hdone] at pc
          cases pc

theorem trails_server {v w : Server.State} {e : Server.Event}
    (hsources : ∀ id a, v.side.sources.get id = some a → a.pending = none)
    (hlisteners : ∀ port, v.side.listeners.get port = none)
    (hconnects : ∀ c ∈ v.side.connects, c.ended = true)
    (hdone : v.side.receiver = .done true) (hstepped : Server.Stepped v e w) :
    Trails v.side w.side := by
  cases hstepped with
  | side step => exact trails_side hsources hlisteners hconnects hdone step
  | sinkClosedSent =>
      exact ⟨[_], rfl, fun m hm => List.mem_singleton.mp hm ▸ .sink _ _⟩
  | exitSent =>
      exact ⟨[_], rfl, fun m hm => List.mem_singleton.mp hm ▸ .exit _⟩
  | _ => exact trails_of_log_eq rfl

/-- Once the server has taken the `Finished` of the client, it enqueues trailing messages
only. -/
def Winding (capacity : Nat) (s : State) : Prop :=
  s.server.side.receiver = .done true → ∀ e t, step capacity s e = some t →
    Trails s.server.side t.server.side

theorem winding_of_reach (h : Reach (step capacity) Flushed (new pty ports) s)
    (hattending : Attending s) : Winding capacity s := by
  intro hdone e t hstep
  have hs := settled_of_reach h
  have hforwarding := forwarding_of_reach h
  have hrouted := routed_of_reach (h.mono fun _ _ hok => hok.1)
  have hmuting := muting_of_reach h hattending
  cases e with
  | client e =>
      rw [(client_spec hstep).server]
      exact trails_of_log_eq rfl
  | server e =>
      exact trails_server
        (fun _ _ => pending_eq_none hs hforwarding hrouted hmuting hattending hdone)
        hs.watched.listeners (fun _ => connects_ended hs hforwarding hdone) hdone
        (server_spec hstep).stepped

/-- How the client and the server end their conversation. -/
structure Parting (s : State) : Prop where
  clientOnce : s.client.side.log.count .finished ≤ 1
  clientLast : .finished ∈ s.client.side.log →
    Side.Quiet s.client.side ∧ s.client.windowEnded = true
  serverOnce : s.server.side.log.count .finished ≤ 1
  serverLast : .finished ∈ s.server.side.log →
    s.server.side.receiver = .done true ∧ .finished ∈ s.server.received ∧
      Side.Quiet s.server.side ∧ s.server.released = true
  clientHeard : s.client.side.receiver = .done true →
    s.client.received = s.server.side.log ∧ s.client.side.delivered = s.server.side.view.log
  serverHeard : s.server.side.receiver = .done true →
    s.server.received = s.client.side.log ∧ s.server.side.delivered = s.client.side.view.log
  exit : s.client.side.receiver = .done true → ∀ status, s.server.exited = some status →
    ∃ before, s.client.received = before ++ [.finished] ∧
      before.filterMap exitOf = [status] ∧ s.client.exitStatus = some (some status)

theorem count_finished_le {T : Type} [Message T] [BEq T] [LawfulBEq T] {held : Bool} {side : Side T}
    (h : Side.SenderInv held side) : side.log.count Message.finished ≤ 1 := by
  by_cases hmem : Message.finished ∈ side.log
  · obtain ⟨-, pre, hpre, hnot⟩ := h.finished_last hmem
    rw [hpre, List.count_append, List.count_eq_zero.mpr hnot, Nat.zero_add]
    exact Nat.le_of_eq (List.count_singleton_self ..)
  · rw [List.count_eq_zero.mpr hmem]
    exact Nat.zero_le 1

theorem notified_of_reach {ok : State → Event → Prop}
    (h : Reach (step capacity) ok (new pty ports) s) : Client.Notified s.client := by
  apply h.invariant (P := fun s => Client.Notified s.client)
    (Client.notified_new _ _)
  intro a e b _ hnotified _ hstep
  cases e with
  | client e => exact hnotified.step (client_spec hstep).stepped
  | server e =>
      rw [(server_spec hstep).client]
      exact hnotified

theorem exitStatus_of_received (hs : Settled s) (hnotified : Client.Notified s.client)
    (hattending : s.client.side.receiver ≠ .done false)
    (hreceived : s.client.received = s.server.side.log) {status : ExitStatus}
    (hexits : s.server.side.log.filterMap exitOf = [status]) :
    s.client.exitStatus = some (some status) := by
  rw [← hreceived] at hexits
  have hmem : .exit status ∈ s.client.received := by
    have hmem : status ∈ s.client.received.filterMap exitOf := by
      rw [hexits]
      exact List.mem_singleton_self _
    obtain ⟨m, hm, hexit⟩ := List.mem_filterMap.mp hmem
    cases m with
    | exit status' =>
        obtain rfl := Option.some.inj hexit
        exact hm
    | _ => cases hexit
  cases hsent : s.client.exitStatus with
  | none => exact absurd hsent (hnotified.sent status hmem)
  | some sent =>
      cases sent with
      | none => exact absurd (hnotified.shut hsent) hattending
      | some first =>
          have hfirst : first ∈ s.client.received.filterMap exitOf :=
            List.mem_filterMap.mpr ⟨_, hs.client.received first hsent, rfl⟩
          rw [hexits] at hfirst
          rw [List.mem_singleton.mp hfirst]

/-- The status of a child that has exited is the one the client takes before `Finished`. -/
theorem exit_of_done (hs : Settled s) (hnotified : Client.Notified s.client)
    (hdone : s.client.side.receiver = .done true) {status : ExitStatus}
    (hexited : s.server.exited = some status) :
    ∃ before, s.client.received = before ++ [.finished] ∧
      before.filterMap exitOf = [status] ∧ s.client.exitStatus = some (some status) := by
  obtain ⟨hfinished, hreceived, -⟩ := hs.client_received hdone
  obtain ⟨-, -, hheld⟩ := quiet_of_finished hs.transit.server hfinished
  obtain ⟨-, pre, hpre, -⟩ := hs.transit.server.sender.finished_last hfinished
  have hexits := hs.server.exits
  have hreleased : s.server.released = true := by simpa using hheld
  rw [hreleased, hexited] at hexits
  refine ⟨pre, hreceived.trans hpre, ?_,
    exitStatus_of_received hs hnotified (by simp [hdone]) hreceived hexits⟩
  rw [hpre, List.filterMap_append] at hexits
  change pre.filterMap exitOf ++ [] = [status] at hexits
  rwa [List.append_nil] at hexits

theorem parting_of_reach (h : Reach (step capacity) Connected (new pty ports) s)
    (hattending : Attending s) : Parting s where
  clientOnce := count_finished_le (settled_of_reach h).transit.client.sender
  clientLast hfinished := by
    obtain ⟨hquiet, -, hheld⟩ := quiet_of_finished (settled_of_reach h).transit.client hfinished
    exact ⟨hquiet, by simpa using hheld⟩
  serverOnce := count_finished_le (settled_of_reach h).transit.server.sender
  serverLast hfinished := by
    have hs := settled_of_reach h
    obtain ⟨hquiet, -, hheld⟩ := quiet_of_finished hs.transit.server hfinished
    obtain ⟨finished, hpc⟩ := hs.server.receiver_done hs.watched hfinished
    have hdone : s.server.side.receiver = .done true := by
      cases finished with
      | true => exact hpc
      | false =>
          have hattending := hattending.2
          rw [hpc] at hattending
          cases hattending
    exact ⟨hdone, hs.transit.server.finished.mp hdone, hquiet, by simpa using hheld⟩
  clientHeard hdone := ((settled_of_reach h).client_received hdone).2
  serverHeard hdone := ((settled_of_reach h).server_received hdone).2
  exit hdone _ hexited := exit_of_done (settled_of_reach h) (notified_of_reach h) hdone hexited

/-- In every session whose connection does not fail and in which no dispatch has failed, each
process sends `Finished` once, last, and listens to the end; and what the server still
enqueues after the client has finished are trailing messages, if no `flush` of the client
fails but with `BrokenPipe`. -/
theorem parted_in_order (capacity : Nat) (pty : Option PtyMaster) (ports : List Port) (s : State)
    (hundisturbed : Undisturbed s) :
    (Reach (step capacity) Connected (new pty ports) s → Parting s) ∧
      (Reach (step capacity) Flushed (new pty ports) s → Winding capacity s) :=
  ⟨fun h => parting_of_reach h (attending_of_reach h hundisturbed),
    fun h => winding_of_reach h
      (attending_of_reach (h.mono fun _ _ hok => hok.1) hundisturbed)⟩

theorem undisturbed_of_receivers (hclient : s.client.side.receiver.attending = true)
    (hserver : s.server.side.receiver.attending = true) : Undisturbed s := fun undelivered =>
  ⟨(ReceiverPc.attending_iff.mp hclient).2 undelivered,
    (ReceiverPc.attending_iff.mp hserver).2 undelivered⟩

/-- The child exits without a word. -/
def exiting : List Event :=
  [.server (.childExited (.code 0)), .server .mainSent, .server .mainSent,
    .server (.side (.source .stdout (.read (.ok [])))), .server (.side (.source .stdout .sent)),
    .server (.side (.source .stderr (.read (.ok [])))),
    .server (.side (.source .stderr .sent))] ++
  passDown (.stream (.sink .stdin .sinkClosed)) ++ passDown (.exit (.code 0)) ++
  passDown (.stream (.source .stdout .sourceClosed)) ++
  passDown (.stream (.source .stderr .sourceClosed)) ++
  [.client .status, .client (.side (.source .stdin .recv)),
    .client (.side (.source .stdin .sent)),
    .client (.side (.sink .stdout .recv)), .client (.side (.sink .stdout .shutdownDone)),
    .client (.side (.sink .stderr .recv)), .client (.side (.sink .stderr .shutdownDone))]

/-- Both processes finish, the client first. -/
def finishing : List Event :=
  passUp (.stream (.source .stdin .sourceClosed)) ++
  [.client (.side (.sender .recvNone)), .client (.side (.sender .sent)),
    .server (.receive .finished), .server (.side (.sink .stdin .recv)),
    .server (.side (.sink .stdin .shutdownDone)), .server (.side (.sender .recvNone)),
    .server (.side (.sender .notified)), .server (.side (.sender .sent)),
    .client (.receive .finished)]

theorem parted_in_order_exiting :
    ∃ s, run (step 1) (new none []) (exiting ++ finishing) = some s ∧
      s.client.side.receiver = .done true ∧ s.server.exited = some (.code 0) ∧
      Parting s ∧ Winding 1 s := by
  have hfinished : (run (guarded (step 1) Flushed) (new none []) (exiting ++ finishing)).map
      (fun s => (s.client.side.receiver, s.server.side.receiver, s.server.exited)) =
        some (.done true, .done true, some (.code 0)) := by decide +kernel
  obtain ⟨s, hs, hfacts⟩ := Option.map_eq_some_iff.mp hfinished
  obtain ⟨hclient, hrest⟩ := Prod.mk.inj hfacts
  obtain ⟨hserver, hexited⟩ := Prod.mk.inj hrest
  obtain ⟨hs', hreach⟩ := reach_of_guarded hs
  obtain ⟨hparting, hwinding⟩ := parted_in_order 1 none [] s
    (undisturbed_of_receivers (by rw [hclient]; rfl) (by rw [hserver]; rfl))
  exact ⟨s, hs', hclient, hexited, hparting (hreach.mono fun _ _ hok => hok.1),
    hwinding hreach⟩

/-- The sink of the standard output acknowledges a packet and fails in its `flush`; the other
tasks of the client end, and the client finishes. -/
def resetAfterAck : List Event :=
  [.server (.side (.source .stdout (.read (.ok [104, 105])))),
    .server (.side (.source .stdout .sent))] ++
  passDown (.stream (.source .stdout (.data [104, 105]))) ++
  [.client (.side (.sink .stdout .recv)), .client (.side (.sink .stdout (.written .ok))),
    .client (.side (.sink .stdout .sent)),
    .client (.side (.sink .stdout (.flushed (.err .connectionReset))))] ++
  passUp (.stream (.sink .stdout .ack)) ++
  [.server (.side (.source .stdout .recv)), .server (.side (.source .stderr (.read (.ok [])))),
    .server (.side (.source .stderr .sent))] ++
  passDown (.stream (.source .stderr .sourceClosed)) ++
  [.client (.side (.sink .stderr .recv)), .client (.side (.sink .stderr .shutdownDone)),
    .client (.side (.source .stdin (.read (.ok [])))), .client (.side (.source .stdin .sent))] ++
  passUp (.stream (.source .stdin .sourceClosed)) ++
  [.client (.side (.sender .recvNone)), .client (.side (.sender .sent)),
    .server (.receive .finished), .server (.side (.source .stdout (.read (.ok [33]))))]

/-- The server goes on with its packets after it has taken the `Finished` of the client. -/
theorem continued_after_finished :
    ∃ s, run (guarded (step 1) Connected) (new none []) resetAfterAck = some s ∧
      Undisturbed s ∧ s.server.side.receiver = .done true ∧
      ∃ t, step 1 s (.server (.side (.source .stdout .sent))) = some t ∧
        ¬ Trails s.server.side t.server.side := by
  have hreset : (run (guarded (step 1) Connected) (new none []) resetAfterAck).map
      (fun s => (s.client.side.receiver, s.server.side.receiver, s.server.side.log,
        (step 1 s (.server (.side (.source .stdout .sent)))).map fun t => t.server.side.log)) =
      some (.recv, .done true,
        [.stream (.source .stdout (.data [104, 105])), .stream (.source .stderr .sourceClosed)],
        some [.stream (.source .stdout (.data [104, 105])),
          .stream (.source .stderr .sourceClosed), .stream (.source .stdout (.data [33]))]) := by
    decide +kernel
  obtain ⟨s, hs, hfacts⟩ := Option.map_eq_some_iff.mp hreset
  obtain ⟨hclient, hrest⟩ := Prod.mk.inj hfacts
  obtain ⟨hserver, hrest⟩ := Prod.mk.inj hrest
  obtain ⟨hlog, hrest⟩ := Prod.mk.inj hrest
  obtain ⟨t, ht, hlog'⟩ := Option.map_eq_some_iff.mp hrest
  refine ⟨s, hs, undisturbed_of_receivers (by rw [hclient]; rfl) (by rw [hserver]; rfl), hserver,
    t, ht, ?_⟩
  rintro ⟨ms, hms, htrailing⟩
  rw [hlog', hlog] at hms
  obtain rfl : [ServerAction.stream (.source .stdout (.data [33]))] = ms := by
    simpa using hms
  cases htrailing _ (List.mem_singleton_self _)

end Rlirsh.Session
