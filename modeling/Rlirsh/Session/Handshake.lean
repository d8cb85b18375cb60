import Rlirsh.Session.Ports

/-!
How the connections of the forwarded ports are set up: every request is answered once,
the response comes to the listener that waits for it, and the assertions of the routers
hold.
-/

namespace Rlirsh.Session

open Rlirsh.Protocol
open Rlirsh.Terminal (PtyMaster)
open Rlirsh.Lib
open Rlirsh.Lib.Machine
open Rlirsh.Stream
open Rlirsh.Stream.Ports (Requesting Responding Past attempts attempted)
open Rlirsh.Execute

variable {ports : List Port} {s t : State} {port : PortId} {conn : ConnId}

theorem Forwarding.attempts_le_one (h : Forwarding ports s) (port : PortId) (conn : ConnId) :
    attempts port conn s.server.side.connects ≤ 1 :=
  Nat.le_trans (Ports.attempts_le h.server port conn) (h.unique port conn)

theorem attempted_le (port : PortId) (conn : ConnId) (connects : List Connecter.Connect) :
    attempted port conn connects ≤ attempts port conn connects := by
  apply List.countP_mono_left
  intro c _ hc
  exact (Bool.and_eq_true _ _ ▸ hc).1

theorem Forwarding.responses_le (h : Forwarding ports s) (port : PortId) (conn : ConnId) :
    responses port conn s.server.side.view.log ≤
      requests port conn s.server.side.delivered := by
  apply Nat.le_trans (Nat.le_of_eq (h.server.answered port conn))
  exact Nat.le_trans (attempted_le port conn _) (Ports.attempts_le h.server port conn)

theorem Forwarding.responses_le_requests (h : Forwarding ports s) (port : PortId)
    (conn : ConnId) : responses port conn s.server.side.view.log ≤
      requests port conn s.client.side.view.log :=
  Nat.le_trans (h.responses_le port conn) (requests_mono h.transit.fifo.1 port conn)

theorem Forwarding.responses_le_one (h : Forwarding ports s) (port : PortId) (conn : ConnId) :
    responses port conn s.server.side.view.log ≤ 1 :=
  Nat.le_trans (h.responses_le_requests port conn) (h.requests_le_one port conn)

theorem Forwarding.responses_eq (h : Forwarding ports s) {c : Connecter.Connect}
    (hc : c ∈ s.server.side.connects) (hid : c.id = .forward port conn) :
    responses port conn s.server.side.view.log = if c.ended then 1 else 0 := by
  have hone := h.attempts_le_one port conn
  have hanswered : responses port conn s.server.side.view.log =
      attempted port conn s.server.side.connects := h.server.answered port conn
  rw [hanswered]
  obtain ⟨i, hi, rfl⟩ := List.mem_iff_getElem.mp hc
  split
  · rename_i hended
    have hpos : 0 < attempted port conn s.server.side.connects :=
      List.countP_pos_iff.mpr ⟨_, hc, by simp [hid, hended]⟩
    have hle := attempted_le port conn s.server.side.connects
    omega
  · rename_i hlive
    have hlt := Ports.attempted_lt (List.getElem?_eq_getElem hi) hid (by simpa using hlive)
    omega

/-- The client is waiting for the response to its request for the connection. -/
structure Awaiting (s : State) (port : PortId) (conn : ConnId) (a : Listener.Task) : Prop where
  get : s.client.side.listeners.get port = some a
  pc : a.pc = .awaitResponse
  number : a.conn = conn.id
  inbox : a.rx = []

theorem Forwarding.awaiting (h : Forwarding ports s)
    (hasked : 0 < requests port conn s.client.side.view.log)
    (hopen : responses port conn s.client.side.delivered = 0) :
    ∃ a, Awaiting s port conn a := by
  have hmem : .listener port (.connect conn) ∈ s.client.side.view.log :=
    List.count_pos_iff.mp hasked
  obtain ⟨a, ha⟩ := Option.isSome_iff_exists.mp
    ((h.client.present port).mpr (h.client.logged port _ hmem))
  have hanswered := (h.client.asking port a ha).answered conn
  have hle : 0 < requests port conn s.client.side.ports.log := hasked
  have hnone : responses port conn s.client.side.ports.delivered = 0 := hopen
  rw [hnone, Nat.zero_add] at hanswered
  split at hanswered <;> split at hanswered
  · rename_i hnumber hawait
    exact ⟨a, ha, hawait.2, hnumber.symm, List.length_eq_zero_iff.mp (by omega)⟩
  · omega
  · rename_i hnumber hawait
    exact absurd hawait.1 hnumber
  · omega

theorem Forwarding.mem_of_awaiting (h : Forwarding ports s) {a : Listener.Task}
    (ha : Awaiting s port conn a) : .forward port conn ∈ s.client.side.listenerTxMap := by
  have hmem := (h.client.asking port a ha.get).mem (by rw [Listener.Task.requesting, ha.pc])
  rw [Listener.Task.id, ha.number] at hmem
  exact hmem

/-- The request for the connection is queued, in flight or being answered. -/
inductive Pending (s : State) (port : PortId) (conn : ConnId) : Prop
  | asked (h : .stream (.listener port (.connect conn)) ∈ s.up ++ s.client.side.unsent)
  | taken (h : .listener port (.connect conn) ∈ s.server.side.receiver.hand)
  | heard {a : Connecter.Task} (get : s.server.side.connecters.get port = some a)
      (h : .connect conn ∈ a.rx)
  | tried {c : Connecter.Connect} (mem : c ∈ s.server.side.connects)
      (id : c.id = .forward port conn) (live : c.ended = false)
  | answered {res : Response}
      (h : .stream (.connecter (.forward port conn) (.connectResponse res)) ∈
        s.down ++ s.server.side.unsent)
  | returned {res : Response}
      (h : .connecter (.forward port conn) (.connectResponse res) ∈ s.client.side.receiver.hand)

theorem Forwarding.not_delivered (h : Forwarding ports s)
    (hnone : requests port conn s.server.side.delivered = 0) :
    responses port conn s.client.side.delivered = 0 :=
  Nat.le_zero.mp <| Nat.le_trans (responses_mono h.transit.fifo.2 port conn) <|
    Nat.le_trans (h.responses_le port conn) (Nat.le_of_eq hnone)

theorem Forwarding.not_answered (h : Forwarding ports s)
    (hnone : responses port conn s.server.side.view.log = 0) :
    responses port conn s.client.side.delivered = 0 :=
  Nat.le_zero.mp <| Nat.le_trans (responses_mono h.transit.fifo.2 port conn) (Nat.le_of_eq hnone)

theorem Forwarding.open_of_pending (h : Forwarding ports s) (hpending : Pending s port conn) :
    0 < requests port conn s.client.side.view.log ∧
      responses port conn s.client.side.delivered = 0 := by
  have hone := h.requests_le_one port conn
  have hresponses := h.responses_le_one port conn
  have hle := h.responses_le_requests port conn
  have hup : requests port conn s.client.side.view.log =
      requests port conn s.server.side.delivered +
        requests port conn s.server.side.receiver.hand + requests port conn
          ((s.up ++ s.client.side.unsent).filterMap Message.toStream) := by
    rw [h.transit.up_log, requests, List.count_append, List.count_append]
    rfl
  have hdown : responses port conn s.server.side.view.log =
      responses port conn s.client.side.delivered +
        responses port conn s.client.side.receiver.hand + responses port conn
          ((s.down ++ s.server.side.unsent).filterMap Message.toStream) := by
    rw [h.transit.down_log, responses, List.countP_append, List.countP_append]
    rfl
  -- the request is one, so that while it is under way or in hand it has not been delivered
  cases hpending with
  | asked hmem =>
      have hpos : 0 < requests port conn
          ((s.up ++ s.client.side.unsent).filterMap Message.toStream) :=
        List.count_pos_iff.mpr (List.mem_filterMap.mpr ⟨_, hmem, rfl⟩)
      exact ⟨by omega, h.not_delivered (by omega)⟩
  | taken hmem =>
      have hpos : 0 < requests port conn s.server.side.receiver.hand :=
        List.count_pos_iff.mpr hmem
      exact ⟨by omega, h.not_delivered (by omega)⟩
  | @heard a get hmem =>
      obtain ⟨taken, hdelivered, hattempts⟩ := h.server.hearing port a get
      have hcount := count_listenerOf port conn s.server.side.ports.delivered
      have hunique := h.unique port conn
      have hpos : 0 < a.rx.count (.connect conn) := List.count_pos_iff.mpr hmem
      rw [hdelivered, List.count_append] at hcount
      have hanswered := h.server.answered port conn
      have hattempted := attempted_le port conn s.server.side.connects
      have hnone := hattempts conn
      have hlog : responses port conn s.server.side.view.log =
          attempted port conn s.server.side.connects := hanswered
      have hsame : attempts port conn s.server.side.connects = taken.count (.connect conn) := hnone
      have hreq := requests_mono h.transit.fifo.1 port conn
      have hcount' : requests port conn s.server.side.delivered =
          taken.count (.connect conn) + a.rx.count (.connect conn) := hcount.symm
      exact ⟨by omega, h.not_answered (by omega)⟩
  | @tried c mem hid live =>
      have hnone := h.responses_eq mem hid
      rw [live] at hnone
      have hle' := Ports.attempts_le h.server port conn
      have hpos : 0 < attempts port conn s.server.side.connects :=
        List.countP_pos_iff.mpr ⟨c, mem, by simp [hid]⟩
      have hreq := requests_mono h.transit.fifo.1 port conn
      refine ⟨?_, h.not_answered hnone⟩
      exact Nat.lt_of_lt_of_le hpos (Nat.le_trans hle' hreq)
  | answered hmem =>
      have hpos : 0 < responses port conn
          ((s.down ++ s.server.side.unsent).filterMap Message.toStream) :=
        List.countP_pos_iff.mpr ⟨_, List.mem_filterMap.mpr ⟨_, hmem, rfl⟩, by simp [isResponse]⟩
      exact ⟨by omega, by omega⟩
  | returned hmem =>
      have hpos : 0 < responses port conn s.client.side.receiver.hand :=
        List.countP_pos_iff.mpr ⟨_, hmem, by simp [isResponse]⟩
      exact ⟨by omega, by omega⟩

theorem Forwarding.expected (h : Forwarding ports s) {id : StreamId} {action : ConnecterAction}
    (hmem : .connecter id action ∈ s.server.side.view.log)
    (hpending : ∀ port conn res, id = .forward port conn → action = .connectResponse res →
      Pending s port conn) :
    ∃ port conn res a, id = .forward port conn ∧ action = .connectResponse res ∧
      Awaiting s port conn a := by
  obtain ⟨port, conn, rfl, -⟩ := h.server.numbered id action hmem
  cases action with
  | connectResponse res =>
      obtain ⟨hasked, hopen⟩ := h.open_of_pending (hpending port conn res rfl rfl)
      obtain ⟨a, ha⟩ := h.awaiting hasked hopen
      exact ⟨port, conn, res, a, rfl, rfl, ha⟩

theorem Forwarding.expected_hand (h : Forwarding ports s) {id : StreamId}
    {action : ConnecterAction} (hmem : .connecter id action ∈ s.client.side.receiver.hand) :
    ∃ port conn res a, id = .forward port conn ∧ action = .connectResponse res ∧
      Awaiting s port conn a := by
  refine h.expected ?_ fun port conn res hid haction => ?_
  · rw [h.transit.down_log]
    exact List.mem_append_left _ (List.mem_append_right _ hmem)
  · subst hid haction
    exact .returned hmem

theorem Forwarding.expected_down (h : Forwarding ports s) {id : StreamId}
    {action : ConnecterAction} (hmem : .stream (.connecter id action) ∈ s.down) :
    ∃ port conn res a, id = .forward port conn ∧ action = .connectResponse res ∧
      Awaiting s port conn a := by
  refine h.expected ?_ fun port conn res hid haction => ?_
  · rw [h.transit.down_log]
    refine List.mem_append_right _ (List.mem_filterMap.mpr ⟨_, List.mem_append_left _ hmem, rfl⟩)
  · subst hid haction
    exact .answered (List.mem_append_left _ hmem)

theorem Awaiting.dispatch {a : Listener.Task} (h : Awaiting s port conn a) (res : Response) :
    s.client.side.dispatch (.connecter (.forward port conn) (.connectResponse res)) =
      some ((s.client.side.handed (.connecter (.forward port conn)
        (.connectResponse res))).setListener port { a with rx := [res] }) := by
  have hreq : a.requesting = true := by rw [Listener.Task.requesting, h.pc]
  simp only [Side.dispatch, h.get, h.inbox, hreq, h.number]
  rfl

/-- No response is dropped by the receiver of the client. -/
def Undropped (s : State) : Prop :=
  ∀ id action, s.client.side.receiver ≠ .failed (some (.connecter id action))

theorem Undropped.step {capacity : Nat} {e : Event} (h : Undropped s)
    (hforwarding : Forwarding ports s) (hstep : step capacity s e = some t) : Undropped t := by
  intro id action hfailed
  cases e with
  | server e =>
      rw [(server_spec hstep).client] at hfailed
      exact h id action hfailed
  | client e =>
      have hc := client_spec hstep
      rcases hc.stepped.failed hfailed with hbefore | hfails
      · exact h id action hbefore
      · cases hfails with
        | unknown pc unknown =>
            have hmem : .stream (.connecter id action) ∈ s.down := by
              rw [hc.down]
              exact List.mem_append_left _ (List.mem_singleton_self _)
            obtain ⟨port, conn, res, a, rfl, -, ha⟩ := hforwarding.expected_down hmem
            have hentry := hforwarding.mem_of_awaiting ha
            simp [Side.found, hentry] at unknown
        | gone pc gone =>
            have hmem : .connecter id action ∈ s.client.side.receiver.hand := by
              rw [pc]
              exact List.mem_singleton_self _
            obtain ⟨port, conn, res, a, rfl, rfl, ha⟩ := hforwarding.expected_hand hmem
            rw [ha.dispatch res] at gone
            have hreceiver := congrArg Side.receiver (Option.some.inj gone)
            cases hreceiver

/-- The connect of the connection has failed. -/
inductive Refused (s : State) (port : PortId) (conn : ConnId) : Prop
  | trying {c : Connecter.Connect} {error : SerialError} (mem : c ∈ s.server.side.connects)
      (id : c.id = .forward port conn) (pc : c.pc = .sendResponse (.err error))
  | answered {error : SerialError}
      (mem : .connecter (.forward port conn) (.connectResponse (.err error)) ∈
        s.server.side.view.log)

theorem Forwarding.not_accepted (h : Forwarding ports s) (hrefused : Refused s port conn) :
    accepted (.forward port conn) ∉ s.server.side.view.log := by
  intro hacc
  cases hrefused with
  | @trying c error mem hid pc =>
      have hnone := h.responses_eq mem hid
      rw [Connecter.Connect.ended, pc] at hnone
      have hpos := Ports.responses_pos hacc
      exact absurd hnone (Nat.pos_iff_ne_zero.mp hpos)
  | @answered error mem =>
      have htwo : 2 ≤ responses port conn s.server.side.view.log := by
        have hsub : [accepted (.forward port conn),
            .connecter (.forward port conn) (.connectResponse (.err error))].Subperm
            s.server.side.view.log := by
          apply List.subperm_of_subset (by simp [accepted])
          intro x hx
          rcases List.mem_cons.mp hx with rfl | hx
          · exact hacc
          · exact List.mem_singleton.mp hx ▸ mem
        have hle := hsub.countP_le (isResponse port conn)
        simpa [isResponse, accepted, responses] using hle
      have hone := h.responses_le_one port conn
      omega

theorem Forwarding.unknown_of_refused (h : Forwarding ports s) (hrefused : Refused s port conn) :
    Unknown s.client.side (.forward port conn) ∧ Unknown s.server.side (.forward port conn) := by
  have hnot := h.not_accepted hrefused
  refine ⟨unknown_of_not_uses fun huses => ?_, unknown_of_not_uses fun huses => ?_⟩
  · obtain ⟨hacc, -⟩ := h.client.used port conn huses
    exact hnot (h.transit.fifo.2.subset hacc)
  · exact hnot (h.server.used port conn huses)

/-- What holds of the connections in every state of a session. -/
structure Handshake (s : State) : Prop where
  asked : ∀ port conn, requests port conn s.client.side.view.log ≤ 1
  answered : ∀ port conn, responses port conn s.server.side.view.log ≤
    requests port conn s.client.side.view.log
  -- exactly one response is enqueued when the task of the connect has ended
  completed : ∀ c ∈ s.server.side.connects, ∃ port conn, c.id = .forward port conn ∧
    responses port conn s.server.side.view.log = if c.ended then 1 else 0
  -- with the connect completed, nothing but a full send queue is in the way
  responds : ∀ i c res, s.server.side.connects[i]? = some c → c.pc = .sendResponse res →
    s.server.side.queue.length < Side.queueCapacity →
    ∃ v, Server.step s.server (.side (.connect i .sent)) = some v ∧
      .connecter c.id (.connectResponse res) ∈ v.side.view.log
  -- a response in the hand of the receiver goes into the empty inbox of its listener
  heard : ∀ id action, .connecter id action ∈ s.client.side.receiver.hand →
    ∃ port conn res a, id = .forward port conn ∧ action = .connectResponse res ∧
      Awaiting s port conn a ∧ s.client.side.receiver = .dispatch (.connecter id action) ∧
      s.client.side.dispatch (.connecter id action) =
        some ((s.client.side.handed (.connecter id action)).setListener port { a with rx := [res] })
  unheard : ∀ id action, .connecter id action ∉ s.server.side.receiver.hand
  -- the assertions of the routers
  insertListener : ∀ port a, s.client.side.listeners.get port = some a → a.pc = .accept →
    a.id port ∉ s.client.side.listenerTxMap
  removeListener : ∀ port a, s.client.side.listeners.get port = some a →
    a.requesting = true → a.id port ∈ s.client.side.listenerTxMap
  insertStreams : ∀ port a, s.client.side.listeners.get port = some a →
    a.pc = .awaitResponse → s.client.side.registrable (a.id port) = true
  insertConnected : ∀ c ∈ s.server.side.connects, c.ended = false →
    s.server.side.registrable c.id = true
  not_panicked : ∀ c ∈ s.server.side.connects, c.pc ≠ .panicked
  no_listener : ∀ port, s.server.side.listeners.get port = none
  nodup : s.client.side.listenerTxMap.Nodup ∧ s.client.side.sourceTxMap.Nodup ∧
    s.client.side.sinkTxMap.Nodup ∧ s.server.side.sourceTxMap.Nodup ∧
    s.server.side.sinkTxMap.Nodup ∧ s.server.side.connecterTxMap.Nodup
  entry : ∀ port conn conn', .forward port conn ∈ s.client.side.listenerTxMap →
    .forward port conn' ∈ s.client.side.listenerTxMap → conn = conn'
  pending : ∀ port conn, Pending s port conn →
    .forward port conn ∈ s.client.side.listenerTxMap
  refused : ∀ port conn, Refused s port conn → Unknown s.client.side (.forward port conn) ∧
    Unknown s.server.side (.forward port conn)

theorem Forwarding.responds (h : Forwarding ports s) {i : Nat} {c : Connecter.Connect}
    {res : Response} (get : s.server.side.connects[i]? = some c) (hpc : c.pc = .sendResponse res)
    (hroom : s.server.side.queue.length < Side.queueCapacity) :
    ∃ v, Server.step s.server (.side (.connect i .sent)) = some v ∧
      .connecter c.id (.connectResponse res) ∈ v.side.view.log := by
  have hmem := List.mem_of_getElem? get
  have hopen : s.server.side.sender ≠ .done := by
    intro hdone
    have hquiet := h.transit.server.sender.quiet_of_gone (by rw [Side.queueGone, hdone])
    have hended := hquiet.connects c hmem
    rw [Connecter.Connect.ended, hpc] at hended
    cases hended
  have hfresh : s.server.side.fresh c.id = true := (unknown_of_not_uses
    (h.server.not_uses h.unique get (by rw [Connecter.Connect.ended, hpc]))).fresh
  obtain ⟨side, hstep, hlog⟩ := Side.stepConnect_sent get hpc hopen hroom hfresh
  refine ⟨{ s.server with side }, ?_, ?_⟩
  · simp only [Server.step, Side.step, hstep]
  · simp only [Side.view, hlog, List.filterMap_append]
    exact List.mem_append_right _ (by simp)

theorem Forwarding.entry (h : Forwarding ports s) {conn' : ConnId}
    (hmem : .forward port conn ∈ s.client.side.listenerTxMap)
    (hmem' : .forward port conn' ∈ s.client.side.listenerTxMap) : conn = conn' := by
  obtain ⟨_, a, ha, -, hid⟩ := h.client.entries _ hmem
  obtain ⟨_, b, hb, -, hid'⟩ := h.client.entries _ hmem'
  obtain ⟨rfl, rfl⟩ := StreamId.forward.inj hid
  obtain ⟨rfl, rfl⟩ := StreamId.forward.inj hid'
  obtain rfl := Option.some.inj (ha.symm.trans hb)
  rfl

theorem portsOf_nodup (ports : List Port) : (portsOf ports).Nodup :=
  List.Nodup.map (fun _ _ h => PortId.mk.inj h) List.nodup_range

theorem Routed.connecterTxMap_nodup {pty : Option PtyMaster} (h : Routed pty ports s) :
    s.server.side.connecterTxMap.Nodup := by
  have heq : s.server.side.connecterTxMap = portsOf ports := h.server.connecterTxMap
  rw [heq]
  exact portsOf_nodup ports

theorem Forwarding.handshake {pty : Option PtyMaster} (h : Forwarding ports s)
    (hrouted : Routed pty ports s) (hundropped : Undropped s) : Handshake s where
  asked := h.requests_le_one
  answered := h.responses_le_requests
  completed c hc := by
    obtain ⟨port, conn, hid, -, -⟩ := h.server.connects c hc
    exact ⟨port, conn, hid, h.responses_eq hc hid⟩
  responds _ _ _ := h.responds
  heard id action hmem := by
    obtain ⟨port, conn, res, a, rfl, rfl, ha⟩ := h.expected_hand hmem
    refine ⟨port, conn, res, a, rfl, rfl, ha, ?_, ha.dispatch res⟩
    cases hpc : s.client.side.receiver with
    | dispatch action =>
        rw [hpc] at hmem
        rw [List.mem_singleton.mp hmem]
    | failed undelivered =>
        cases undelivered with
        | none =>
            rw [hpc] at hmem
            cases hmem
        | some action =>
            rw [hpc] at hmem
            obtain rfl := List.mem_singleton.mp hmem
            exact absurd hpc (hundropped _ _)
    | _ =>
        rw [hpc] at hmem
        cases hmem
  unheard id action hmem := by
    apply h.client.not_connecter id action
    show _ ∈ s.client.side.view.log
    rw [h.transit.up_log]
    exact List.mem_append_left _ (List.mem_append_right _ hmem)
  insertListener port a get hpc := h.client.free get (by rw [Listener.Task.requesting, hpc])
  removeListener port a get hreq := (h.client.asking port a get).mem hreq
  insertStreams port a get hpc := Ports.registrable_of_not_uses (h.client.not_uses get hpc)
  insertConnected c hc hlive := by
    obtain ⟨i, hi, rfl⟩ := List.mem_iff_getElem.mp hc
    exact Ports.registrable_of_not_uses
      (h.server.not_uses h.unique (List.getElem?_eq_getElem hi) hlive)
  not_panicked := h.server.not_panicked
  no_listener := h.server.listeners
  nodup := ⟨h.client.entries_nodup, h.transit.client.shutting.sources_nodup,
    h.transit.client.shutting.sinks_nodup, h.transit.server.shutting.sources_nodup,
    h.transit.server.shutting.sinks_nodup, hrouted.connecterTxMap_nodup⟩
  entry _ _ _ := h.entry
  pending port conn hpending := by
    obtain ⟨hasked, hopen⟩ := h.open_of_pending hpending
    obtain ⟨a, ha⟩ := h.awaiting hasked hopen
    exact h.mem_of_awaiting ha
  refused port conn := h.unknown_of_refused

/-- From `s` to `t` no identifier has been inserted that was in a map before. -/
structure Unrepeated (s t : State) : Prop where
  client : s.client.side.sourceTxMap <+: t.client.side.sourceTxMap ∧
    s.client.side.sinkTxMap <+: t.client.side.sinkTxMap ∧
    t.client.side.connecterTxMap = s.client.side.connecterTxMap
  server : s.server.side.sourceTxMap <+: t.server.side.sourceTxMap ∧
    s.server.side.sinkTxMap <+: t.server.side.sinkTxMap ∧
    t.server.side.connecterTxMap = s.server.side.connecterTxMap ∧
    t.server.side.listenerTxMap = s.server.side.listenerTxMap

variable {capacity : Nat} {pty : Option PtyMaster} {u : State}

theorem undropped_of_reach (h : Reach (step capacity) Connected (new pty ports) s) :
    Undropped s :=
  h.invariant (P := Undropped) (fun _ _ hfailed => by cases hfailed)
    fun _ _ _ hreach hundropped _ hstep => hundropped.step (forwarding_of_reach hreach) hstep

theorem unrepeated_of_reach (h : Forwarding ports s) (hrouted : Routed pty ports s)
    (hreach : Reach (step capacity) Connected s t) : Unrepeated s t := by
  have hboth : Routed pty ports t ∧ Unrepeated s t := by
    apply hreach.invariant (P := fun t => Routed pty ports t ∧ Unrepeated s t)
      ⟨hrouted, ⟨List.prefix_rfl, List.prefix_rfl, rfl⟩, List.prefix_rfl, List.prefix_rfl, rfl, rfl⟩
    rintro a e b ha ⟨hra, hunrepeated⟩ hok hstep
    have hfa := forwarding_on h ha
    have hfb := hfa.step hstep
    have hrb := hra.step hfa hok hstep
    refine ⟨hrb, ?_⟩
    obtain ⟨⟨hsources, hsinks, hconnecters⟩, hsources', hsinks', hconnecters', hlisteners⟩ :=
      hunrepeated
    cases e with
    | client e =>
        obtain ⟨hgrow, hgrow', -⟩ := (hfa.listens hok hstep).grown
        refine ⟨⟨hsources.trans hgrow, hsinks.trans hgrow', ?_⟩, ?_⟩
        · exact (hrb.client.connecterTxMap.trans hra.client.connecterTxMap.symm).trans hconnecters
        · rw [(client_spec hstep).server]
          exact ⟨hsources', hsinks', hconnecters', hlisteners⟩
    | server e =>
        obtain ⟨hgrow, hgrow'⟩ := (hfa.answers hok hstep).grown
        refine ⟨?_, hsources'.trans hgrow, hsinks'.trans hgrow', ?_, ?_⟩
        · rw [(server_spec hstep).client]
          exact ⟨hsources, hsinks, hconnecters⟩
        · exact (hrb.server.connecterTxMap.trans hra.server.connecterTxMap.symm).trans hconnecters'
        · exact (hfb.server.listenerTxMap.trans hfa.server.listenerTxMap.symm).trans hlisteners
  exact hboth.2

theorem past_of_reach (h : Forwarding ports s) (hpast : Past s.client.side.ports port conn.id)
    (hreach : Reach (step capacity) Connected s t) : Past t.client.side.ports port conn.id := by
  apply hreach.invariant (P := fun t => Past t.client.side.ports port conn.id) hpast
  intro a e b ha hpast hok hstep
  cases e with
  | client e =>
      exact hpast.step ((forwarding_on h ha).listens hok hstep)
  | server e => rwa [(server_spec hstep).client]

theorem removed_of_reach (h : Forwarding ports s)
    (hmem : .forward port conn ∈ s.client.side.listenerTxMap)
    (hreach : Reach (step capacity) Connected s t) :
    .forward port conn ∈ t.client.side.listenerTxMap ∨
      Past t.client.side.ports port conn.id := by
  apply hreach.invariant (P := fun t => .forward port conn ∈ t.client.side.listenerTxMap ∨
    Past t.client.side.ports port conn.id) (Or.inl hmem)
  intro a e b ha hor hok hstep
  cases e with
  | client e =>
      have hlistens := (forwarding_on h ha).listens hok hstep
      rcases hor with hmem | hpast
      · exact hlistens.mem_or_past hmem
      · exact Or.inr (hpast.step hlistens)
  | server e => rwa [(server_spec hstep).client]

/-- The handshake of the forwarded connections, over whole runs. -/
theorem connect_handshake (capacity : Nat) (pty : Option PtyMaster) (ports : List Port)
    (s t u : State)
    (hs : Reach (step capacity) Connected (new pty ports) s)
    (ht : Reach (step capacity) Connected s t) (hu : Reach (step capacity) Connected t u) :
    Handshake s ∧ Unrepeated s t ∧
      ∀ id ∈ s.client.side.listenerTxMap, id ∉ t.client.side.listenerTxMap →
        id ∉ u.client.side.listenerTxMap := by
  have h := forwarding_of_reach hs
  have hrouted := routed_of_reach hs
  refine ⟨h.handshake hrouted (undropped_of_reach hs), unrepeated_of_reach h hrouted ht,
    fun id hmem hnot => ?_⟩
  obtain ⟨port, a, -, -, rfl⟩ := h.client.entries id hmem
  have hforwarding := forwarding_on h ht
  rcases removed_of_reach h hmem ht with hmem' | hpast
  · exact absurd hmem' hnot
  · exact (forwarding_on hforwarding hu).client.not_mem_of_past
      (past_of_reach hforwarding hpast hu)

/-- The port of a server on the same machine. -/
def webPort : Port := ⟨⟨3⟩, ⟨"localhost:80", [.localhost 80]⟩⟩

/-- The listener asks for the connection with the number `n`, and the connecter has it
made. -/
def connecting (n : Nat) : List Event :=
  [.client (.side (.listener ⟨0⟩ .accepted)), .client (.side (.listener ⟨0⟩ .sent))] ++
  passUp (.stream (.listener ⟨0⟩ (.connect ⟨n⟩))) ++
  [.server (.side (.connecter ⟨0⟩ .recv)),
    .server (.side (.connect n (.connected (.ok (.localhost 80))))),
    .server (.side (.connect n .sent))]

/-- The response comes back and is in the hand of the receiver. -/
def returning (n : Nat) : List Event :=
  [.server (.side (.sender .recv)), .server (.side (.sender .sent)),
    .client (.receive (.stream (accepted (.forward ⟨0⟩ ⟨n⟩))))]

/-- The listener takes it. -/
def settling : List Event :=
  [.client (.side (.receiver .dispatch)), .client (.side (.listener ⟨0⟩ .response))]

theorem connect_handshake_twice :
    ∃ s t u, run (step 1) (new none [webPort]) (connecting 0 ++ returning 0) = some s ∧
      run (step 1) s settling = some t ∧
      run (step 1) t (connecting 1 ++ returning 1) = some u ∧
      Handshake s ∧ Unrepeated s t ∧ .forward ⟨0⟩ ⟨0⟩ ∉ u.client.side.listenerTxMap := by
  have hfirst : (run (guarded (step 1) Connected) (new none [webPort])
      (connecting 0 ++ returning 0)).map (fun s => s.client.side.listenerTxMap) =
        some [.forward ⟨0⟩ ⟨0⟩] := by decide +kernel
  have hsecond : (run (guarded (step 1) Connected) (new none [webPort])
      (connecting 0 ++ returning 0 ++ settling)).map (fun s => s.client.side.listenerTxMap) =
        some [] := by decide +kernel
  have hthird : (run (guarded (step 1) Connected) (new none [webPort])
      (connecting 0 ++ returning 0 ++ settling ++ (connecting 1 ++ returning 1))).isSome =
        true := by decide +kernel
  obtain ⟨s, hs, hentry⟩ := Option.map_eq_some_iff.mp hfirst
  rw [run_append, hs] at hsecond
  obtain ⟨t, ht, hempty⟩ := Option.map_eq_some_iff.mp hsecond
  change run (guarded (step 1) Connected) s settling = some t at ht
  rw [run_append, run_append, hs] at hthird
  change ((run (guarded (step 1) Connected) s settling).bind _).isSome = true at hthird
  rw [ht] at hthird
  obtain ⟨u, hu⟩ := Option.isSome_iff_exists.mp hthird
  obtain ⟨hs', hsreach⟩ := reach_of_guarded hs
  obtain ⟨ht', htreach⟩ := reach_of_guarded ht
  obtain ⟨hu', hureach⟩ := reach_of_guarded hu
  obtain ⟨hhandshake, hunrepeated, hgone⟩ :=
    connect_handshake 1 none [webPort] s t u hsreach htreach hureach
  refine ⟨s, t, u, hs', ht', hu', hhandshake, hunrepeated, hgone _ ?_ ?_⟩
  · rw [hentry]
    exact List.mem_singleton_self _
  · rw [hempty]
    exact List.not_mem_nil

end Rlirsh.Session
