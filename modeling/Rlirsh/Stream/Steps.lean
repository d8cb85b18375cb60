import Rlirsh.Stream.Side

namespace Rlirsh.Stream.Side

open Rlirsh.Protocol
open Rlirsh.Net
open Rlirsh.Lib

variable {T : Type} [Message T]

/-- The side after `ms` has been enqueued. -/
def enqueued (s : Side T) (ms : List T) : Side T :=
  { s with queue := s.queue ++ ms, log := s.log ++ ms }

omit [Message T] in
@[simp] theorem enqueued_nil (s : Side T) : s.enqueued [] = s := by
  simp [enqueued]

omit [Message T] in
theorem enqueue_spec {s t : Side T} {m : T} (h : s.enqueue m = some t) :
    s.sender ≠ .done ∧ s.queue.length < queueCapacity ∧ t = s.enqueued [m] := by
  unfold enqueue at h
  unfold enqueued
  grind

omit [Message T] in
theorem enqueue_eq {s : Side T} (m : T) (hopen : s.sender ≠ .done)
    (hroom : s.queue.length < queueCapacity) : s.enqueue m = some (s.enqueued [m]) := by
  unfold enqueue
  split
  · rename_i hdone
    exact absurd hdone hopen
  · rw [if_pos hroom]
    rfl

omit [Message T] in
theorem steppedSource_spec {s t : Side T} {id : StreamId} {u : Option Source.Task}
    (h : s.steppedSource id u = some t) : ∃ a, u = some a ∧ t = s.setSource id a := by
  unfold steppedSource at h
  grind

omit [Message T] in
theorem steppedSink_spec {s t : Side T} {id : StreamId} {u : Option Sink.Task}
    (h : s.steppedSink id u = some t) : ∃ a, u = some a ∧ t = s.setSink id a := by
  unfold steppedSink at h
  grind

/-- The messages an event of a source enqueues. -/
def sourceOutput (T : Type) [Message T] (a : Source.Task) (id : StreamId)
    (e : Source.Event) : List T :=
  (a.emitted e).map fun action => Message.stream (.source id action)

/-- The messages an event of a sink enqueues. -/
def sinkOutput (T : Type) [Message T] (a : Sink.Task) (id : StreamId)
    (e : Sink.Event) : List T :=
  (a.emitted e).map fun action => Message.stream (.sink id action)

/-- What a step of a source is: one of the task, with its action enqueued. -/
structure SourceStep (env : Env) (s : Side T) (id : StreamId) (e : Source.Event)
    (t : Side T) (a u : Source.Task) : Prop where
  get : s.sources.get id = some a
  step : a.step e = some u
  not_deliver : ∀ action, e ≠ .deliver action
  not_shutdown : e ≠ .shutdown
  recvNone : e = .recvNone → s.orphaned id = true ∨
    (env.routerGone = true ∨ id ∉ s.sourceTxMap) ∧ s.receiver.holdsSource id = false
  sendFailed : e = .sendFailed → s.queueGone = true
  sent : e = .sent → s.sender ≠ .done ∧ s.queue.length < queueCapacity
  eq : t = (s.enqueued (sourceOutput T a id e)).setSource id u

theorem stepSource_spec {env : Env} {s t : Side T} {id : StreamId} {e : Source.Event}
    (h : s.stepSource env id e = some t) : ∃ a u, SourceStep env s id e t a u := by
  unfold stepSource at h
  split at h
  · simp at h
  · rename_i a ha
    cases e with
    | deliver action => simp at h
    | shutdown => simp at h
    | recvNone =>
        simp only at h
        rw [Option.ite_none_right_eq_some] at h
        obtain ⟨hguard, h⟩ := h
        obtain ⟨u, hu, rfl⟩ := steppedSource_spec h
        exact ⟨a, u, ⟨ha, hu, by simp, by simp, fun _ => hguard, by simp, by simp,
          by simp [sourceOutput, Source.Task.emitted]⟩⟩
    | sendFailed =>
        simp only at h
        rw [Option.ite_none_right_eq_some] at h
        obtain ⟨hguard, h⟩ := h
        obtain ⟨u, hu, rfl⟩ := steppedSource_spec h
        exact ⟨a, u, ⟨ha, hu, by simp, by simp, by simp, fun _ => hguard, by simp,
          by simp [sourceOutput, Source.Task.emitted]⟩⟩
    | sent =>
        simp only at h
        split at h
        · simp at h
        · rename_i action haction
          split at h
          · simp at h
          · rename_i r hr
            obtain ⟨hopen, hroom, rfl⟩ := enqueue_spec hr
            obtain ⟨u, hu, rfl⟩ := steppedSource_spec h
            exact ⟨a, u, ⟨ha, hu, by simp, by simp, by simp, by simp, fun _ => ⟨hopen, hroom⟩,
              by simp [sourceOutput, Source.Task.emitted, haction]⟩⟩
    | read res =>
        obtain ⟨u, hu, rfl⟩ := steppedSource_spec h
        exact ⟨a, u, ⟨ha, hu, by simp, by simp, by simp, by simp, by simp,
          by simp [sourceOutput, Source.Task.emitted]⟩⟩
    | recv =>
        obtain ⟨u, hu, rfl⟩ := steppedSource_spec h
        exact ⟨a, u, ⟨ha, hu, by simp, by simp, by simp, by simp, by simp,
          by simp [sourceOutput, Source.Task.emitted]⟩⟩

/-- What a step of a sink is: one of the task, with its action enqueued. -/
structure SinkStep (env : Env) (s : Side T) (id : StreamId) (e : Sink.Event)
    (t : Side T) (a u : Sink.Task) : Prop where
  get : s.sinks.get id = some a
  step : a.step e = some u
  not_deliver : ∀ action, e ≠ .deliver action
  not_shutdown : e ≠ .shutdown
  recvNone : e = .recvNone →
    (env.routerGone = true ∨ id ∉ s.sinkTxMap) ∧ s.receiver.holdsSink id = false
  sendFailed : e = .sendFailed → s.queueGone = true
  sent : e = .sent → s.sender ≠ .done ∧ s.queue.length < queueCapacity
  eq : t = (s.enqueued (sinkOutput T a id e)).setSink id u

theorem stepSink_spec {env : Env} {s t : Side T} {id : StreamId} {e : Sink.Event}
    (h : s.stepSink env id e = some t) : ∃ a u, SinkStep env s id e t a u := by
  unfold stepSink at h
  split at h
  · simp at h
  · rename_i a ha
    have hplain {u : Sink.Task} (hu : a.step e = some u) (hne : ∀ action, e ≠ .deliver action)
        (hshut : e ≠ .shutdown) (hnone : e ≠ .recvNone) (hfailed : e ≠ .sendFailed)
        (hsent : e ≠ .sent) (ht : t = s.setSink id u) :
        ∃ a u, SinkStep env s id e t a u := by
      have hout : sinkOutput T a id e = [] := by
        cases e <;> simp_all [sinkOutput, Sink.Task.emitted]
      exact ⟨a, u, ⟨ha, hu, hne, hshut, fun h => absurd h hnone, fun h => absurd h hfailed,
        fun h => absurd h hsent, by simp [ht, hout]⟩⟩
    cases e with
    | deliver action => simp at h
    | shutdown => simp at h
    | recvNone =>
        simp only at h
        rw [Option.ite_none_right_eq_some] at h
        obtain ⟨hguard, h⟩ := h
        obtain ⟨u, hu, rfl⟩ := steppedSink_spec h
        exact ⟨a, u, ⟨ha, hu, by simp, by simp, fun _ => hguard, by simp, by simp,
          by simp [sinkOutput, Sink.Task.emitted]⟩⟩
    | sendFailed =>
        simp only at h
        rw [Option.ite_none_right_eq_some] at h
        obtain ⟨hguard, h⟩ := h
        obtain ⟨u, hu, rfl⟩ := steppedSink_spec h
        exact ⟨a, u, ⟨ha, hu, by simp, by simp, by simp, fun _ => hguard, by simp,
          by simp [sinkOutput, Sink.Task.emitted]⟩⟩
    | sent =>
        simp only at h
        split at h
        · simp at h
        · rename_i action haction
          split at h
          · simp at h
          · rename_i r hr
            obtain ⟨hopen, hroom, rfl⟩ := enqueue_spec hr
            obtain ⟨u, hu, rfl⟩ := steppedSink_spec h
            exact ⟨a, u, ⟨ha, hu, by simp, by simp, by simp, by simp, fun _ => ⟨hopen, hroom⟩,
              by simp [sinkOutput, Sink.Task.emitted, haction]⟩⟩
    | recv | written res | flushed res | shutdownDone =>
        obtain ⟨u, hu, ht⟩ := steppedSink_spec h
        exact hplain hu (by simp) (by simp) (by simp) (by simp) (by simp) ht

omit [Message T] in
@[simp] theorem discards_sink (s : Side T) (id : StreamId) (action : SinkAction) :
    s.discards (.sink id action) = s.orphaned id := rfl

omit [Message T] in
@[simp] theorem discards_source (s : Side T) (id : StreamId) (action : SourceAction) :
    s.discards (.source id action) = false := rfl

omit [Message T] in
@[simp] theorem discards_listener (s : Side T) (port : PortId) (action : ListenerAction) :
    s.discards (.listener port action) = false := rfl

omit [Message T] in
@[simp] theorem discards_connecter (s : Side T) (id : StreamId) (action : ConnecterAction) :
    s.discards (.connecter id action) = false := rfl

omit [Message T] in
@[simp] theorem dropSender_receiver (s : Side T) (id : StreamId) :
    (s.dropSender id).receiver = s.receiver := rfl

/-- What a completed `send_stream_action` is: the action is in the inbox of its handler,
or the handler has gone, or the failure of the `send` is ignored. -/
inductive Dispatched (s : Side T) : StreamAction → Side T → Prop
  | sink {id : StreamId} {action : SourceAction} {a u : Sink.Task}
      (get : s.sinks.get id = some a) (step : a.step (.deliver action) = some u) :
      Dispatched s (.source id action) ((s.handed (.source id action)).setSink id u)
  | source {id : StreamId} {action : SinkAction} {a u : Source.Task}
      (kept : s.orphaned id = false) (get : s.sources.get id = some a)
      (step : a.step (.deliver action) = some u) :
      Dispatched s (.sink id action)
        (((s.handed (.sink id action)).dropSender id).setSource id u)
  | discarded {id : StreamId} {action : SinkAction} (orphaned : s.orphaned id = true) :
      Dispatched s (.sink id action) (s.handed (.sink id action))
  | connecter {port : PortId} {action : ListenerAction} {a : Connecter.Task}
      (get : s.connecters.get port = some a) (alive : a.pc ≠ .done)
      (room : a.rx.length < Connecter.inboxCapacity) :
      Dispatched s (.listener port action)
        ((s.handed (.listener port action)).setConnecter port { a with rx := a.rx ++ [action] })
  | listener {port : PortId} {conn : ConnId} {res : Response} {a : Listener.Task}
      (get : s.listeners.get port = some a) (requesting : a.requesting = true)
      (conn_eq : a.conn = conn.id) (room : a.rx.length < Listener.inboxCapacity) :
      Dispatched s (.connecter (.forward port conn) (.connectResponse res))
        ((s.handed (.connecter (.forward port conn) (.connectResponse res))).setListener port
          { a with rx := a.rx ++ [res] })
  | gone {action : StreamAction} (kept : s.discards action = false) :
      Dispatched s action (s.unhanded action)

omit [Message T] in
theorem dispatch_spec {s t : Side T} {action : StreamAction} (h : s.dispatch action = some t) :
    Dispatched s action t := by
  unfold dispatch at h
  split at h
  · rename_i hdiscards
    obtain rfl := Option.some.inj h
    cases action with
    | sink id action => exact .discarded hdiscards
    | _ => cases hdiscards
  rename_i hkept
  have hkept := Bool.eq_false_iff.mpr hkept
  split at h
  · split at h
    · simp at h
    · rename_i a ha
      split at h
      · obtain rfl := Option.some.inj h
        exact .gone hkept
      · obtain ⟨u, hu, rfl⟩ := steppedSink_spec h
        exact .sink ha hu
  · split at h
    · simp at h
    · rename_i a ha
      obtain ⟨u, hu, rfl⟩ := steppedSource_spec h
      exact .source hkept ha hu
  · split at h
    · simp at h
    · rename_i a ha
      split at h
      · obtain rfl := Option.some.inj h
        exact .gone hkept
      · rename_i hpc
        rw [Option.ite_none_right_eq_some] at h
        obtain ⟨hroom, h⟩ := h
        obtain rfl := Option.some.inj h
        exact .connecter ha hpc hroom
  · split at h
    · simp at h
    · rename_i a ha
      split at h
      · rename_i hreq
        rw [Option.ite_none_right_eq_some] at h
        obtain ⟨hroom, h⟩ := h
        obtain rfl := Option.some.inj h
        exact .listener ha hreq.1 hreq.2 hroom
      · obtain rfl := Option.some.inj h
        exact .gone hkept
  · obtain rfl := Option.some.inj h
    exact .gone hkept

/-- What a step of the receiver is. -/
inductive Received (s : Side T) : ReceiverEvent → Side T → Prop
  | dispatch {action : StreamAction} {t : Side T} (pc : s.receiver = .dispatch action)
      (dispatched : Dispatched s action t) : Received s .dispatch t
  | abort {reported : Bool} {sinks sources : List StreamId} (pc : s.receiver = .recv)
      (sinks_perm : sinks.Perm s.sinkTxMap) (sources_perm : sources.Perm s.sourceTxMap)
      (errors : reported = true → 0 < s.errors) :
      Received s (.abort reported sinks sources)
        { s with
          receiver := .shutdown sinks sources
          errors := if reported then s.errors - 1 else s.errors
          sinkTxMap := [], sourceTxMap := [], connecterTxMap := [] }
  | shutdownSink {id : StreamId} {sinks sources : List StreamId} {a u : Sink.Task}
      (pc : s.receiver = .shutdown (id :: sinks) sources)
      (get : s.sinks.get id = some a) (step : a.step .shutdown = some u) :
      Received s .shutdownSink ({ s with receiver := .shutdown sinks sources }.setSink id u)
  | shutdownSource {id : StreamId} {sources : List StreamId} {a u : Source.Task}
      (pc : s.receiver = .shutdown [] (id :: sources)) (kept : s.orphaned id = false)
      (get : s.sources.get id = some a) (step : a.step .shutdown = some u) :
      Received s .shutdownSource ({ s with receiver := .shutdown [] sources }.setSource id u)
  | shutdownOrphan {id : StreamId} {sources : List StreamId}
      (pc : s.receiver = .shutdown [] (id :: sources)) (orphaned : s.orphaned id = true) :
      Received s .shutdownSource { s with receiver := .shutdown [] sources }

omit [Message T] in
theorem stepReceiver_spec {s t : Side T} {e : ReceiverEvent} (h : s.stepReceiver e = some t) :
    Received s e t := by
  unfold stepReceiver at h
  split at h
  · rename_i action hpc
    exact .dispatch hpc (dispatch_spec h)
  · rename_i reported sinks sources hpc
    rw [Option.ite_none_right_eq_some] at h
    obtain ⟨⟨hsinks, hsources, herrors⟩, h⟩ := h
    obtain rfl := Option.some.inj h
    exact .abort hpc hsinks hsources herrors
  · rename_i id sinks sources hpc
    split at h
    · simp at h
    · rename_i a ha
      obtain ⟨u, hu, rfl⟩ := steppedSink_spec h
      exact .shutdownSink hpc ha hu
  · rename_i id sources hpc
    split at h
    · simp at h
    · rename_i a ha
      split at h
      · rename_i horphaned
        obtain rfl := Option.some.inj h
        exact .shutdownOrphan hpc horphaned
      · rename_i hkept
        obtain ⟨u, hu, rfl⟩ := steppedSource_spec h
        exact .shutdownSource hpc (Bool.eq_false_iff.mpr hkept) ha hu
  · simp at h

/-- What a step of the listener `a` of `port` is. -/
inductive Listened (env : Env) (s : Side T) (port : PortId) (a : Listener.Task) :
    Listener.Event → Side T → Prop
  | accepted (pc : a.pc = .accept) (free : a.id port ∉ s.listenerTxMap) :
      Listened env s port a .accepted
        ((s.insertListenerTx (a.id port)).setListener port { a with pc := .sendConnect })
  | inUse (pc : a.pc = .accept) (used : a.id port ∈ s.listenerTxMap) :
      Listened env s port a .accepted (s.setListener port { a with pc := .panicked })
  | acceptFailed (pc : a.pc = .accept) :
      Listened env s port a .acceptFailed (s.setListener port a.next)
  | taskEnd (pc : a.pc = .accept) (ended : env.taskEnd = true) :
      Listened env s port a .taskEnd (s.setListener port { a with pc := .sendClosed })
  | request (pc : a.pc = .sendConnect) (opened : s.sender ≠ .done)
      (room : s.queue.length < queueCapacity) :
      Listened env s port a .sent
        ((s.enqueued [Message.stream (.listener port (.connect ⟨a.conn⟩))]).setListener port
          { a with pc := .awaitResponse })
  | close (pc : a.pc = .sendClosed) (opened : s.sender ≠ .done)
      (room : s.queue.length < queueCapacity) :
      Listened env s port a .sent
        ((s.enqueued [Message.stream (.listener port .listenerClosed)]).setListener port
          { a with pc := .done })
  | unrequested (pc : a.pc = .sendConnect) (gone : s.queueGone = true) :
      Listened env s port a .sendFailed
        ((s.removeListenerTx (a.id port)).setListener port a.next)
  | unclosed (pc : a.pc = .sendClosed) (gone : s.queueGone = true) :
      Listened env s port a .sendFailed (s.setListener port { a with pc := .done })
  | refused {error : SerialError} {rx : List Response} (pc : a.pc = .awaitResponse)
      (inbox : a.rx = .err error :: rx) (mem : a.id port ∈ s.listenerTxMap) :
      Listened env s port a .response
        ((s.removeListenerTx (a.id port)).setListener port a.next)
  | connected {rx : List Response} (pc : a.pc = .awaitResponse)
      (inbox : a.rx = .ok :: rx) (mem : a.id port ∈ s.listenerTxMap)
      (fresh : s.fresh (a.id port) = true) :
      Listened env s port a .response
        (((s.removeListenerTx (a.id port)).register (a.id port)).setListener port
          (if s.registrable (a.id port) then a.next else { a with pc := .panicked, rx := [] }))
  | removed {res : Response} {rx : List Response} (pc : a.pc = .awaitResponse)
      (inbox : a.rx = res :: rx) (not_mem : a.id port ∉ s.listenerTxMap) :
      Listened env s port a .response
        (s.setListener port { a with pc := .panicked, rx := [] })

theorem stepListener_spec {env : Env} {s t : Side T} {port : PortId} {e : Listener.Event}
    (h : s.stepListener env port e = some t) :
    ∃ a, s.listeners.get port = some a ∧ Listened env s port a e t := by
  unfold stepListener at h
  split at h
  · simp at h
  · rename_i a ha
    refine ⟨a, ha, ?_⟩
    split at h
    · rename_i hpc
      split at h
      · rename_i hused
        obtain rfl := Option.some.inj h
        exact .inUse hpc hused
      · rename_i hfree
        obtain rfl := Option.some.inj h
        exact .accepted hpc hfree
    · rename_i hpc
      obtain rfl := Option.some.inj h
      exact .acceptFailed hpc
    · rename_i hpc
      rw [Option.ite_none_right_eq_some] at h
      obtain ⟨hended, h⟩ := h
      obtain rfl := Option.some.inj h
      exact .taskEnd hpc hended
    · rename_i hpc
      split at h
      · simp at h
      · rename_i r hr
        obtain ⟨hopen, hroom, rfl⟩ := enqueue_spec hr
        obtain rfl := Option.some.inj h
        exact .request hpc hopen hroom
    · rename_i hpc
      split at h
      · simp at h
      · rename_i r hr
        obtain ⟨hopen, hroom, rfl⟩ := enqueue_spec hr
        obtain rfl := Option.some.inj h
        exact .close hpc hopen hroom
    · rename_i hpc
      rw [Option.ite_none_right_eq_some] at h
      obtain ⟨hgone, h⟩ := h
      obtain rfl := Option.some.inj h
      exact .unrequested hpc hgone
    · rename_i hpc
      rw [Option.ite_none_right_eq_some] at h
      obtain ⟨hgone, h⟩ := h
      obtain rfl := Option.some.inj h
      exact .unclosed hpc hgone
    · rename_i hpc
      split at h
      · simp at h
      · rename_i res rx hrx
        unfold respond at h
        split at h
        · rename_i hmem
          split at h
          · obtain rfl := Option.some.inj h
            exact .refused hpc hrx hmem
          · rw [Option.ite_none_right_eq_some] at h
            obtain ⟨hfresh, h⟩ := h
            obtain rfl := Option.some.inj h
            exact .connected hpc hrx hmem hfresh
        · rename_i hmem
          obtain rfl := Option.some.inj h
          exact .removed hpc hrx hmem
    · simp at h

/-- What a step of the connecter `a` of `port` is. -/
inductive Accepting (s : Side T) (port : PortId) (a : Connecter.Task) :
    Connecter.Event → Side T → Prop
  | connect {conn : ConnId} {rx : List ListenerAction} (pc : a.pc = .recv)
      (inbox : a.rx = .connect conn :: rx) :
      Accepting s port a .recv
        { s with
          connecters := s.connecters.set port { a with rx }
          connects := s.connects ++ [.new (.forward port conn) a.addr] }
  | close {rx : List ListenerAction} (pc : a.pc = .recv) (inbox : a.rx = .listenerClosed :: rx) :
      Accepting s port a .recv (s.setConnecter port { a with pc := .done, rx })
  | recvNone (pc : a.pc = .recv) (inbox : a.rx = []) (not_mem : port ∉ s.connecterTxMap)
      (not_held : s.receiver.holdsConnecter port = false) :
      Accepting s port a .recvNone (s.setConnecter port { a with pc := .done })

omit [Message T] in
theorem stepConnecter_spec {s t : Side T} {port : PortId} {e : Connecter.Event}
    (h : s.stepConnecter port e = some t) :
    ∃ a, s.connecters.get port = some a ∧ Accepting s port a e t := by
  unfold stepConnecter at h
  split at h
  · simp at h
  · rename_i a ha
    refine ⟨a, ha, ?_⟩
    split at h
    · rename_i hpc hrx
      obtain rfl := Option.some.inj h
      exact .connect hpc hrx
    · rename_i hpc hrx
      obtain rfl := Option.some.inj h
      exact .close hpc hrx
    · rename_i hpc hrx
      rw [Option.ite_none_right_eq_some] at h
      obtain ⟨⟨hmem, hheld⟩, h⟩ := h
      obtain rfl := Option.some.inj h
      exact .recvNone hpc hrx hmem hheld
    · simp at h

/-- What a step of the connect task `a` with the index `i` is. -/
inductive Connecting (s : Side T) (i : Nat) (a : Connecter.Connect) :
    Connecter.ConnectEvent → Side T → Prop
  | connected (res : Except SerialError SocketAddr) (pc : a.pc = .connecting)
      (reaches : a.reaches res = true) :
      Connecting s i a (.connected res) (s.setConnect i (a.connected res))
  | refuse {error : SerialError} (pc : a.pc = .sendResponse (.err error))
      (opened : s.sender ≠ .done) (room : s.queue.length < queueCapacity) :
      Connecting s i a .sent
        ((s.enqueued [Message.stream (.connecter a.id (.connectResponse (.err error)))]).setConnect
          i { a with pc := .done })
  | accept (pc : a.pc = .sendResponse .ok)
      (opened : s.sender ≠ .done) (room : s.queue.length < queueCapacity)
      (fresh : s.fresh a.id = true) :
      Connecting s i a .sent
        (((s.enqueued [Message.stream (.connecter a.id (.connectResponse .ok))]).register
          a.id).setConnect i { a with pc := if s.registrable a.id then .done else .panicked })
  | sendFailed {res : Response} (pc : a.pc = .sendResponse res) (gone : s.queueGone = true) :
      Connecting s i a .sendFailed (s.setConnect i { a with pc := .done })

theorem stepConnect_spec {s t : Side T} {i : Nat} {e : Connecter.ConnectEvent}
    (h : s.stepConnect i e = some t) :
    ∃ a, s.connects[i]? = some a ∧ Connecting s i a e t := by
  unfold stepConnect at h
  split at h
  · simp at h
  · rename_i a ha
    refine ⟨a, ha, ?_⟩
    split at h
    · rename_i res hpc
      rw [Option.ite_none_right_eq_some] at h
      obtain ⟨hreaches, h⟩ := h
      obtain rfl := Option.some.inj h
      exact .connected res hpc hreaches
    · rename_i res hpc
      split at h
      · simp at h
      · rename_i r hr
        obtain ⟨hopen, hroom, rfl⟩ := enqueue_spec hr
        split at h
        · obtain rfl := Option.some.inj h
          exact .refuse hpc hopen hroom
        · rw [Option.ite_none_right_eq_some] at h
          obtain ⟨hfresh, h⟩ := h
          obtain rfl := Option.some.inj h
          exact .accept hpc hopen hroom hfresh
    · rename_i res hpc
      rw [Option.ite_none_right_eq_some] at h
      obtain ⟨hgone, h⟩ := h
      obtain rfl := Option.some.inj h
      exact .sendFailed hpc hgone
    · simp at h

theorem stepConnect_sent {s : Side T} {i : Nat} {a : Connecter.Connect} {res : Response}
    (get : s.connects[i]? = some a) (hpc : a.pc = .sendResponse res) (hopen : s.sender ≠ .done)
    (hroom : s.queue.length < queueCapacity) (hfresh : s.fresh a.id = true) :
    ∃ t, s.stepConnect i .sent = some t ∧
      t.log = s.log ++ [Message.stream (.connecter a.id (.connectResponse res))] := by
  have henqueue := enqueue_eq (Message.stream (.connecter a.id (.connectResponse res))) hopen hroom
  cases res with
  | err error =>
      refine ⟨(s.enqueued
        [Message.stream (.connecter a.id (.connectResponse (.err error)))]).setConnect i
        { a with pc := .done }, ?_, rfl⟩
      simp only [stepConnect, get, hpc, henqueue]
  | ok =>
      refine ⟨((s.enqueued [Message.stream (.connecter a.id (.connectResponse .ok))]).register
        a.id).setConnect i { a with pc := if s.registrable a.id then .done else .panicked }, ?_, ?_⟩
      · simp only [stepConnect, get, hpc, henqueue]
        exact if_pos hfresh
      · unfold register
        split
        · rfl
        · split <;> rfl

/-- What a step of the sender is. -/
inductive Sent (env : Env) (s : Side T) : SenderEvent → Side T → Prop
  | recv {m : T} {queue : List T} (pc : s.sender = .recv) (head : s.queue = m :: queue)
      (ok : s.isFailed = false) :
      Sent env s .recv { s with queue, sender := .send m }
  | drop {m : T} {queue : List T} (pc : s.sender = .recv) (head : s.queue = m :: queue)
      (failed : s.isFailed = true) :
      Sent env s .recv { s with queue, lost := s.lost ++ [m] }
  | wait (pc : s.sender = .recv) (empty : s.queue = []) (quiet : s.quiet = true)
      (released : env.held = false) (waits : Message.waitsForNotify T = true) :
      Sent env s .recvNone { s with sender := .notified }
  | close (pc : s.sender = .recv) (empty : s.queue = []) (quiet : s.quiet = true)
      (released : env.held = false) (waits : Message.waitsForNotify T = false) :
      Sent env s .recvNone s.finish
  | notified (pc : s.sender = .notified) (permit : env.permit = true) :
      Sent env s .notified s.finish
  | sent {m : T} (pc : s.sender = .send m) : Sent env s .sent { s with sender := .recv }
  | finished (pc : s.sender = .finish) : Sent env s .sent { s with sender := .done }
  | failed {m : T} (pc : s.sender = .send m) :
      Sent env s .failed
        { s with sender := .recv, isFailed := true, errors := s.errors + 1,
                 lost := s.lost ++ [m] }
  | unfinished (pc : s.sender = .finish) :
      Sent env s .failed
        { s with sender := .done, isFailed := true, errors := s.errors + 1,
                 lost := s.lost ++ [Message.finished] }

theorem stepSender_spec {env : Env} {s t : Side T} {e : SenderEvent}
    (h : s.stepSender env e = some t) : Sent env s e t := by
  unfold stepSender at h
  split at h
  · rename_i hpc
    split at h
    · simp at h
    · rename_i m queue hqueue
      split at h
      · rename_i hfailed
        obtain rfl := Option.some.inj h
        exact .drop hpc hqueue hfailed
      · rename_i hok
        obtain rfl := Option.some.inj h
        exact .recv hpc hqueue (by simpa using hok)
  · rename_i hpc
    split at h
    · rename_i hqueue
      rw [Option.ite_none_right_eq_some] at h
      obtain ⟨⟨hquiet, hheld⟩, h⟩ := h
      split at h
      · rename_i hwaits
        obtain rfl := Option.some.inj h
        exact .wait hpc hqueue hquiet hheld hwaits
      · rename_i hwaits
        obtain rfl := Option.some.inj h
        exact .close hpc hqueue hquiet hheld (by simpa using hwaits)
    · simp at h
  · rename_i hpc
    rw [Option.ite_none_right_eq_some] at h
    obtain ⟨hpermit, h⟩ := h
    obtain rfl := Option.some.inj h
    exact .notified hpc hpermit
  · rename_i m hpc
    obtain rfl := Option.some.inj h
    exact .sent hpc
  · rename_i hpc
    obtain rfl := Option.some.inj h
    exact .finished hpc
  · rename_i m hpc
    obtain rfl := Option.some.inj h
    exact .failed hpc
  · rename_i hpc
    obtain rfl := Option.some.inj h
    exact .unfinished hpc
  · simp at h

end Rlirsh.Stream.Side
