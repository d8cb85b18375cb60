import Rlirsh.Lib.History
import Rlirsh.Stream.Handlers

namespace Rlirsh.Stream

open Rlirsh.Protocol
open Rlirsh.Net
open Rlirsh.Lib

/-- The ports of a side. -/
@[ext] structure Ports where
  listeners : Table PortId Listener.Task
  connecters : Table PortId Connecter.Task
  connects : List Connecter.Connect
  -- there is a source, or was one
  sources : StreamId → Bool
  sinks : StreamId → Bool
  sinkTxMap : List StreamId
  sourceTxMap : List StreamId
  connecterTxMap : List PortId
  listenerTxMap : List StreamId
  log : List StreamAction
  delivered : List StreamAction

namespace Ports

/-- The action is one of a task that is there. -/
def knows (d : Ports) : StreamAction → Bool
  | .source id _ => d.sources id
  | .sink id _ => d.sinks id
  | .listener _ _ | .connecter _ _ => false

/-- The action is one of a stream. -/
def isStream : StreamAction → Bool
  | .source _ _ | .sink _ _ => true
  | .listener _ _ | .connecter _ _ => false

def logged (d : Ports) (action : StreamAction) : Ports :=
  { d with log := d.log ++ [action] }

def handed (d : Ports) (action : StreamAction) : Ports :=
  { d with delivered := d.delivered ++ [action] }

def setListener (d : Ports) (port : PortId) (a : Listener.Task) : Ports :=
  { d with listeners := d.listeners.set port a }

def setConnecter (d : Ports) (port : PortId) (a : Connecter.Task) : Ports :=
  { d with connecters := d.connecters.set port a }

def setConnect (d : Ports) (i : Nat) (a : Connecter.Connect) : Ports :=
  { d with connects := d.connects.set i a }

def insertListenerTx (d : Ports) (id : StreamId) : Ports :=
  { d with listenerTxMap := d.listenerTxMap ++ [id] }

def removeListenerTx (d : Ports) (id : StreamId) : Ports :=
  { d with listenerTxMap := d.listenerTxMap.erase id }

def registerSource (d : Ports) (id : StreamId) : Ports :=
  { d with sourceTxMap := d.sourceTxMap ++ [id], sources := Function.update d.sources id true }

def registerSink (d : Ports) (id : StreamId) : Ports :=
  { d with sinkTxMap := d.sinkTxMap ++ [id], sinks := Function.update d.sinks id true }

/-- The router does not know the identifier. -/
def registrable (d : Ports) (id : StreamId) : Bool :=
  id ∉ d.sourceTxMap ∧ id ∉ d.sinkTxMap

def register (d : Ports) (id : StreamId) : Ports :=
  if id ∈ d.sourceTxMap then d
  else if id ∈ d.sinkTxMap then d.registerSource id
  else (d.registerSource id).registerSink id

/-- The identifier is one of a task, or a key of the maps of the streams. -/
def uses (d : Ports) (id : StreamId) : Prop :=
  id ∈ d.sinkTxMap ∨ id ∈ d.sourceTxMap ∨ d.sources id = true ∨ d.sinks id = true

/-- The router has been shut down. -/
def drained (d : Ports) : Ports :=
  { d with sinkTxMap := [], sourceTxMap := [], connecterTxMap := [] }

/-- What a step of a side can do to its ports. -/
inductive Move (d : Ports) : Ports → Prop
  | quiet : d.Move d
  | stream {action : StreamAction} (known : d.knows action = true) : d.Move (d.logged action)
  | hand {action : StreamAction} (stream : isStream action = true) : d.Move (d.handed action)
  | accepted {port : PortId} {a : Listener.Task} (get : d.listeners.get port = some a)
      (pc : a.pc = .accept) (free : a.id port ∉ d.listenerTxMap) :
      d.Move ((d.insertListenerTx (a.id port)).setListener port { a with pc := .sendConnect })
  | inUse {port : PortId} {a : Listener.Task} (get : d.listeners.get port = some a)
      (pc : a.pc = .accept) (used : a.id port ∈ d.listenerTxMap) :
      d.Move (d.setListener port { a with pc := .panicked })
  | acceptFailed {port : PortId} {a : Listener.Task} (get : d.listeners.get port = some a)
      (pc : a.pc = .accept) : d.Move (d.setListener port a.next)
  | taskEnd {port : PortId} {a : Listener.Task} (get : d.listeners.get port = some a)
      (pc : a.pc = .accept) : d.Move (d.setListener port { a with pc := .sendClosed })
  | request {port : PortId} {a : Listener.Task} (get : d.listeners.get port = some a)
      (pc : a.pc = .sendConnect) :
      d.Move ((d.logged (.listener port (.connect ⟨a.conn⟩))).setListener port
        { a with pc := .awaitResponse })
  | close {port : PortId} {a : Listener.Task} (get : d.listeners.get port = some a)
      (pc : a.pc = .sendClosed) :
      d.Move ((d.logged (.listener port .listenerClosed)).setListener port { a with pc := .done })
  | refused {port : PortId} {a : Listener.Task} {error : SerialError} {rx : List Response}
      (get : d.listeners.get port = some a) (pc : a.pc = .awaitResponse)
      (inbox : a.rx = .err error :: rx) :
      d.Move ((d.removeListenerTx (a.id port)).setListener port a.next)
  | connected {port : PortId} {a : Listener.Task} {rx : List Response}
      (get : d.listeners.get port = some a) (pc : a.pc = .awaitResponse)
      (inbox : a.rx = .ok :: rx) :
      d.Move (((d.removeListenerTx (a.id port)).register (a.id port)).setListener port
        (if d.registrable (a.id port) then a.next else { a with pc := .panicked, rx := [] }))
  | removed {port : PortId} {a : Listener.Task} (get : d.listeners.get port = some a)
      (pc : a.pc = .awaitResponse) (not_mem : a.id port ∉ d.listenerTxMap) :
      d.Move (d.setListener port { a with pc := .panicked, rx := [] })
  | spawn {port : PortId} {a : Connecter.Task} {conn : ConnId} {rx : List ListenerAction}
      (get : d.connecters.get port = some a) (inbox : a.rx = .connect conn :: rx) :
      d.Move { d.setConnecter port { a with rx } with
        connects := d.connects ++ [.new (.forward port conn) a.addr] }
  | closed {port : PortId} {a : Connecter.Task} {rx : List ListenerAction}
      (get : d.connecters.get port = some a) (inbox : a.rx = .listenerClosed :: rx) :
      d.Move (d.setConnecter port { a with pc := .done, rx })
  | deserted {port : PortId} {a : Connecter.Task} (get : d.connecters.get port = some a)
      (not_mem : port ∉ d.connecterTxMap) :
      d.Move (d.setConnecter port { a with pc := .done })
  | tried {i : Nat} {a : Connecter.Connect} (get : d.connects[i]? = some a)
      (res : Except SerialError SocketAddr) (pc : a.pc = .connecting)
      (reaches : a.reaches res = true) : d.Move (d.setConnect i (a.connected res))
  | refuse {i : Nat} {a : Connecter.Connect} {error : SerialError}
      (get : d.connects[i]? = some a) (pc : a.pc = .sendResponse (.err error)) :
      d.Move ((d.logged (.connecter a.id (.connectResponse (.err error)))).setConnect i
        { a with pc := .done })
  | accept {i : Nat} {a : Connecter.Connect} (get : d.connects[i]? = some a)
      (pc : a.pc = .sendResponse .ok) :
      d.Move (((d.logged (.connecter a.id (.connectResponse .ok))).register a.id).setConnect i
        { a with pc := if d.registrable a.id then .done else .panicked })
  | toConnecter {port : PortId} {action : ListenerAction} {a : Connecter.Task}
      (get : d.connecters.get port = some a) (alive : a.pc ≠ .done) :
      d.Move
        ((d.handed (.listener port action)).setConnecter port { a with rx := a.rx ++ [action] })
  | toListener {port : PortId} {conn : ConnId} {res : Response} {a : Listener.Task}
      (get : d.listeners.get port = some a) (requesting : a.requesting = true)
      (number : a.conn = conn.id) (room : a.rx.length < Listener.inboxCapacity) :
      d.Move ((d.handed (.connecter (.forward port conn) (.connectResponse res))).setListener port
        { a with rx := a.rx ++ [res] })

end Ports

namespace Side

variable {T : Type} [Message T]

def ports (s : Side T) : Ports where
  listeners := s.listeners
  connecters := s.connecters
  connects := s.connects
  sources id := (s.sources.get id).isSome
  sinks id := (s.sinks.get id).isSome
  sinkTxMap := s.sinkTxMap
  sourceTxMap := s.sourceTxMap
  connecterTxMap := s.connecterTxMap
  listenerTxMap := s.listenerTxMap
  log := s.view.log
  delivered := s.delivered

theorem sources_of_get {s : Side T} {id : StreamId} {t : Source.Task}
    (get : s.sources.get id = some t) : s.ports.sources id = true := by
  simp [ports, get]

theorem sinks_of_get {s : Side T} {id : StreamId} {t : Sink.Task}
    (get : s.sinks.get id = some t) : s.ports.sinks id = true := by
  simp [ports, get]

theorem ports_enqueued (s : Side T) {m : T} {action : StreamAction}
    (hm : Message.toStream m = some action) :
    (s.enqueued [m]).ports = s.ports.logged action := by
  simp [ports, Ports.logged, enqueued, view, hm]

theorem ports_enqueued_none (s : Side T) {m : T} (hm : Message.toStream m = none) :
    (s.enqueued [m]).ports = s.ports := by
  simp [ports, enqueued, view, hm]

theorem ports_setListener (s : Side T) (port : PortId) (a : Listener.Task) :
    (s.setListener port a).ports = s.ports.setListener port a := rfl

theorem ports_setConnect (s : Side T) (i : Nat) (a : Connecter.Connect) :
    (s.setConnect i a).ports = s.ports.setConnect i a := rfl

theorem ports_setSource {s : Side T} {id : StreamId} {a : Source.Task} (u : Source.Task)
    (get : s.sources.get id = some a) : (s.setSource id u).ports = s.ports := by
  ext1 <;> try rfl
  funext id'
  simp only [ports, setSource, Table.get_set]
  split
  · rename_i hid
    rw [hid, get]
    rfl
  · rfl

theorem ports_setSink {s : Side T} {id : StreamId} {a : Sink.Task} (u : Sink.Task)
    (get : s.sinks.get id = some a) : (s.setSink id u).ports = s.ports := by
  ext1 <;> try rfl
  funext id'
  simp only [ports, setSink, Table.get_set]
  split
  · rename_i hid
    rw [hid, get]
    rfl
  · rfl

theorem ports_registerSource (s : Side T) (id : StreamId) :
    (s.registerSource id).ports = s.ports.registerSource id := by
  ext1 <;> try rfl
  funext id'
  simp only [ports, registerSource, Ports.registerSource, Table.get_set, Function.update_apply]
  split <;> rfl

theorem ports_registerSink (s : Side T) (id : StreamId) :
    (s.registerSink id).ports = s.ports.registerSink id := by
  ext1 <;> try rfl
  funext id'
  simp only [ports, registerSink, Ports.registerSink, Table.get_set, Function.update_apply]
  split <;> rfl

theorem ports_register (s : Side T) (id : StreamId) :
    (s.register id).ports = s.ports.register id := by
  change _ = if id ∈ s.sourceTxMap then s.ports
    else if id ∈ s.sinkTxMap then s.ports.registerSource id
    else (s.ports.registerSource id).registerSink id
  unfold register
  split
  · rfl
  · split
    · exact ports_registerSource s id
    · rw [ports_registerSink, ports_registerSource]

theorem ports_sourceOutput {s : Side T} {id : StreamId} {a : Source.Task} (e : Source.Event)
    (get : s.sources.get id = some a) :
    s.ports.Move (s.enqueued (sourceOutput T a id e)).ports := by
  have hemitted : a.emitted e = [] ∨ ∃ action, a.emitted e = [action] := by
    cases e <;> simp only [Source.Task.emitted, true_or]
    cases a.pending <;> simp
  rcases hemitted with hnil | ⟨action, haction⟩
  · simp only [sourceOutput, hnil, List.map_nil, enqueued_nil]
    exact .quiet
  · simp only [sourceOutput, haction, List.map_cons, List.map_nil]
    rw [ports_enqueued s (Message.toStream_stream (.source id action))]
    exact .stream (by simp [Ports.knows, ports, get])

theorem ports_sinkOutput {s : Side T} {id : StreamId} {a : Sink.Task} (e : Sink.Event)
    (get : s.sinks.get id = some a) :
    s.ports.Move (s.enqueued (sinkOutput T a id e)).ports := by
  have hemitted : a.emitted e = [] ∨ ∃ action, a.emitted e = [action] := by
    cases e <;> simp only [Sink.Task.emitted, true_or]
    cases a.pending <;> simp
  rcases hemitted with hnil | ⟨action, haction⟩
  · simp only [sinkOutput, hnil, List.map_nil, enqueued_nil]
    exact .quiet
  · simp only [sinkOutput, haction, List.map_cons, List.map_nil]
    rw [ports_enqueued s (Message.toStream_stream (.sink id action))]
    exact .stream (by simp [Ports.knows, ports, get])

theorem ports_finish (s : Side T) : s.finish.ports = s.ports := by
  have hview := view_finish s
  unfold finish at hview ⊢
  split
  · rfl
  · rename_i hfailed
    rw [if_neg hfailed] at hview
    exact Ports.ext rfl rfl rfl rfl rfl rfl rfl rfl rfl (congrArg View.log hview) rfl

theorem ports_step {env : Env} {s t : Side T} {e : Event} (hsender : SenderInv env.held s)
    (hne : ∀ reported sinks sources, e ≠ .receiver (.abort reported sinks sources))
    (hstep : s.step env e = some t) : s.ports.Move t.ports := by
  cases e with
  | source id e =>
      obtain ⟨a, u, hs⟩ := stepSource_spec hstep
      rw [hs.eq, ports_setSource (s := s.enqueued _) u hs.get]
      exact ports_sourceOutput e hs.get
  | sink id e =>
      obtain ⟨a, u, hs⟩ := stepSink_spec hstep
      rw [hs.eq, ports_setSink (s := s.enqueued _) u hs.get]
      exact ports_sinkOutput e hs.get
  | listener port e =>
      obtain ⟨a, ha, hlistened⟩ := stepListener_spec hstep
      cases hlistened with
      | accepted pc free => exact .accepted ha pc free
      | inUse pc used => exact .inUse ha pc used
      | acceptFailed pc => exact .acceptFailed ha pc
      | taskEnd pc => exact .taskEnd ha pc
      | request pc =>
          rw [ports_setListener, ports_enqueued s (Message.toStream_stream _)]
          exact .request ha pc
      | close pc =>
          rw [ports_setListener, ports_enqueued s (Message.toStream_stream _)]
          exact .close ha pc
      | unrequested pc gone | unclosed pc gone =>
          have hended := (hsender.quiet_of_gone gone).listeners port a ha
          simp [Listener.Task.ended, pc] at hended
      | refused pc inbox => exact .refused ha pc inbox
      | connected pc inbox mem fresh =>
          rw [ports_setListener, ports_register]
          exact .connected ha pc inbox
      | removed pc inbox not_mem => exact .removed ha pc not_mem
  | connecter port e =>
      obtain ⟨a, ha, haccepting⟩ := stepConnecter_spec hstep
      cases haccepting with
      | connect pc inbox => exact .spawn ha inbox
      | close pc inbox => exact .closed ha inbox
      | recvNone pc inbox not_mem => exact .deserted ha not_mem
  | connect i e =>
      obtain ⟨a, ha, hconnecting⟩ := stepConnect_spec hstep
      cases hconnecting with
      | connected res pc reaches => exact .tried ha res pc reaches
      | refuse pc =>
          rw [ports_setConnect, ports_enqueued s (Message.toStream_stream _)]
          exact .refuse ha pc
      | accept pc =>
          rw [ports_setConnect, ports_register, ports_enqueued s (Message.toStream_stream _)]
          exact .accept ha pc
      | sendFailed pc gone =>
          have hended := (hsender.quiet_of_gone gone).connects a (List.mem_of_getElem? ha)
          simp [Connecter.Connect.ended, pc] at hended
  | sender e =>
      cases stepSender_spec hstep with
      | close | notified =>
          rw [ports_finish]
          exact .quiet
      | _ => exact .quiet
  | receiver e =>
      cases stepReceiver_spec hstep with
      | dispatch pc dispatched =>
          cases dispatched with
          | @sink id action a u get =>
              rw [ports_setSink (s := s.handed _) u get]
              show s.ports.Move (s.ports.handed (.source id action))
              exact .hand rfl
          | @source id action a u kept get =>
              rw [ports_setSource (s := (s.handed _).dropSender id) u get]
              show s.ports.Move (s.ports.handed (.sink id action))
              exact .hand rfl
          | discarded => exact .hand rfl
          | connecter get alive => exact .toConnecter get alive
          | listener get requesting number room => exact .toListener get requesting number room
          | gone => exact .quiet
      | abort => exact absurd rfl (hne _ _ _)
      | @shutdownSink id sinks sources a u pc get =>
          rw [ports_setSink (s := { s with receiver := .shutdown sinks sources }) u get]
          exact .quiet
      | @shutdownSource id sources a u pc kept get =>
          rw [ports_setSource (s := { s with receiver := .shutdown [] sources }) u get]
          exact .quiet
      | shutdownOrphan => exact .quiet

/-- What a step of a side does to its ports: it moves them, or shuts the router down. -/
theorem ports_moved {env : Env} {s t : Side T} {e : Event} (hsender : SenderInv env.held s)
    (hstep : s.step env e = some t) : s.ports.Move t.ports ∨ t.ports = s.ports.drained ∧
      ∃ reported sinks sources, e = .receiver (.abort reported sinks sources) := by
  by_cases habort : ∃ reported sinks sources, e = .receiver (.abort reported sinks sources)
  · refine Or.inr ⟨?_, habort⟩
    obtain ⟨reported, sinks, sources, rfl⟩ := habort
    cases stepReceiver_spec hstep
    rfl
  · exact Or.inl (ports_step hsender (fun reported sinks sources he =>
      habort ⟨reported, sinks, sources, he⟩) hstep)

end Side

end Rlirsh.Stream
