import Rlirsh.Stream.Ports

namespace Rlirsh.Stream

open Rlirsh.Protocol
open Rlirsh.Net
open Rlirsh.Lib
open Rlirsh.Lib.History

/-- How often the connection has been asked for. -/
def requests (port : PortId) (conn : ConnId) (actions : List StreamAction) : Nat :=
  actions.count (.listener port (.connect conn))

/-- The action answers a request for the connection. -/
def isResponse (port : PortId) (conn : ConnId) : StreamAction → Bool
  | .connecter id _ => id = .forward port conn
  | _ => false

/-- How often the request for the connection has been answered. -/
def responses (port : PortId) (conn : ConnId) (actions : List StreamAction) : Nat :=
  actions.countP (isResponse port conn)

/-- The connection is made. -/
def accepted (id : StreamId) : StreamAction := .connecter id (.connectResponse .ok)

/-- The stream of an action of a source or a sink. -/
def streamOf : StreamAction → Option StreamId
  | .source id _ | .sink id _ => some id
  | .listener _ _ | .connecter _ _ => none

@[grind =] theorem requests_snoc (port : PortId) (conn : ConnId) (actions : List StreamAction)
    (action : StreamAction) : requests port conn (actions ++ [action]) =
      requests port conn actions + if action = .listener port (.connect conn) then 1 else 0 := by
  simp only [requests, List.count_append, List.count_singleton, beq_iff_eq]

@[grind =] theorem responses_snoc (port : PortId) (conn : ConnId) (actions : List StreamAction)
    (action : StreamAction) : responses port conn (actions ++ [action]) =
      responses port conn actions + if isResponse port conn action = true then 1 else 0 := by
  simp only [responses, List.countP_append, List.countP_singleton]

namespace Ports

/-- The streams of a side: those it had from the start, and forwarded connections. -/
structure Enrolled (sourceIds sinkIds : List StreamId) (d : Ports) : Prop where
  sources : ∀ id, id.isForward = false → (d.sources id = true ↔ id ∈ sourceIds)
  sinks : ∀ id, id.isForward = false → (d.sinks id = true ↔ id ∈ sinkIds)
  logged : ∀ action ∈ d.log, isStream action = true → d.knows action = true

theorem ne_of_isForward {id id' : StreamId} (hid : id.isForward = true)
    (hid' : id'.isForward = false) : id' ≠ id := by
  rintro rfl
  rw [hid] at hid'
  cases hid'

theorem Enrolled.registerSource {sourceIds sinkIds : List StreamId} {d : Ports} {id : StreamId}
    (h : Enrolled sourceIds sinkIds d) (hid : id.isForward = true) :
    Enrolled sourceIds sinkIds (d.registerSource id) := by
  obtain ⟨hsources, hsinks, hlogged⟩ := h
  refine ⟨fun id' hid' => ?_, hsinks, fun action hmem hstream => ?_⟩
  · simpa [Ports.registerSource, ne_of_isForward hid hid'] using hsources id' hid'
  · have hknown := hlogged action hmem hstream
    cases action with
    | source id' a =>
        by_cases heq : id' = id
        · simp [Ports.registerSource, knows, heq]
        · simpa [Ports.registerSource, knows, heq] using hknown
    | _ => exact hknown

theorem Enrolled.registerSink {sourceIds sinkIds : List StreamId} {d : Ports} {id : StreamId}
    (h : Enrolled sourceIds sinkIds d) (hid : id.isForward = true) :
    Enrolled sourceIds sinkIds (d.registerSink id) := by
  obtain ⟨hsources, hsinks, hlogged⟩ := h
  refine ⟨hsources, fun id' hid' => ?_, fun action hmem hstream => ?_⟩
  · simpa [Ports.registerSink, ne_of_isForward hid hid'] using hsinks id' hid'
  · have hknown := hlogged action hmem hstream
    cases action with
    | sink id' a =>
        by_cases heq : id' = id
        · simp [Ports.registerSink, knows, heq]
        · simpa [Ports.registerSink, knows, heq] using hknown
    | _ => exact hknown

theorem Enrolled.register {sourceIds sinkIds : List StreamId} {d : Ports} {id : StreamId}
    (h : Enrolled sourceIds sinkIds d) (hid : id.isForward = true) :
    Enrolled sourceIds sinkIds (d.register id) := by
  unfold Ports.register
  split
  · exact h
  · split
    · exact h.registerSource hid
    · exact (h.registerSource hid).registerSink hid

theorem Enrolled.append {sourceIds sinkIds : List StreamId} {d : Ports} {action : StreamAction}
    (h : Enrolled sourceIds sinkIds d) (hknown : isStream action = true → d.knows action = true) :
    Enrolled sourceIds sinkIds (d.logged action) := by
  refine ⟨h.sources, h.sinks, fun action' hmem hstream => ?_⟩
  rcases List.mem_append.mp hmem with hmem | hmem
  · exact h.logged action' hmem hstream
  · obtain rfl := List.mem_singleton.mp hmem
    exact hknown hstream

theorem Enrolled.frame {sourceIds sinkIds : List StreamId} {d e : Ports}
    (h : Enrolled sourceIds sinkIds d) (hsources : e.sources = d.sources)
    (hsinks : e.sinks = d.sinks) (hlog : e.log = d.log) : Enrolled sourceIds sinkIds e := by
  refine ⟨?_, ?_, fun action hmem hstream => ?_⟩
  · rw [hsources]
    exact h.sources
  · rw [hsinks]
    exact h.sinks
  · have hknown := h.logged action (hlog ▸ hmem) hstream
    cases action <;> simp_all [knows]

theorem Enrolled.step {sourceIds sinkIds : List StreamId} {d e : Ports}
    (h : Enrolled sourceIds sinkIds d) (hforward : ∀ c ∈ d.connects, c.id.isForward = true)
    (hmove : d.Move e) : Enrolled sourceIds sinkIds e := by
  have hport (action : StreamAction) (haction : isStream action = false) :
      Enrolled sourceIds sinkIds (d.logged action) := h.append (by simp [haction])
  cases hmove with
  | stream known => exact h.append fun _ => known
  | @request port a => exact (hport (.listener port (.connect ⟨a.conn⟩)) rfl).frame rfl rfl rfl
  | @close port a => exact (hport (.listener port .listenerClosed) rfl).frame rfl rfl rfl
  | @refuse i a error =>
      exact (hport (.connecter a.id (.connectResponse (.err error))) rfl).frame rfl rfl rfl
  | @connected port a =>
      have hremoved : Enrolled sourceIds sinkIds (d.removeListenerTx (a.id port)) :=
        h.frame rfl rfl rfl
      exact (hremoved.register (show (a.id port).isForward = true from rfl)).frame rfl rfl rfl
  | @accept i a get =>
      exact ((hport (.connecter a.id (.connectResponse .ok)) rfl).register
        (hforward a (List.mem_of_getElem? get))).frame rfl rfl rfl
  | _ => exact h.frame rfl rfl rfl

/-- The keys of the maps are streams whose tasks have been spawned. -/
structure Mapped (d : Ports) : Prop where
  sources : ∀ id ∈ d.sourceTxMap, d.sources id = true
  sinks : ∀ id ∈ d.sinkTxMap, d.sinks id = true

theorem mapped_append {ids : List StreamId} {tasks : StreamId → Bool}
    (h : ∀ id ∈ ids, tasks id = true) (id : StreamId) :
    ∀ id' ∈ ids ++ [id], Function.update tasks id true id' = true := by
  intro id' hmem
  by_cases heq : id' = id
  · rw [heq, Function.update_self]
  · rw [Function.update_of_ne heq]
    rcases List.mem_append.mp hmem with hmem | hmem
    · exact h id' hmem
    · exact absurd (List.mem_singleton.mp hmem) heq

theorem Mapped.register {d : Ports} (h : Mapped d) (id : StreamId) : Mapped (d.register id) := by
  unfold Ports.register
  split
  · exact h
  · split
    · exact ⟨mapped_append h.sources id, h.sinks⟩
    · exact ⟨mapped_append h.sources id, mapped_append h.sinks id⟩

theorem Mapped.step {d e : Ports} (h : Mapped d) (hmove : d.Move e) : Mapped e := by
  cases hmove with
  | @connected port a =>
      have hremoved : Mapped (d.removeListenerTx (a.id port)) := ⟨h.sources, h.sinks⟩
      exact ⟨(hremoved.register (a.id port)).sources, (hremoved.register (a.id port)).sinks⟩
  | @accept i a =>
      have hlogged : Mapped (d.logged (.connecter a.id (.connectResponse .ok))) :=
        ⟨h.sources, h.sinks⟩
      exact ⟨(hlogged.register a.id).sources, (hlogged.register a.id).sinks⟩
  | _ => exact ⟨h.sources, h.sinks⟩

theorem Mapped.drained (d : Ports) : Mapped d.drained :=
  ⟨fun _ hmem => absurd hmem List.not_mem_nil, fun _ hmem => absurd hmem List.not_mem_nil⟩

/-- What a listener and its inbox have to do with what is enqueued and delivered for its
port. -/
structure Asking (d : Ports) (port : PortId) (a : Listener.Task) : Prop where
  mem : a.requesting = true → a.id port ∈ d.listenerTxMap
  room : a.rx.length ≤ 1
  heard : a.rx ≠ [] → a.requesting = true
  inbox : ∀ res ∈ a.rx, .connecter (a.id port) (.connectResponse res) ∈ d.delivered
  asked : ∀ conn, requests port conn d.log ≤
    if conn.id < a.conn ∨ conn.id = a.conn ∧ (a.pc = .awaitResponse ∨ a.pc = .panicked) then 1
    else 0
  -- all requests but the one the listener waits for have been answered
  answered : ∀ conn,
    requests port conn d.log + (if conn.id = a.conn then a.rx.length else 0) ≤
      responses port conn d.delivered +
        if conn.id = a.conn ∧ a.pc = .awaitResponse then 1 else 0
  not_closed : a.pc ≠ .done → .listener port .listenerClosed ∉ d.log

/-- The listener is through with the connections up to a number. -/
def Past (d : Ports) (port : PortId) (n : Nat) : Prop :=
  ∃ a, d.listeners.get port = some a ∧ (n < a.conn ∨ n = a.conn ∧ a.pc = .panicked)

/-- The end of the ports that listens. -/
structure Requesting (ports : List PortId) (d : Ports) : Prop where
  connecters : ∀ port, d.connecters.get port = none
  connects : d.connects = []
  present : ∀ port, (d.listeners.get port).isSome = true ↔ port ∈ ports
  asking : ∀ port a, d.listeners.get port = some a → Asking d port a
  entries : ∀ id ∈ d.listenerTxMap, ∃ port a,
    d.listeners.get port = some a ∧ a.requesting = true ∧ id = a.id port
  entries_nodup : d.listenerTxMap.Nodup
  logged : ∀ port action, .listener port action ∈ d.log → port ∈ ports
  not_connecter : ∀ id action, .connecter id action ∉ d.log
  closed_last : Each (fun before action => ∀ port, (∃ a, action = .listener port a) →
    .listener port .listenerClosed ∉ before) d.log
  used : ∀ port conn, d.uses (.forward port conn) →
    accepted (.forward port conn) ∈ d.delivered ∧ Past d port conn.id

/-- An accepted connection waits for its listener. -/
def Held (d : Ports) (port : PortId) (conn : ConnId) : Prop :=
  ∃ a, d.listeners.get port = some a ∧ a.conn = conn.id ∧ .ok ∈ a.rx

instance (d : Ports) (port : PortId) (conn : ConnId) : Decidable (Held d port conn) :=
  match h : d.listeners.get port with
  | none => isFalse fun ⟨a, ha, _⟩ => by simp [h] at ha
  | some a => decidable_of_iff (a.conn = conn.id ∧ .ok ∈ a.rx)
      ⟨fun ⟨hconn, hok⟩ => ⟨a, h, hconn, hok⟩, fun ⟨b, hb, hconn, hok⟩ => by
        obtain rfl := Option.some.inj (h.symm.trans hb)
        exact ⟨hconn, hok⟩⟩

/-- What the router of an end that listens knows until it is shut down. -/
structure RequestingOpen (sourceIds sinkIds : List StreamId) (d : Ports) : Prop where
  connecterTxMap : d.connecterTxMap = []
  sources : sourceIds ⊆ d.sourceTxMap
  sinks : sinkIds ⊆ d.sinkTxMap
  registered : ∀ port conn, accepted (.forward port conn) ∈ d.delivered →
    (.forward port conn ∈ d.sinkTxMap ∧ .forward port conn ∈ d.sourceTxMap) ∨ Held d port conn

/-- What becomes of an end that listens: no assertion of its router fires. -/
inductive Listens (d : Ports) : Ports → Prop
  | quiet : d.Listens d
  | stream {action : StreamAction} (known : d.knows action = true) : d.Listens (d.logged action)
  | hand {action : StreamAction} (stream : isStream action = true) : d.Listens (d.handed action)
  | accepted {port : PortId} {a : Listener.Task} (get : d.listeners.get port = some a)
      (pc : a.pc = .accept) (free : a.id port ∉ d.listenerTxMap) :
      d.Listens ((d.insertListenerTx (a.id port)).setListener port { a with pc := .sendConnect })
  | acceptFailed {port : PortId} {a : Listener.Task} (get : d.listeners.get port = some a)
      (pc : a.pc = .accept) : d.Listens (d.setListener port a.next)
  | taskEnd {port : PortId} {a : Listener.Task} (get : d.listeners.get port = some a)
      (pc : a.pc = .accept) : d.Listens (d.setListener port { a with pc := .sendClosed })
  | request {port : PortId} {a : Listener.Task} (get : d.listeners.get port = some a)
      (pc : a.pc = .sendConnect) :
      d.Listens ((d.logged (.listener port (.connect ⟨a.conn⟩))).setListener port
        { a with pc := .awaitResponse })
  | close {port : PortId} {a : Listener.Task} (get : d.listeners.get port = some a)
      (pc : a.pc = .sendClosed) :
      d.Listens ((d.logged (.listener port .listenerClosed)).setListener port
        { a with pc := .done })
  | refused {port : PortId} {a : Listener.Task} {error : SerialError} {rx : List Response}
      (get : d.listeners.get port = some a) (pc : a.pc = .awaitResponse)
      (inbox : a.rx = .err error :: rx) :
      d.Listens ((d.removeListenerTx (a.id port)).setListener port a.next)
  | connected {port : PortId} {a : Listener.Task} {rx : List Response}
      (get : d.listeners.get port = some a) (pc : a.pc = .awaitResponse)
      (inbox : a.rx = .ok :: rx) (registrable : d.registrable (a.id port) = true) :
      d.Listens ((((d.removeListenerTx (a.id port)).registerSource (a.id port)).registerSink
        (a.id port)).setListener port a.next)
  | toListener {port : PortId} {a : Listener.Task} {res : Response}
      (get : d.listeners.get port = some a) (requesting : a.requesting = true)
      (room : a.rx.length < Listener.inboxCapacity) :
      d.Listens ((d.handed (.connecter (a.id port) (.connectResponse res))).setListener port
        { a with rx := a.rx ++ [res] })

theorem registrable_iff {d : Ports} {id : StreamId} :
    d.registrable id = true ↔ id ∉ d.sourceTxMap ∧ id ∉ d.sinkTxMap := by
  simp [Ports.registrable]

theorem register_of_registrable {d : Ports} {id : StreamId} (h : d.registrable id = true) :
    d.register id = (d.registerSource id).registerSink id := by
  obtain ⟨hsource, hsink⟩ := registrable_iff.mp h
  rw [Ports.register, if_neg hsource, if_neg hsink]

theorem Requesting.free {ports : List PortId} {d : Ports} {port : PortId} {a : Listener.Task}
    (h : Requesting ports d) (get : d.listeners.get port = some a)
    (hnot : a.requesting = false) : a.id port ∉ d.listenerTxMap := by
  intro hmem
  obtain ⟨port', b, hb, hreq, hid⟩ := h.entries _ hmem
  obtain ⟨rfl, -⟩ := StreamId.forward.inj hid
  obtain rfl := Option.some.inj (get.symm.trans hb)
  rw [hnot] at hreq
  cases hreq

theorem registrable_of_not_uses {d : Ports} {id : StreamId} (h : ¬ d.uses id) :
    d.registrable id = true :=
  registrable_iff.mpr ⟨fun hmem => h (Or.inr (Or.inl hmem)), fun hmem => h (Or.inl hmem)⟩

theorem Requesting.not_uses {ports : List PortId} {d : Ports} {port : PortId}
    {a : Listener.Task} (h : Requesting ports d) (get : d.listeners.get port = some a)
    (pc : a.pc = .awaitResponse) : ¬ d.uses (a.id port) := by
  intro huses
  obtain ⟨-, b, hb, hused⟩ := h.used port ⟨a.conn⟩ huses
  obtain rfl := Option.some.inj (get.symm.trans hb)
  rcases hused with hlt | ⟨-, hpanicked⟩
  · exact Nat.lt_irrefl _ hlt
  · rw [pc] at hpanicked
    cases hpanicked

theorem Requesting.listens {ports : List PortId} {d e : Ports} (h : Requesting ports d)
    (hmove : d.Move e) : d.Listens e := by
  have hconnecter {port : PortId} {a : Connecter.Task} (get : d.connecters.get port = some a) :
      False := by
    rw [h.connecters port] at get
    cases get
  have hconnect {i : Nat} {a : Connecter.Connect} (get : d.connects[i]? = some a) : False := by
    rw [h.connects] at get
    cases get
  cases hmove with
  | quiet => exact .quiet
  | stream known => exact .stream known
  | hand stream => exact .hand stream
  | accepted get pc free => exact .accepted get pc free
  | inUse get pc used => exact absurd used (h.free get (by rw [Listener.Task.requesting, pc]))
  | acceptFailed get pc => exact .acceptFailed get pc
  | taskEnd get pc => exact .taskEnd get pc
  | request get pc => exact .request get pc
  | close get pc => exact .close get pc
  | refused get pc inbox => exact .refused get pc inbox
  | @connected port a rx get pc inbox =>
      have hreg := registrable_of_not_uses (h.not_uses get pc)
      rw [if_pos hreg, register_of_registrable (d := d.removeListenerTx (a.id port)) hreg]
      exact .connected get pc inbox hreg
  | @removed port a get pc not_mem =>
      exact absurd ((h.asking port a get).mem (by simp [Listener.Task.requesting, pc])) not_mem
  | @toListener port conn res a get requesting number room =>
      have hconn : conn = ⟨a.conn⟩ := by rw [number]
      rw [hconn]
      exact .toListener get requesting room
  | spawn get | closed get | deserted get | toConnecter get => exact (hconnecter get).elim
  | tried get | refuse get | accept get => exact (hconnect get).elim

theorem Asking.frame {d e : Ports} {port : PortId} {a : Listener.Task} (h : Asking d port a)
    (hmap : a.id port ∈ d.listenerTxMap → a.id port ∈ e.listenerTxMap)
    (hdelivered : ∀ action ∈ d.delivered, action ∈ e.delivered)
    (hresponses : ∀ conn, responses port conn d.delivered ≤ responses port conn e.delivered)
    (hrequests : ∀ conn, requests port conn e.log = requests port conn d.log)
    (hclosed : .listener port .listenerClosed ∈ e.log → .listener port .listenerClosed ∈ d.log) :
    Asking e port a where
  mem hreq := hmap (h.mem hreq)
  room := h.room
  heard := h.heard
  inbox res hres := hdelivered _ (h.inbox res hres)
  asked conn := hrequests conn ▸ h.asked conn
  answered conn := by
    have := h.answered conn
    have := hresponses conn
    rw [hrequests conn]
    omega
  not_closed hpc hmem := h.not_closed hpc (hclosed hmem)

theorem Asking.same {d e : Ports} {port : PortId} {a : Listener.Task} (h : Asking d port a)
    (hdelivered : e.delivered = d.delivered) (hlog : e.log = d.log)
    (hmap : e.listenerTxMap = d.listenerTxMap) : Asking e port a :=
  h.frame (by simp [hmap]) (by simp [hdelivered]) (by simp [hdelivered]) (by simp [hlog])
    (by simp [hlog])

theorem Asking.logged {d : Ports} {port : PortId} {a : Listener.Task} {action : StreamAction}
    (h : Asking d port a) (hne : ∀ la, action ≠ .listener port la) :
    Asking (d.logged action) port a := by
  refine h.frame id (fun _ => id) (fun _ => Nat.le_refl _) (fun conn => ?_) fun hmem => ?_
  · rw [Ports.logged, requests_snoc, if_neg (hne _), Nat.add_zero]
  · rcases List.mem_append.mp hmem with hmem | hmem
    · exact hmem
    · exact absurd (List.mem_singleton.mp hmem).symm (hne _)

theorem Asking.handed {d : Ports} {port : PortId} {a : Listener.Task} {action : StreamAction}
    (h : Asking d port a) : Asking (d.handed action) port a := by
  refine h.frame id (fun _ => List.mem_append_left _) (fun conn => ?_) (fun _ => rfl) id
  rw [Ports.handed, responses_snoc]
  exact Nat.le_add_right _ _

theorem Asking.goto {d e : Ports} {port : PortId} {a : Listener.Task} {pc : Listener.Pc}
    (h : Asking d port a) (hpc : a.pc = .accept) (hlog : e.log = d.log)
    (hdelivered : e.delivered = d.delivered)
    (hmap : pc = .sendConnect → a.id port ∈ e.listenerTxMap)
    (hpc' : pc = .sendConnect ∨ pc = .sendClosed) : Asking e port { a with pc } := by
  obtain ⟨hmem, hroom, hheard, hinbox, hasked, hanswered, hclosed⟩ := h
  constructor <;> grind [Listener.Task.requesting, Listener.Task.id]

theorem Asking.next {d e : Ports} {port : PortId} {a : Listener.Task} (h : Asking d port a)
    (hpc : a.pc = .accept ∨ a.pc = .awaitResponse ∧ a.rx ≠ []) (hlog : e.log = d.log)
    (hdelivered : e.delivered = d.delivered) : Asking e port a.next := by
  obtain ⟨hmem, hroom, hheard, hinbox, hasked, hanswered, hclosed⟩ := h
  have hlength : a.pc = .awaitResponse → a.rx.length = 1 := by
    intro hawait
    have := List.length_pos_of_ne_nil (by grind : a.rx ≠ [])
    omega
  constructor <;> grind [Listener.Task.requesting, Listener.Task.id, Listener.Task.next]

theorem Asking.request {d e : Ports} {port : PortId} {a : Listener.Task} (h : Asking d port a)
    (hpc : a.pc = .sendConnect) (hlog : e.log = d.log ++ [.listener port (.connect ⟨a.conn⟩)])
    (hdelivered : e.delivered = d.delivered) (hmap : e.listenerTxMap = d.listenerTxMap) :
    Asking e port { a with pc := .awaitResponse } := by
  obtain ⟨hmem, hroom, hheard, hinbox, hasked, hanswered, hclosed⟩ := h
  constructor <;> grind [Listener.Task.requesting, Listener.Task.id]

theorem Asking.close {d e : Ports} {port : PortId} {a : Listener.Task} (h : Asking d port a)
    (hpc : a.pc = .sendClosed) (hlog : e.log = d.log ++ [.listener port .listenerClosed])
    (hdelivered : e.delivered = d.delivered) : Asking e port { a with pc := .done } := by
  obtain ⟨hmem, hroom, hheard, hinbox, hasked, hanswered, hclosed⟩ := h
  constructor <;> grind [Listener.Task.requesting, Listener.Task.id]

theorem Asking.heard_response {d e : Ports} {port : PortId} {a : Listener.Task}
    {res : Response} (h : Asking d port a) (hreq : a.requesting = true) (hrx : a.rx.length < 1)
    (hlog : e.log = d.log) (hmap : e.listenerTxMap = d.listenerTxMap)
    (hdelivered : e.delivered = d.delivered ++ [.connecter (a.id port) (.connectResponse res)]) :
    Asking e port { a with rx := a.rx ++ [res] } := by
  obtain ⟨hmem, hroom, hheard, hinbox, hasked, hanswered, hclosed⟩ := h
  have hconn (conn : ConnId) (h : conn.id = a.conn) : (⟨a.conn⟩ : ConnId) = conn := by rw [← h]
  constructor <;> grind [Listener.Task.requesting, Listener.Task.id, isResponse]

theorem Requesting.asking_set {ports : List PortId} {d e : Ports} {port : PortId}
    {b : Listener.Task} (h : Requesting ports d)
    (hset : e.listeners = d.listeners.set port b) (hown : Asking e port b)
    (hother : ∀ port' a, port' ≠ port → Asking d port' a → Asking e port' a) :
    ∀ port' a, e.listeners.get port' = some a → Asking e port' a := by
  intro port' a hget
  rw [hset, Table.get_set] at hget
  split at hget
  · rename_i heq
    obtain rfl := Option.some.inj hget
    rw [heq]
    exact hown
  · rename_i hne
    exact hother port' a hne (h.asking port' a hget)

theorem Requesting.asking_step {ports : List PortId} {d e : Ports} (h : Requesting ports d)
    (hmove : d.Listens e) : ∀ port a, e.listeners.get port = some a → Asking e port a := by
  have hother {port port' : PortId} {a : Listener.Task} {action : ListenerAction}
      (hne : port' ≠ port) (ha : Asking d port' a) :
      Asking (d.logged (.listener port action)) port' a :=
    ha.logged fun la heq => hne (StreamAction.listener.inj heq).1.symm
  have hid {port port' : PortId} (a b : Listener.Task) (hne : port' ≠ port) : 
      b.id port' ≠ a.id port := by
    intro heq
    exact hne (StreamId.forward.inj heq).1
  cases hmove with
  | quiet => exact h.asking
  | stream known =>
      intro port a get
      apply (h.asking port a get).logged
      rintro la rfl
      cases known
  | hand stream => exact fun port a get => (h.asking port a get).handed
  | @accepted port a get pc free =>
      refine h.asking_set rfl ((h.asking port a get).goto pc rfl rfl (fun _ => ?_) (Or.inl rfl)) ?_
      · exact List.mem_append_right _ (List.mem_singleton_self _)
      · intro port' b hne hb
        exact hb.frame (fun hmem => List.mem_append_left _ hmem) (fun _ => id)
          (fun _ => Nat.le_refl _) (fun _ => rfl) id
  | @acceptFailed port a get pc =>
      exact h.asking_set rfl ((h.asking port a get).next (Or.inl pc) rfl rfl)
        fun port' b _ hb => hb.same rfl rfl rfl
  | @taskEnd port a get pc =>
      exact h.asking_set rfl ((h.asking port a get).goto pc rfl rfl (fun hpc => by cases hpc)
        (Or.inr rfl)) fun port' b _ hb => hb.same rfl rfl rfl
  | @request port a get pc =>
      exact h.asking_set rfl ((h.asking port a get).request pc rfl rfl rfl)
        fun port' b hne hb => (hother hne hb).same rfl rfl rfl
  | @close port a get pc =>
      exact h.asking_set rfl ((h.asking port a get).close pc rfl rfl)
        fun port' b hne hb => (hother hne hb).same rfl rfl rfl
  | @refused port a error rx get pc inbox =>
      refine h.asking_set rfl ((h.asking port a get).next
        (Or.inr ⟨pc, by rw [inbox]; exact List.cons_ne_nil _ _⟩) rfl rfl) ?_
      intro port' b hne hb
      exact hb.frame (fun hmem => (List.mem_erase_of_ne (hid a b hne)).mpr hmem) (fun _ => id)
        (fun _ => Nat.le_refl _) (fun _ => rfl) id
  | @connected port a rx get pc inbox =>
      refine h.asking_set rfl ((h.asking port a get).next
        (Or.inr ⟨pc, by rw [inbox]; exact List.cons_ne_nil _ _⟩) rfl rfl) ?_
      intro port' b hne hb
      exact hb.frame (fun hmem => (List.mem_erase_of_ne (hid a b hne)).mpr hmem) (fun _ => id)
        (fun _ => Nat.le_refl _) (fun _ => rfl) id
  | @toListener port a res get requesting room =>
      refine h.asking_set rfl ((h.asking port a get).heard_response requesting
        (by simpa [Listener.inboxCapacity] using room) rfl rfl rfl) ?_
      exact fun port' b _ hb => hb.handed.same rfl rfl rfl

theorem Requesting.entries_set {ports : List PortId} {d e : Ports} {port : PortId}
    {a b : Listener.Task} (h : Requesting ports d) (get : d.listeners.get port = some a)
    (hset : e.listeners = d.listeners.set port b)
    (hmap : ∀ id ∈ e.listenerTxMap, id ∈ d.listenerTxMap ∧ id ≠ a.id port ∨
      b.requesting = true ∧ id = b.id port) :
    ∀ id ∈ e.listenerTxMap, ∃ port' a', e.listeners.get port' = some a' ∧
      a'.requesting = true ∧ id = a'.id port' := by
  intro id hid
  rcases hmap id hid with ⟨hmem, hne⟩ | ⟨hreq, heq⟩
  · obtain ⟨port', a', ha', hreq, heq⟩ := h.entries id hmem
    have hport : port' ≠ port := by
      rintro rfl
      obtain rfl := Option.some.inj (get.symm.trans ha')
      exact hne heq
    exact ⟨port', a', by rw [hset, Table.get_set, if_neg hport, ha'], hreq, heq⟩
  · exact ⟨port, b, by rw [hset, Table.get_set_self], hreq, heq⟩

theorem Requesting.entries_step {ports : List PortId} {d e : Ports} (h : Requesting ports d)
    (hmove : d.Listens e) :
    (∀ id ∈ e.listenerTxMap, ∃ port a, e.listeners.get port = some a ∧ a.requesting = true ∧
      id = a.id port) ∧ e.listenerTxMap.Nodup := by
  have hfree {port : PortId} {a : Listener.Task} (get : d.listeners.get port = some a)
      (hnot : a.requesting = false) (id : StreamId) (hid : id ∈ d.listenerTxMap) :
      id ∈ d.listenerTxMap ∧ id ≠ a.id port := by
    refine ⟨hid, ?_⟩
    rintro rfl
    exact h.free get hnot hid
  have hsame {port : PortId} {a b : Listener.Task} (hreq : b.requesting = true)
      (hconn : b.id port = a.id port) (id : StreamId) (hid : id ∈ d.listenerTxMap) :
      id ∈ d.listenerTxMap ∧ id ≠ a.id port ∨ b.requesting = true ∧ id = b.id port := by
    by_cases heq : id = a.id port
    · exact Or.inr ⟨hreq, heq.trans hconn.symm⟩
    · exact Or.inl ⟨hid, heq⟩
  have herase (x : StreamId) (id : StreamId) (hid : id ∈ d.listenerTxMap.erase x) :
      id ∈ d.listenerTxMap ∧ id ≠ x := ((h.entries_nodup.mem_erase_iff).mp hid).symm
  cases hmove with
  | quiet | stream | hand => exact ⟨h.entries, h.entries_nodup⟩
  | @accepted port a get pc free =>
      refine ⟨h.entries_set get rfl fun id hid => ?_, ?_⟩
      · rcases List.mem_append.mp hid with hid | hid
        · exact Or.inl (hfree get (by rw [Listener.Task.requesting, pc]) id hid)
        · exact Or.inr ⟨rfl, List.mem_singleton.mp hid⟩
      · exact List.nodup_append.mpr ⟨h.entries_nodup, List.nodup_singleton _,
          fun x hx y hy heq => free (by rw [List.mem_singleton.mp hy] at heq; exact heq ▸ hx)⟩
  | acceptFailed get pc | taskEnd get pc | close get pc =>
      exact ⟨h.entries_set get rfl fun id hid =>
        Or.inl (hfree get (by rw [Listener.Task.requesting, pc]) id hid), h.entries_nodup⟩
  | @request port a get pc =>
      refine ⟨h.entries_set get rfl fun id hid => ?_, h.entries_nodup⟩
      exact hsame (b := { a with pc := .awaitResponse }) rfl rfl id hid
  | refused get pc inbox | connected get pc inbox registrable =>
      exact ⟨h.entries_set get rfl fun id hid => Or.inl (herase _ id hid), h.entries_nodup.erase _⟩
  | toListener get requesting room =>
      exact ⟨h.entries_set get rfl fun id hid => hsame requesting rfl id hid, h.entries_nodup⟩

theorem Requesting.present_set {ports : List PortId} {d e : Ports} {port : PortId}
    {a b : Listener.Task} (h : Requesting ports d) (get : d.listeners.get port = some a)
    (hset : e.listeners = d.listeners.set port b) (port' : PortId) :
    (e.listeners.get port').isSome = true ↔ port' ∈ ports := by
  rw [← h.present port', hset, Table.get_set]
  split
  · rename_i heq
    rw [heq, get]
    exact Iff.rfl
  · exact Iff.rfl

theorem Requesting.log_step {ports : List PortId} {d e : Ports} (h : Requesting ports d)
    (hmove : d.Listens e) :
    (∀ port action, .listener port action ∈ e.log → port ∈ ports) ∧
      (∀ id action, .connecter id action ∉ e.log) ∧
      Each (fun before action => ∀ port, (∃ a, action = .listener port a) →
        .listener port .listenerClosed ∉ before) e.log := by
  have hsnoc {action : StreamAction} (hlogged : ∀ port a, action = .listener port a → port ∈ ports)
      (hnot : ∀ id a, action ≠ .connecter id a)
      (hlast : ∀ port, (∃ a, action = .listener port a) →
        .listener port .listenerClosed ∉ d.log) :
      (∀ port a, .listener port a ∈ d.log ++ [action] → port ∈ ports) ∧
        (∀ id a, .connecter id a ∉ d.log ++ [action]) ∧
        Each (fun before action => ∀ port, (∃ a, action = .listener port a) →
          .listener port .listenerClosed ∉ before) (d.log ++ [action]) := by
    refine ⟨fun port a hmem => ?_, fun id a hmem => ?_, each_snoc.mpr ⟨h.closed_last, hlast⟩⟩
    · rcases List.mem_append.mp hmem with hmem | hmem
      · exact h.logged port a hmem
      · exact hlogged port a (List.mem_singleton.mp hmem).symm
    · rcases List.mem_append.mp hmem with hmem | hmem
      · exact h.not_connecter id a hmem
      · exact hnot id a (List.mem_singleton.mp hmem).symm
  have hown {port : PortId} {a : Listener.Task} {action : ListenerAction}
      (get : d.listeners.get port = some a) (hpc : a.pc ≠ .done) :
      (∀ port' a', .listener port' a' ∈ d.log ++ [.listener port action] → port' ∈ ports) ∧
        (∀ id a', .connecter id a' ∉ d.log ++ [.listener port action]) ∧
        Each (fun before action => ∀ port, (∃ a, action = .listener port a) →
          .listener port .listenerClosed ∉ before) (d.log ++ [.listener port action]) := by
    refine hsnoc (fun port' a' heq => ?_) (fun _ _ heq => by cases heq) ?_
    · obtain ⟨rfl, -⟩ := StreamAction.listener.inj heq
      exact (h.present port).mp (by rw [get]; rfl)
    · rintro port' ⟨a', heq⟩
      obtain ⟨rfl, -⟩ := StreamAction.listener.inj heq
      exact (h.asking port a get).not_closed hpc
  cases hmove with
  | @stream action known =>
      refine hsnoc ?_ ?_ ?_
      · rintro port a rfl
        cases known
      · rintro id a rfl
        cases known
      · rintro port ⟨a, rfl⟩
        cases known
  | request get pc => exact hown get (by rw [pc]; exact fun hpc => by cases hpc)
  | close get pc => exact hown get (by rw [pc]; exact fun hpc => by cases hpc)
  | _ => exact ⟨h.logged, h.not_connecter, h.closed_last⟩

theorem Past.set {d e : Ports} {port port' : PortId} {a b : Listener.Task} {n : Nat}
    (h : Past d port' n) (get : d.listeners.get port = some a)
    (hset : e.listeners = d.listeners.set port b) (hnot : a.pc ≠ .panicked)
    (hle : a.conn ≤ b.conn) : Past e port' n := by
  obtain ⟨c, hc, hpast⟩ := h
  by_cases heq : port' = port
  · obtain rfl := heq
    obtain rfl := Option.some.inj (get.symm.trans hc)
    refine ⟨b, by rw [hset, Table.get_set_self], Or.inl ?_⟩
    rcases hpast with hlt | ⟨-, hpc⟩
    · omega
    · exact absurd hpc hnot
  · exact ⟨c, by rw [hset, Table.get_set, if_neg heq, hc], hpast⟩

theorem conn_le_next (a : Listener.Task) : a.conn ≤ a.next.conn := by
  unfold Listener.Task.next
  split
  · exact Nat.le_succ _
  · exact Nat.le_refl _

theorem past_next {d e : Ports} {port : PortId} {a : Listener.Task}
    (hset : e.listeners = d.listeners.set port a.next) : Past e port a.conn := by
  refine ⟨a.next, by rw [hset, Table.get_set_self], ?_⟩
  unfold Listener.Task.next
  split
  · exact Or.inl (Nat.lt_succ_self _)
  · exact Or.inr ⟨rfl, rfl⟩

theorem Listens.grown {d e : Ports} (hmove : d.Listens e) :
    d.sourceTxMap <+: e.sourceTxMap ∧ d.sinkTxMap <+: e.sinkTxMap ∧
      d.delivered <+: e.delivered := by
  cases hmove with
  | connected =>
      exact ⟨List.prefix_append _ _, List.prefix_append _ _, List.prefix_rfl⟩
  | hand | toListener => exact ⟨List.prefix_rfl, List.prefix_rfl, List.prefix_append _ _⟩
  | _ => exact ⟨List.prefix_rfl, List.prefix_rfl, List.prefix_rfl⟩

theorem Past.step {d e : Ports} {port' : PortId} {n : Nat} (h : Past d port' n)
    (hmove : d.Listens e) : Past e port' n := by
  cases hmove with
  | quiet | stream | hand => exact h
  | accepted get pc | taskEnd get pc | request get pc | close get pc =>
      exact h.set get rfl (by rw [pc]; exact fun hpc => by cases hpc) (Nat.le_refl _)
  | @acceptFailed port a get pc | @refused port a error rx get pc inbox
  | @connected port a rx get pc inbox =>
      exact h.set get rfl (by rw [pc]; exact fun hpc => by cases hpc) (conn_le_next a)
  | @toListener port a res get requesting room =>
      refine h.set get rfl ?_ (Nat.le_refl _)
      intro hpc
      simp [Listener.Task.requesting, hpc] at requesting

theorem Requesting.not_mem_of_past {ports : List PortId} {d : Ports} (h : Requesting ports d)
    {port : PortId} {conn : ConnId} (hpast : Past d port conn.id) :
    .forward port conn ∉ d.listenerTxMap := by
  intro hmem
  obtain ⟨port', a, ha, hreq, hid⟩ := h.entries _ hmem
  obtain ⟨rfl, rfl⟩ := StreamId.forward.inj hid
  obtain ⟨b, hb, hpast⟩ := hpast
  obtain rfl := Option.some.inj (ha.symm.trans hb)
  rcases hpast with hlt | ⟨-, hpc⟩
  · exact Nat.lt_irrefl _ hlt
  · simp [Listener.Task.requesting, hpc] at hreq

theorem Listens.mem_or_past {d e : Ports} (hmove : d.Listens e) {port' : PortId} {conn : ConnId}
    (hmem : .forward port' conn ∈ d.listenerTxMap) :
    .forward port' conn ∈ e.listenerTxMap ∨ Past e port' conn.id := by
  cases hmove with
  | accepted => exact Or.inl (List.mem_append_left _ hmem)
  | @refused port a error rx get pc inbox | @connected port a rx get pc inbox =>
      by_cases hid : StreamId.forward port' conn = a.id port
      · obtain ⟨rfl, rfl⟩ := StreamId.forward.inj hid
        exact Or.inr (past_next rfl)
      · exact Or.inl ((List.mem_erase_of_ne hid).mpr hmem)
  | _ => exact Or.inl hmem

theorem Requesting.used_step {ports : List PortId} {d e : Ports} (h : Requesting ports d)
    (hmove : d.Listens e) (port' : PortId) (conn : ConnId)
    (huses : e.uses (.forward port' conn)) :
    accepted (.forward port' conn) ∈ e.delivered ∧ Past e port' conn.id := by
  have hkept (huses : d.uses (.forward port' conn)) :
      accepted (.forward port' conn) ∈ e.delivered ∧ Past e port' conn.id := by
    obtain ⟨hacc, hpast⟩ := h.used port' conn huses
    exact ⟨hmove.grown.2.2.subset hacc, Past.step hpast hmove⟩
  cases hmove with
  | @connected port a rx get pc inbox =>
      by_cases hid : StreamId.forward port' conn = a.id port
      · obtain ⟨rfl, rfl⟩ := StreamId.forward.inj hid
        refine ⟨(h.asking port' a get).inbox .ok (by rw [inbox]; exact List.mem_cons_self ..),
          past_next rfl⟩
      · exact hkept (by simpa [uses, setListener, registerSink, registerSource, removeListenerTx,
          hid] using huses)
  | _ => exact hkept huses

theorem Held.set {d e : Ports} {port port' : PortId} {conn : ConnId} {a b : Listener.Task}
    (h : Held d port' conn) (get : d.listeners.get port = some a)
    (hset : e.listeners = d.listeners.set port b)
    (hheld : .ok ∈ a.rx → b.conn = a.conn ∧ .ok ∈ b.rx) : Held e port' conn := by
  obtain ⟨c, hc, hconn, hok⟩ := h
  by_cases heq : port' = port
  · obtain rfl := heq
    obtain rfl := Option.some.inj (get.symm.trans hc)
    obtain ⟨hconn', hok'⟩ := hheld hok
    exact ⟨b, by rw [hset, Table.get_set_self], hconn'.trans hconn, hok'⟩
  · exact ⟨c, by rw [hset, Table.get_set, if_neg heq, hc], hconn, hok⟩

theorem Requesting.not_uses_of_held {ports : List PortId} {d : Ports} (h : Requesting ports d)
    {port : PortId} {conn : ConnId} (hheld : Held d port conn) : ¬ d.uses (.forward port conn) := by
  intro huses
  obtain ⟨a, ha, hconn, hok⟩ := hheld
  obtain ⟨-, b, hb, hpast⟩ := h.used port conn huses
  obtain rfl := Option.some.inj (ha.symm.trans hb)
  have hreq := (h.asking port a ha).heard (List.ne_nil_of_mem hok)
  rcases hpast with hlt | ⟨-, hpc⟩
  · exact absurd hconn (Nat.ne_of_gt hlt)
  · rw [Listener.Task.requesting, hpc] at hreq
    cases hreq

theorem RequestingOpen.registered_step {ports : List PortId} {sourceIds sinkIds : List StreamId}
    {d e : Ports} (hopen : RequestingOpen sourceIds sinkIds d) (h : Requesting ports d)
    (hmove : d.Listens e) (port' : PortId) (conn : ConnId)
    (hacc : accepted (.forward port' conn) ∈ e.delivered) :
    (.forward port' conn ∈ e.sinkTxMap ∧ .forward port' conn ∈ e.sourceTxMap) ∨
      Held e port' conn := by
  have hset {port : PortId} {a b : Listener.Task} (get : d.listeners.get port = some a)
      (hset : e.listeners = d.listeners.set port b)
      (hheld : .ok ∈ a.rx → b.conn = a.conn ∧ .ok ∈ b.rx)
      (hsinks : e.sinkTxMap = d.sinkTxMap) (hsources : e.sourceTxMap = d.sourceTxMap)
      (hacc : accepted (.forward port' conn) ∈ d.delivered) :
      (.forward port' conn ∈ e.sinkTxMap ∧ .forward port' conn ∈ e.sourceTxMap) ∨
        Held e port' conn := by
    rw [hsinks, hsources]
    exact (hopen.registered port' conn hacc).imp_right fun hheld' => Held.set hheld' get hset hheld
  have hempty {port : PortId} {a : Listener.Task} (get : d.listeners.get port = some a)
      (hnot : a.requesting = false) {P : Prop} (hok : .ok ∈ a.rx) : P := by
    have hreq := (h.asking port a get).heard (List.ne_nil_of_mem hok)
    rw [hnot] at hreq
    cases hreq
  cases hmove with
  | quiet | stream => exact hopen.registered port' conn hacc
  | @hand action stream =>
      refine hopen.registered port' conn ((List.mem_append.mp hacc).resolve_right fun hmem => ?_)
      rw [← List.mem_singleton.mp hmem] at stream
      cases stream
  | accepted get pc | taskEnd get pc | close get pc | acceptFailed get pc =>
      exact hset get rfl (hempty get (by rw [Listener.Task.requesting, pc])) rfl rfl hacc
  | request get pc => exact hset get rfl (fun hok => ⟨rfl, hok⟩) rfl rfl hacc
  | @refused port a error rx get pc inbox =>
      refine hset get rfl (fun hok => ?_) rfl rfl hacc
      have hroom := (h.asking port a get).room
      rw [inbox, List.length_cons] at hroom
      have hnil : rx = [] := List.length_eq_zero_iff.mp (by omega)
      rw [inbox, hnil] at hok
      cases List.mem_singleton.mp hok
  | @connected port a rx get pc inbox =>
      by_cases hid : StreamId.forward port' conn = a.id port
      · exact Or.inl ⟨List.mem_append_right _ (List.mem_singleton.mpr hid),
          List.mem_append_right _ (List.mem_singleton.mpr hid)⟩
      · rcases hopen.registered port' conn hacc with ⟨hsink, hsource⟩ | ⟨c, hc, hconn, hok⟩
        · exact Or.inl ⟨List.mem_append_left _ hsink, List.mem_append_left _ hsource⟩
        · refine Or.inr ⟨c, ?_, hconn, hok⟩
          show (d.listeners.set port a.next).get port' = some c
          rw [Table.get_set, if_neg, hc]
          rintro rfl
          obtain rfl := Option.some.inj (get.symm.trans hc)
          exact hid (by rw [Listener.Task.id, hconn])
  | @toListener port a res get requesting room =>
      rcases List.mem_append.mp hacc with hacc | hacc
      · exact hset get rfl (fun hok => ⟨rfl, List.mem_append_left _ hok⟩) rfl rfl hacc
      · have heq := List.mem_singleton.mp hacc
        simp only [accepted, StreamAction.connecter.injEq, ConnecterAction.connectResponse.injEq]
          at heq
        obtain ⟨hid, rfl⟩ := heq
        obtain ⟨rfl, rfl⟩ := StreamId.forward.inj hid
        exact Or.inr ⟨_, Table.get_set_self .., rfl,
          List.mem_append_right _ (List.mem_singleton_self _)⟩

theorem Requesting.step {ports : List PortId} {d e : Ports} (h : Requesting ports d)
    (hmove : d.Move e) : Requesting ports e := by
  have hlistens := h.listens hmove
  have hentries := h.entries_step hlistens
  have hlog := h.log_step hlistens
  have hstatic : (∀ port, e.connecters.get port = none) ∧ e.connects = [] ∧
      ∀ port, (e.listeners.get port).isSome = true ↔ port ∈ ports := by
    cases hlistens with
    | quiet | stream | hand => exact ⟨h.connecters, h.connects, h.present⟩
    | accepted get | acceptFailed get | taskEnd get | request get | close get | refused get
      | connected get | toListener get =>
        exact ⟨h.connecters, h.connects, fun port => h.present_set get rfl port⟩
  exact ⟨hstatic.1, hstatic.2.1, hstatic.2.2, h.asking_step hlistens, hentries.1, hentries.2,
    hlog.1, hlog.2.1, hlog.2.2, h.used_step hlistens⟩

/-- The task of a port has the listener at its position. -/
def Hosting (listeners : List TcpListener) (d : Ports) : Prop :=
  ∀ port a, d.listeners.get port = some a → listeners[port.id]? = some a.listener

theorem Hosting.set {listeners : List TcpListener} {d e : Ports} {port : PortId}
    {a b : Listener.Task} (h : Hosting listeners d) (get : d.listeners.get port = some a)
    (hset : e.listeners = d.listeners.set port b) (hsame : b.listener = a.listener) :
    Hosting listeners e := by
  intro port' b' hget
  rw [hset, Table.get_set] at hget
  split at hget
  · rename_i heq
    rw [← Option.some.inj hget, hsame, heq]
    exact h port a get
  · exact h port' b' hget

theorem listener_next (a : Listener.Task) : a.next.listener = a.listener := by
  unfold Listener.Task.next
  split <;> rfl

theorem Hosting.step {listeners : List TcpListener} {d e : Ports} (h : Hosting listeners d)
    (hmove : d.Listens e) : Hosting listeners e := by
  cases hmove with
  | quiet | stream | hand => exact h
  | accepted get | taskEnd get | request get | close get | toListener get =>
      exact h.set get rfl rfl
  | @acceptFailed port a get | @refused port a error rx get | @connected port a rx get =>
      exact h.set get rfl (listener_next a)

theorem Hosting.drained {listeners : List TcpListener} {d : Ports} (h : Hosting listeners d) :
    Hosting listeners d.drained := h

theorem uses_of_drained {d : Ports} {id : StreamId} (h : d.drained.uses id) : d.uses id := by
  rcases h with hmem | hmem | htask
  · cases hmem
  · cases hmem
  · exact Or.inr (Or.inr htask)

theorem Requesting.drained {ports : List PortId} {d : Ports} (h : Requesting ports d) :
    Requesting ports d.drained :=
  ⟨h.connecters, h.connects, h.present, fun port a get => (h.asking port a get).same rfl rfl rfl,
    h.entries, h.entries_nodup, h.logged, h.not_connecter, h.closed_last,
    fun port conn huses => h.used port conn (uses_of_drained huses)⟩

theorem Enrolled.drained {sourceIds sinkIds : List StreamId} {d : Ports}
    (h : Enrolled sourceIds sinkIds d) : Enrolled sourceIds sinkIds d.drained :=
  h.frame rfl rfl rfl

theorem RequestingOpen.step {ports : List PortId} {sourceIds sinkIds : List StreamId}
    {d e : Ports} (hopen : RequestingOpen sourceIds sinkIds d) (h : Requesting ports d)
    (hmove : d.Listens e) : RequestingOpen sourceIds sinkIds e := by
  obtain ⟨hsources, hsinks, -⟩ := hmove.grown
  refine ⟨?_, List.Subset.trans hopen.sources hsources.subset,
    List.Subset.trans hopen.sinks hsinks.subset, hopen.registered_step h hmove⟩
  cases hmove <;> exact hopen.connecterTxMap

end Ports

end Rlirsh.Stream
