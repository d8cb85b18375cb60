import Rlirsh.Execute.Specifiers
import Rlirsh.Session.Handshake
import Rlirsh.Session.Streams

namespace Rlirsh.Session

open Rlirsh.Protocol
open Rlirsh.Net
open Rlirsh.Terminal (PtyMaster)
open Rlirsh.Lib
open Rlirsh.Lib.Machine
open Rlirsh.Stream
open Rlirsh.Stream.Ports (Past attempts attempted)
open Rlirsh.Execute

universe u

variable {World : Type u}

/-- The session of a client with `listeners` and a server that is to connect to
`connectAddrs`; either side numbers its own list. -/
def serving (pty : Option PtyMaster) (listeners : List TcpListener)
    (connectAddrs : List (SocketAddrs SocketAddr)) : State :=
  { client := Client.new pty.isSome listeners, server := Server.new pty connectAddrs, up := []
    down := [] }

theorem near_unique {id id' : StreamId} {effect : Effect} {pe : Pair.Event}
    (h : Channel.near id effect = some pe) :
    (id' ≠ id → Channel.near id' effect = none) ∧ Channel.far id' effect = none := by
  cases effect with
  | source id'' e => grind [Channel.near, Channel.far]
  | shutdownSource id'' => grind [Channel.near, Channel.far]
  | deliver action => cases action <;> grind [Channel.near, Channel.far]
  | _ => cases h

theorem far_unique {id id' : StreamId} {effect : Effect} {pe : Pair.Event}
    (h : Channel.far id effect = some pe) :
    (id' ≠ id → Channel.far id' effect = none) ∧ Channel.near id' effect = none := by
  cases effect with
  | sink id'' e => grind [Channel.near, Channel.far]
  | inject id'' => grind [Channel.near, Channel.far]
  | shutdownSink id'' => grind [Channel.near, Channel.far]
  | deliver action => cases action <;> grind [Channel.near, Channel.far]
  | _ => cases h

/-- A step of one direction of a stream is no step of the other direction, nor one of
another stream. -/
structure Separate (s : State) (e : Event) (t : State) : Prop where
  outward : ∀ id, s.outwardEvent id e = none → t.outward id = s.outward id
  inward : ∀ id, s.inwardEvent id e = none → t.inward id = s.inward id
  outward_step : ∀ id pe, s.outwardEvent id e = some pe →
    t.outward id = s.outward id ∨ Pair.step (s.outward id) pe = some (t.outward id)
  inward_step : ∀ id pe, s.inwardEvent id e = some pe →
    t.inward id = s.inward id ∨ Pair.step (s.inward id) pe = some (t.inward id)
  outward_alone : ∀ id pe, s.outwardEvent id e = some pe →
    ∀ id', (id' ≠ id → s.outwardEvent id' e = none) ∧ s.inwardEvent id' e = none
  inward_alone : ∀ id pe, s.inwardEvent id e = some pe →
    ∀ id', (id' ≠ id → s.inwardEvent id' e = none) ∧ s.outwardEvent id' e = none

theorem separate_of_step {capacity : Nat} {s t : State} {e : Event} (h : Transit s)
    (hkept : Unreplaced s) (hstep : step capacity s e = some t) : Separate s e t where
  outward id hnone := by
    rcases outward_step h hkept hstep id with heq | ⟨pe, hsome, -⟩
    · exact heq
    · rw [hnone] at hsome
      cases hsome
  inward id hnone := by
    rcases inward_step h hkept hstep id with heq | ⟨pe, hsome, -⟩
    · exact heq
    · rw [hnone] at hsome
      cases hsome
  outward_step id pe hpe := by
    apply (Session.outward_step h hkept hstep id).imp_right
    rintro ⟨pe', hpe', hpstep⟩
    rw [hpe] at hpe'
    obtain rfl := Option.some.inj hpe'
    exact hpstep
  inward_step id pe hpe := by
    apply (Session.inward_step h hkept hstep id).imp_right
    rintro ⟨pe', hpe', hpstep⟩
    rw [hpe] at hpe'
    obtain rfl := Option.some.inj hpe'
    exact hpstep
  outward_alone id pe hpe id' := by
    cases e with
    | client e => exact far_unique hpe
    | server e => exact near_unique hpe
  inward_alone id pe hpe id' := by
    cases e with
    | client e => exact near_unique hpe
    | server e => exact far_unique hpe

/-- The ports are what the two machines make of the specifiers, in their order: the client
listens on the local addresses, and the server resolves the remote one. -/
def Made (listen : SocketAddr → World → Except Report TcpListener × World)
    (lookup : String → Except Report (List SocketAddr))
    (specifiers : List (SocketAddrs SocketAddr × String)) (ports : List Port) : Prop :=
  List.Forall₂ (fun specifier port => Bound listen specifier.1 port.listener ∧
    SocketAddrs.new lookup specifier.2 = .ok port.connectAddrs) specifiers ports

/-- The addresses are what the remote one of the specifier of the port resolves to. -/
def Remote (lookup : String → Except Report (List SocketAddr))
    (specifiers : List (SocketAddrs SocketAddr × String)) (port : PortId)
    (addrs : SocketAddrs SocketAddr) : Prop :=
  ∃ specifier, (port, specifier) ∈ numbered specifiers ∧
    SocketAddrs.new lookup specifier.2 = .ok addrs ∧ lookup specifier.2 = .ok addrs.addrs

/-- The listener has been made for the local address of the specifier of the port. -/
def Local (listen : SocketAddr → World → Except Report TcpListener × World)
    (specifiers : List (SocketAddrs SocketAddr × String)) (port : PortId)
    (listener : TcpListener) : Prop :=
  ∃ specifier, (port, specifier) ∈ numbered specifiers ∧ Bound listen specifier.1 listener

/-- The task has connected to an address of the port. -/
def Opened (lookup : String → Except Report (List SocketAddr))
    (specifiers : List (SocketAddrs SocketAddr × String)) (port : PortId)
    (c : Connecter.Connect) : Prop :=
  Remote lookup specifiers port c.addr ∧ ∃ peer ∈ c.addr.addrs, c.peer = some peer

/-- The tasks of a forwarded connection come to be in the turn of their listener, and when
the connect for its number has succeeded. -/
structure Registers (listen : SocketAddr → World → Except Report TcpListener × World)
    (lookup : String → Except Report (List SocketAddr))
    (specifiers : List (SocketAddrs SocketAddr × String)) (s t : State) : Prop where
  client : ∀ port conn, ¬ s.client.side.ports.uses (.forward port conn) →
    t.client.side.ports.uses (.forward port conn) →
    ∃ a rx, s.client.side.listeners.get port = some a ∧ a.pc = .awaitResponse ∧
      a.conn = conn.id ∧ a.rx = .ok :: rx ∧ Local listen specifiers port a.listener
  server : ∀ port conn, ¬ s.server.side.ports.uses (.forward port conn) →
    t.server.side.ports.uses (.forward port conn) →
    ∃ c ∈ s.server.side.connects, c.id = .forward port conn ∧ c.pc = .sendResponse .ok ∧
      Opened lookup specifiers port c

/-- The streams of a session, and who their two parties are. -/
structure Multiplexed (listen : SocketAddr → World → Except Report TcpListener × World)
    (lookup : String → Except Report (List SocketAddr)) (pty : Option PtyMaster)
    (specifiers : List (SocketAddrs SocketAddr × String)) (s : State) : Prop where
  -- each direction of a stream runs as if it were alone
  outward : ∀ id, Reach Pair.step Any (Pair.new (Client.writer id)) (s.outward id)
  inward : ∀ id, Reach Pair.step Any (Pair.new (Server.writer pty id)) (s.inward id)
  -- what is written to one end was read from the other one
  downloaded : ∀ id,
    (s.client.side.view.sink id).written <+: (s.server.side.view.source id).read
  uploaded : ∀ id,
    (s.server.side.view.sink id).written <+: (s.client.side.view.source id).read
  -- the ports are those of the specifiers, on either side
  listening : ∀ port, (s.client.side.listeners.get port).isSome = true ↔
    ∃ specifier, (port, specifier) ∈ numbered specifiers
  bound : ∀ port a, s.client.side.listeners.get port = some a →
    Local listen specifiers port a.listener
  connecting : ∀ port, (s.server.side.connecters.get port).isSome = true ↔
    ∃ specifier, (port, specifier) ∈ numbered specifiers
  addressed : ∀ port a, s.server.side.connecters.get port = some a →
    Remote lookup specifiers port a.addr
  -- a request is made in its turn, and tried once, at the addresses of its specifier
  asked : ∀ port conn, requests port conn s.client.side.view.log ≤ 1
  tried : ∀ c ∈ s.server.side.connects, ∃ port conn, c.id = .forward port conn ∧
    Remote lookup specifiers port c.addr ∧ (∀ peer, c.peer = some peer → peer ∈ c.addr.addrs) ∧
      attempts port conn s.server.side.connects = 1 ∧
      requests port conn s.client.side.view.log = 1
  -- the tasks of the server belong to the connection that was made for the request
  connected : ∀ port conn, s.server.side.ports.uses (.forward port conn) →
    ∃ c ∈ s.server.side.connects, c.id = .forward port conn ∧ c.pc = .done ∧
      Opened lookup specifiers port c
  -- those of the client to the connection accepted in the same turn
  accepted : ∀ port conn, s.client.side.ports.uses (.forward port conn) →
    (∃ a, s.client.side.listeners.get port = some a ∧ conn.id ≤ a.conn ∧
      Local listen specifiers port a.listener) ∧
    ∃ c ∈ s.server.side.connects, c.id = .forward port conn ∧ c.pc = .done ∧
      Opened lookup specifiers port c

theorem Forwarding.attempts_eq_one {ports : List Port} {s : State} (h : Forwarding ports s)
    {port : PortId} {conn : ConnId} {c : Connecter.Connect} (hc : c ∈ s.server.side.connects)
    (hid : c.id = .forward port conn) : attempts port conn s.server.side.connects = 1 ∧
      requests port conn s.client.side.view.log = 1 := by
  have hpos : 0 < attempts port conn s.server.side.connects :=
    List.countP_pos_iff.mpr ⟨c, hc, by simp [hid]⟩
  have hone := h.attempts_le_one port conn
  have hle : attempts port conn s.server.side.connects ≤
      requests port conn s.server.side.delivered := Ports.attempts_le h.server port conn
  have hup := requests_mono h.transit.fifo.1 port conn
  have hask := h.requests_le_one port conn
  have hup' : requests port conn s.server.side.delivered ≤
      requests port conn s.client.side.view.log := hup
  exact ⟨by omega, by omega⟩

section

variable {listen : SocketAddr → World → Except Report TcpListener × World}
  {lookup : String → Except Report (List SocketAddr)}
  {specifiers : List (SocketAddrs SocketAddr × String)} {ports : List Port} {s t : State}

theorem made_of_prepared {listeners : List TcpListener}
    {connectAddrs : List (SocketAddrs SocketAddr)}
    (hbound : List.Forall₂ (fun specifier listener => Bound listen specifier.1 listener)
      specifiers listeners)
    (hresolved : List.Forall₂ (fun addr a => SocketAddrs.new lookup addr = .ok a)
      (specifiers.map Prod.snd) connectAddrs) :
    ∃ ports, Made listen lookup specifiers ports ∧ ports.map Port.listener = listeners ∧
      ports.map Port.connectAddrs = connectAddrs := by
  induction hbound generalizing connectAddrs with
  | nil =>
      cases hresolved
      exact ⟨[], .nil, rfl, rfl⟩
  | @cons specifier listener _ _ hlistener _ ih =>
      cases hresolved with
      | @cons _ addrs _ _ haddrs hrest =>
          obtain ⟨ports, hmade, rfl, rfl⟩ := ih hrest
          exact ⟨⟨listener, addrs⟩ :: ports, .cons ⟨hlistener, haddrs⟩ hmade, rfl, rfl⟩

theorem Made.get (h : Made listen lookup specifiers ports) {i : Nat} {port : Port}
    (hport : ports[i]? = some port) : ∃ specifier, specifiers[i]? = some specifier ∧
      Bound listen specifier.1 port.listener ∧
      SocketAddrs.new lookup specifier.2 = .ok port.connectAddrs := by
  obtain ⟨hlt, rfl⟩ := List.getElem?_eq_some_iff.mp hport
  have hlt' : i < specifiers.length := h.length_eq ▸ hlt
  exact ⟨specifiers[i], List.getElem?_eq_getElem hlt', List.Forall₂.get h hlt' hlt⟩

theorem Made.mem_portsOf (h : Made listen lookup specifiers ports) {port : PortId} :
    port ∈ portsOf ports ↔ ∃ specifier, (port, specifier) ∈ numbered specifiers := by
  rw [Session.mem_portsOf, ← h.length_eq]
  constructor
  · intro hlt
    exact ⟨specifiers[port.id], mem_numbered.mpr (List.getElem?_eq_getElem hlt)⟩
  · rintro ⟨specifier, hmem⟩
    exact (List.getElem?_eq_some_iff.mp (mem_numbered.mp hmem)).1

theorem Made.remote (h : Made listen lookup specifiers ports) {port : PortId}
    (hport : port ∈ portsOf ports) : Remote lookup specifiers port (addrOf ports port) := by
  have hget := List.getElem?_eq_getElem (Session.mem_portsOf.mp hport)
  obtain ⟨specifier, hspecifier, -, haddr⟩ := h.get hget
  have hresolved : SocketAddrs.new lookup specifier.2 = .ok (addrOf ports port) := by
    rw [haddr, addrOf, List.getElem?_map, hget]
    rfl
  exact ⟨specifier, mem_numbered.mpr hspecifier, hresolved,
    (SocketAddrs.new_ok hresolved).2.2⟩

theorem Made.isLocal (h : Made listen lookup specifiers ports) {port : PortId}
    {listener : TcpListener} (hlistener : (ports.map Port.listener)[port.id]? = some listener) :
    Local listen specifiers port listener := by
  rw [List.getElem?_map] at hlistener
  obtain ⟨p, hp, rfl⟩ := Option.map_eq_some_iff.mp hlistener
  obtain ⟨specifier, hspecifier, hbound, -⟩ := h.get hp
  exact ⟨specifier, mem_numbered.mpr hspecifier, hbound⟩

theorem Forwarding.remote (h : Forwarding ports s) (hmade : Made listen lookup specifiers ports)
    {c : Connecter.Connect} (hc : c ∈ s.server.side.connects) {port : PortId} {conn : ConnId}
    (hid : c.id = .forward port conn) : Remote lookup specifiers port c.addr := by
  obtain ⟨port', conn', hid', haddr, hport⟩ := h.server.connects c hc
  obtain ⟨rfl, rfl⟩ := StreamId.forward.inj (hid.symm.trans hid')
  rw [haddr]
  exact hmade.remote hport

theorem Forwarding.opened (h : Forwarding ports s) (hmade : Made listen lookup specifiers ports)
    {c : Connecter.Connect} (hc : c ∈ s.server.side.connects) {port : PortId} {conn : ConnId}
    (hid : c.id = .forward port conn) (hpeer : c.peer.isSome = true) :
    Opened lookup specifiers port c := by
  obtain ⟨peer, hpeer⟩ := Option.isSome_iff_exists.mp hpeer
  exact ⟨h.remote hmade hc hid, peer, h.peered.reached c hc peer hpeer, hpeer⟩

theorem Forwarding.opened_of_accepted (h : Forwarding ports s)
    (hmade : Made listen lookup specifiers ports) {port : PortId} {conn : ConnId}
    (hacc : Stream.accepted (.forward port conn) ∈ s.server.side.view.log) :
    ∃ c ∈ s.server.side.connects, c.id = .forward port conn ∧ c.pc = .done ∧
      Opened lookup specifiers port c := by
  obtain ⟨c, hc, hid, hdone, hpeer⟩ := h.peered.announced _ hacc
  exact ⟨c, hc, hid, hdone, h.opened hmade hc hid hpeer⟩

theorem Forwarding.registers {capacity : Nat} {e : Event} (h : Forwarding ports s)
    (hmade : Made listen lookup specifiers ports) (hstep : Session.step capacity s e = some t) :
    Registers listen lookup specifiers s t := by
  constructor
  · intro port conn hnot huses
    cases e with
    | server e =>
        rw [(server_spec hstep).client] at huses
        exact absurd huses hnot
    | client e =>
        rcases h.client_move hstep with hmove | ⟨hdrained, -⟩
        · generalize t.client.side.ports = d at huses hmove
          cases h.client.listens hmove with
          | @connected port' a rx get pc inbox =>
              have hid : StreamId.forward port conn = a.id port' := by
                by_contra hid
                exact hnot (by simpa [Ports.uses, Ports.setListener, Ports.registerSink,
                  Ports.registerSource, Ports.removeListenerTx, hid] using huses)
              obtain ⟨rfl, rfl⟩ := StreamId.forward.inj hid
              exact ⟨a, rx, get, pc, rfl, inbox, hmade.isLocal (h.hosting _ a get)⟩
          | _ => exact absurd huses hnot
        · rw [hdrained] at huses
          exact absurd (Ports.uses_of_drained huses) hnot
  · intro port conn hnot huses
    cases e with
    | client e =>
        rw [(client_spec hstep).server] at huses
        exact absurd huses hnot
    | server e =>
        rcases h.server_move hstep with hmove | ⟨hdrained, -⟩
        · generalize t.server.side.ports = d at huses hmove
          cases h.server.answers h.unique hmove with
          | @accept i a get pc =>
              have hid : StreamId.forward port conn = a.id := by
                by_contra hid
                exact hnot (by simpa [Ports.uses, Ports.setConnect, Ports.registerSink,
                  Ports.registerSource, Ports.logged, hid] using huses)
              have hmem := List.mem_of_getElem? get
              exact ⟨a, hmem, hid.symm, pc,
                h.opened hmade hmem hid.symm (h.peered.connected a hmem pc)⟩
          | _ => exact absurd huses hnot
        · rw [hdrained] at huses
          exact absurd (Ports.uses_of_drained huses) hnot

theorem Forwarding.multiplexed {capacity : Nat} {pty : Option PtyMaster} (h : Forwarding ports s)
    (hmade : Made listen lookup specifiers ports)
    (hreach : Reach (Session.step capacity) Any (new pty ports) s) :
    Multiplexed listen lookup pty specifiers s := by
  have houtward (id : StreamId) :
      Reach Pair.step Any (Pair.new (Client.writer id)) (s.outward id) :=
    outward_reach id hreach (fun _ => trivial) (fun _ => trivial) fun _ _ _ _ _ _ _ _ => trivial
  have hinward (id : StreamId) :
      Reach Pair.step Any (Pair.new (Server.writer pty id)) (s.inward id) :=
    inward_reach id hreach fun _ _ _ _ _ _ _ _ => trivial
  have hbound (port : PortId) (a : Listener.Task)
      (ha : s.client.side.listeners.get port = some a) : Local listen specifiers port a.listener :=
    hmade.isLocal (h.hosting port a ha)
  refine ⟨houtward, hinward, fun id => (Integrity.inv_of_reach (houtward id)).written_initial,
    fun id => (Integrity.inv_of_reach (hinward id)).written_initial,
    fun port => (h.client.present port).trans hmade.mem_portsOf, hbound,
    fun port => (h.server.present port).trans hmade.mem_portsOf, fun port a ha => ?_,
    h.requests_le_one, fun c hc => ?_, fun port conn huses => ?_, fun port conn huses => ?_⟩
  · rw [h.server.addrs port a ha]
    exact hmade.remote ((h.server.present port).mp (Option.isSome_iff_exists.mpr ⟨a, ha⟩))
  · obtain ⟨port, conn, hid, -, -⟩ := h.server.connects c hc
    exact ⟨port, conn, hid, h.remote hmade hc hid, h.peered.reached c hc,
      h.attempts_eq_one hc hid⟩
  · exact h.opened_of_accepted hmade (h.server.used port conn huses)
  · obtain ⟨hdelivered, a, ha, hpast⟩ := h.client.used port conn huses
    exact ⟨⟨a, ha, hpast.elim Nat.le_of_lt fun heq => Nat.le_of_eq heq.1, hbound port a ha⟩,
      h.opened_of_accepted hmade (h.transit.fifo.2.subset hdelivered)⟩

end

/-- The sessions of a command line with forwarded ports are multiplexed faithfully. -/
theorem faithful_multiplexing (listen : SocketAddr → World → Except Report TcpListener × World)
    (lookup : String → Except Report (List SocketAddr))
    (specifiers : List (SocketAddrs SocketAddr × String)) (world world' : World)
    (listeners : List TcpListener) (remotes : List String)
    (connectAddrs : List (SocketAddrs SocketAddr))
    (hclient : Client.prepareLocalForwarding listen specifiers world =
      (.ok (listeners, remotes), world'))
    (hserver : Server.prepareLocalForwarding lookup remotes = .ok connectAddrs)
    (capacity : Nat) (pty : Option PtyMaster) (s : State)
    (h : Reach (step capacity) Any (serving pty listeners connectAddrs) s) :
    Multiplexed listen lookup pty specifiers s ∧
      ∀ e t, step capacity s e = some t →
        Separate s e t ∧ Registers listen lookup specifiers s t := by
  obtain ⟨rfl, hbound⟩ := Client.prepareLocalForwarding_spec hclient
  obtain ⟨ports, hmade, rfl, rfl⟩ :=
    made_of_prepared hbound (Server.prepareLocalForwarding_resolved hserver)
  have hforwarding := forwarding_of_reach h
  exact ⟨hforwarding.multiplexed hmade h, fun e t hstep =>
    ⟨separate_of_step hforwarding.transit (unreplaced_of_reach h) hstep,
      hforwarding.registers hmade hstep⟩⟩

/-- Every address can be listened on; the sockets are numbered. -/
def listenAny (_ : SocketAddr) (fd : Nat) : Except Report TcpListener × Nat := (.ok ⟨fd⟩, fd + 1)

/-- The two hosts of a small network. -/
def lookupHosts : String → Except Report (List SocketAddr)
  | "db:80" => .ok [.v4 0x0a000001 80]
  | "web:81" => .ok [.v4 0x0a000002 81, .v4 0x0a000003 81]
  | _ => .error ["no such host"]

/-- The specifiers of two ports. -/
def twoPorts : List (SocketAddrs SocketAddr × String) :=
  [(⟨"0.0.0.0:80", [.v4 0 80]⟩, "db:80"), (⟨"0.0.0.0:81", [.v4 0 81]⟩, "web:81")]

/-- What the server resolves their hosts to. -/
def twoHosts : List (SocketAddrs SocketAddr) :=
  [⟨"db:80", [.v4 0x0a000001 80]⟩, ⟨"web:81", [.v4 0x0a000002 81, .v4 0x0a000003 81]⟩]

/-- A connection to the second port is made, to the second address of its host, and what the
server there says is written. -/
def secondPort : List Event :=
  [.client (.side (.listener ⟨1⟩ .accepted)), .client (.side (.listener ⟨1⟩ .sent))] ++
  passUp (.stream (.listener ⟨1⟩ (.connect ⟨0⟩))) ++
  [.server (.side (.connecter ⟨1⟩ .recv)),
    .server (.side (.connect 0 (.connected (.ok (.v4 0x0a000003 81))))),
    .server (.side (.connect 0 .sent))] ++
  passDown (.stream (Stream.accepted (.forward ⟨1⟩ ⟨0⟩))) ++
  [.client (.side (.listener ⟨1⟩ .response)),
    .server (.side (.source (.forward ⟨1⟩ ⟨0⟩) (.read (.ok [104, 105])))),
    .server (.side (.source (.forward ⟨1⟩ ⟨0⟩) .sent))] ++
  passDown (.stream (.source (.forward ⟨1⟩ ⟨0⟩) (.data [104, 105]))) ++
  [.client (.side (.sink (.forward ⟨1⟩ ⟨0⟩) .recv)),
    .client (.side (.sink (.forward ⟨1⟩ ⟨0⟩) (.written .ok)))]

theorem faithful_multiplexing_secondPort :
    ∃ s, run (step 1) (serving none [⟨3⟩, ⟨4⟩] twoHosts) secondPort = some s ∧
      Multiplexed listenAny lookupHosts none twoPorts s ∧
      (s.client.side.view.sink (.forward ⟨1⟩ ⟨0⟩)).written = [104, 105] ∧
      s.server.side.connects.map Connecter.Connect.peer = [some (.v4 0x0a000003 81)] := by
  have hsome : (run (step 1) (serving none [⟨3⟩, ⟨4⟩] twoHosts) secondPort).map (fun s =>
        ((s.client.side.view.sink (.forward ⟨1⟩ ⟨0⟩)).written,
          s.server.side.connects.map Connecter.Connect.peer)) =
      some ([104, 105], [some (.v4 0x0a000003 81)]) := by decide +kernel
  obtain ⟨s, hrun, hs⟩ := Option.map_eq_some_iff.mp hsome
  obtain ⟨hwritten, hpeer⟩ := Prod.mk.inj hs
  obtain ⟨hmultiplexed, -⟩ := faithful_multiplexing listenAny lookupHosts twoPorts 3 5
    [⟨3⟩, ⟨4⟩] ["db:80", "web:81"] twoHosts rfl rfl 1 none s (reach_of_run hrun)
  exact ⟨s, hrun, hmultiplexed, hwritten, hpeer⟩

end Rlirsh.Session
