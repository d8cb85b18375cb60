import Rlirsh.Session.Transit
import Rlirsh.Stream.Responses

namespace Rlirsh.Session

open Rlirsh.Protocol
open Rlirsh.Net
open Rlirsh.Terminal (PtyMaster)
open Rlirsh.Lib
open Rlirsh.Lib.History
open Rlirsh.Lib.Machine
open Rlirsh.Stream
open Rlirsh.Stream.Ports (Requesting Responding Enrolled Mapped Hosting Peered RequestingOpen
  RespondingOpen attempts attempted)
open Rlirsh.Execute

/-- The reads and writes of the connection do not fail. -/
def connected : Event → Bool
  | .client (.side (.sender .failed)) | .client (.side (.receiver (.abort _ _ _)))
  | .server (.side (.sender .failed)) | .server (.side (.receiver (.abort _ _ _))) => false
  | _ => true

def Connected (_ : State) (e : Event) : Prop := connected e = true

instance (s : State) (e : Event) : Decidable (Connected s e) :=
  inferInstanceAs (Decidable (_ = true))

/-- The ports of a session, by the position of their specifiers. -/
def portsOf (ports : List Port) : List PortId := (List.range ports.length).map PortId.mk

/-- What the server connects to for the port. -/
def addrOf (ports : List Port) (port : PortId) : SocketAddrs SocketAddr :=
  ((ports.map Port.connectAddrs)[port.id]?).getD ⟨"", []⟩

theorem client_ports {c d : Client.State} {e : Client.Event} (hkept : c.Kept)
    (hstep : Client.Stepped c e d) : c.side.ports.Move d.side.ports ∨
      d.side.ports = c.side.ports.drained ∧ ∃ reported sinks sources,
        e = .side (.receiver (.abort reported sinks sources)) := by
  cases hstep with
  | side step =>
      apply (Side.ports_moved hkept.sender step).imp_right
      rintro ⟨hdrained, habort⟩
      obtain ⟨reported, sinks, sources, rfl⟩ := habort
      exact ⟨hdrained, _, _, _, rfl⟩
  | windowSent =>
      rw [Side.ports_enqueued_none _ rfl]
      exact Or.inl .quiet
  | _ => exact Or.inl .quiet

theorem server_ports {v w : Server.State} {e : Server.Event} (hkept : v.Kept)
    (hstdin : v.side.ports.sinks .stdin = true) (hstep : Server.Stepped v e w) :
    v.side.ports.Move w.side.ports ∨
      w.side.ports = v.side.ports.drained ∧ ∃ reported sinks sources,
        e = .side (.receiver (.abort reported sinks sources)) := by
  cases hstep with
  | side step =>
      apply (Side.ports_moved hkept.sender step).imp_right
      rintro ⟨hdrained, habort⟩
      obtain ⟨reported, sinks, sources, rfl⟩ := habort
      exact ⟨hdrained, _, _, _, rfl⟩
  | sinkClosedSent =>
      rw [Side.ports_enqueued v.side (m := .stream (.sink .stdin .sinkClosed)) rfl]
      exact Or.inl (.stream hstdin)
  | exitSent =>
      rw [Side.ports_enqueued_none _ rfl]
      exact Or.inl .quiet
  | _ => exact Or.inl .quiet

/-- The forwarded ports of a session. -/
structure Forwarding (ports : List Port) (s : State) : Prop where
  transit : Transit s
  client : Requesting (portsOf ports) s.client.side.ports
  hosting : Hosting (ports.map Port.listener) s.client.side.ports
  server : Responding (portsOf ports) (addrOf ports) s.server.side.ports
  peered : Peered s.server.side.ports
  clientStreams : Enrolled [.stdin] [.stdout, .stderr] s.client.side.ports
  serverStreams : Enrolled [.stdout, .stderr] [.stdin] s.server.side.ports

/-- The sources of the server that its router knows: with a pty there is none of the
standard error. -/
def sourceIds (pty : Option PtyMaster) : List StreamId :=
  if pty.isSome then [.stdout] else [.stdout, .stderr]

/-- The routers of a session whose connection does not fail. -/
structure Routed (pty : Option PtyMaster) (ports : List Port) (s : State) : Prop where
  client : RequestingOpen [.stdin] [.stdout, .stderr] s.client.side.ports
  server : RespondingOpen (portsOf ports) (sourceIds pty) [.stdin] s.server.side.ports
  clientMapped : Mapped s.client.side.ports
  serverMapped : Mapped s.server.side.ports

variable {ports : List Port} {s t : State}

theorem mem_portsOf {ports : List Port} {port : PortId} :
    port ∈ portsOf ports ↔ port.id < ports.length := by
  rw [portsOf, List.mem_map]
  constructor
  · rintro ⟨i, hi, rfl⟩
    exact List.mem_range.mp hi
  · intro hlt
    exact ⟨port.id, List.mem_range.mpr hlt, rfl⟩

theorem listener_new (pty : Option PtyMaster) {ports : List Port} {port : PortId}
    {a : Listener.Task} (h : (new pty ports).client.side.listeners.get port = some a) :
    ∃ listener, (ports.map Port.listener)[port.id]? = some listener ∧ a = .new listener :=
  get_perPort.mp h

theorem connecter_new (pty : Option PtyMaster) {ports : List Port} {port : PortId}
    {a : Connecter.Task} (h : (new pty ports).server.side.connecters.get port = some a) :
    a = .new (addrOf ports port) := by
  obtain ⟨addr, haddr, rfl⟩ := get_perPort.mp h
  rw [addrOf, haddr]
  rfl

theorem isSome_perPort {α β : Type} (f : α → β) (xs : List α) (port : PortId) :
    ((perPort f xs).get port).isSome = true ↔ port.id < xs.length := by
  rw [Option.isSome_iff_exists]
  constructor
  · rintro ⟨b, hb⟩
    obtain ⟨x, hx, -⟩ := get_perPort.mp hb
    exact (List.getElem?_eq_some_iff.mp hx).1
  · intro hlt
    exact ⟨f xs[port.id], get_perPort.mpr ⟨_, List.getElem?_eq_getElem hlt, rfl⟩⟩

theorem requesting_new (pty : Option PtyMaster) (ports : List Port) :
    Requesting (portsOf ports) (new pty ports).client.side.ports where
  connecters port := rfl
  connects := rfl
  present port := by
    rw [mem_portsOf]
    show ((perPort Listener.Task.new (ports.map Port.listener)).get port).isSome = true ↔ _
    rw [isSome_perPort, List.length_map]
  asking port a ha := by
    obtain ⟨listener, -, rfl⟩ := listener_new pty ha
    exact ⟨fun h => (by cases h), Nat.zero_le _, fun h => absurd rfl h, fun _ h => (by cases h),
      fun _ => Nat.zero_le _, fun conn => (by split <;> exact Nat.zero_le _),
      fun _ h => (by cases h)⟩
  entries := by simp [Side.ports, new, Client.new]
  entries_nodup := by simp [Side.ports, new, Client.new]
  logged := by simp [Side.ports, Side.view, new, Client.new]
  not_connecter := by simp [Side.ports, Side.view, new, Client.new]
  closed_last := each_nil
  used := by simp [Ports.uses, Side.ports, new, Client.new, Table.get_ofList]

theorem hosting_new (pty : Option PtyMaster) (ports : List Port) :
    Hosting (ports.map Port.listener) (new pty ports).client.side.ports := by
  intro port a ha
  obtain ⟨listener, hlistener, rfl⟩ := listener_new pty ha
  exact hlistener

theorem responding_new (pty : Option PtyMaster) (ports : List Port) :
    Responding (portsOf ports) (addrOf ports) (new pty ports).server.side.ports where
  listeners port := rfl
  listenerTxMap := rfl
  present port := by
    rw [mem_portsOf]
    show ((perPort Connecter.Task.new (ports.map Port.connectAddrs)).get port).isSome = true ↔ _
    rw [isSome_perPort, List.length_map]
  addrs port a ha := by
    rw [connecter_new pty ha]
    rfl
  connects := by simp [Side.ports, new, Server.new]
  delivered := by simp [Side.ports, new, Server.new]
  hearing port a ha := by
    rw [connecter_new pty ha]
    exact ⟨[], rfl, fun _ => rfl⟩
  answered port conn := by cases pty <;> rfl
  not_panicked := by simp [Side.ports, new, Server.new]
  not_listener := by cases pty <;> simp [Side.ports, Side.view, new, Server.new, Message.toStream]
  numbered := by cases pty <;> simp [Side.ports, Side.view, new, Server.new, Message.toStream]
  used := by cases pty <;> simp [Ports.uses, Side.ports, new, Server.new, Table.get_ofList]
  announced := by
    cases pty with
    | none => exact each_nil
    | some ptyMaster =>
        show Each _ ([] ++ [StreamAction.source .stderr .sourceClosed])
        refine each_snoc.mpr ⟨each_nil, fun id hid heq => ?_⟩
        obtain rfl := Option.some.inj heq
        cases hid

theorem peered_new (pty : Option PtyMaster) (ports : List Port) :
    Peered (new pty ports).server.side.ports where
  reached := by simp [Side.ports, new, Server.new]
  connected := by simp [Side.ports, new, Server.new]
  announced id hacc := by
    cases pty with
    | none => cases hacc
    | some ptyMaster => cases List.mem_singleton.mp hacc

theorem clientStreams_new (pty : Option PtyMaster) (ports : List Port) :
    Enrolled [.stdin] [.stdout, .stderr] (new pty ports).client.side.ports where
  sources id hid := by cases id <;> simp [Side.ports, new, Client.new, Table.get_ofList]
  sinks id hid := by cases id <;> simp [Side.ports, new, Client.new, Table.get_ofList]
  logged := by simp [Side.ports, Side.view, new, Client.new]

theorem serverStreams_new (pty : Option PtyMaster) (ports : List Port) :
    Enrolled [.stdout, .stderr] [.stdin] (new pty ports).server.side.ports where
  sources id hid := by cases id <;> simp [Side.ports, new, Server.new, Table.get_ofList]
  sinks id hid := by cases id <;> simp [Side.ports, new, Server.new, Table.get_ofList]
  logged action hmem _ := by
    cases pty with
    | none => cases hmem
    | some ptyMaster =>
        obtain rfl := List.mem_singleton.mp hmem
        rfl

theorem mapped_new (pty : Option PtyMaster) (ports : List Port) :
    Mapped (new pty ports).client.side.ports ∧ Mapped (new pty ports).server.side.ports := by
  have hown (ids : List StreamId) (id : StreamId) (hids : ids ⊆ [.stdin, .stdout, .stderr])
      (hmem : id ∈ ids) : id.isForward = false := by
    have := hids hmem
    cases id <;> simp_all [StreamId.isForward]
  have hclient := clientStreams_new pty ports
  have hserver := serverStreams_new pty ports
  refine ⟨⟨fun id hmem => ?_, fun id hmem => ?_⟩, fun id hmem => ?_, fun id hmem => ?_⟩
  · exact (hclient.sources id (hown [.stdin] id (by simp) hmem)).mpr hmem
  · exact (hclient.sinks id (hown [.stdout, .stderr] id (by simp) hmem)).mpr hmem
  · have hmem' : id ∈ [StreamId.stdout, .stderr] := by
      cases pty
      · exact hmem
      · exact List.mem_cons.mpr (Or.inl (List.mem_singleton.mp hmem))
    exact (hserver.sources id (hown [.stdout, .stderr] id (by simp) hmem')).mpr hmem'
  · exact (hserver.sinks id (hown [.stdin] id (by simp) hmem)).mpr hmem

theorem routed_new (pty : Option PtyMaster) (ports : List Port) :
    Routed pty ports (new pty ports) where
  client :=
    { connecterTxMap := rfl
      sources := fun _ => id
      sinks := fun _ => id
      registered := fun _ _ hacc => by cases hacc }
  server :=
    { connecterTxMap := by
        show (numbered (ports.map Port.connectAddrs)).map Prod.fst = portsOf ports
        rw [numbered_fst, List.length_map]
        rfl
      sources := by cases pty <;> exact fun _ => id
      sinks := fun _ => id
      registered := by
        cases pty <;> simp [Side.ports, Side.view, new, Server.new, Message.toStream, accepted]
      closed := fun port a ha hdone => by
        rw [connecter_new pty ha] at hdone
        cases hdone }
  clientMapped := (mapped_new pty ports).1
  serverMapped := (mapped_new pty ports).2

theorem forwarding_new (pty : Option PtyMaster) (ports : List Port) :
    Forwarding ports (new pty ports) where
  transit := transit_new pty ports
  client := requesting_new pty ports
  hosting := hosting_new pty ports
  server := responding_new pty ports
  peered := peered_new pty ports
  clientStreams := clientStreams_new pty ports
  serverStreams := serverStreams_new pty ports

/-- The side knows nothing of the stream. -/
structure Unknown {T : Type} (side : Side T) (id : StreamId) : Prop where
  sourceTxMap : id ∉ side.sourceTxMap
  sinkTxMap : id ∉ side.sinkTxMap
  sources : side.sources.get id = none
  sinks : side.sinks.get id = none

theorem unknown_of_not_uses {T : Type} [Message T] {side : Side T} {id : StreamId}
    (h : ¬ side.ports.uses id) : Unknown side id := by
  simp only [Ports.uses, not_or] at h
  obtain ⟨hsink, hsource, hsources, hsinks⟩ := h
  exact ⟨hsource, hsink, by simpa [Side.ports] using hsources, by simpa [Side.ports] using hsinks⟩

theorem Unknown.fresh {T : Type} {side : Side T} {id : StreamId} (h : Unknown side id) :
    side.fresh id = true := by
  simp [Side.fresh, h.sources, h.sinks]

theorem Forwarding.requests_le_one (h : Forwarding ports s) (port : PortId) (conn : ConnId) :
    requests port conn s.client.side.view.log ≤ 1 := by
  cases hget : s.client.side.listeners.get port with
  | some a =>
      apply Nat.le_trans ((h.client.asking port a hget).asked conn)
      split <;> omega
  | none =>
      refine Nat.le_trans (Nat.le_of_eq (List.count_eq_zero.mpr fun hmem => ?_)) (Nat.zero_le 1)
      have hsome := (h.client.present port).mpr (h.client.logged port _ hmem)
      rw [show s.client.side.ports.listeners.get port = none from hget] at hsome
      cases hsome

theorem requests_mono {xs ys : List StreamAction} (h : xs <+: ys) (port : PortId)
    (conn : ConnId) : requests port conn xs ≤ requests port conn ys :=
  h.sublist.count_le _

theorem responses_mono {xs ys : List StreamAction} (h : xs <+: ys) (port : PortId)
    (conn : ConnId) : responses port conn xs ≤ responses port conn ys :=
  h.sublist.countP_le

theorem Forwarding.unique (h : Forwarding ports s) (port : PortId) (conn : ConnId) :
    requests port conn s.server.side.ports.delivered ≤ 1 :=
  Nat.le_trans (requests_mono h.transit.fifo.1 port conn) (h.requests_le_one port conn)

section

variable {capacity : Nat} {pty : Option PtyMaster}

theorem Forwarding.client_move {e : Client.Event} (h : Forwarding ports s)
    (hstep : step capacity s (.client e) = some t) :
    s.client.side.ports.Move t.client.side.ports ∨
      t.client.side.ports = s.client.side.ports.drained ∧ ∃ reported sinks sources,
        e = .side (.receiver (.abort reported sinks sources)) :=
  client_ports h.transit.client (client_spec hstep).stepped

theorem Forwarding.server_move {e : Server.Event} (h : Forwarding ports s)
    (hstep : step capacity s (.server e) = some t) :
    s.server.side.ports.Move t.server.side.ports ∨
      t.server.side.ports = s.server.side.ports.drained ∧ ∃ reported sinks sources,
        e = .side (.receiver (.abort reported sinks sources)) :=
  server_ports h.transit.server
    ((h.serverStreams.sinks _ rfl).mpr (List.mem_singleton_self _)) (server_spec hstep).stepped

theorem Forwarding.step {e : Event} (h : Forwarding ports s)
    (hstep : step capacity s e = some t) : Forwarding ports t := by
  have htransit := h.transit.step hstep
  cases e with
  | client e =>
      obtain ⟨-, -, -, -, hserver⟩ := client_spec hstep
      rcases h.client_move hstep with hmove | ⟨hdrained, -⟩
      · refine ⟨htransit, h.client.step hmove, h.hosting.step (h.client.listens hmove),
          hserver ▸ h.server, hserver ▸ h.peered, ?_, hserver ▸ h.serverStreams⟩
        refine h.clientStreams.step (fun c hc => ?_) hmove
        rw [h.client.connects] at hc
        cases hc
      · exact ⟨htransit, hdrained ▸ h.client.drained, hdrained ▸ h.hosting.drained,
          hserver ▸ h.server, hserver ▸ h.peered, hdrained ▸ h.clientStreams.drained,
          hserver ▸ h.serverStreams⟩
  | server e =>
      obtain ⟨-, -, -, hclient⟩ := server_spec hstep
      rcases h.server_move hstep with hmove | ⟨hdrained, -⟩
      · refine ⟨htransit, hclient ▸ h.client, hclient ▸ h.hosting, h.server.step h.unique hmove,
          h.peered.step (h.server.answers h.unique hmove), hclient ▸ h.clientStreams,
          h.serverStreams.step (fun c hc => ?_) hmove⟩
        obtain ⟨port, conn, hid, -, -⟩ := h.server.connects c hc
        rw [hid]
        rfl
      · exact ⟨htransit, hclient ▸ h.client, hclient ▸ h.hosting, hdrained ▸ h.server.drained,
          hdrained ▸ h.peered.drained, hclient ▸ h.clientStreams,
          hdrained ▸ h.serverStreams.drained⟩

theorem forwarding_on {ok : State → Event → Prop} (h : Forwarding ports s)
    (hreach : Reach (step capacity) ok s t) : Forwarding ports t :=
  hreach.invariant h fun _ _ _ _ hforwarding _ hstep => hforwarding.step hstep

theorem forwarding_of_reach {ok : State → Event → Prop}
    (h : Reach (step capacity) ok (new pty ports) s) : Forwarding ports s :=
  forwarding_on (forwarding_new pty ports) h

/-- No identifier is registered twice, so that no inbox loses its sender. -/
structure Unreplaced (s : State) : Prop where
  client : s.client.side.Unreplaced
  server : s.server.side.Unreplaced

theorem client_unreplaced {c d : Client.State} {e : Client.Event} (h : c.side.Unreplaced)
    (hports : Requesting (portsOf ports) c.side.ports) (hstep : Client.Stepped c e d) :
    d.side.Unreplaced := by
  cases hstep with
  | side step =>
      refine h.step (fun port a _ get pc hmem => ?_) (fun i a _ get => ?_) step
      · exact hports.not_uses (show c.side.ports.listeners.get port = some a from get) pc
          (Or.inr (Or.inl hmem))
      · rw [show c.side.connects = [] from hports.connects] at get
        cases get
  | _ => exact h

theorem server_unreplaced {v w : Server.State} {e : Server.Event} (h : v.side.Unreplaced)
    (hports : Responding (portsOf ports) (addrOf ports) v.side.ports)
    (hunique : ∀ port conn, requests port conn v.side.ports.delivered ≤ 1)
    (hstep : Server.Stepped v e w) : w.side.Unreplaced := by
  cases hstep with
  | side step =>
      refine h.step (fun port a _ get => ?_) (fun i a _ get pc hmem => ?_) step
      · rw [show v.side.listeners.get port = none from hports.listeners port] at get
        cases get
      · exact hports.not_uses hunique (show v.side.ports.connects[i]? = some a from get)
          (by rw [Connecter.Connect.ended, pc]) (Or.inr (Or.inl hmem))
  | _ => exact h

theorem Unreplaced.step {e : Event} (h : Unreplaced s) (hforwarding : Forwarding ports s)
    (hstep : Session.step capacity s e = some t) : Unreplaced t := by
  cases e with
  | client e =>
      obtain ⟨hstepped, -, -, -, hserver⟩ := client_spec hstep
      exact ⟨client_unreplaced h.client hforwarding.client hstepped, hserver ▸ h.server⟩
  | server e =>
      obtain ⟨hstepped, -, -, hclient⟩ := server_spec hstep
      exact ⟨hclient ▸ h.client,
        server_unreplaced h.server hforwarding.server hforwarding.unique hstepped⟩

theorem unreplaced_of_reach {ok : State → Event → Prop}
    (h : Reach (Session.step capacity) ok (new pty ports) s) : Unreplaced s :=
  h.invariant ⟨fun _ => rfl, fun _ => rfl⟩ fun _ _ _ hreach hkept _ hstep =>
    hkept.step (forwarding_of_reach hreach) hstep

theorem Forwarding.listens {e : Client.Event} (h : Forwarding ports s)
    (hok : Connected s (.client e)) (hstep : Session.step capacity s (.client e) = some t) :
    s.client.side.ports.Listens t.client.side.ports := by
  rcases h.client_move hstep with hmove | ⟨-, _, _, _, rfl⟩
  · exact h.client.listens hmove
  · cases hok

theorem Forwarding.answers {e : Server.Event} (h : Forwarding ports s)
    (hok : Connected s (.server e)) (hstep : Session.step capacity s (.server e) = some t) :
    s.server.side.ports.Answers t.server.side.ports := by
  rcases h.server_move hstep with hmove | ⟨-, _, _, _, rfl⟩
  · exact h.server.answers h.unique hmove
  · cases hok

theorem Routed.step {e : Event} (h : Routed pty ports s) (hforwarding : Forwarding ports s)
    (hok : Connected s e) (hstep : Session.step capacity s e = some t) :
    Routed pty ports t := by
  cases e with
  | client e =>
      obtain ⟨-, -, -, -, hserver⟩ := client_spec hstep
      refine ⟨h.client.step hforwarding.client (hforwarding.listens hok hstep), hserver ▸ h.server,
        ?_, hserver ▸ h.serverMapped⟩
      rcases hforwarding.client_move hstep with hmove | ⟨hdrained, -⟩
      · exact h.clientMapped.step hmove
      · exact hdrained ▸ Mapped.drained _
  | server e =>
      obtain ⟨-, -, -, hclient⟩ := server_spec hstep
      refine ⟨hclient ▸ h.client, h.server.step hforwarding.server (hforwarding.answers hok hstep),
        hclient ▸ h.clientMapped, ?_⟩
      rcases hforwarding.server_move hstep with hmove | ⟨hdrained, -⟩
      · exact h.serverMapped.step hmove
      · exact hdrained ▸ Mapped.drained _

theorem routed_of_reach (h : Reach (step capacity) Connected (new pty ports) s) :
    Routed pty ports s :=
  h.invariant (routed_new pty ports) fun _ _ _ hreach hrouted hok hstep =>
    hrouted.step (forwarding_of_reach hreach) hok hstep

end

end Rlirsh.Session
