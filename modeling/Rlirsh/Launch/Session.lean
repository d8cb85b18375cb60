import Rlirsh.Launch.Serving
import Rlirsh.Session.Truncation

namespace Rlirsh.Launch

open Rlirsh.Protocol
open Rlirsh.Net
open Rlirsh.Lib
open Rlirsh.Lib.Machine
open Rlirsh.Lib.Parties (Joint Move Moved move_spec)
open Rlirsh.Execute
open Rlirsh.Terminal (PtyMaster)
open Rlirsh.Session (Port)

variable {prep : Prepared} {req : ExecuteRequest} {s t : Conversation}

/-- The client of the session: until `serve` is reached, the one it begins with. -/
def ClientMain.session (c : ClientMain) : Client.State :=
  match c.pc with
  | .serve client => client
  | _ => Client.new c.allocatePty c.localListeners

/-- The pty of a request, as long as none has been opened. -/
def ptyOf (req : ExecuteRequest) : Option PtyMaster := (winsizeOf req).map .accepting

/-- The addresses to connect to, as long as they have not been resolved. -/
def unresolved (req : ExecuteRequest) : List (SocketAddrs SocketAddr) :=
  req.connectAddrs.map fun addr => ⟨addr, []⟩

def ServerMain.session (req : ExecuteRequest) (v : ServerMain) : Server.State :=
  match v.pc with
  | .serve server => server
  | _ => Server.new (ptyOf req) (unresolved req)

/-- The session that a connection with a request is, or is going to be. -/
def session (req : ExecuteRequest) (s : Conversation) : Session.State :=
  { client := s.left.session, server := s.right.session req
    up := s.forth.filterMap Up.action?, down := s.back.filterMap Down.action? }

/-- The ports of a client, with the addresses the server is going to connect to. -/
def Prepared.ports (prep : Prepared) (connectAddrs : List (SocketAddrs SocketAddr)) : List Port :=
  List.zipWith Port.mk prep.localListeners connectAddrs

theorem Prepared.ports_spec (prep : Prepared) {connectAddrs : List (SocketAddrs SocketAddr)}
    (h : connectAddrs.map SocketAddrs.originalAddr = prep.req.connectAddrs) :
    (prep.ports connectAddrs).map Port.listener = prep.localListeners ∧
      (prep.ports connectAddrs).map Port.connectAddrs = connectAddrs := by
  have hlength : prep.localListeners.length = connectAddrs.length := by
    rw [prep.length_eq, ← h, List.length_map]
  have hzip : prep.ports connectAddrs =
      (prep.localListeners.zip connectAddrs).map fun p => ⟨p.1, p.2⟩ := by
    rw [Prepared.ports, List.zip, List.map_zipWith]
  rw [hzip, List.map_map, List.map_map]
  exact ⟨List.map_fst_zip hlength.le, List.map_snd_zip hlength.ge⟩

/-- The pty and the ports of a session that is asked for; once the server serves it has
resolved the addresses. -/
structure Granted (prep : Prepared) (v : ServerMain) (ptyMaster : Option PtyMaster)
    (ports : List Port) : Prop where
  winsz : ptyMaster.map PtyMaster.winsz = winsizeOf prep.req
  listeners : ports.map Port.listener = prep.localListeners
  connectAddrs : ports.map (fun port => port.connectAddrs.originalAddr) = prep.req.connectAddrs
  resolved : ∀ server, v.pc = .serve server → ∃ sys, v.system = some sys ∧
    List.Forall₂ (fun addr a => SocketAddrs.new sys.lookup addr = .ok a) prep.req.connectAddrs
      (ports.map Port.connectAddrs)

theorem Granted.length_eq {v : ServerMain} {ptyMaster : Option PtyMaster} {ports : List Port}
    (h : Granted prep v ptyMaster ports) : ports.length = prep.req.connectAddrs.length := by
  rw [← h.connectAddrs, List.length_map]

theorem granted_ports {v : ServerMain} {ptyMaster : Option PtyMaster}
    {connectAddrs : List (SocketAddrs SocketAddr)}
    (hwinsz : ptyMaster.map PtyMaster.winsz = winsizeOf prep.req)
    (haddrs : connectAddrs.map SocketAddrs.originalAddr = prep.req.connectAddrs)
    (hresolved : ∀ server, v.pc = .serve server → ∃ sys, v.system = some sys ∧
      List.Forall₂ (fun addr a => SocketAddrs.new sys.lookup addr = .ok a) prep.req.connectAddrs
        connectAddrs) : Granted prep v ptyMaster (prep.ports connectAddrs) := by
  obtain ⟨hlisteners, hconnects⟩ := prep.ports_spec haddrs
  refine ⟨hwinsz, hlisteners, ?_, ?_⟩
  · rw [← haddrs, ← congrArg (List.map SocketAddrs.originalAddr) hconnects, List.map_map]
    rfl
  · rw [hconnects]
    exact hresolved

theorem winsz_ptyOf (req : ExecuteRequest) : (ptyOf req).map PtyMaster.winsz = winsizeOf req := by
  rw [ptyOf, Option.map_map]
  exact Option.map_id' ..

theorem originalAddr_unresolved (req : ExecuteRequest) :
    (unresolved req).map SocketAddrs.originalAddr = req.connectAddrs := by
  rw [unresolved, List.map_map]
  exact List.map_id' ..

theorem session_new {ptyMaster : Option PtyMaster} {connectAddrs : List (SocketAddrs SocketAddr)}
    (h : Launched prep s) (hclient : ∀ client, s.left.pc ≠ .serve client)
    (hserver : s.right.session prep.req = Server.new ptyMaster connectAddrs)
    (hwinsz : ptyMaster.map PtyMaster.winsz = winsizeOf prep.req)
    (haddrs : connectAddrs.map SocketAddrs.originalAddr = prep.req.connectAddrs)
    (hforth : s.forth.filterMap Up.action? = []) (hback : s.back.filterMap Down.action? = []) :
    session prep.req s = Session.new ptyMaster (prep.ports connectAddrs) := by
  obtain ⟨hlisteners, hconnects⟩ := prep.ports_spec haddrs
  have hpty : s.left.allocatePty = ptyMaster.isSome := by
    have hmap := congrArg Option.isSome hwinsz
    rw [winsizeOf, Option.isSome_map, Option.isSome_map] at hmap
    rw [h.allocatePty, hmap]
  have hleft : s.left.session = Client.new ptyMaster.isSome prep.localListeners := by
    rw [← hpty, ← h.localListeners, ClientMain.session]
    split
    · rename_i client hpc
      exact absurd hpc (hclient client)
    · rfl
  rw [session, Session.new, hlisteners, hconnects, hleft, hserver, hforth, hback]

theorem Phase.unserved {c : ClientPc} {v : ServerPc} {forth : List Up} {back : List Down}
    (h : Phase req c v forth back) (hnot : ∀ server, v ≠ .serve server) :
    (∀ client, c ≠ .serve client) ∧ forth.filterMap Up.action? = [] ∧
      back.filterMap Down.action? = [] := by
  refine ⟨fun client hclient => ?_, ?_⟩
  · subst hclient
    obtain ⟨server, -, -, hserve, -⟩ := h.serving rfl
    exact hnot server hserve
  cases v with
  | recvRequest =>
      obtain ⟨rfl, ⟨-, rfl⟩ | ⟨-, rfl | ⟨rfl, -⟩⟩⟩ := h <;> exact ⟨rfl, rfl⟩
  | handle req' =>
      obtain ⟨-, -, rfl, rfl⟩ := h
      exact ⟨rfl, rfl⟩
  | sendResponse res =>
      obtain ⟨-, rfl, rfl⟩ := h
      exact ⟨rfl, rfl⟩
  | serve server => exact absurd rfl (hnot server)
  | err chain =>
      obtain ⟨-, hforth, rfl | ⟨rfl, -⟩⟩ := h <;>
        exact ⟨List.filterMap_eq_nil_iff.mpr hforth, rfl⟩

theorem Launched.unserved (h : Launched prep s) (hnot : ∀ server, s.right.pc ≠ .serve server) :
    Granted prep s.right (ptyOf prep.req) (prep.ports (unresolved prep.req)) ∧
      session prep.req s = Session.new (ptyOf prep.req) (prep.ports (unresolved prep.req)) := by
  have hwinsz := winsz_ptyOf prep.req
  have haddrs := originalAddr_unresolved prep.req
  obtain ⟨hclient, hforth, hback⟩ := h.phase.unserved hnot
  refine ⟨granted_ports hwinsz haddrs fun server hpc => absurd hpc (hnot server),
    session_new h hclient ?_ hwinsz haddrs hforth hback⟩
  rw [ServerMain.session]
  split
  · rename_i server hpc
    exact absurd hpc (hnot server)
  · rfl

/-- The server begins to serve with what the system has given it. -/
theorem begins_serving {capacity : Nat} {e : Event} {server : Server.State} (h : Launched prep s)
    (hnot : ∀ server, s.right.pc ≠ .serve server) (hstep : step capacity s e = some t)
    (hserve : t.right.pc = .serve server) :
    ∃ param, t.right.processes = [param.child] ∧ server = serving param ∧
      (∃ sys, t.right.system = some sys ∧ Accepted sys prep.req param) ∧
      (∀ client, t.left.pc ≠ .serve client) ∧ t.forth.filterMap Up.action? = [] ∧
      t.back.filterMap Down.action? = [] := by
  cases e with
  | left m =>
      rw [(move_spec hstep).right_eq] at hserve
      exact absurd hserve (hnot server)
  | right m =>
      obtain ⟨r, hmove, rfl⟩ := Option.map_eq_some_iff.mp hstep
      obtain ⟨c, ⟨pc, system, processes⟩, forth, back⟩ := s
      obtain ⟨hclient, hforth, hback⟩ := h.phase.unserved hnot
      have hstarted := h.started
      cases move_spec hmove with
      | own hown =>
          cases ServerMain.step_spec hown with
          | recvFailed | handle | sendFailed => cases hserve
          | serve hpc => exact absurd hpc (hnot _)
      | sent hoffer hsent =>
          cases ServerMain.sent_spec hoffer hsent with
          | @accepted param hpc =>
              obtain rfl : pc = _ := hpc
              obtain ⟨sys, hsys, hhandle⟩ := hstarted
              obtain ⟨haccepted, hprocesses⟩ := handleRequest_ok hhandle
              refine ⟨param, hprocesses, (ServerPc.serve.inj hserve).symm, ⟨sys, hsys, haccepted⟩,
                hclient, hforth, ?_⟩
              simp only [Joint.swap, List.filterMap_append, hback]
              rfl
          | rejected => cases hserve
          | action hpc => exact absurd hpc (hnot _)
      | receive hback hreceive =>
          cases ServerMain.receive_spec hreceive with
          | request => cases hserve
          | action hpc => exact absurd hpc (hnot _)

/-- The session begins with what the system has given the server. -/
theorem begins_session {capacity : Nat} {e : Event} {server : Server.State} (h : Launched prep s)
    (hnot : ∀ server, s.right.pc ≠ .serve server) (hstep : step capacity s e = some t)
    (hserve : t.right.pc = .serve server) :
    ∃ ptyMaster ports, Granted prep t.right ptyMaster ports ∧
      session prep.req t = Session.new ptyMaster ports := by
  obtain ⟨param, -, hserving, ⟨sys, hsys, haccepted⟩, hclient, hforth, hback⟩ :=
    begins_serving h hnot hstep hserve
  have haddrs := Server.originalAddr_of_resolved haccepted.resolved
  refine ⟨param.ptyMaster, prep.ports param.connectAddrs,
    granted_ports haccepted.winsz haddrs fun _ _ => ⟨sys, hsys, haccepted.resolved⟩,
    session_new (h.step hstep) hclient ?_ haccepted.winsz haddrs hforth hback⟩
  rw [ServerMain.session, hserve, hserving]
  exact haccepted.serving_eq

theorem server_moved {a b : Joint ServerMain ClientMain Down Up} {m : Move ServerEvent}
    (hmoved : Moved server a m b) (hserves : ∃ server, a.left.pc = .serve server) :
    b.left.system = a.left.system ∧ ∃ server, b.left.pc = .serve server := by
  obtain ⟨⟨pc, system, processes⟩, c, forth, back⟩ := a
  obtain ⟨server, hserve⟩ := hserves
  cases hmoved with
  | own hstep =>
      cases ServerMain.step_spec hstep with
      | serve => exact ⟨rfl, _, rfl⟩
      | recvFailed hpc | handle hpc | sendFailed hpc => cases hserve.symm.trans hpc
  | sent hoffer hsent =>
      cases ServerMain.sent_spec hoffer hsent with
      | action => exact ⟨rfl, _, rfl⟩
      | accepted hpc | rejected hpc => cases hserve.symm.trans hpc
  | receive hback hreceive =>
      cases ServerMain.receive_spec hreceive with
      | action => exact ⟨rfl, _, rfl⟩
      | request hpc => cases hserve.symm.trans hpc

theorem serves_step {capacity : Nat} {e : Event} (hstep : step capacity s e = some t)
    (hserves : ∃ server, s.right.pc = .serve server) :
    t.right.system = s.right.system ∧ ∃ server, t.right.pc = .serve server := by
  cases e with
  | left m =>
      rw [(move_spec hstep).right_eq]
      exact ⟨rfl, hserves⟩
  | right m =>
      obtain ⟨r, hmove, rfl⟩ := Option.map_eq_some_iff.mp hstep
      exact server_moved (move_spec hmove) hserves

theorem Granted.step {capacity : Nat} {e : Event} {ptyMaster : Option PtyMaster}
    {ports : List Port} (h : Granted prep s.right ptyMaster ports)
    (hstep : step capacity s e = some t) (hserves : ∃ server, s.right.pc = .serve server) :
    Granted prep t.right ptyMaster ports := by
  refine ⟨h.winsz, h.listeners, h.connectAddrs, fun _ _ => ?_⟩
  obtain ⟨server, hserve⟩ := hserves
  rw [(serves_step hstep ⟨server, hserve⟩).1]
  exact h.resolved server hserve

/-- The step of the session that a step of the connection is, if it is one. -/
def sessionEvent (s : Conversation) : Event → Option Session.Event
  | .left (.own (.serve e)) => some (.client e)
  | .left .sent =>
      match s.left.pc with
      | .serve _ => some (.client (.side (.sender .sent)))
      | _ => none
  | .left .receive =>
      match s.left.pc, s.back with
      | .serve _, .action a :: _ => some (.client (.receive a))
      | _, _ => none
  | .right (.own (.serve e)) => some (.server e)
  | .right .sent =>
      match s.right.pc with
      | .serve _ => some (.server (.side (.sender .sent)))
      | _ => none
  | .right .receive =>
      match s.right.pc, s.forth with
      | .serve _, .action a :: _ => some (.server (.receive a))
      | _, _ => none
  | _ => none

theorem client_output_eq_none {c : Client.State} {e : Client.Event}
    (hnot : e ≠ .side (.sender .sent)) : c.output e = none := by
  unfold Client.State.output
  split
  · exact absurd rfl hnot
  · rfl

theorem client_input_eq_none {e : Client.Event} (hnot : ∀ m, e ≠ .receive m) :
    e.input = none := by
  unfold Client.Event.input
  split
  · exact absurd rfl (hnot _)
  · rfl

theorem server_output_eq_none {v : Server.State} {e : Server.Event}
    (hnot : e ≠ .side (.sender .sent)) : v.output e = none := by
  unfold Server.State.output
  split
  · exact absurd rfl hnot
  · rfl

theorem server_input_eq_none {e : Server.Event} (hnot : ∀ m, e ≠ .receive m) :
    e.input = none := by
  unfold Server.Event.input
  split
  · exact absurd rfl (hnot _)
  · rfl

/-- A step of a connection whose server serves is one of the session, or leaves the session
alone. -/
def Carried (req : ExecuteRequest) (capacity : Nat) (s t : Conversation)
    (e : Option Session.Event) : Prop :=
  match e with
  | some e => Session.step capacity (session req s) e = some (session req t)
  | none => session req t = session req s

theorem carried_left {capacity : Nat} {m : Move ClientEvent}
    (hmove : Parties.move client capacity s m = some t) :
    Carried req capacity s t (sessionEvent s (.left m)) := by
  obtain ⟨c, v, forth, back⟩ := s
  obtain ⟨pc, allocatePty, localListeners⟩ := c
  have hmoved := move_spec hmove
  cases hmoved with
  | own hstep =>
      cases ClientMain.step_spec hstep with
      | serve hpc hsent hreceive hserve =>
          obtain rfl : pc = _ := hpc
          simp [Carried, sessionEvent, Session.step, session, ClientMain.session, hserve,
            client_output_eq_none hsent, client_input_eq_none hreceive, Session.push, Session.pull]
      | sendFailed hpc | recvFailed hpc | setUp hpc | notSetUp hpc =>
          obtain rfl : pc = _ := hpc
          rfl
  | sent hoffer hsent =>
      have hroom := Parties.room_of_sent hmove
      cases ClientMain.sent_spec hoffer hsent with
      | request hpc =>
          obtain rfl : pc = _ := hpc
          simp [Carried, sessionEvent, session, ClientMain.session, Up.action?]
      | @action a client client' hpc hsending hstep =>
          obtain rfl : pc = _ := hpc
          have hle : (forth.filterMap Up.action?).length < capacity :=
            Nat.lt_of_le_of_lt (List.length_filterMap_le ..) hroom
          simp [Carried, sessionEvent, Session.step, session, ClientMain.session, hstep,
            Client.State.output, Client.Event.input, hsending, Session.push, Session.pull, hle,
            Up.action?]
  | receive hback hreceive =>
      obtain rfl : back = _ := hback
      cases ClientMain.receive_spec hreceive with
      | accepted hpc | rejected hpc =>
          obtain rfl : pc = _ := hpc
          rfl
      | action hpc hstep =>
          obtain rfl : pc = _ := hpc
          simp [Carried, sessionEvent, Session.step, session, ClientMain.session, hstep,
            Client.State.output, Client.Event.input, Session.push, Session.pull, Down.action?]

theorem carried_right {capacity : Nat} {m : Move ServerEvent}
    {r : Joint ServerMain ClientMain Down Up} (hserves : ∃ server, s.right.pc = .serve server)
    (hmove : Parties.move server capacity s.swap m = some r) :
    Carried req capacity s r.swap (sessionEvent s (.right m)) := by
  obtain ⟨c, ⟨pc, system, processes⟩, forth, back⟩ := s
  obtain ⟨server, hserves⟩ := hserves
  cases move_spec hmove with
  | own hstep =>
      cases ServerMain.step_spec hstep with
      | serve hpc hsent hreceive hserve =>
          obtain rfl : pc = _ := hpc
          simp [Carried, sessionEvent, Session.step, session, ServerMain.session, hserve,
            Joint.swap, server_output_eq_none hsent, server_input_eq_none hreceive, Session.push,
            Session.pull]
      | recvFailed hpc | handle hpc | sendFailed hpc => cases hserves.symm.trans hpc
  | sent hoffer hsent =>
      have hroom := Parties.room_of_sent hmove
      cases ServerMain.sent_spec hoffer hsent with
      | accepted hpc | rejected hpc => cases hserves.symm.trans hpc
      | action hpc hsending hstep =>
          obtain rfl : pc = _ := hpc
          have hle : (back.filterMap Down.action?).length < capacity :=
            Nat.lt_of_le_of_lt (List.length_filterMap_le ..) hroom
          simp [Carried, sessionEvent, Session.step, session, ServerMain.session, hstep,
            Server.State.output, Server.Event.input, hsending, Session.push, Session.pull, hle,
            Down.action?, Joint.swap]
  | receive hforth hreceive =>
      obtain rfl : forth = _ := hforth
      cases ServerMain.receive_spec hreceive with
      | request hpc => cases hserves.symm.trans hpc
      | action hpc hstep =>
          obtain rfl : pc = _ := hpc
          simp [Carried, sessionEvent, Session.step, session, ServerMain.session, hstep,
            Server.State.output, Server.Event.input, Session.push, Session.pull, Up.action?,
            Joint.swap]

theorem carried_step (req : ExecuteRequest) {capacity : Nat} {e : Event}
    (hserves : ∃ server, s.right.pc = .serve server)
    (hstep : step capacity s e = some t) : Carried req capacity s t (sessionEvent s e) := by
  cases e with
  | left m => exact carried_left hstep
  | right m =>
      obtain ⟨r, hmove, rfl⟩ := Option.map_eq_some_iff.mp hstep
      exact carried_right hserves hmove

/-- The steps of a connection that its session admits. -/
def Admits (req : ExecuteRequest) (ok : Session.State → Session.Event → Prop)
    (s : Conversation) (e : Event) : Prop :=
  ∀ e', sessionEvent s e = some e' → ok (session req s) e'

instance {ok : Session.State → Session.Event → Prop} [∀ r e, Decidable (ok r e)]
    (s : Conversation) (e : Event) : Decidable (Admits req ok s e) :=
  inferInstanceAs (Decidable (∀ e' ∈ sessionEvent s e, ok (session req s) e'))

/-- A run of a connection is a run of its session, from where the server has begun to serve
it. -/
theorem session_of_reach {capacity : Nat} {ok : Session.State → Session.Event → Prop}
    (h : Reach (step capacity) (Admits prep.req ok) (new prep) s) :
    ∃ ptyMaster ports, Granted prep s.right ptyMaster ports ∧
      Reach (Session.step capacity) ok (Session.new ptyMaster ports) (session prep.req s) := by
  have hunserved {r : Conversation} (hlaunched : Launched prep r)
      (hnot : ∀ server, r.right.pc ≠ .serve server) :
      ∃ ptyMaster ports, Granted prep r.right ptyMaster ports ∧
        Reach (Session.step capacity) ok (Session.new ptyMaster ports) (session prep.req r) := by
    obtain ⟨hgranted, hsession⟩ := hlaunched.unserved hnot
    exact ⟨_, _, hgranted, by rw [hsession]; exact Reach.refl _⟩
  induction h with
  | refl => exact hunserved (launched_new prep) fun _ hserve => (by cases hserve)
  | @tail a b hreach hlast ih =>
      obtain ⟨e, hok, hstep⟩ := hlast
      have hlaunched := launched_of_reach hreach
      by_cases hserves : ∃ server, a.right.pc = .serve server
      · obtain ⟨ptyMaster, ports, hgranted, hsession⟩ := ih
        refine ⟨ptyMaster, ports, hgranted.step hstep hserves, ?_⟩
        have hcarried := carried_step prep.req hserves hstep
        cases hevent : sessionEvent a e with
        | none =>
            rw [hevent] at hcarried
            rw [show session prep.req b = session prep.req a from hcarried]
            exact hsession
        | some e' =>
            rw [hevent] at hcarried
            exact hsession.snoc (hok e' hevent) hcarried
      · have hnot (server : Server.State) : a.right.pc ≠ .serve server :=
          fun hserve => hserves ⟨server, hserve⟩
        by_cases hserves' : ∃ server, b.right.pc = .serve server
        · obtain ⟨server, hserve⟩ := hserves'
          obtain ⟨ptyMaster, ports, hgranted, hsession⟩ :=
            begins_session hlaunched hnot hstep hserve
          exact ⟨ptyMaster, ports, hgranted, by rw [hsession]; exact Reach.refl _⟩
        · exact hunserved (hlaunched.step hstep) fun server hserve => hserves' ⟨server, hserve⟩

theorem any_of_reach {capacity : Nat} {ok : Conversation → Event → Prop}
    {s₀ : Conversation} (h : Reach (step capacity) ok s₀ s) :
    Reach (step capacity) (Admits req Any) s₀ s :=
  h.mono fun _ _ _ _ _ => trivial

theorem settled_of_reach {capacity : Nat} {ok : Conversation → Event → Prop}
    (h : Reach (step capacity) ok (new prep) s) : Session.Settled (session prep.req s) := by
  obtain ⟨ptyMaster, ports, -, hsession⟩ := session_of_reach (any_of_reach h)
  exact Session.settled_of_reach hsession

/-- What becomes of the process that is served: it is killed where it has not been seen to
exit. -/
structure Followed (server : Server.State) (p : Process) : Prop where
  exited : p.exited = server.exited
  killed : p.killed = true ↔ server.released = true ∧ server.exited = none

theorem followed_new (param : ServeParam) (command : Command) (pty : Option Terminal.Winsize) :
    Followed (serving param) (.new command pty) :=
  ⟨rfl, by simp [serving, Process.new, Server.State.released]⟩

theorem Followed.same {v w : Server.State} {p : Process} (h : Followed v p)
    (hmain : w.main = v.main) (hexited : w.exited = v.exited) : Followed w p := by
  refine ⟨h.exited.trans hexited.symm, ?_⟩
  rw [h.killed, hexited, Server.State.released, Server.State.released, hmain]

theorem followed_of_dropped {w : Server.State} {p : Process} (hexited : p.exited = w.exited)
    (hkilled : p.killed = true → w.released = true ∧ w.exited = none)
    (hreleased : w.released = true → w.exited = none → p.killed = true ∨ w.returned = true) :
    Followed w (if w.returned = true ∧ p.exited = none then p.kill else p) := by
  have hreturned : w.returned = true → w.released = true := by
    unfold Server.State.returned Server.State.released
    cases w.main <;> simp
  split
  · rename_i hdropped
    rw [hexited] at hdropped
    exact ⟨hexited, fun _ => ⟨hreturned hdropped.1, hdropped.2⟩, fun _ => rfl⟩
  · rename_i hkept
    refine ⟨hexited, hkilled, fun ⟨hreleased', hnone⟩ => ?_⟩
    exact (hreleased hreleased' hnone).resolve_right fun hret => hkept ⟨hret, hexited.trans hnone⟩

theorem Followed.step {v w : Server.State} {e : Server.Event} {p : Process} (h : Followed v p)
    (hreported : Server.Reported v) (hstepped : Server.Stepped v e w) :
    Followed w (p.served e w) := by
  have hpending (status : ExitStatus)
      (hpc : v.main = .sendSinkClosed status ∨ v.main = .sendExit status) : p.killed ≠ true := by
    intro hkilled
    rw [h.killed, hreported.pending status hpc] at hkilled
    cases hkilled.2
  have hrunning (hpc : v.main = .select ∨ v.main = .kill) :
      p.exited = none ∧ p.killed ≠ true := by
    refine ⟨h.exited.trans (hreported.running hpc), fun hkilled => ?_⟩
    rw [h.killed, Server.State.released] at hkilled
    rcases hpc with hpc | hpc <;> simp [hpc] at hkilled
  have hreleased (hpc : v.main = .join) : p.killed = true ↔ v.exited = none := by
    rw [h.killed, Server.State.released, hpc]
    exact and_iff_right rfl
  cases hstepped with
  | side | take | windowSizeChange | finished | leave =>
      exact followed_of_dropped h.exited h.killed.mp fun hr hnone =>
        Or.inl (h.killed.mpr ⟨hr, hnone⟩)
  | childExited pc =>
      refine ⟨rfl, fun hkilled => absurd hkilled (hrunning (Or.inl pc)).2, fun hkilled => ?_⟩
      cases hkilled.2
  | waitFailed pc =>
      exact followed_of_dropped h.exited (fun hkilled => absurd hkilled (hrunning (Or.inl pc)).2)
        fun _ _ => Or.inr rfl
  | @sinkClosedSent status pc =>
      exact followed_of_dropped h.exited
        (fun hkilled => absurd hkilled (hpending status (Or.inl pc))) fun hr => by cases hr
  | @exitSent status pc =>
      refine followed_of_dropped h.exited
        (fun hkilled => absurd hkilled (hpending status (Or.inr pc))) fun _ hnone => ?_
      rw [hreported.pending status (Or.inr pc)] at hnone
      cases hnone
  | @mainSendFailed status pc =>
      exact followed_of_dropped h.exited (fun hkilled => absurd hkilled (hpending status pc))
        fun _ _ => Or.inr rfl
  | killReceived pc =>
      exact followed_of_dropped h.exited (fun hkilled => absurd hkilled (hrunning (Or.inl pc)).2)
        fun hr => by cases hr
  | killed pc =>
      exact ⟨h.exited, fun _ => ⟨rfl, hreported.running (Or.inr pc)⟩, fun _ => rfl⟩
  | joined pc | receiverFailed pc | handlerFailed pc =>
      exact followed_of_dropped h.exited (fun hkilled => ⟨rfl, (hreleased pc).mp hkilled⟩)
        fun _ _ => Or.inr rfl

theorem followed_moved {a b : Joint ServerMain ClientMain Down Up} {m : Move ServerEvent}
    {v w : Server.State} (hmoved : Moved server a m b) (hserve : a.left.pc = .serve v)
    (hserve' : b.left.pc = .serve w) (hreported : Server.Reported v)
    (h : ∀ p ∈ a.left.processes, Followed v p) : ∀ p ∈ b.left.processes, Followed w p := by
  obtain ⟨⟨pc, system, processes⟩, c, forth, back⟩ := a
  cases hmoved with
  | own hstep =>
      cases ServerMain.step_spec hstep with
      | @serve e v' w' hpc _ _ hstep =>
          obtain rfl := ServerPc.serve.inj (hserve.symm.trans hpc)
          obtain rfl := ServerPc.serve.inj hserve'
          intro p hp
          obtain ⟨q, hq, rfl⟩ := List.mem_map.mp hp
          exact (h q hq).step hreported (Server.step_spec hstep)
      | recvFailed | handle | sendFailed => cases hserve'
  | sent hoffer hsent =>
      cases ServerMain.sent_spec hoffer hsent with
      | @action a v' w' hpc _ hstep =>
          obtain rfl := ServerPc.serve.inj (hserve.symm.trans hpc)
          obtain rfl := ServerPc.serve.inj hserve'
          cases Server.step_spec hstep with
          | side => exact fun p hp => (h p hp).same rfl rfl
      | accepted hpc => cases hserve.symm.trans hpc
      | rejected => cases hserve'
  | receive hback hreceive =>
      cases ServerMain.receive_spec hreceive with
      | @action a v' w' hpc hstep =>
          obtain rfl := ServerPc.serve.inj (hserve.symm.trans hpc)
          obtain rfl := ServerPc.serve.inj hserve'
          cases Server.step_spec hstep with
          | take | windowSizeChange | finished => exact fun p hp => (h p hp).same rfl rfl
      | request => cases hserve'

/-- A server that serves has one process, of which it knows. -/
theorem followed_of_reach {capacity : Nat} {ok : Conversation → Event → Prop}
    (h : Reach (step capacity) ok (new prep) s) {server : Server.State}
    (hserve : s.right.pc = .serve server) :
    ∃ p, s.right.processes = [p] ∧ Followed server p := by
  obtain ⟨p, hprocesses⟩ := (launched_of_reach h).process hserve
  suffices hfollowed : ∀ server, s.right.pc = .serve server →
      ∀ p ∈ s.right.processes, Followed server p by
    refine ⟨p, hprocesses, hfollowed server hserve p ?_⟩
    rw [hprocesses]
    exact List.mem_singleton_self p
  clear hserve hprocesses
  refine h.invariant (P := fun s => ∀ server, s.right.pc = .serve server →
    ∀ p ∈ s.right.processes, Followed server p) (fun _ hserve => (by cases hserve)) ?_
  intro a e b ha hfollowed _ hstep w hserve'
  by_cases hserves : ∃ v, a.right.pc = .serve v
  · obtain ⟨v, hserve⟩ := hserves
    have hreported : Server.Reported v := by
      have hsettled := (settled_of_reach ha).server
      rw [session, ServerMain.session, hserve] at hsettled
      exact hsettled
    cases e with
    | left m =>
        have hright := (move_spec hstep).right_eq
        rw [hright] at hserve' ⊢
        exact hfollowed w hserve'
    | right m =>
        obtain ⟨r, hmove, rfl⟩ := Option.map_eq_some_iff.mp hstep
        exact followed_moved (move_spec hmove) hserve hserve' hreported (hfollowed v hserve)
  · obtain ⟨param, hprocesses, rfl, ⟨sys, -, haccepted⟩, -⟩ := begins_serving (launched_of_reach ha)
      (fun v hserve => hserves ⟨v, hserve⟩) hstep hserve'
    obtain ⟨shell, -, hchild⟩ := haccepted.child
    rw [hprocesses, hchild]
    intro p hp
    rw [List.mem_singleton.mp hp]
    exact followed_new param _ _

theorem ClientMain.ok_of_exit {c : ClientMain} {code : Int} (hexit : c.exit = some code)
    (hcode : code ≠ 255) :
    ∃ client status, c.pc = .serve client ∧ client.main = .ok status ∧ code = exitCode status := by
  obtain ⟨pc, allocatePty, localListeners⟩ := c
  cases pc with
  | sendRequest | recvResponse | setUp => cases hexit
  | err => exact absurd (Option.some.inj hexit).symm hcode
  | serve client =>
      cases hmain : client.main with
      | ok status =>
          simp only [ClientMain.exit, hmain, Option.some.injEq] at hexit
          exact ⟨client, status, rfl, hmain, hexit.symm⟩
      | err =>
          simp only [ClientMain.exit, hmain, Option.some.injEq] at hexit
          exact absurd hexit.symm hcode
      | awaitStatus | joinHandlers | joinTasks => simp [ClientMain.exit, hmain] at hexit

/-- The exit code of the client is that of the process the server has started for it, unless
it is 255. -/
theorem exit_of_reach {capacity : Nat} {ok : Conversation → Event → Prop}
    (h : Reach (step capacity) ok (new prep) s) {code : Int}
    (hexit : s.left.exit = some code) (hcode : code ≠ 255) :
    ∃ server status, s.right.pc = .serve server ∧ server.exited = some status ∧
      code = exitCode status := by
  obtain ⟨client, status, hpc, hmain, hstatus⟩ := ClientMain.ok_of_exit hexit hcode
  have hserves : s.left.pc.apart = false := by
    rw [hpc]
    rfl
  obtain ⟨server, -, -, hserve, -, -⟩ := (launched_of_reach h).phase.serving hserves
  have hok : (session prep.req s).client.main = .ok status := by
    rw [session, ClientMain.session, hpc]
    exact hmain
  obtain ⟨hexited, -⟩ := Session.exited_of_ok (settled_of_reach h) hok
  rw [session, ServerMain.session, hserve] at hexited
  exact ⟨server, status, hserve, hexited, hstatus⟩

end Rlirsh.Launch
