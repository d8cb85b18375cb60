import Rlirsh.Launch.Spawn
import Rlirsh.Lib.Parties
import Rlirsh.Session.Transit

/-!
The life of a connection between a client and a server: the request, the response, and the
session of the two `serve` that follows if the request is accepted.
-/

namespace Rlirsh.Launch

open Rlirsh.Protocol
open Rlirsh.Net
open Rlirsh.Lib
open Rlirsh.Lib.Machine
open Rlirsh.Lib.Parties (Party Joint Move Moved)
open Rlirsh.Execute

/-- What the client sends. -/
inductive Up
  | request (req : Request)
  | action (action : ClientAction)
deriving DecidableEq, Repr

/-- What the server sends. -/
inductive Down
  | response (res : Response)
  | action (action : ServerAction)
deriving DecidableEq, Repr

def Up.action? : Up → Option ClientAction
  | .request _ => none
  | .action a => some a

def Down.action? : Down → Option ServerAction
  | .response _ => none
  | .action a => some a

/-- Where `main` of the client is. -/
inductive ClientPc
  | sendRequest (req : ExecuteRequest)
  | recvResponse
  -- between `connect` and the tasks of `serve`
  | setUp
  | serve (client : Client.State)
  | err (chain : Report)

structure ClientMain where
  pc : ClientPc
  allocatePty : Bool
  localListeners : List TcpListener

inductive ClientEvent
  | sendFailed (causes : Report)
  | recvFailed (causes : Report)
  | setUp (res : Except Report Unit)
  | serve (e : Client.Event)

/-- An error with the messages of `chain`. -/
def report (chain : Report) : Errors.Report := Errors.toError ⟨chain⟩

def ClientMain.step (c : ClientMain) : ClientEvent → Option ClientMain
  | .sendFailed causes =>
      match c.pc with
      | .sendRequest _ => some { c with pc := .err ("failed to send request" :: causes) }
      | _ => none
  | .recvFailed causes =>
      match c.pc with
      | .recvResponse => some { c with pc := .err ("failed to receive response" :: causes) }
      | _ => none
  | .setUp res =>
      match c.pc, res with
      | .setUp, .ok _ =>
          some { c with pc := .serve (Client.new c.allocatePty c.localListeners) }
      | .setUp, .error causes => some { c with pc := .err ("internal error" :: causes) }
      | _, _ => none
  | .serve e =>
      match c.pc, e with
      | .serve _, .side (.sender .sent) | .serve _, .receive _ => none
      | .serve client, e => (Client.step client e).map fun client => { c with pc := .serve client }
      | _, _ => none

/-- The message the client is writing, as long as its process is there. -/
def ClientMain.offer (c : ClientMain) : Option Up :=
  match c.pc with
  | .sendRequest req => some (.request (.execute req))
  | .serve client => if client.returned then none else client.side.sending.head?.map .action
  | _ => none

def ClientMain.sent (c : ClientMain) : Option ClientMain :=
  match c.pc with
  | .sendRequest _ => some { c with pc := .recvResponse }
  | .serve client =>
      (Client.step client (.side (.sender .sent))).map fun client => { c with pc := .serve client }
  | _ => none

/-- The client is in `recv_message`. -/
def ClientMain.reads (c : ClientMain) : Bool :=
  match c.pc with
  | .recvResponse => true
  | .serve client => !client.returned && decide (client.side.receiver = .recv)
  | _ => false

def ClientMain.receive (c : ClientMain) (m : Down) : Option ClientMain :=
  match c.pc, m with
  | .recvResponse, .response res =>
      match (Errors.toResult res : Except Errors.Report Unit) with
      | .ok _ => some { c with pc := .setUp }
      | .error err =>
          some { c with
            pc := .err ("received error response from the server" :: Errors.Eyre.chain err) }
  | .serve client, .action a =>
      (Client.step client (.receive a)).map fun client => { c with pc := .serve client }
  | _, _ => none

def client : Party ClientMain ClientEvent Up Down :=
  { step := ClientMain.step, offer := ClientMain.offer, sent := ClientMain.sent
    reads := ClientMain.reads, receive := ClientMain.receive }

/-- Where `serve` of the server is with a connection. -/
inductive ServerPc
  | recvRequest
  | handle (req : ExecuteRequest)
  | sendResponse (res : Except Report ServeParam)
  | serve (server : Server.State)
  | err (chain : Report)

structure ServerMain where
  pc : ServerPc
  -- what the calls of `handle_request` have come to
  system : Option System
  processes : List Process

inductive ServerEvent
  | recvFailed (causes : Report)
  | handle (sys : System)
  | sendFailed (causes : Report)
  | serve (e : Server.Event)

/-- What a step of `serve` does to its process.  When `serve` returns the `Child` is dropped. -/
def Process.served (e : Server.Event) (server : Server.State) (p : Process) : Process :=
  match e with
  | .childExited status => { p with exited := some status }
  | .killed => p.kill
  | _ => if server.returned = true ∧ p.exited = none then p.kill else p

def ServerMain.step (v : ServerMain) : ServerEvent → Option ServerMain
  | .recvFailed causes =>
      match v.pc with
      | .recvRequest => some { v with pc := .err ("failed to receive request" :: causes) }
      | _ => none
  | .handle sys =>
      match v.pc with
      | .handle req =>
          some { pc := .sendResponse (handleRequest sys req).1, system := some sys
                 processes := (handleRequest sys req).2 }
      | _ => none
  | .sendFailed causes =>
      match v.pc with
      | .sendResponse _ =>
          -- the `Child` is dropped with the result of `handle_request`
          some { v with pc := .err ("failed to send response" :: causes)
                        processes := v.processes.map Process.kill }
      | _ => none
  | .serve e =>
      match v.pc, e with
      | .serve _, .side (.sender .sent) | .serve _, .receive _ => none
      | .serve server, e =>
          (Server.step server e).map fun server =>
            { v with pc := .serve server, processes := v.processes.map (Process.served e server) }
      | _, _ => none

def ServerMain.offer (v : ServerMain) : Option Down :=
  match v.pc with
  | .sendResponse (.ok _) => some (.response .ok)
  | .sendResponse (.error chain) =>
      some (.response (Errors.response (.error (report chain) : Except Errors.Report Unit)))
  | .serve server => server.side.sending.head?.map .action
  | _ => none

def ServerMain.sent (v : ServerMain) : Option ServerMain :=
  match v.pc with
  | .sendResponse (.ok param) => some { v with pc := .serve (serving param) }
  | .sendResponse (.error chain) => some { v with pc := .err chain }
  | .serve server =>
      (Server.step server (.side (.sender .sent))).map fun server => { v with pc := .serve server }
  | _ => none

def ServerMain.reads (v : ServerMain) : Bool :=
  match v.pc with
  | .recvRequest => true
  | .serve server => decide (server.side.receiver = .recv)
  | _ => false

def ServerMain.receive (v : ServerMain) (m : Up) : Option ServerMain :=
  match v.pc, m with
  | .recvRequest, .request (.execute req) => some { v with pc := .handle req }
  | .serve server, .action a =>
      (Server.step server (.receive a)).map fun server => { v with pc := .serve server }
  | _, _ => none

def server : Party ServerMain ServerEvent Down Up :=
  { step := ServerMain.step, offer := ServerMain.offer, sent := ServerMain.sent
    reads := ServerMain.reads, receive := ServerMain.receive }

abbrev Conversation := Joint ClientMain ServerMain Up Down

abbrev Event := Parties.Event ClientEvent ServerEvent

/-- What a client has prepared: a request, and a listener for each port it names. -/
structure Prepared where
  req : ExecuteRequest
  localListeners : List TcpListener
  length_eq : localListeners.length = req.connectAddrs.length

/-- The connection has been made: the client has a request, and the server has not. -/
def ClientMain.new (req : ExecuteRequest) (localListeners : List TcpListener) : ClientMain :=
  { pc := .sendRequest req, allocatePty := req.ptyParam.isSome, localListeners }

def ServerMain.new : ServerMain := { pc := .recvRequest, system := none, processes := [] }

def new (prep : Prepared) : Conversation :=
  { left := .new prep.req prep.localListeners, right := .new, forth := [], back := [] }

def step (capacity : Nat) : Conversation → Event → Option Conversation :=
  Parties.step client server capacity

/-- What the client process exits with. -/
def exitCode : ExitStatus → Int
  | .code code => code
  | .signal num => 128 + num

/-- The exit code of the client, once its `main` has returned. -/
def ClientMain.exit (c : ClientMain) : Option Int :=
  match c.pc with
  | .err _ => some 255
  | .serve client =>
      match client.main with
      | .ok status => some (exitCode status)
      | .err => some 255
      | _ => none
  | _ => none

/-- What the steps of the client are. -/
inductive ClientMain.Stepped (c : ClientMain) : ClientEvent → ClientMain → Prop
  | sendFailed {req : ExecuteRequest} {causes : Report} (pc : c.pc = .sendRequest req) :
      Stepped c (.sendFailed causes) { c with pc := .err ("failed to send request" :: causes) }
  | recvFailed {causes : Report} (pc : c.pc = .recvResponse) :
      Stepped c (.recvFailed causes) { c with pc := .err ("failed to receive response" :: causes) }
  | setUp (pc : c.pc = .setUp) :
      Stepped c (.setUp (.ok ()))
        { c with pc := .serve (Client.new c.allocatePty c.localListeners) }
  | notSetUp {causes : Report} (pc : c.pc = .setUp) :
      Stepped c (.setUp (.error causes)) { c with pc := .err ("internal error" :: causes) }
  | serve {e : Client.Event} {client client' : Client.State} (pc : c.pc = .serve client)
      (not_sent : e ≠ .side (.sender .sent)) (not_receive : ∀ m, e ≠ .receive m)
      (step : Client.step client e = some client') :
      Stepped c (.serve e) { c with pc := .serve client' }

theorem ClientMain.step_spec {c d : ClientMain} {e : ClientEvent} (h : c.step e = some d) :
    c.Stepped e d := by
  cases e with
  | sendFailed causes =>
      simp only [ClientMain.step] at h
      split at h
      · rename_i req pc
        obtain rfl := Option.some.inj h
        exact .sendFailed pc
      · cases h
  | recvFailed causes =>
      simp only [ClientMain.step] at h
      split at h
      · rename_i pc
        obtain rfl := Option.some.inj h
        exact .recvFailed pc
      · cases h
  | setUp res =>
      simp only [ClientMain.step] at h
      split at h
      · rename_i pc
        obtain rfl := Option.some.inj h
        exact .setUp pc
      · rename_i causes pc
        obtain rfl := Option.some.inj h
        exact .notSetUp pc
      · cases h
  | serve e =>
      simp only [ClientMain.step] at h
      split at h
      · cases h
      · cases h
      · rename_i client pc hsent hreceive
        obtain ⟨client', hstep, rfl⟩ := Option.map_eq_some_iff.mp h
        exact .serve pc hsent hreceive hstep
      · cases h

/-- What the end of a message the client has been writing comes to. -/
inductive ClientMain.Sent (c : ClientMain) : Up → ClientMain → Prop
  | request {req : ExecuteRequest} (pc : c.pc = .sendRequest req) :
      Sent c (.request (.execute req)) { c with pc := .recvResponse }
  | action {a : ClientAction} {client client' : Client.State} (pc : c.pc = .serve client)
      (sending : client.side.sending.head? = some a)
      (step : Client.step client (.side (.sender .sent)) = some client') :
      Sent c (.action a) { c with pc := .serve client' }

theorem ClientMain.sent_spec {c d : ClientMain} {m : Up} (hoffer : c.offer = some m)
    (h : c.sent = some d) : c.Sent m d := by
  unfold ClientMain.sent at h
  split at h
  · rename_i req pc
    simp only [ClientMain.offer, pc, Option.some.injEq] at hoffer
    subst hoffer
    obtain rfl := Option.some.inj h
    exact .request pc
  · rename_i client pc
    obtain ⟨client', hstep, rfl⟩ := Option.map_eq_some_iff.mp h
    simp only [ClientMain.offer, pc] at hoffer
    split at hoffer
    · cases hoffer
    · obtain ⟨a, hsending, rfl⟩ := Option.map_eq_some_iff.mp hoffer
      exact .action pc hsending hstep
  · cases h

/-- What a message the client has read comes to. -/
inductive ClientMain.Received (c : ClientMain) : Down → ClientMain → Prop
  | accepted (pc : c.pc = .recvResponse) : Received c (.response .ok) { c with pc := .setUp }
  | rejected {error : SerialError} (pc : c.pc = .recvResponse) :
      Received c (.response (.err error))
        { c with
          pc := .err ("received error response from the server" ::
            Errors.Eyre.chain (Errors.toError error : Errors.Report)) }
  | action {a : ServerAction} {client client' : Client.State} (pc : c.pc = .serve client)
      (step : Client.step client (.receive a) = some client') :
      Received c (.action a) { c with pc := .serve client' }

theorem ClientMain.receive_spec {c d : ClientMain} {m : Down} (h : c.receive m = some d) :
    c.Received m d := by
  unfold ClientMain.receive at h
  split at h
  · rename_i res pc
    cases res with
    | ok =>
        obtain rfl := Option.some.inj h
        exact .accepted pc
    | err error =>
        obtain rfl := Option.some.inj h
        exact .rejected pc
  · rename_i client a pc
    obtain ⟨client', hstep, rfl⟩ := Option.map_eq_some_iff.mp h
    exact .action pc hstep
  · cases h

/-- What the steps of the server are. -/
inductive ServerMain.Stepped (v : ServerMain) : ServerEvent → ServerMain → Prop
  | recvFailed {causes : Report} (pc : v.pc = .recvRequest) :
      Stepped v (.recvFailed causes) { v with pc := .err ("failed to receive request" :: causes) }
  | handle {req : ExecuteRequest} {sys : System} (pc : v.pc = .handle req) :
      Stepped v (.handle sys)
        { pc := .sendResponse (handleRequest sys req).1, system := some sys
          processes := (handleRequest sys req).2 }
  | sendFailed {res : Except Report (ServeParam)} {causes : Report}
      (pc : v.pc = .sendResponse res) :
      Stepped v (.sendFailed causes)
        { v with pc := .err ("failed to send response" :: causes)
                 processes := v.processes.map Process.kill }
  | serve {e : Server.Event} {server server' : Server.State} (pc : v.pc = .serve server)
      (not_sent : e ≠ .side (.sender .sent)) (not_receive : ∀ m, e ≠ .receive m)
      (step : Server.step server e = some server') :
      Stepped v (.serve e)
        { v with pc := .serve server', processes := v.processes.map (Process.served e server') }

theorem ServerMain.step_spec {v w : ServerMain} {e : ServerEvent}
    (h : v.step e = some w) : v.Stepped e w := by
  cases e with
  | recvFailed causes =>
      simp only [ServerMain.step] at h
      split at h
      · rename_i pc
        obtain rfl := Option.some.inj h
        exact .recvFailed pc
      · cases h
  | handle sys =>
      simp only [ServerMain.step] at h
      split at h
      · rename_i req pc
        obtain rfl := Option.some.inj h
        exact .handle pc
      · cases h
  | sendFailed causes =>
      simp only [ServerMain.step] at h
      split at h
      · rename_i res pc
        obtain rfl := Option.some.inj h
        exact .sendFailed pc
      · cases h
  | serve e =>
      simp only [ServerMain.step] at h
      split at h
      · cases h
      · cases h
      · rename_i server pc hsent hreceive
        obtain ⟨server', hstep, rfl⟩ := Option.map_eq_some_iff.mp h
        exact .serve pc hsent hreceive hstep
      · cases h

/-- What the end of a message the server has been writing comes to. -/
inductive ServerMain.Sent (v : ServerMain) : Down → ServerMain → Prop
  | accepted {param : ServeParam} (pc : v.pc = .sendResponse (.ok param)) :
      Sent v (.response .ok) { v with pc := .serve (serving param) }
  | rejected {chain : Report} (pc : v.pc = .sendResponse (.error chain)) :
      Sent v (.response (Errors.response (.error (report chain) : Except Errors.Report Unit)))
        { v with pc := .err chain }
  | action {a : ServerAction} {server server' : Server.State} (pc : v.pc = .serve server)
      (sending : server.side.sending.head? = some a)
      (step : Server.step server (.side (.sender .sent)) = some server') :
      Sent v (.action a) { v with pc := .serve server' }

theorem ServerMain.sent_spec {v w : ServerMain} {m : Down} (hoffer : v.offer = some m)
    (h : v.sent = some w) : v.Sent m w := by
  unfold ServerMain.sent at h
  split at h
  · rename_i param pc
    simp only [ServerMain.offer, pc, Option.some.injEq] at hoffer
    subst hoffer
    obtain rfl := Option.some.inj h
    exact .accepted pc
  · rename_i chain pc
    simp only [ServerMain.offer, pc, Option.some.injEq] at hoffer
    subst hoffer
    obtain rfl := Option.some.inj h
    exact .rejected pc
  · rename_i server pc
    obtain ⟨server', hstep, rfl⟩ := Option.map_eq_some_iff.mp h
    simp only [ServerMain.offer, pc] at hoffer
    obtain ⟨a, hsending, rfl⟩ := Option.map_eq_some_iff.mp hoffer
    exact .action pc hsending hstep
  · cases h

/-- What a message the server has read comes to. -/
inductive ServerMain.Received (v : ServerMain) : Up → ServerMain → Prop
  | request {req : ExecuteRequest} (pc : v.pc = .recvRequest) :
      Received v (.request (.execute req)) { v with pc := .handle req }
  | action {a : ClientAction} {server server' : Server.State} (pc : v.pc = .serve server)
      (step : Server.step server (.receive a) = some server') :
      Received v (.action a) { v with pc := .serve server' }

theorem ServerMain.receive_spec {v w : ServerMain} {m : Up} (h : v.receive m = some w) :
    v.Received m w := by
  unfold ServerMain.receive at h
  split at h
  · rename_i req pc
    obtain rfl := Option.some.inj h
    exact .request pc
  · rename_i server a pc
    obtain ⟨server', hstep, rfl⟩ := Option.map_eq_some_iff.mp h
    exact .action pc hstep
  · cases h

end Rlirsh.Launch
