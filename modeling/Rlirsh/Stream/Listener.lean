import Mathlib.Algebra.Group.Nat.Defs
import Rlirsh.Net

namespace Rlirsh.Stream.Listener

open Rlirsh.Protocol
open Rlirsh.Net

/-- The await points of `Task::handle`, and the ways it ends. -/
inductive Pc
  | accept
  | sendConnect
  | awaitResponse
  | sendClosed
  | done
  | panicked
deriving DecidableEq, Repr

structure Task where
  listener : TcpListener
  pc : Pc
  -- number of the connection that is accepted or requested
  conn : Nat
  rx : List Response
deriving DecidableEq, Repr

/-- `Task::new`, spawned. -/
def Task.new (listener : TcpListener) : Task := { listener, pc := .accept, conn := 0, rx := [] }

/-- The stream of the connection. -/
def Task.id (t : Task) (port : PortId) : StreamId := .forward port ⟨t.conn⟩

/-- The task has returned or panicked. -/
def Task.ended (t : Task) : Bool :=
  match t.pc with
  | .done | .panicked => true
  | _ => false

/-- The next turn of the loop.  To yield a number, `(0..)` computes the one after it,
which has to be a `u32`. -/
def Task.next (t : Task) : Task :=
  if t.conn + 2 < 2 ^ 32 then { t with pc := .accept, conn := t.conn + 1, rx := [] }
  else { t with pc := .panicked, rx := [] }

/-- The action the task is enqueueing. -/
def Task.pending (t : Task) : Option ListenerAction :=
  match t.pc with
  | .sendConnect => some (.connect ⟨t.conn⟩)
  | .sendClosed => some .listenerClosed
  | _ => none

/-- The task holds the inbox of its current request. -/
def Task.requesting (t : Task) : Bool :=
  match t.pc with
  | .sendConnect | .awaitResponse => true
  | _ => false

/-- Capacity of the inbox. -/
def inboxCapacity : Nat := 1

/-- The completions a listener can wait for. -/
inductive Event
  | accepted
  | acceptFailed
  | taskEnd
  | sent
  | sendFailed
  | response
deriving DecidableEq, Repr

end Rlirsh.Stream.Listener

namespace Rlirsh.Stream.Connecter

open Rlirsh.Protocol
open Rlirsh.Net

/-- The await point of `Task::handle`, and its end. -/
inductive Pc
  | recv
  | done
deriving DecidableEq, Repr

structure Task where
  addr : SocketAddrs SocketAddr
  pc : Pc
  rx : List ListenerAction
deriving DecidableEq, Repr

/-- `Task::new`, spawned. -/
def Task.new (addr : SocketAddrs SocketAddr) : Task := { addr, pc := .recv, rx := [] }

/-- Capacity of the inbox. -/
def inboxCapacity : Nat := 128

/-- The completions a connecter can wait for. -/
inductive Event
  | recv
  | recvNone
deriving DecidableEq, Repr

/-- The await points of the task that `Task::connect` spawns, and the ways it ends. -/
inductive ConnectPc
  | connecting
  | sendResponse (res : Response)
  | done
  | panicked
deriving DecidableEq, Repr

structure Connect where
  id : StreamId
  addr : SocketAddrs SocketAddr
  pc : ConnectPc
  -- history: where the stream is connected to, once it is
  peer : Option SocketAddr
deriving DecidableEq, Repr

/-- The task that `Task::connect` spawns. -/
def Connect.new (id : StreamId) (addr : SocketAddrs SocketAddr) : Connect :=
  { id, addr, pc := .connecting, peer := none }

@[simp] theorem Connect.new_id (id : StreamId) (addr : SocketAddrs SocketAddr) :
    (Connect.new id addr).id = id := rfl

/-- `SocketAddrs::connect` tries the addresses one after the other, and returns a stream to
one of them or an error. -/
def Connect.reaches (t : Connect) : Except SerialError SocketAddr → Bool
  | .ok peer => peer ∈ t.addr.addrs
  | .error _ => true

/-- It has returned. -/
def Connect.connected (t : Connect) (res : Except SerialError SocketAddr) : Connect :=
  { t with
    pc := .sendResponse
      (match res with
        | .ok _ => .ok
        | .error error => .err error)
    peer := res.toOption }

/-- The task has returned or panicked. -/
def Connect.ended (t : Connect) : Bool :=
  match t.pc with
  | .done | .panicked => true
  | _ => false

/-- The completions the task can wait for. -/
inductive ConnectEvent
  | connected (res : Except SerialError SocketAddr)
  | sent
  | sendFailed
deriving DecidableEq, Repr

end Rlirsh.Stream.Connecter
