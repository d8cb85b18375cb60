import Rlirsh.Lib.Machine
import Rlirsh.Execute.Server

/-!
A session: `serve` of the client against `serve` of the server, over a connection that
holds a bounded number of messages in either direction.  A connection that fails is one
whose reads or writes fail at one of its ends; what was under way stays there.
-/

namespace Rlirsh.Session

open Rlirsh.Protocol
open Rlirsh.Net
open Rlirsh.Terminal (PtyMaster)
open Rlirsh.Lib.Machine
open Rlirsh.Stream
open Rlirsh.Execute

structure State where
  client : Client.State
  server : Server.State
  up : List ClientAction
  down : List ServerAction

/-- A forwarded port: the listener of the client, and where the server connects to. -/
structure Port where
  listener : TcpListener
  connectAddrs : SocketAddrs SocketAddr

/-- The tasks of both sides have just been spawned. -/
def new (ptyMaster : Option PtyMaster) (ports : List Port) : State :=
  { client := Client.new ptyMaster.isSome (ports.map Port.listener)
    server := Server.new ptyMaster (ports.map Port.connectAddrs), up := [], down := [] }

inductive Event
  | client (e : Client.Event)
  | server (e : Server.Event)
deriving DecidableEq, Repr

/-- Put what an event outputs on a connection with room for `capacity` messages. -/
def push {T : Type} (capacity : Nat) (wire : List T) : Option T → Option (List T)
  | none => some wire
  | some m => if wire.length < capacity then some (wire ++ [m]) else none

/-- Take what an event asks for from the connection. -/
def pull {T : Type} [DecidableEq T] (wire : List T) : Option T → Option (List T)
  | none => some wire
  | some m =>
      match wire with
      | [] => none
      | m' :: wire => if m' = m then some wire else none

/-- One step of a session over a connection that holds `capacity` messages each way. -/
def step (capacity : Nat) (s : State) : Event → Option State
  | .client e => do
      let client ← Client.step s.client e
      let up ← push capacity s.up (s.client.output e)
      let down ← pull s.down e.input
      some { s with client, up, down }
  | .server e => do
      let server ← Server.step s.server e
      let down ← push capacity s.down (s.server.output e)
      let up ← pull s.up e.input
      some { s with server, up, down }

/-- The dispatch of a message that has been taken, if it has one. -/
def dispatched (message : Option StreamAction) (e : Event) : List Event :=
  if message.isSome then [e] else []

/-- The first message in the send queue of the client comes to the server. -/
def passUp (m : ClientAction) : List Event :=
  [.client (.side (.sender .recv)), .client (.side (.sender .sent)), .server (.receive m)] ++
    dispatched (Message.toStream m) (.server (.side (.receiver .dispatch)))

/-- The first message in the send queue of the server comes to the client. -/
def passDown (m : ServerAction) : List Event :=
  [.server (.side (.sender .recv)), .server (.side (.sender .sent)), .client (.receive m)] ++
    dispatched (Message.toStream m) (.client (.side (.receiver .dispatch)))

end Rlirsh.Session
