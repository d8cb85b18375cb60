import Mathlib.Data.List.Basic

namespace Rlirsh.Protocol

abbrev Bytes := List UInt8

/-- The messages of an error and of its causes, outermost first. -/
abbrev Report := List String

structure SerialError where
  chain : Report
deriving DecidableEq, Repr

inductive Response
  | ok
  | err (error : SerialError)
deriving DecidableEq, Repr

inductive ExecuteCommand
  | loginShell
  | program (command : List String)
deriving DecidableEq, Repr

structure WindowSize where
  width : UInt16
  height : UInt16
deriving DecidableEq, Repr

structure PtyParam where
  windowSize : WindowSize
deriving DecidableEq, Repr

structure ExecuteRequest where
  command : ExecuteCommand
  envs : List (String × String)
  ptyParam : Option PtyParam
  connectAddrs : List String
deriving DecidableEq, Repr

inductive Request
  | execute (req : ExecuteRequest)
deriving DecidableEq, Repr

inductive ExitStatus
  | code (value : Int)
  | signal (number : Int)
deriving DecidableEq, Repr

/-- Position of a forwarding in the list of `-L` specifiers. -/
structure PortId where
  id : Nat
deriving DecidableEq, Repr

/-- Number of an accepted connection of one listener, a `u32` in the source;
the counter that yields it lives in `Rlirsh.Stream.Listener`. -/
structure ConnId where
  id : Nat
deriving DecidableEq, Repr

inductive StreamId
  | stdin
  | stdout
  | stderr
  | forward (port : PortId) (conn : ConnId)
deriving DecidableEq, Repr

/-- The stream of a forwarded connection. -/
def StreamId.isForward : StreamId → Bool
  | .forward _ _ => true
  | .stdin | .stdout | .stderr => false

inductive SourceAction
  | data (bytes : Bytes)
  | sourceClosed
deriving DecidableEq, Repr

inductive SinkAction
  | ack
  | sinkClosed
deriving DecidableEq, Repr

inductive ListenerAction
  | connect (conn : ConnId)
  | listenerClosed
deriving DecidableEq, Repr

inductive ConnecterAction
  | connectResponse (res : Response)
deriving DecidableEq, Repr

inductive StreamAction
  | source (id : StreamId) (action : SourceAction)
  | sink (id : StreamId) (action : SinkAction)
  | listener (port : PortId) (action : ListenerAction)
  | connecter (id : StreamId) (action : ConnecterAction)
deriving DecidableEq, Repr

inductive ServerAction
  | stream (action : StreamAction)
  | exit (status : ExitStatus)
  | finished
deriving DecidableEq, Repr

inductive ClientAction
  | stream (action : StreamAction)
  | windowSizeChange (size : WindowSize)
  | finished
deriving DecidableEq, Repr

/-- `MAX_STREAM_PACKET_SIZE`: the size of a source's read buffer. -/
def maxStreamPacketSize : Nat := 4096

/-- Payload of one action of a source. -/
def SourceAction.payload : SourceAction → Bytes
  | .data bytes => bytes
  | .sourceClosed => []

/-- Concatenated payloads of a sequence of source actions. -/
def payload (actions : List SourceAction) : Bytes :=
  actions.flatMap SourceAction.payload

def SourceAction.isData : SourceAction → Bool
  | .data _ => true
  | .sourceClosed => false

@[simp] theorem payload_nil : payload [] = [] := rfl

@[simp] theorem payload_append (as bs : List SourceAction) :
    payload (as ++ bs) = payload as ++ payload bs := by
  simp [payload]

@[simp] theorem payload_data (bytes : Bytes) (as : List SourceAction) :
    payload (.data bytes :: as) = bytes ++ payload as := rfl

@[simp] theorem payload_sourceClosed (as : List SourceAction) :
    payload (.sourceClosed :: as) = payload as := rfl

theorem length_eq_data_add_closed (actions : List SourceAction) :
    actions.length = actions.countP SourceAction.isData + actions.count .sourceClosed := by
  induction actions with
  | nil => rfl
  | cons a as ih => cases a <;> simp [List.countP_cons, SourceAction.isData] <;> omega

theorem length_eq_ack_add_closed (actions : List SinkAction) :
    actions.length = actions.count .ack + actions.count .sinkClosed := by
  induction actions with
  | nil => rfl
  | cons a as ih => cases a <;> simp <;> omega

end Rlirsh.Protocol
