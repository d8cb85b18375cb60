import Rlirsh.Lib.Table
import Rlirsh.Stream.Source
import Rlirsh.Stream.Sink
import Rlirsh.Stream.Listener

/-!
One side of a session: all the tasks of the module `stream` with the `RecvRouter` they
are registered in (`stream/recv_router.rs`) and the send queue they share, the sender
task that empties the queue, and the receiver task as far as both sides have it in
common.  The module is generic in the messages of the side, as the source is.
-/

namespace Rlirsh.Stream

open Rlirsh.Protocol
open Rlirsh.Net
open Rlirsh.Lib

/-- What the tasks need of the messages: `From<StreamAction>`, `Finished`, and whether
the sender waits for the receiver before it sends `Finished`. -/
class Message (T : Type) where
  stream : StreamAction → T
  toStream : T → Option StreamAction
  finished : T
  waitsForNotify : Bool
  toStream_stream (action : StreamAction) : toStream (stream action) = some action
  toStream_finished : toStream finished = none

attribute [simp] Message.toStream_stream Message.toStream_finished

instance : Message ClientAction where
  stream := .stream
  toStream
    | .stream action => some action
    | _ => none
  finished := .finished
  waitsForNotify := false
  toStream_stream _ := rfl
  toStream_finished := rfl

instance : Message ServerAction where
  stream := .stream
  toStream
    | .stream action => some action
    | _ => none
  finished := .finished
  waitsForNotify := true
  toStream_stream _ := rfl
  toStream_finished := rfl

/-- The await points of the sender's `Task::handle`.  That `send_message` writes a
message or fails, and that the report of the error does not wait, is `Rlirsh.Link`. -/
inductive SenderPc (T : Type)
  | recv
  | send (m : T)
  | notified
  | finish
  | done
deriving DecidableEq, Repr

/-- Where the receiver's `Task::handle` is. -/
inductive ReceiverPc
  | recv
  -- the handler has been found
  | dispatch (action : StreamAction)
  -- with what is left of the drained maps
  | shutdown (sinks sources : List StreamId)
  -- after `Finished`, or after a shutdown
  | done (finished : Bool)
  | failed (undelivered : Option StreamAction)
deriving DecidableEq, Repr

/-- The receiver is sending to a source, with a clone of the sender in the map. -/
def ReceiverPc.sendsTo (pc : ReceiverPc) (id : StreamId) : Bool :=
  match pc with
  | .dispatch (.sink id' _) => id' = id
  | _ => false

/-- The receiver holds a sender of the inbox of a source besides the one in the map. -/
def ReceiverPc.holdsSource (pc : ReceiverPc) (id : StreamId) : Bool :=
  match pc with
  | .dispatch (.sink id' _) => id' = id
  | .shutdown _ sources => id ∈ sources
  | _ => false

def ReceiverPc.holdsSink (pc : ReceiverPc) (id : StreamId) : Bool :=
  match pc with
  | .dispatch (.source id' _) => id' = id
  | .shutdown sinks _ => id ∈ sinks
  | _ => false

def ReceiverPc.holdsConnecter (pc : ReceiverPc) (port : PortId) : Bool :=
  match pc with
  | .dispatch (.listener port' _) => port' = port
  | .shutdown _ _ => true
  | _ => false

structure Side (T : Type) where
  sources : Table StreamId Source.Task
  sinks : Table StreamId Sink.Task
  listeners : Table PortId Listener.Task
  connecters : Table PortId Connecter.Task
  connects : List Connecter.Connect
  -- the keys of the maps of the router
  sinkTxMap : List StreamId
  sourceTxMap : List StreamId
  connecterTxMap : List PortId
  listenerTxMap : List StreamId
  -- the sources whose sender in the map another one has replaced, and whether the receiver is
  -- still sending with a clone of it
  replaced : Table StreamId Bool
  queue : List T
  sender : SenderPc T
  isFailed : Bool
  -- reports in the error channel
  errors : Nat
  receiver : ReceiverPc
  -- the rest is history: what was enqueued (`Finished` once its sending is begun), what failed or
  -- was dropped after a failure, and what the receiver has put into an inbox
  log : List T
  lost : List T
  delivered : List StreamAction

/-- What the rest of the process contributes to a step. -/
structure Env where
  routerGone : Bool
  -- some other task holds a clone of the send queue
  held : Bool
  -- `finish_notify` has been notified
  permit : Bool
  taskEnd : Bool

namespace Side

variable {T : Type} [Message T]

/-- Capacity of the send queue. -/
def queueCapacity : Nat := 128

/-- `tx.send` on the send queue: waits for room. -/
def enqueue (s : Side T) (m : T) : Option (Side T) :=
  match s.sender with
  | .done => none
  | _ =>
      if s.queue.length < queueCapacity then
        some { s with queue := s.queue ++ [m], log := s.log ++ [m] }
      else none

/-- The receiving end of the send queue is gone, so that `tx.send` fails. -/
def queueGone (s : Side T) : Bool :=
  match s.sender with
  | .done => true
  | _ => false

def setSource (s : Side T) (id : StreamId) (t : Source.Task) : Side T :=
  { s with sources := s.sources.set id t }

def setSink (s : Side T) (id : StreamId) (t : Sink.Task) : Side T :=
  { s with sinks := s.sinks.set id t }

/-- The source of `id` has taken a step, if there is one. -/
def steppedSource (s : Side T) (id : StreamId) : Option Source.Task → Option (Side T)
  | none => none
  | some t => some (s.setSource id t)

/-- The sink of `id` has taken a step, if there is one. -/
def steppedSink (s : Side T) (id : StreamId) : Option Sink.Task → Option (Side T)
  | none => none
  | some t => some (s.setSink id t)

/-- No sender of the inbox of the source of `id` is left: another one has its place in the
map. -/
def orphaned (s : Side T) (id : StreamId) : Bool := s.replaced.get id = some false

/-- A step of the source of `id`. -/
def stepSource (env : Env) (s : Side T) (id : StreamId) (e : Source.Event) :
    Option (Side T) :=
  match s.sources.get id with
  | none => none
  | some t =>
      match e with
      | .deliver _ | .shutdown => none
      | .recvNone =>
          if s.orphaned id ∨
              (env.routerGone ∨ id ∉ s.sourceTxMap) ∧ s.receiver.holdsSource id = false then
            s.steppedSource id t.onRecvNone
          else none
      | .sent =>
          match t.pending with
          | none => none
          | some action =>
              match s.enqueue (Message.stream (.source id action)) with
              | none => none
              | some s => s.steppedSource id t.onSent
      | .sendFailed => if s.queueGone then s.steppedSource id t.onSendFailed else none
      | .read res => s.steppedSource id (t.onRead res)
      | .recv => s.steppedSource id t.onRecv

/-- A step of the sink of `id`. -/
def stepSink (env : Env) (s : Side T) (id : StreamId) (e : Sink.Event) :
    Option (Side T) :=
  match s.sinks.get id with
  | none => none
  | some t =>
      match e with
      | .deliver _ | .shutdown => none
      | .recvNone =>
          if (env.routerGone ∨ id ∉ s.sinkTxMap) ∧ s.receiver.holdsSink id = false then
            s.steppedSink id t.onRecvNone
          else none
      | .sent =>
          match t.pending with
          | none => none
          | some action =>
              match s.enqueue (Message.stream (.sink id action)) with
              | none => none
              | some s => s.steppedSink id t.onSent
      | .sendFailed => if s.queueGone then s.steppedSink id t.onSendFailed else none
      | .recv => s.steppedSink id t.onRecv
      | .written res => s.steppedSink id (t.onWritten res)
      | .flushed res => s.steppedSink id (t.onFlushed res)
      | .shutdownDone => s.steppedSink id t.onShutdown

/-- The assertions of `insert_source_tx` and `insert_sink_tx` hold for `id`. -/
def registrable (s : Side T) (id : StreamId) : Bool :=
  id ∉ s.sourceTxMap ∧ id ∉ s.sinkTxMap

/-- `source::Task::new` on the read half of a socket, spawned. -/
def registerSource (s : Side T) (id : StreamId) : Side T :=
  { s with sourceTxMap := s.sourceTxMap ++ [id], sources := s.sources.set id .new }

/-- `sink::Task::new` on the write half of a socket, spawned. -/
def registerSink (s : Side T) (id : StreamId) : Side T :=
  { s with sinkTxMap := s.sinkTxMap ++ [id], sinks := s.sinks.set id (.new .socket) }

/-- `insert_source_tx` with a key that is in the map: the sender that was there is dropped
before the assertion fails. -/
def replaceSource (s : Side T) (id : StreamId) : Side T :=
  { s with replaced :=
      if (s.replaced.get id).isSome then s.replaced
      else s.replaced.set id (s.receiver.sendsTo id) }

/-- Both, up to the first assertion that does not hold. -/
def register (s : Side T) (id : StreamId) : Side T :=
  if id ∈ s.sourceTxMap then s.replaceSource id
  -- the two maps gain and lose an identifier together, so that this is never so
  else if id ∈ s.sinkTxMap then s.registerSource id
  else (s.registerSource id).registerSink id

/-- No task of a drained map is still known under the identifier: connections are
numbered by the listener and no number is used twice. -/
def fresh (s : Side T) (id : StreamId) : Bool :=
  (id ∈ s.sourceTxMap ∨ (s.sources.get id).isNone) ∧
    (id ∈ s.sinkTxMap ∨ (s.sinks.get id).isNone)

def setListener (s : Side T) (port : PortId) (t : Listener.Task) : Side T :=
  { s with listeners := s.listeners.set port t }

def setConnecter (s : Side T) (port : PortId) (t : Connecter.Task) : Side T :=
  { s with connecters := s.connecters.set port t }

def setConnect (s : Side T) (i : Nat) (t : Connecter.Connect) : Side T :=
  { s with connects := s.connects.set i t }

/-- `RecvRouter::insert_listener_tx`, whose assertion is checked by the caller. -/
def insertListenerTx (s : Side T) (id : StreamId) : Side T :=
  { s with listenerTxMap := s.listenerTxMap ++ [id] }

/-- `RecvRouter::remove_listener_tx`, likewise. -/
def removeListenerTx (s : Side T) (id : StreamId) : Side T :=
  { s with listenerTxMap := s.listenerTxMap.erase id }

/-- The listener of `port` takes the response to its request for `id`: it removes its
inbox from the router, and registers the two tasks of an accepted connection. -/
def respond (s : Side T) (port : PortId) (t : Listener.Task) (id : StreamId)
    (res : Response) : Option (Side T) :=
  if id ∈ s.listenerTxMap then
    match res with
    | .err _ => some ((s.removeListenerTx id).setListener port t.next)
    | .ok =>
        if s.fresh id then
          some (((s.removeListenerTx id).register id).setListener port
            (if s.registrable id then t.next else { t with pc := .panicked, rx := [] }))
        else none
  else some (s.setListener port { t with pc := .panicked, rx := [] })

/-- A step of the listener of `port`. -/
def stepListener (env : Env) (s : Side T) (port : PortId) (e : Listener.Event) :
    Option (Side T) :=
  match s.listeners.get port with
  | none => none
  | some t =>
      match e, t.pc with
      | .accepted, .accept =>
          if t.id port ∈ s.listenerTxMap then
            some (s.setListener port { t with pc := .panicked })
          else
            some ((s.insertListenerTx (t.id port)).setListener port { t with pc := .sendConnect })
      | .acceptFailed, .accept => some (s.setListener port t.next)
      | .taskEnd, .accept =>
          if env.taskEnd then some (s.setListener port { t with pc := .sendClosed }) else none
      | .sent, .sendConnect =>
          match s.enqueue (Message.stream (.listener port (.connect ⟨t.conn⟩))) with
          | none => none
          | some s => some (s.setListener port { t with pc := .awaitResponse })
      | .sent, .sendClosed =>
          match s.enqueue (Message.stream (.listener port .listenerClosed)) with
          | none => none
          | some s => some (s.setListener port { t with pc := .done })
      | .sendFailed, .sendConnect =>
          if s.queueGone then some ((s.removeListenerTx (t.id port)).setListener port t.next)
          else none
      | .sendFailed, .sendClosed =>
          if s.queueGone then some (s.setListener port { t with pc := .done }) else none
      | .response, .awaitResponse =>
          match t.rx with
          | [] => none
          | res :: _ => s.respond port t (t.id port) res
      | _, _ => none

/-- A step of the connecter of `port`. -/
def stepConnecter (s : Side T) (port : PortId) (e : Connecter.Event) :
    Option (Side T) :=
  match s.connecters.get port with
  | none => none
  | some t =>
      match e, t.pc, t.rx with
      | .recv, .recv, .connect conn :: rx =>
          some { s with
            connecters := s.connecters.set port { t with rx }
            connects := s.connects ++ [.new (.forward port conn) t.addr] }
      | .recv, .recv, .listenerClosed :: rx =>
          some (s.setConnecter port { t with pc := .done, rx })
      | .recvNone, .recv, [] =>
          if port ∉ s.connecterTxMap ∧ s.receiver.holdsConnecter port = false then
            some (s.setConnecter port { t with pc := .done })
          else none
      | _, _, _ => none

/-- A step of the connect task with the index `i`.  There is no await between the
enqueueing of the response and the registration. -/
def stepConnect (s : Side T) (i : Nat) (e : Connecter.ConnectEvent) : Option (Side T) :=
  match s.connects[i]? with
  | none => none
  | some t =>
      match e, t.pc with
      | .connected res, .connecting =>
          if t.reaches res then some (s.setConnect i (t.connected res)) else none
      | .sent, .sendResponse res =>
          match s.enqueue (Message.stream (.connecter t.id (.connectResponse res))) with
          | none => none
          | some s =>
              match res with
              | .err _ => some (s.setConnect i { t with pc := .done })
              | .ok =>
                  if s.fresh t.id then
                    some ((s.register t.id).setConnect i
                      { t with pc := if s.registrable t.id then .done else .panicked })
                  else none
      | .sendFailed, .sendResponse _ =>
          if s.queueGone then some (s.setConnect i { t with pc := .done }) else none
      | _, _ => none

/-- No task of the side holds a clone of the send queue any more. -/
def quiet (s : Side T) : Bool :=
  decide (s.sources.All fun t => t.ended = true) &&
    decide (s.sinks.All fun t => t.ended = true) &&
    decide (s.listeners.All fun t => t.ended = true) &&
    decide (s.connecters.All fun t => t.pc = .done) &&
    s.connects.all Connecter.Connect.ended

inductive SenderEvent
  | recv
  | recvNone
  | notified
  | sent
  | failed
deriving DecidableEq, Repr

/-- `do_if_not_failed` on the sending of `Finished`. -/
def finish (s : Side T) : Side T :=
  if s.isFailed then { s with sender := .done }
  else { s with sender := .finish, log := s.log ++ [Message.finished] }

/-- A step of the sender.  After a failure the messages are dropped as they come. -/
def stepSender (env : Env) (s : Side T) (e : SenderEvent) : Option (Side T) :=
  match e, s.sender with
  | .recv, .recv =>
      match s.queue with
      | [] => none
      | m :: queue =>
          if s.isFailed then some { s with queue, lost := s.lost ++ [m] }
          else some { s with queue, sender := .send m }
  | .recvNone, .recv =>
      match s.queue with
      | [] =>
          if s.quiet ∧ env.held = false then
            if Message.waitsForNotify T then some { s with sender := .notified }
            else some s.finish
          else none
      | _ => none
  | .notified, .notified => if env.permit then some s.finish else none
  | .sent, .send _ => some { s with sender := .recv }
  | .sent, .finish => some { s with sender := .done }
  | .failed, .send m =>
      some { s with sender := .recv, isFailed := true, errors := s.errors + 1,
                    lost := s.lost ++ [m] }
  | .failed, .finish =>
      some { s with sender := .done, isFailed := true, errors := s.errors + 1,
                    lost := s.lost ++ [Message.finished] }
  | _, _ => none

/-- The message `send_message` is writing. -/
def sending (s : Side T) : List T :=
  match s.sender with
  | .send m => [m]
  | .finish => [Message.finished]
  | _ => []

/-- The map of the router a stream action is looked up in has its key. -/
def found (s : Side T) : StreamAction → Bool
  | .source id _ => id ∈ s.sinkTxMap
  | .sink id _ => id ∈ s.sourceTxMap
  | .listener port _ => port ∈ s.connecterTxMap
  | .connecter id _ => id ∈ s.listenerTxMap

/-- `recv_message` has returned a stream action: it is looked up at once. -/
def take (s : Side T) (action : StreamAction) : Side T :=
  { s with receiver := if s.found action then .dispatch action else .failed (some action) }

inductive ReceiverEvent
  | dispatch
  -- an error of `recv_message`, or the report of the sender; the drained maps come in any order
  | abort (reported : Bool) (sinks sources : List StreamId)
  | shutdownSink
  | shutdownSource
deriving DecidableEq, Repr

/-- The handler of `action` has it. -/
def handed (s : Side T) (action : StreamAction) : Side T :=
  { s with receiver := .recv, delivered := s.delivered ++ [action] }

/-- The handler of `action` has gone, and the `send` fails. -/
def unhanded (s : Side T) (action : StreamAction) : Side T :=
  { s with receiver := .failed (some action) }

/-- The sender found for `action` is one that has replaced another, and belongs to no
task: its `send` fails at once, which `source::Sender::send` ignores. -/
def discards (s : Side T) (action : StreamAction) : Bool :=
  match action with
  | .sink id _ => s.orphaned id
  | _ => false

/-- The receiver drops the clone it has sent to the source of `id` with. -/
def dropSender (s : Side T) (id : StreamId) : Side T :=
  { s with replaced :=
      if (s.replaced.get id).isSome then s.replaced.set id false else s.replaced }

/-- The `send` of `send_stream_action` completes. -/
def dispatch (s : Side T) (action : StreamAction) : Option (Side T) :=
  if s.discards action then some (s.handed action)
  else match action with
  | .source id a =>
      match s.sinks.get id with
      | none => none
      | some t =>
          if t.ended then some (s.unhanded action)
          else (s.handed action).steppedSink id (t.deliver a)
  | .sink id a =>
      match s.sources.get id with
      | none => none
      | some t => ((s.handed action).dropSender id).steppedSource id (t.deliver a)
  | .listener port a =>
      match s.connecters.get port with
      | none => none
      | some t =>
          if t.pc = .done then some (s.unhanded action)
          else if t.rx.length < Connecter.inboxCapacity then
            some ((s.handed action).setConnecter port { t with rx := t.rx ++ [a] })
          else none
  | .connecter (.forward port conn) (.connectResponse res) =>
      match s.listeners.get port with
      | none => none
      | some t =>
          if t.requesting = true ∧ t.conn = conn.id then
            if t.rx.length < Listener.inboxCapacity then
              some ((s.handed action).setListener port { t with rx := t.rx ++ [res] })
            else none
          else some (s.unhanded action)
  | .connecter _ _ => some (s.unhanded action)

/-- A step of the receiver that both sides have in common. -/
def stepReceiver (s : Side T) (e : ReceiverEvent) : Option (Side T) :=
  match e, s.receiver with
  | .dispatch, .dispatch action => s.dispatch action
  | .abort reported sinks sources, .recv =>
      if sinks.Perm s.sinkTxMap ∧ sources.Perm s.sourceTxMap ∧ (reported → 0 < s.errors) then
        some { s with
          receiver := .shutdown sinks sources
          errors := if reported then s.errors - 1 else s.errors
          sinkTxMap := [], sourceTxMap := [], connecterTxMap := [] }
      else none
  | .shutdownSink, .shutdown (id :: sinks) sources =>
      match s.sinks.get id with
      | none => none
      | some t => { s with receiver := .shutdown sinks sources }.steppedSink id t.shutdown
  | .shutdownSource, .shutdown [] (id :: sources) =>
      match s.sources.get id with
      | none => none
      | some t =>
          if s.orphaned id then some { s with receiver := .shutdown [] sources }
          else { s with receiver := .shutdown [] sources }.steppedSource id t.shutdown
  | _, _ => none

inductive Event
  | source (id : StreamId) (e : Source.Event)
  | sink (id : StreamId) (e : Sink.Event)
  | listener (port : PortId) (e : Listener.Event)
  | connecter (port : PortId) (e : Connecter.Event)
  | connect (i : Nat) (e : Connecter.ConnectEvent)
  | sender (e : SenderEvent)
  | receiver (e : ReceiverEvent)
deriving DecidableEq, Repr

def step (env : Env) (s : Side T) : Event → Option (Side T)
  | .source id e => s.stepSource env id e
  | .sink id e => s.stepSink env id e
  | .listener port e => s.stepListener env port e
  | .connecter port e => s.stepConnecter port e
  | .connect i e => s.stepConnect i e
  | .sender e => s.stepSender env e
  | .receiver e => s.stepReceiver e

end Side

end Rlirsh.Stream
