import Rlirsh.Execute.Client
import Rlirsh.Terminal

namespace Rlirsh.Execute.Server

open Rlirsh.Protocol
open Rlirsh.Net
open Rlirsh.Terminal (PtyMaster)
open Rlirsh.Lib
open Rlirsh.Stream
open Rlirsh.Execute.Client (receiverEnded sourceFailed)

/-- What the receiver logs about a change of the window. -/
inductive Warning
  | notSet
  | notAllocated
deriving DecidableEq, Repr

/-- The await points of `serve`, and what it returns. -/
inductive MainPc
  | select
  | sendSinkClosed (status : ExitStatus)
  | sendExit (status : ExitStatus)
  | kill
  | join
  | ok
  | err
deriving DecidableEq, Repr

structure State where
  side : Side ServerAction
  main : MainPc
  notified : Bool
  killError : Bool
  -- history: the status of the child, and how often `serve` has closed its standard input
  exited : Option ExitStatus
  injected : Nat
  ptyMaster : Option PtyMaster
  -- history: what the receiver has logged, and the messages taken from the connection
  warnings : List Warning
  received : List ClientAction

/-- The source of a standard error that shares the pty with the standard output: there
is no task, `serve` enqueues the `SourceClosed` itself. -/
def closedSource : Source.Task :=
  { Source.Task.new with pc := .done, sent := [.sourceClosed], stop := some .eof }

/-- The tasks of a session have just been spawned. -/
def new (ptyMaster : Option PtyMaster) (connectAddrs : List (SocketAddrs SocketAddr)) :
    State where
  side :=
    { sources := Table.ofList [.stdout, .stderr] fun id =>
        if ptyMaster.isSome = true ∧ id = .stderr then closedSource else .new
      sinks := Table.ofList [.stdin] fun _ =>
        .new (if ptyMaster.isSome then .ptyMaster else .childStdin)
      listeners := Table.empty
      connecters := perPort Connecter.Task.new connectAddrs
      connects := []
      sinkTxMap := [.stdin]
      sourceTxMap := if ptyMaster.isSome then [.stdout] else [.stdout, .stderr]
      connecterTxMap := (numbered connectAddrs).map Prod.fst, listenerTxMap := []
      replaced := Table.empty
      queue := if ptyMaster.isSome then [.stream (.source .stderr .sourceClosed)] else []
      sender := .recv, isFailed := false, errors := 0, receiver := .recv
      log := if ptyMaster.isSome then [.stream (.source .stderr .sourceClosed)] else []
      lost := [], delivered := [] }
  main := .select
  notified := false
  killError := false
  exited := none
  injected := 0
  ptyMaster
  warnings := []
  received := []

/-- `serve` has returned; the tasks it has spawned go on. -/
def State.returned (v : State) : Bool :=
  match v.main with
  | .ok | .err => true
  | _ => false

/-- `serve` has dropped its clone of the send queue. -/
def State.released (v : State) : Bool :=
  match v.main with
  | .join | .ok | .err => true
  | _ => false

/-- `serve`, the receiver, the connecters and the connect tasks share the router. -/
def State.env (v : State) : Env :=
  { routerGone := v.returned && receiverEnded v.side.receiver &&
      decide (v.side.connecters.All fun t => t.pc = .done) &&
      v.side.connects.all Connecter.Connect.ended
    held := !v.released
    permit := v.notified
    taskEnd := false }

/-- What the receiver makes of `WindowSizeChange`, and what it logs. -/
def resize (ptyMaster : Option PtyMaster) (ws : WindowSize) : Option PtyMaster × List Warning :=
  match ptyMaster with
  | some ptyMaster =>
      match ptyMaster.setWindowSize ws.width ws.height with
      | (.ok _, ptyMaster) => (some ptyMaster, [])
      | (.error _, ptyMaster) => (some ptyMaster, [.notSet])
  | none => (none, [.notAllocated])

/-- The receiver takes a message from the connection; the size of the window is set
without an await. -/
def State.receive (v : State) (m : ClientAction) : Option State :=
  match v.side.receiver with
  | .recv =>
      let v := { v with received := v.received ++ [m] }
      match m with
      | .stream action => some { v with side := v.side.take action }
      | .windowSizeChange ws =>
          some { v with
            ptyMaster := (resize v.ptyMaster ws).1
            warnings := v.warnings ++ (resize v.ptyMaster ws).2 }
      | .finished =>
          some { v with side := { v.side with receiver := .done true }, notified := true }
  | _ => none

/-- After `RecvRouter::shutdown` the error is sent on `kill_error_tx`, and then the
sender is notified. -/
def State.leave (v : State) : Option State :=
  match v.side.receiver with
  | .shutdown [] [] =>
      some { v with side := { v.side with receiver := .done false }
                    killError := true, notified := true }
  | _ => none

/-- The handlers of the child's standard streams have returned without an error. -/
def State.handlersOk (v : State) : Bool :=
  decide (∀ t ∈ v.side.sinks.get .stdin, t.pc = .done) &&
    decide (∀ t ∈ v.side.sources.get .stdout, t.pc = .done) &&
    decide (∀ t ∈ v.side.sources.get .stderr, t.pc = .done)

/-- One of the handlers has returned an error or panicked. -/
def State.handlerFailed (v : State) : Bool :=
  decide (∃ t ∈ v.side.sinks.get .stdin, t.pc = .failed) ||
    decide (∃ t ∈ v.side.sources.get .stdout, sourceFailed t) ||
    decide (∃ t ∈ v.side.sources.get .stderr, sourceFailed t)

inductive Event
  | side (e : Side.Event)
  | receive (m : ClientAction)
  | leave
  | childExited (status : ExitStatus)
  | waitFailed
  | mainSent
  | mainSendFailed
  | killReceived
  | killed
  | joined
  | joinFailed
deriving DecidableEq, Repr

def step (v : State) : Event → Option State
  | .side e =>
      match v.side.step v.env e with
      | none => none
      | some side => some { v with side }
  | .receive m => v.receive m
  | .leave => v.leave
  | .childExited status =>
      match v.main with
      | .select => some { v with main := .sendSinkClosed status, exited := some status }
      | _ => none
  | .waitFailed =>
      match v.main with
      | .select => some { v with main := .err }
      | _ => none
  | .mainSent =>
      match v.main with
      | .sendSinkClosed status =>
          match v.side.enqueue (.stream (.sink .stdin .sinkClosed)) with
          | none => none
          | some side =>
              some { v with side, main := .sendExit status, injected := v.injected + 1 }
      | .sendExit status =>
          match v.side.enqueue (.exit status) with
          | none => none
          | some side => some { v with side, main := .join }
      | _ => none
  | .mainSendFailed =>
      match v.main with
      | .sendSinkClosed _ | .sendExit _ =>
          if v.side.queueGone then some { v with main := .err } else none
      | _ => none
  | .killReceived =>
      match v.main with
      | .select => if v.killError then some { v with main := .kill } else none
      | _ => none
  | .killed =>
      match v.main with
      | .kill => some { v with main := .join }
      | _ => none
  | .joined =>
      match v.main, v.side.receiver, v.side.sender with
      | .join, .done _, .done => if v.handlersOk then some { v with main := .ok } else none
      | _, _, _ => none
  | .joinFailed =>
      match v.main, v.side.receiver with
      | .join, .failed _ => some { v with main := .err }
      | .join, _ => if v.handlerFailed then some { v with main := .err } else none
      | _, _ => none

/-- The message an event puts on the connection. -/
def State.output (v : State) : Event → Option ServerAction
  | .side (.sender .sent) => v.side.sending.head?
  | _ => none

/-- The message an event takes from the connection. -/
def Event.input : Event → Option ClientAction
  | .receive m => some m
  | _ => none

end Rlirsh.Execute.Server
