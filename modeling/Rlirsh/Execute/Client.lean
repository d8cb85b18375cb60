import Mathlib.Data.List.Range
import Rlirsh.Stream.Side

/-!
`serve` of `execute/mod.rs` from the moment its tasks are spawned, with the receiver of
`execute/receiver.rs` and the task of `execute/window_change.rs`.
-/

namespace Rlirsh.Execute

open Rlirsh.Protocol

universe u v

variable {α : Type u} {β : Type v}

/-- `(0..).map(PortId::new).zip(..)`. -/
def numbered (xs : List α) : List (PortId × α) := ((List.range xs.length).map PortId.mk).zip xs

theorem mem_numbered {xs : List α} {port : PortId} {a : α} :
    (port, a) ∈ numbered xs ↔ xs[port.id]? = some a := by
  simp only [numbered, List.mem_iff_getElem?, List.getElem?_zip_eq_some, List.getElem?_map]
  constructor
  · rintro ⟨i, hport, ha⟩
    obtain ⟨j, hj, rfl⟩ := Option.map_eq_some_iff.mp hport
    obtain ⟨-, rfl⟩ := List.getElem?_eq_some_iff.mp hj
    simpa using ha
  · intro ha
    obtain ⟨hlt, -⟩ := List.getElem?_eq_some_iff.mp ha
    exact ⟨port.id, by simp [hlt], ha⟩

/-- A handler for each port, by its number. -/
def perPort (f : α → β) (xs : List α) : Lib.Table PortId β :=
  Lib.Table.ofEntries ((numbered xs).map fun (port, x) => (port, f x))

theorem numbered_fst (xs : List α) :
    (numbered xs).map Prod.fst = (List.range xs.length).map PortId.mk := by
  rw [numbered, List.map_fst_zip]
  rw [List.length_map, List.length_range]

theorem get_perPort {f : α → β} {xs : List α} {port : PortId} {b : β} :
    (perPort f xs).get port = some b ↔ ∃ x, xs[port.id]? = some x ∧ b = f x := by
  have hfst : ((numbered xs).map fun (port, x) => (port, f x)).map Prod.fst =
      (List.range xs.length).map PortId.mk := by
    rw [List.map_map, ← numbered_fst]
    rfl
  have hnodup : (((numbered xs).map fun (port, x) => (port, f x)).map Prod.fst).Nodup := by
    rw [hfst]
    exact List.nodup_range.map fun i j hij => congrArg PortId.id hij
  rw [perPort, Lib.Table.get_ofEntries hnodup, List.mem_map]
  constructor
  · rintro ⟨⟨port', x⟩, hmem, heq⟩
    obtain ⟨rfl, rfl⟩ := Prod.mk.inj heq
    exact ⟨x, mem_numbered.mp hmem, rfl⟩
  · rintro ⟨x, hx, rfl⟩
    exact ⟨(port, x), mem_numbered.mpr hx, rfl⟩

theorem sum_perPort_le {f : α → β} (xs : List α) (g : β → Nat) {n : Nat}
    (h : ∀ x, g (f x) ≤ n) : (perPort f xs).sum g ≤ xs.length * n := by
  have hle := Lib.Table.sum_ofEntries_le ((numbered xs).map fun (port, x) => (port, f x)) g
    (n := n) fun e he => by
      obtain ⟨e', -, rfl⟩ := List.mem_map.mp he
      exact h e'.2
  rwa [List.length_map, ← List.length_map Prod.fst, numbered_fst, List.length_map,
    List.length_range] at hle

end Rlirsh.Execute

namespace Rlirsh.Execute.Client

open Rlirsh.Protocol
open Rlirsh.Net
open Rlirsh.Lib
open Rlirsh.Stream

/-- The await points of the window change task. -/
inductive WindowPc
  | select
  | send (size : WindowSize)
  | done
  | failed
deriving DecidableEq, Repr

/-- The await points of `serve`, and what it returns. -/
inductive MainPc
  | awaitStatus
  | joinHandlers (status : ExitStatus)
  | joinTasks (status : ExitStatus)
  | ok (status : ExitStatus)
  | err
deriving DecidableEq, Repr

structure State where
  side : Side ClientAction
  main : MainPc
  -- what was sent on `exit_status_tx`; the inner `none` is the error of a shutdown
  exitStatus : Option (Option ExitStatus)
  taskEnd : Bool
  window : Option WindowPc
  received : List ServerAction

/-- The tasks of a session have just been spawned. -/
def new (pty : Bool) (localListeners : List TcpListener) : State where
  side :=
    { sources := Table.ofList [.stdin] fun _ => .new
      sinks := Table.ofList [.stdout, .stderr] fun _ => .new .file
      listeners := perPort Listener.Task.new localListeners
      connecters := Table.empty
      connects := []
      sinkTxMap := [.stdout, .stderr], sourceTxMap := [.stdin]
      connecterTxMap := [], listenerTxMap := [], replaced := Table.empty
      queue := [], sender := .recv, isFailed := false, errors := 0, receiver := .recv
      log := [], lost := [], delivered := [] }
  main := .awaitStatus
  exitStatus := none
  taskEnd := false
  window := if pty then some .select else none
  received := []

/-- `serve` has returned, and with it the process ends. -/
def State.returned (c : State) : Bool :=
  match c.main with
  | .ok _ | .err => true
  | _ => false

/-- The receiver task has returned. -/
def receiverEnded (pc : ReceiverPc) : Bool :=
  match pc with
  | .done _ | .failed _ => true
  | _ => false

def State.windowEnded (c : State) : Bool :=
  match c.window with
  | some .select | some (.send _) => false
  | _ => true

/-- The receiver and the listeners share the router; `serve` drops its own clone of the
send queue before the first await. -/
def State.env (c : State) : Env :=
  { routerGone := receiverEnded c.side.receiver &&
      decide (c.side.listeners.All fun t => t.ended = true)
    held := !c.windowEnded
    permit := false
    taskEnd := c.taskEnd }

/-- The receiver takes a message from the connection. -/
def State.receive (c : State) (m : ServerAction) : Option State :=
  match c.side.receiver with
  | .recv =>
      let c := { c with received := c.received ++ [m] }
      match m with
      | .stream action => some { c with side := c.side.take action }
      | .exit status =>
          match c.exitStatus with
          | none => some { c with exitStatus := some (some status) }
          | some _ => some { c with side := { c.side with receiver := .failed none } }
      | .finished => some { c with side := { c.side with receiver := .done true } }
  | _ => none

/-- After `RecvRouter::shutdown` the error is sent on what is left of
`exit_status_tx`. -/
def State.leave (c : State) : Option State :=
  match c.side.receiver with
  | .shutdown [] [] =>
      some { c with side := { c.side with receiver := .done false }
                    exitStatus := some (c.exitStatus.getD none) }
  | _ => none

/-- A handler of the client's standard streams has returned without an error. -/
def State.handlersOk (c : State) : Bool :=
  decide (∀ t ∈ c.side.sources.get .stdin, t.pc = .done) &&
    decide (∀ t ∈ c.side.sinks.get .stdout, t.pc = .done) &&
    decide (∀ t ∈ c.side.sinks.get .stderr, t.pc = .done) &&
    decide (∀ pc ∈ c.window, pc = .done)

def sourceFailed (t : Source.Task) : Bool :=
  match t.pc with
  | .failed _ | .panicked => true
  | _ => false

/-- One of the handlers has returned an error or panicked. -/
def State.handlerFailed (c : State) : Bool :=
  decide (∃ t ∈ c.side.sources.get .stdin, sourceFailed t) ||
    decide (∃ t ∈ c.side.sinks.get .stdout, t.pc = .failed) ||
    decide (∃ t ∈ c.side.sinks.get .stderr, t.pc = .failed) ||
    decide (∃ pc ∈ c.window, pc = .failed)

inductive Event
  | side (e : Side.Event)
  | receive (m : ServerAction)
  | leave
  -- with what `get_window_size` returns
  | windowSignal (size : Option WindowSize)
  | windowSent
  | windowSendFailed
  | windowEnd
  | status
  -- `left`: `raw_mode::leave` succeeds
  | handlersJoined (left : Bool)
  | handlersFailed
  | tasksJoined
  | tasksFailed
deriving DecidableEq, Repr

/-- A step of the client, unless its process has ended. -/
def step (c : State) (e : Event) : Option State :=
  if c.returned then none
  else
    match e with
    | .side e =>
        match c.side.step c.env e with
        | none => none
        | some side => some { c with side }
    | .receive m => c.receive m
    | .leave => c.leave
    | .windowSignal none => if c.window = some .select then some c else none
    | .windowSignal (some size) =>
        if c.window = some .select then some { c with window := some (.send size) } else none
    | .windowSent =>
        match c.window with
        | some (.send size) =>
            match c.side.enqueue (.windowSizeChange size) with
            | none => none
            | some side => some { c with side, window := some .select }
        | _ => none
    | .windowSendFailed =>
        match c.window with
        | some (.send _) =>
            if c.side.queueGone then some { c with window := some .failed } else none
        | _ => none
    | .windowEnd =>
        if c.window = some .select ∧ c.taskEnd = true then some { c with window := some .done }
        else none
    | .status =>
        match c.main, c.exitStatus with
        | .awaitStatus, some (some status) =>
            some { c with main := .joinHandlers status, taskEnd := true }
        | .awaitStatus, some none => some { c with main := .err }
        | .awaitStatus, none =>
            if receiverEnded c.side.receiver then some { c with main := .err } else none
        | _, _ => none
    | .handlersJoined left =>
        match c.main with
        | .joinHandlers status =>
            if c.handlersOk then
              some { c with main := if left then .joinTasks status else .err }
            else none
        | _ => none
    | .handlersFailed =>
        match c.main with
        | .joinHandlers _ => if c.handlerFailed then some { c with main := .err } else none
        | _ => none
    | .tasksJoined =>
        match c.main, c.side.receiver, c.side.sender with
        | .joinTasks status, .done _, .done => some { c with main := .ok status }
        | _, _, _ => none
    | .tasksFailed =>
        match c.main, c.side.receiver with
        | .joinTasks _, .failed _ => some { c with main := .err }
        | _, _ => none

/-- The message an event puts on the connection. -/
def State.output (c : State) : Event → Option ClientAction
  | .side (.sender .sent) => c.side.sending.head?
  | _ => none

/-- The message an event takes from the connection. -/
def Event.input : Event → Option ServerAction
  | .receive m => some m
  | _ => none

end Rlirsh.Execute.Client
