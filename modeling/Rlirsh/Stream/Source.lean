import Rlirsh.Protocol

namespace Rlirsh.Stream.Source

open Rlirsh.Protocol

/-- The await points of `Task::handle`, and the ways it ends. -/
inductive Pc
  | select
  | sendData (bytes : Bytes)
  | recvAnswer
  | sendClosed
  | done
  -- with the packet that could not be enqueued
  | failed (unsent : Bytes)
  | panicked
deriving DecidableEq, Repr

/-- Outcome of `reader.read`; no bytes is `Ok(0)`. -/
inductive ReadResult
  | ok (bytes : Bytes)
  | err
deriving DecidableEq, Repr

/-- Why the loop was left. -/
inductive Stop
  | eof
  | readError
  | sinkClosed
deriving DecidableEq, Repr

structure Task where
  pc : Pc
  rx : List SinkAction
  -- the rest is history: what was read and enqueued, why the loop was left, and that
  -- `RecvRouter::shutdown` has put its `SinkClosed` into the inbox, or found it closed
  read : Bytes
  sent : List SourceAction
  stop : Option Stop
  shut : Bool
deriving DecidableEq, Repr

/-- `Task::new`, spawned. -/
def Task.new : Task :=
  { pc := .select, rx := [], read := [], sent := [], stop := none, shut := false }

/-- The task has returned or panicked: its inbox is closed and its clone of the
send queue dropped. -/
def Task.ended (t : Task) : Bool :=
  match t.pc with
  | .done | .failed _ | .panicked => true
  | _ => false

/-- `reader.read` completes. -/
def Task.onRead (t : Task) (res : ReadResult) : Option Task :=
  match t.pc, res with
  | .select, .ok bytes =>
      if bytes.length ≤ maxStreamPacketSize then
        if bytes = [] then some { t with pc := .sendClosed, stop := some .eof }
        else some { t with pc := .sendData bytes, read := t.read ++ bytes }
      else none
  | .select, .err => some { t with pc := .sendClosed, stop := some .readError }
  | _, _ => none

/-- `rx.recv` yields a message, in the `select!` or while waiting for an answer. -/
def Task.onRecv (t : Task) : Option Task :=
  match t.pc, t.rx with
  | .select, .ack :: rx => some { t with pc := .panicked, rx }
  | .select, .sinkClosed :: rx =>
      some { t with pc := .sendClosed, rx, stop := some .sinkClosed }
  | .recvAnswer, .ack :: rx => some { t with pc := .select, rx }
  | .recvAnswer, .sinkClosed :: rx =>
      some { t with pc := .sendClosed, rx, stop := some .sinkClosed }
  | _, _ => none

/-- `rx.recv` yields `None`: every sender of the inbox is gone. -/
def Task.onRecvNone (t : Task) : Option Task :=
  match t.pc, t.rx with
  | .select, [] | .recvAnswer, [] => some { t with pc := .failed [] }
  | _, _ => none

/-- The action the task is enqueueing. -/
def Task.pending (t : Task) : Option SourceAction :=
  match t.pc with
  | .sendData bytes => some (.data bytes)
  | .sendClosed => some .sourceClosed
  | _ => none

/-- `tx.send` completes: the pending action is in the send queue. -/
def Task.onSent (t : Task) : Option Task :=
  match t.pc with
  | .sendData bytes =>
      some { t with pc := .recvAnswer, sent := t.sent ++ [.data bytes] }
  | .sendClosed => some { t with pc := .done, sent := t.sent ++ [.sourceClosed] }
  | _ => none

/-- The bytes that are read and not enqueued. -/
def Task.unsent (t : Task) : Bytes :=
  match t.pc with
  | .sendData bytes | .failed bytes => bytes
  | _ => []

/-- `tx.send` fails: the receiving end of the send queue is gone. -/
def Task.onSendFailed (t : Task) : Option Task :=
  if t.pending.isSome then some { t with pc := .failed t.unsent } else none

/-- Capacity of the inbox. -/
def inboxCapacity : Nat := 1

/-- `Sender::send`: waits for room, and ignores that the source is gone. -/
def Task.deliver (t : Task) (action : SinkAction) : Option Task :=
  if t.ended then some t
  else if t.rx.length < inboxCapacity then some { t with rx := t.rx ++ [action] }
  else none

/-- `Sender::shutdown`. -/
def Task.shutdown (t : Task) : Option Task :=
  (t.deliver .sinkClosed).map fun u => { u with shut := true }

/-- The completions a source can wait for. -/
inductive Event
  | read (res : ReadResult)
  | recv
  | recvNone
  | sent
  | sendFailed
  | deliver (action : SinkAction)
  | shutdown
deriving DecidableEq, Repr

def Task.step (t : Task) : Event → Option Task
  | .read res => t.onRead res
  | .recv => t.onRecv
  | .recvNone => t.onRecvNone
  | .sent => t.onSent
  | .sendFailed => t.onSendFailed
  | .deliver action => t.deliver action
  | .shutdown => t.shutdown

/-- What an event hands to the send queue. -/
def Task.emitted (t : Task) : Event → List SourceAction
  | .sent => t.pending.toList
  | _ => []

theorem sent_step {t u : Task} {e : Event} (hstep : t.step e = some u) :
    u.sent = t.sent ++ t.emitted e := by
  cases e <;>
    simp only [Task.step, Task.onRead, Task.onRecv, Task.onRecvNone, Task.onSent,
      Task.onSendFailed, Task.deliver, Task.shutdown, Task.emitted] at hstep ⊢ <;>
    grind [Task.pending]

theorem shut_step {t u : Task} {e : Event} (hstep : t.step e = some u) :
    u.shut = (t.shut || decide (e = .shutdown)) := by
  cases e <;>
    simp only [Task.step, Task.onRead, Task.onRecv, Task.onRecvNone, Task.onSent,
      Task.onSendFailed, Task.deliver, Task.shutdown] at hstep <;>
    grind

theorem ended_step {t u : Task} {e : Event} (h : t.ended = true) (hstep : t.step e = some u) :
    u.ended = true ∧ ((∃ action, e = .deliver action) ∨ e = .shutdown) := by
  cases e <;>
    simp only [Task.step, Task.onRead, Task.onRecv, Task.onRecvNone, Task.onSent,
      Task.onSendFailed, Task.deliver, Task.shutdown, Task.pending] at hstep <;>
    grind [Task.ended]

/-- What holds of the source's own state whatever its environment does. -/
structure Valid (t : Task) : Prop where
  read_eq : t.read = payload t.sent ++ t.unsent
  not_closed : t.pc ≠ .done → .sourceClosed ∉ t.sent
  closed_last : t.pc = .done →
    ∃ pre, t.sent = pre ++ [.sourceClosed] ∧ .sourceClosed ∉ pre
  stop_eq_none : t.pc = .select ∨ t.pc = .recvAnswer → t.stop = none
  stop_sendData : ∀ bytes, t.pc = .sendData bytes → t.stop = none ∧ bytes ≠ []
  stop_ne_none : t.pc = .sendClosed ∨ t.pc = .done → t.stop ≠ none

theorem valid_new : Valid Task.new := by
  constructor <;> simp [Task.new, Task.unsent]

theorem Valid.step {t u : Task} {e : Event} (h : Valid t)
    (hstep : t.step e = some u) : Valid u := by
  obtain ⟨hread, hnot, hlast, hnone, hdata, hsome⟩ := h
  cases e with
  | read res =>
      simp only [Task.step, Task.onRead] at hstep
      constructor <;> grind [Task.unsent]
  | recv =>
      simp only [Task.step, Task.onRecv] at hstep
      constructor <;> grind [Task.unsent]
  | recvNone =>
      simp only [Task.step, Task.onRecvNone] at hstep
      constructor <;> grind [Task.unsent]
  | sent =>
      simp only [Task.step, Task.onSent] at hstep
      constructor <;>
        grind [Task.unsent, payload_append, payload_data, payload_nil, payload_sourceClosed]
  | sendFailed =>
      simp only [Task.step, Task.onSendFailed, Task.pending] at hstep
      constructor <;> grind [Task.unsent]
  | deliver action =>
      simp only [Task.step, Task.deliver] at hstep
      constructor <;> grind [Task.unsent]
  | shutdown =>
      simp only [Task.step, Task.shutdown, Task.deliver] at hstep
      constructor <;> grind [Task.unsent]

theorem recvNone_spec {t u : Task} (hstep : t.step .recvNone = some u) :
    (t.pc = .select ∨ t.pc = .recvAnswer) ∧ t.rx = [] ∧ u = { t with pc := .failed [] } := by
  simp only [Task.step, Task.onRecvNone] at hstep
  split at hstep
  · rename_i hpc hrx
    exact ⟨Or.inl hpc, hrx, (Option.some.inj hstep).symm⟩
  · rename_i hpc hrx
    exact ⟨Or.inr hpc, hrx, (Option.some.inj hstep).symm⟩
  · cases hstep

/-- A source that has been shut down finds the `SinkClosed` in its inbox, or has left
its loop. -/
def Heard (t : Task) : Prop :=
  t.shut = true → t.pc = .select ∨ t.pc = .recvAnswer ∨ (∃ bytes, t.pc = .sendData bytes) →
    .sinkClosed ∈ t.rx

theorem heard_new : Heard Task.new := by
  simp [Heard, Task.new]

theorem Heard.step {t u : Task} {e : Event} (h : Heard t) (hstep : t.step e = some u) :
    Heard u := by
  unfold Heard at h ⊢
  cases e <;>
    simp only [Task.step, Task.onRead, Task.onRecv, Task.onRecvNone, Task.onSent,
      Task.onSendFailed, Task.deliver, Task.shutdown] at hstep <;>
    grind [Task.ended]

end Rlirsh.Stream.Source
