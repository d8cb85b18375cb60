import Rlirsh.Protocol

namespace Rlirsh.Stream.Sink

open Rlirsh.Protocol

/-- `std::io::ErrorKind`. -/
inductive ErrorKind
  | notFound
  | permissionDenied
  | connectionRefused
  | connectionReset
  | connectionAborted
  | notConnected
  | addrInUse
  | addrNotAvailable
  | brokenPipe
  | alreadyExists
  | wouldBlock
  | invalidInput
  | invalidData
  | timedOut
  | writeZero
  | interrupted
  | unsupported
  | unexpectedEof
  | outOfMemory
  | other
deriving DecidableEq, Repr

/-- `io::Result<()>` of `write_all`, `flush` and `shutdown`. -/
inductive IoResult
  | ok
  | err (kind : ErrorKind)
deriving DecidableEq, Repr

/-- The writer either succeeds or fails with `BrokenPipe`. -/
def IoResult.orderly : IoResult → Prop
  | .ok => True
  | .err kind => kind = .brokenPipe

instance (res : IoResult) : Decidable res.orderly :=
  match res with
  | .ok => isTrue trivial
  | .err kind => inferInstanceAs (Decidable (kind = .brokenPipe))

/-- The writers a sink is given. -/
inductive Writer
  | childStdin
  | ptyMaster
  -- `/dev/stdout` and `/dev/stderr` of the client
  | file
  | socket
deriving DecidableEq, Repr

/-- `poll_flush` is `Ready(Ok(()))`, so that the `flush` of the sink is no await point:
`PtyMaster` says so itself, and neither a pipe nor a TCP stream is buffered. -/
def Writer.flushReady : Writer → Bool
  | .childStdin | .ptyMaster | .socket => true
  | .file => false

/-- The await points of `Task::handle`, and the ways it ends. -/
inductive Pc
  | recv
  | write
  | sendAck
  | flush
  | sendClosed
  | shutdown
  | done
  | failed
deriving DecidableEq, Repr

/-- What the task has done with one packet. -/
structure Handled where
  bytes : Bytes
  write : Option IoResult
  flush : Option IoResult
  answers : List SinkAction
deriving DecidableEq, Repr

structure Task where
  writer : Writer
  pc : Pc
  isClosed : Bool
  rx : List SourceAction
  -- the packet being handled, if any, or the one on which the task failed
  current : Option Handled
  -- the rest is history: the packets handled, in order, that `SourceClosed` was taken, and that
  -- `RecvRouter::shutdown` has put its own into the inbox
  past : List Handled
  tookClosed : Bool
  shut : Bool
deriving DecidableEq, Repr

/-- `Task::new`, spawned. -/
def Task.new (writer : Writer) : Task :=
  { writer, pc := .recv, isClosed := false, rx := [], current := none, past := [],
    tookClosed := false, shut := false }

/-- The task has returned: its inbox is closed and its clone of the send queue
dropped. -/
def Task.ended (t : Task) : Bool :=
  match t.pc with
  | .done | .failed => true
  | _ => false

/-- The loop body is through with the packet `c`. -/
def Task.finish (t : Task) (c : Handled) : Task :=
  { t with pc := .recv, current := none, past := t.past ++ [c] }

/-- `rx.recv` yields a message.  On a closed sink both `do_if_not_closed` return
at once, and the next await is the `SinkClosed` at the end of the loop body. -/
def Task.onRecv (t : Task) : Option Task :=
  match t.pc, t.rx with
  | .recv, .data bytes :: rx =>
      let c : Handled := { bytes, write := none, flush := none, answers := [] }
      if t.isClosed then some { t with pc := .sendClosed, rx, current := some c }
      else some { t with pc := .write, rx, current := some c }
  | .recv, .sourceClosed :: rx =>
      some { t with pc := .shutdown, rx, tookClosed := true }
  | _, _ => none

/-- `rx.recv` yields `None`: every sender of the inbox is gone. -/
def Task.onRecvNone (t : Task) : Option Task :=
  match t.pc, t.rx with
  | .recv, [] => some { t with pc := .shutdown }
  | _, _ => none

/-- `do_if_not_closed` on an action that completes with `res`: the new value of
`is_closed`, or the error the task returns. -/
def doIfNotClosed (isClosed : Bool) (res : IoResult) : Except ErrorKind Bool :=
  if isClosed then .ok true
  else
    match res with
    | .ok => .ok false
    | .err .brokenPipe => .ok true
    | .err kind => .error kind

/-- `writer.write_all` completes.  After a broken pipe neither the `Ack` nor the
`flush` is reached. -/
def Task.onWritten (t : Task) (res : IoResult) : Option Task :=
  match t.pc, t.current with
  | .write, some c =>
      let u := { t with current := some { c with write := some res } }
      match doIfNotClosed t.isClosed res with
      | .ok false => some { u with pc := .sendAck }
      | .ok true => some { u with pc := .sendClosed, isClosed := true }
      | .error _ => some { u with pc := .failed }
  | _, _ => none

/-- `writer.flush` completes. -/
def Task.onFlushed (t : Task) (res : IoResult) : Option Task :=
  match t.pc, t.current with
  | .flush, some c =>
      let c := { c with flush := some res }
      match doIfNotClosed t.isClosed res with
      | .ok false => some (t.finish c)
      | .ok true => some { t with pc := .sendClosed, isClosed := true, current := some c }
      | .error _ => some { t with pc := .failed, current := some c }
  | _, _ => none

/-- The action the task is enqueueing. -/
def Task.pending (t : Task) : Option SinkAction :=
  match t.pc with
  | .sendAck => some .ack
  | .sendClosed => some .sinkClosed
  | _ => none

/-- `tx.send` completes: the pending action is in the send queue. -/
def Task.onSent (t : Task) : Option Task :=
  match t.pc, t.current with
  | .sendAck, some c =>
      let c := { c with answers := c.answers ++ [.ack] }
      if t.writer.flushReady then some (t.finish { c with flush := some .ok })
      else some { t with pc := .flush, current := some c }
  | .sendClosed, some c =>
      some (t.finish { c with answers := c.answers ++ [.sinkClosed] })
  | _, _ => none

/-- `tx.send` fails: the receiving end of the send queue is gone. -/
def Task.onSendFailed (t : Task) : Option Task :=
  if t.pending.isSome then some { t with pc := .failed } else none

/-- `writer.shutdown` completes; its error is only logged. -/
def Task.onShutdown (t : Task) : Option Task :=
  match t.pc with
  | .shutdown => some { t with pc := .done }
  | _ => none

/-- Capacity of the inbox. -/
def inboxCapacity : Nat := 1

/-- `Sender::send`: waits for room; `none` also stands for the error when the sink
is gone, which its callers tell apart by `ended`. -/
def Task.deliver (t : Task) (action : SourceAction) : Option Task :=
  if t.ended then none
  else if t.rx.length < inboxCapacity then some { t with rx := t.rx ++ [action] }
  else none

/-- `Sender::shutdown`; its error is only logged. -/
def Task.shutdown (t : Task) : Option Task :=
  if t.ended then some t
  else (t.deliver .sourceClosed).map fun u => { u with shut := true }

/-- The completions a sink can wait for. -/
inductive Event
  | recv
  | recvNone
  | written (res : IoResult)
  | sent
  | sendFailed
  | flushed (res : IoResult)
  | shutdownDone
  | deliver (action : SourceAction)
  | shutdown
deriving DecidableEq, Repr

def Task.step (t : Task) : Event → Option Task
  | .recv => t.onRecv
  | .recvNone => t.onRecvNone
  | .written res => t.onWritten res
  | .sent => t.onSent
  | .sendFailed => t.onSendFailed
  | .flushed res => t.onFlushed res
  | .shutdownDone => t.onShutdown
  | .deliver action => t.deliver action
  | .shutdown => t.shutdown

/-- What an event hands to the send queue. -/
def Task.emitted (t : Task) : Event → List SinkAction
  | .sent => t.pending.toList
  | _ => []

/-- The payload of a packet that `write_all` has taken. -/
def Handled.writtenBytes (c : Handled) : Bytes :=
  if c.write = some .ok then c.bytes else []

/-- The concatenated payloads of the packets whose `write_all` succeeded. -/
def Task.written (t : Task) : Bytes :=
  (t.past ++ t.current.toList).flatMap Handled.writtenBytes

/-- The calls of `write_all` that have returned, with their results. -/
def Task.writes (t : Task) : List (Bytes × IoResult) :=
  (t.past ++ t.current.toList).filterMap fun c => c.write.map fun res => (c.bytes, res)

/-- A `write_all` or a `flush` on this packet has failed. -/
def Handled.broken (c : Handled) : Prop :=
  (∃ kind, c.write = some (.err kind)) ∨ ∃ kind, c.flush = some (.err kind)

/-- Some `write_all` or `flush` has failed. -/
def Task.broken (t : Task) : Prop :=
  ∃ c ∈ t.past ++ t.current.toList, c.broken

/-- The closing message, if there is one. -/
def closing (isClosed : Bool) : List SourceAction :=
  if isClosed then [.sourceClosed] else []

@[simp] theorem closing_true : closing true = [.sourceClosed] := rfl

@[simp] theorem closing_false : closing false = [] := rfl

/-- The messages taken from the inbox, in order. -/
def Task.taken (t : Task) : List SourceAction :=
  (t.past ++ t.current.toList).map (fun c => .data c.bytes) ++ closing t.tookClosed

/-- Written, flushed and acknowledged. -/
def Handled.Acked (c : Handled) : Prop :=
  c.write = some .ok ∧ c.flush = some .ok ∧ c.answers = [.ack]

/-- Written and acknowledged, then the flush found the pipe broken. -/
def Handled.AckedBroken (c : Handled) : Prop :=
  c.write = some .ok ∧ c.flush = some (.err .brokenPipe) ∧ c.answers = [.ack, .sinkClosed]

/-- The write found the pipe broken. -/
def Handled.Refused (c : Handled) : Prop :=
  c.write = some (.err .brokenPipe) ∧ c.flush = none ∧ c.answers = [.sinkClosed]

/-- Dropped, the pipe being known as broken. -/
def Handled.Skipped (c : Handled) : Prop :=
  c.write = none ∧ c.flush = none ∧ c.answers = [.sinkClosed]

/-- What has been done with the packet a task at `pc` is handling. -/
def Stage (pc : Pc) (isClosed : Bool) (c : Handled) : Prop :=
  match pc with
  | .write => isClosed = false ∧ c.write = none ∧ c.flush = none ∧ c.answers = []
  | .sendAck => isClosed = false ∧ c.write = some .ok ∧ c.flush = none ∧ c.answers = []
  | .flush => isClosed = false ∧ c.write = some .ok ∧ c.flush = none ∧ c.answers = [.ack]
  | .sendClosed => isClosed = true ∧
      (c.write = none ∧ c.flush = none ∧ c.answers = [] ∨
        c.write = some (.err .brokenPipe) ∧ c.flush = none ∧ c.answers = [] ∨
        c.write = some .ok ∧ c.flush = some (.err .brokenPipe) ∧ c.answers = [.ack])
  | .failed => True
  | _ => False

/-- What holds of the sink's own state whatever its environment does. -/
structure Valid (t : Task) : Prop where
  idle : t.current = none → t.pc = .recv ∨ t.pc = .shutdown ∨ t.pc = .done
  stage : ∀ c, t.current = some c → Stage t.pc t.isClosed c
  past_open : t.isClosed = false → ∀ c ∈ t.past, c.Acked
  past_closed : t.isClosed = true →
    ((∀ c ∈ t.past, c.Acked) ∧ ∃ c, t.current = some c ∧ c.broken) ∨
    ∃ pre b post, t.past = pre ++ b :: post ∧ (∀ c ∈ pre, c.Acked) ∧
      (b.AckedBroken ∨ b.Refused) ∧ (∀ c ∈ post, c.Skipped) ∧
      ∀ c, t.current = some c → c.write = none ∧ c.flush = none ∧ c.answers = []
  ready : t.writer.flushReady = true → t.pc ≠ .flush ∧
    ∀ c ∈ t.past ++ t.current.toList, c.flush = none ∨ c.flush = some .ok
  took_pc : t.tookClosed = true → t.pc = .shutdown ∨ t.pc = .done

theorem valid_new (writer : Writer) : Valid (Task.new writer) := by
  constructor <;> simp [Task.new]

theorem Valid.past_closed_sent {t : Task} {c : Handled} (h : Valid t)
    (hpc : t.pc = .sendClosed) (hcur : t.current = some c) :
    ∃ pre b post, t.past ++ [{ c with answers := c.answers ++ [.sinkClosed] }] =
      pre ++ b :: post ∧ (∀ c ∈ pre, c.Acked) ∧ (b.AckedBroken ∨ b.Refused) ∧
      ∀ c ∈ post, c.Skipped := by
  have hst := h.stage c hcur
  rw [hpc] at hst
  obtain ⟨hclosed, hst⟩ := hst
  rcases h.past_closed hclosed with ⟨hacked, d, hd, hbroken⟩ |
      ⟨pre, b, post, hpast, hpre, hb, hpost, hnone⟩
  · have hdc : d = c := by simpa [hcur] using hd.symm
    subst hdc
    refine ⟨t.past, _, [], rfl, hacked, ?_, by simp⟩
    rcases hst with ⟨hw, hf, ha⟩ | ⟨hw, hf, ha⟩ | ⟨hw, hf, ha⟩
    · rcases hbroken with ⟨_, hk⟩ | ⟨_, hk⟩ <;> simp [hw, hf] at hk
    · exact Or.inr ⟨hw, hf, by simp [ha]⟩
    · exact Or.inl ⟨hw, hf, by simp [ha]⟩
  · obtain ⟨hw, hf, ha⟩ := hnone c hcur
    refine ⟨pre, b, post ++ [{ c with answers := c.answers ++ [.sinkClosed] }],
      by simp [hpast], hpre, hb, ?_⟩
    intro x hx
    rcases List.mem_append.mp hx with hx | hx
    · exact hpost x hx
    · obtain rfl := List.mem_singleton.mp hx
      exact ⟨hw, hf, by simp [ha]⟩

theorem Valid.onRecv {t u : Task} (h : Valid t) (hstep : t.onRecv = some u) :
    Valid u := by
  obtain ⟨hidle, hstage, hopen, hclosed, hready, htook⟩ := h
  simp only [Task.onRecv] at hstep
  constructor <;> grind [Stage]

theorem Valid.onRecvNone {t u : Task} (h : Valid t) (hstep : t.onRecvNone = some u) :
    Valid u := by
  obtain ⟨hidle, hstage, hopen, hclosed, hready, htook⟩ := h
  simp only [Task.onRecvNone] at hstep
  constructor <;> grind [Stage]

theorem Valid.onWritten {t u : Task} {res : IoResult} (h : Valid t)
    (hstep : t.onWritten res = some u) : Valid u := by
  obtain ⟨hidle, hstage, hopen, hclosed, hready, htook⟩ := h
  simp only [Task.onWritten, doIfNotClosed] at hstep
  constructor <;> grind [Stage, Handled.broken]

theorem Valid.onSent {t u : Task} (h : Valid t) (hstep : t.onSent = some u) : Valid u := by
  have hsent := fun c => h.past_closed_sent (c := c)
  obtain ⟨hidle, hstage, hopen, hclosed, hready, htook⟩ := h
  simp only [Task.onSent, Task.finish] at hstep
  constructor <;> grind [Stage, Handled.Acked]

theorem Valid.onSendFailed {t u : Task} (h : Valid t) (hstep : t.onSendFailed = some u) :
    Valid u := by
  obtain ⟨hidle, hstage, hopen, hclosed, hready, htook⟩ := h
  simp only [Task.onSendFailed, Task.pending] at hstep
  constructor <;> grind [Stage]

theorem Valid.onFlushed {t u : Task} {res : IoResult} (h : Valid t)
    (hstep : t.onFlushed res = some u) : Valid u := by
  obtain ⟨hidle, hstage, hopen, hclosed, hready, htook⟩ := h
  simp only [Task.onFlushed, doIfNotClosed, Task.finish] at hstep
  constructor <;> grind [Stage, Handled.broken, Handled.Acked]

theorem Valid.onShutdown {t u : Task} (h : Valid t) (hstep : t.onShutdown = some u) :
    Valid u := by
  obtain ⟨hidle, hstage, hopen, hclosed, hready, htook⟩ := h
  simp only [Task.onShutdown] at hstep
  constructor <;> grind [Stage]

theorem Valid.inbox {t : Task} {rx : List SourceAction} {shut : Bool} (h : Valid t) :
    Valid { t with rx, shut } :=
  ⟨h.idle, h.stage, h.past_open, h.past_closed, h.ready, h.took_pc⟩

theorem Valid.deliver {t u : Task} {action : SourceAction} (h : Valid t)
    (hstep : t.deliver action = some u) : Valid u := by
  simp only [Task.deliver] at hstep
  split at hstep
  · cases hstep
  · rw [Option.ite_none_right_eq_some, Option.some.injEq] at hstep
    obtain ⟨-, rfl⟩ := hstep
    exact h.inbox

theorem Valid.shutdown {t u : Task} (h : Valid t) (hstep : t.shutdown = some u) :
    Valid u := by
  simp only [Task.shutdown] at hstep
  split at hstep
  · obtain rfl := Option.some.inj hstep
    exact h
  · obtain ⟨v, hdeliver, rfl⟩ := Option.map_eq_some_iff.mp hstep
    exact (h.deliver hdeliver).inbox

theorem Valid.step {t u : Task} {e : Event} (h : Valid t)
    (hstep : t.step e = some u) : Valid u := by
  cases e with
  | recv => exact h.onRecv hstep
  | recvNone => exact h.onRecvNone hstep
  | written res => exact h.onWritten hstep
  | sent => exact h.onSent hstep
  | sendFailed => exact h.onSendFailed hstep
  | flushed res => exact h.onFlushed hstep
  | shutdownDone => exact h.onShutdown hstep
  | deliver action => exact h.deliver hstep
  | shutdown => exact h.shutdown hstep

theorem Valid.current_eq_none {t : Task} (h : Valid t)
    (hpc : t.pc = .recv ∨ t.pc = .shutdown ∨ t.pc = .done) : t.current = none := by
  cases hcur : t.current with
  | none => rfl
  | some c =>
      have hst := h.stage c hcur
      rcases hpc with hpc | hpc | hpc <;> simp [Stage, hpc] at hst

/-- What an event puts into the inbox of a living sink. -/
def Event.arriving : Event → List SourceAction
  | .deliver action => [action]
  | .shutdown => [.sourceClosed]
  | _ => []

/-- A step of the sink loses and invents no message: what it has taken together
with its inbox changes by what arrives. -/
theorem taken_step {t u : Task} {e : Event} (h : Valid t) (hstep : t.step e = some u) :
    u.taken ++ u.rx = t.taken ++ t.rx ++ if t.ended then [] else e.arriving := by
  cases e with
  | recv =>
      simp only [Task.step, Task.onRecv] at hstep
      have htook : t.pc = .recv → t.tookClosed = false := by
        intro hpc
        have := h.took_pc
        simp_all
      split at hstep
      · rename_i bytes rx hpc hrx
        have hcur := h.current_eq_none (Or.inl hpc)
        split at hstep <;> obtain rfl := Option.some.inj hstep <;>
          simp [Task.taken, hcur, hrx, htook hpc, Event.arriving]
      · rename_i rx hpc hrx
        obtain rfl := Option.some.inj hstep
        simp [Task.taken, hrx, htook hpc, Event.arriving]
      · simp at hstep
  | written res =>
      simp only [Task.step, Task.onWritten] at hstep
      split at hstep
      · rename_i c hpc hcur
        split at hstep <;> obtain rfl := Option.some.inj hstep <;>
          simp [Task.taken, hcur, Event.arriving]
      · simp at hstep
  | flushed res =>
      simp only [Task.step, Task.onFlushed] at hstep
      split at hstep
      · rename_i c hpc hcur
        split at hstep <;> obtain rfl := Option.some.inj hstep <;>
          simp [Task.taken, Task.finish, hcur, Event.arriving]
      · simp at hstep
  | sent =>
      simp only [Task.step, Task.onSent] at hstep
      split at hstep
      · rename_i c hpc hcur
        split at hstep <;> obtain rfl := Option.some.inj hstep <;>
          simp [Task.taken, Task.finish, hcur, Event.arriving]
      · rename_i c hpc hcur
        obtain rfl := Option.some.inj hstep
        simp [Task.taken, Task.finish, hcur, Event.arriving]
      · simp at hstep
  | deliver action =>
      simp only [Task.step, Task.deliver] at hstep
      grind [Task.taken, Event.arriving]
  | shutdown =>
      simp only [Task.step, Task.shutdown, Task.deliver] at hstep
      grind [Task.taken, Event.arriving]
  | recvNone | sendFailed | shutdownDone =>
      simp only [Task.step, Task.onRecvNone, Task.onSendFailed, Task.onShutdown] at hstep
      grind [Task.taken, Event.arriving]

theorem shut_step {t u : Task} {e : Event} (hstep : t.step e = some u) :
    u.shut = if e = .shutdown ∧ t.ended = false then true else t.shut := by
  cases e <;>
    simp only [Task.step, Task.onRecv, Task.onRecvNone, Task.onWritten, Task.onSent,
      Task.onSendFailed, Task.onFlushed, Task.onShutdown, Task.deliver, Task.shutdown,
      Task.finish] at hstep <;>
    grind

theorem ended_step {t u : Task} {e : Event} (h : t.ended = true) (hstep : t.step e = some u) :
    u = t ∧ e = .shutdown := by
  cases e <;>
    simp only [Task.step, Task.onRecv, Task.onRecvNone, Task.onWritten, Task.onSent,
      Task.onSendFailed, Task.onFlushed, Task.onShutdown, Task.deliver, Task.shutdown,
      Task.pending] at hstep <;>
    grind [Task.ended]

theorem payload_map_data (cs : List Handled) :
    payload (cs.map fun c => .data c.bytes) = cs.flatMap Handled.bytes := by
  induction cs with
  | nil => rfl
  | cons c cs ih => simp [ih]

theorem payload_taken (t : Task) :
    payload t.taken = (t.past ++ t.current.toList).flatMap Handled.bytes := by
  cases hclosed : t.tookClosed <;> simp [Task.taken, hclosed, payload_map_data]

theorem writtenBytes_initial (c : Handled) : c.writtenBytes <+: c.bytes := by
  unfold Handled.writtenBytes
  split
  · exact List.prefix_refl _
  · exact List.nil_prefix

theorem written_of_acked {cs : List Handled} (h : ∀ c ∈ cs, c.Acked) :
    cs.flatMap Handled.writtenBytes = cs.flatMap Handled.bytes := by
  induction cs with
  | nil => rfl
  | cons c cs ih =>
      have hc : c.writtenBytes = c.bytes := by simp [Handled.writtenBytes, (h c (by simp)).1]
      simp [hc, ih fun d hd => h d (by simp [hd])]

theorem written_of_skipped {cs : List Handled} (h : ∀ c ∈ cs, c.Skipped) :
    cs.flatMap Handled.writtenBytes = [] := by
  rw [List.flatMap_eq_nil_iff]
  intro c hc
  simp [Handled.writtenBytes, (h c hc).1]

theorem Valid.written_initial {t : Task} (h : Valid t) : t.written <+: payload t.taken := by
  have hopen : (∀ c ∈ t.past, c.Acked) → t.written <+: payload t.taken := by
    intro hacked
    rw [payload_taken, Task.written, List.flatMap_append, List.flatMap_append,
      written_of_acked hacked, List.prefix_append_right_inj]
    cases t.current with
    | none => simp
    | some c => simpa using writtenBytes_initial c
  cases hclosed : t.isClosed with
  | false => exact hopen (h.past_open hclosed)
  | true =>
      rcases h.past_closed hclosed with ⟨hacked, -⟩ |
          ⟨pre, b, post, hpast, hpre, -, hpost, hcur⟩
      · exact hopen hacked
      · have hwritten : t.written = pre.flatMap Handled.bytes ++ b.writtenBytes := by
          have hnone : t.current.toList.flatMap Handled.writtenBytes = [] := by
            cases hc : t.current with
            | none => rfl
            | some c => simp [Handled.writtenBytes, (hcur c hc).1]
          rw [Task.written, List.flatMap_append, hnone, hpast, List.flatMap_append,
            List.flatMap_cons, written_of_acked hpre, written_of_skipped hpost]
          simp
        rw [hwritten, payload_taken, hpast]
        simp only [List.append_assoc, List.flatMap_append, List.cons_append,
          List.flatMap_cons, List.prefix_append_right_inj]
        exact (writtenBytes_initial b).trans (List.prefix_append _ _)

theorem Valid.written_eq {t : Task} (h : Valid t) (hnot : ¬ t.broken)
    (hpc : t.pc = .recv ∨ t.pc = .shutdown ∨ t.pc = .done) :
    t.written = payload t.taken := by
  have hcur := h.current_eq_none hpc
  have hopen : t.isClosed = false := by
    cases hclosed : t.isClosed with
    | false => rfl
    | true =>
        rcases h.past_closed hclosed with ⟨-, c, hc, -⟩ | ⟨pre, b, post, hpast, -, hb, -, -⟩
        · simp [hcur] at hc
        · refine absurd ⟨b, by simp [hpast], ?_⟩ hnot
          rcases hb with hb | hb
          · exact Or.inr ⟨_, hb.2.1⟩
          · exact Or.inl ⟨_, hb.1⟩
  rw [payload_taken, Task.written, hcur]
  simpa using written_of_acked (h.past_open hopen)

theorem Valid.closed_of_broken {t : Task} (h : Valid t) (hbroken : t.broken) :
    t.isClosed = true ∨ t.pc = .failed := by
  obtain ⟨c, hc, hbroken⟩ := hbroken
  by_contra hnot
  have hopen : t.isClosed = false := by grind
  rcases List.mem_append.mp hc with hc | hc
  · obtain ⟨hw, hf, -⟩ := h.past_open hopen c hc
    rcases hbroken with ⟨_, hk⟩ | ⟨_, hk⟩ <;> simp_all
  · have hst := h.stage c (by simpa using hc)
    unfold Stage at hst
    unfold Handled.broken at hbroken
    grind

theorem Valid.writes_step {t u : Task} {e : Event} (h : Valid t) (hbroken : t.broken)
    (hstep : t.step e = some u) : u.broken ∧ u.writes = t.writes := by
  have hclosed := h.closed_of_broken hbroken
  have hwrite : t.pc ≠ .write ∧ t.pc ≠ .flush ∧ t.pc ≠ .sendAck := by
    cases hcur : t.current with
    | none =>
        have := h.idle hcur
        grind
    | some c =>
        have := h.stage c hcur
        unfold Stage at this
        grind
  have hidle := fun hpc => h.current_eq_none (Or.inl hpc)
  cases e with
  | recv =>
      simp only [Task.step, Task.onRecv] at hstep
      split at hstep
      · rename_i bytes rx hpc hrx
        have hcur := hidle hpc
        split at hstep <;> obtain rfl := Option.some.inj hstep
        · refine ⟨?_, by simp [Task.writes, hcur]⟩
          obtain ⟨c, hc, hb⟩ := hbroken
          exact ⟨c, by simp_all, hb⟩
        · grind
      · obtain rfl := Option.some.inj hstep
        exact ⟨hbroken, rfl⟩
      · simp at hstep
  | sent =>
      simp only [Task.step, Task.onSent] at hstep
      split at hstep
      · grind
      · rename_i c hpc hcur
        obtain rfl := Option.some.inj hstep
        refine ⟨?_, by simp [Task.writes, Task.finish, hcur, List.filterMap_cons]⟩
        obtain ⟨d, hd, hb⟩ := hbroken
        rcases List.mem_append.mp hd with hd | hd
        · exact ⟨d, by simp [Task.finish, hd], hb⟩
        · obtain rfl : d = c := by simpa [hcur] using hd
          exact ⟨{ d with answers := d.answers ++ [.sinkClosed] }, by simp [Task.finish], hb⟩
      · simp at hstep
  | written res | flushed res =>
      simp only [Task.step, Task.onWritten, Task.onFlushed] at hstep
      grind
  | recvNone | sendFailed | shutdownDone | deliver action | shutdown =>
      simp only [Task.step, Task.onRecvNone, Task.onSendFailed, Task.onShutdown,
        Task.deliver, Task.shutdown] at hstep
      unfold Task.broken Task.writes at *
      grind

theorem recvNone_spec {t u : Task} (hstep : t.step .recvNone = some u) :
    t.pc = .recv ∧ t.rx = [] ∧ u = { t with pc := .shutdown } := by
  simp only [Task.step, Task.onRecvNone] at hstep
  split at hstep
  · rename_i hpc hrx
    exact ⟨hpc, hrx, (Option.some.inj hstep).symm⟩
  · cases hstep

theorem took_step {t u : Task} {e : Event} (hne : e ≠ .recvNone)
    (htook : t.pc = .shutdown ∨ t.pc = .done → t.tookClosed = true)
    (hstep : t.step e = some u) :
    u.pc = .shutdown ∨ u.pc = .done → u.tookClosed = true := by
  cases e <;>
    simp only [Task.step, Task.onRecv, Task.onRecvNone, Task.onWritten, Task.onSent,
      Task.onSendFailed, Task.onFlushed, Task.onShutdown, Task.deliver, Task.shutdown,
      Task.finish] at hstep <;>
    grind

theorem left_step {t u : Task} {e : Event} (hpc : t.pc = .shutdown ∨ t.pc = .done)
    (hdeliver : ∀ action, e ≠ .deliver action) (hshut : e ≠ .shutdown)
    (hstep : t.step e = some u) : u.rx = t.rx ∧ u.tookClosed = t.tookClosed := by
  cases e <;>
    simp only [Task.step, Task.onRecv, Task.onRecvNone, Task.onWritten, Task.onSent,
      Task.onSendFailed, Task.onFlushed, Task.onShutdown, Task.pending] at hstep <;>
    grind

theorem writer_step {t u : Task} {e : Event} (hstep : t.step e = some u) :
    u.writer = t.writer := by
  cases e <;>
    simp only [Task.step, Task.onRecv, Task.onRecvNone, Task.onWritten, Task.onSent,
      Task.onSendFailed, Task.onFlushed, Task.onShutdown, Task.deliver, Task.shutdown,
      Task.finish] at hstep <;>
    grind

/-- A sink that has been shut down finds a `SourceClosed` in its inbox, or has left its
loop. -/
def Heard (t : Task) : Prop :=
  t.shut = true → t.pc = .shutdown ∨ t.ended = true ∨ .sourceClosed ∈ t.rx

theorem heard_new (writer : Writer) : Heard (Task.new writer) := by
  simp [Heard, Task.new]

theorem Heard.step {t u : Task} {e : Event} (h : Heard t) (hstep : t.step e = some u) :
    Heard u := by
  unfold Heard at h ⊢
  cases e <;>
    simp only [Task.step, Task.onRecv, Task.onRecvNone, Task.onWritten, Task.onSent,
      Task.onSendFailed, Task.onFlushed, Task.onShutdown, Task.deliver, Task.shutdown,
      Task.finish] at hstep <;>
    grind [Task.ended]

end Rlirsh.Stream.Sink
