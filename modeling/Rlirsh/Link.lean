import Rlirsh.Lib.Machine
import Rlirsh.Framing

/-!
One direction of a session, byte by byte: the send queue the handlers share, the sender
task, the transport and the receive loop of the peer.  Both directions run the same code
but for one wait: the sender of the server waits for `finish_notify` before it sends
`Finished` (`execute/sender.rs`, `server/execute/sender.rs`).
-/

namespace Rlirsh.Link

open Rlirsh.Protocol
open Rlirsh.Framing
open Rlirsh.Lib.Machine

/-- The await points of the sender's `Task::handle`. -/
inductive SendPc
  | recv
  -- `rest` of the size is left to write
  | writeSize (rest body : Bytes)
  | writeBody (rest : Bytes)
  | flush
  | report
  | notified
  | done
deriving DecidableEq, Repr

/-- Where the receive loop of the peer is. -/
inductive RecvPc (T : Type)
  | reading (r : Reading)
  | dispatch (m : T)
  | finished
  | failed
deriving DecidableEq, Repr

structure State (T : Type) where
  queue : List T
  -- clones of the sender of the queue
  handlers : Nat
  pc : SendPc
  isFailed : Bool
  -- `rx.recv` has yielded `None`
  closing : Bool
  errors : Nat
  errorRx : Bool
  wire : Bytes
  reader : RecvPc T
  -- the rest is history: what was enqueued, begun to be written, written, received and reported
  enqueued : List T
  begun : List T
  written : Bytes
  received : List T
  reports : Nat
deriving DecidableEq, Repr

/-- The tasks have just been spawned. -/
def new (T : Type) (handlers : Nat) : State T :=
  { queue := [], handlers, pc := .recv, isFailed := false, closing := false, errors := 0,
    errorRx := true, wire := [], reader := .reading .start, enqueued := [], begun := [],
    written := [], received := [], reports := 0 }

/-- What differs between the directions, and what is used of the messages. -/
structure Direction (T : Type) where
  codec : Codec T
  finished : T
  waitsForNotify : Bool

/-- From the client to the server. -/
def clientToServer (codec : Codec ClientAction) : Direction ClientAction :=
  { codec, finished := .finished, waitsForNotify := false }

/-- From the server to the client. -/
def serverToClient (codec : Codec ServerAction) : Direction ServerAction :=
  { codec, finished := .finished, waitsForNotify := true }

/-- Capacity of the send queue. -/
def queueCapacity : Nat := 128

/-- Capacity of the error channel. -/
def errorCapacity : Nat := 1

variable {T : Type}

/-- After `do_if_not_failed`: the next message, or the end of the task. -/
def State.afterAct (s : State T) : SendPc := if s.closing then .done else .recv

/-- `do_if_not_failed` on `send_message`, up to its first await. -/
def State.act (d : Direction T) (s : State T) (m : T) : State T :=
  if s.isFailed then { s with pc := s.afterAct }
  else
    match d.codec.accepted m with
    | none => { s with pc := .report }
    | some b => { s with pc := .writeSize (encodeU32 b.length) b, begun := s.begun ++ [m] }

/-- `rx.recv` yields a message, or `None` when the queue is empty and every clone of its
sender is gone. -/
def State.onRecv (d : Direction T) (s : State T) : Option (State T) :=
  match s.pc, s.queue with
  | .recv, m :: queue => some (State.act d { s with queue } m)
  | .recv, [] =>
      if s.handlers = 0 then
        let s := { s with closing := true }
        if d.waitsForNotify then some { s with pc := .notified }
        else some (s.act d d.finished)
      else none
  | _, _ => none

/-- `finish_notify.notified` completes. -/
def State.onNotified (d : Direction T) (s : State T) : Option (State T) :=
  match s.pc with
  | .notified => some (s.act d d.finished)
  | _ => none

/-- The transport takes `n` bytes of the current `write_u32` or `write_all`. -/
def State.onWrite (s : State T) (n : Nat) : Option (State T) :=
  match s.pc with
  | .writeSize rest body =>
      if 0 < n ∧ n ≤ rest.length then
        let pc := if rest.drop n ≠ [] then .writeSize (rest.drop n) body
          else if body ≠ [] then .writeBody body else .flush
        some { s with pc, wire := s.wire ++ rest.take n, written := s.written ++ rest.take n }
      else none
  | .writeBody rest =>
      if 0 < n ∧ n ≤ rest.length then
        let pc := if rest.drop n ≠ [] then .writeBody (rest.drop n) else .flush
        some { s with pc, wire := s.wire ++ rest.take n, written := s.written ++ rest.take n }
      else none
  | _ => none

/-- A write or the flush fails. -/
def State.onWriteFailed (s : State T) : Option (State T) :=
  match s.pc with
  | .writeSize _ _ | .writeBody _ | .flush => some { s with pc := .report }
  | _ => none

def State.onFlushed (s : State T) : Option (State T) :=
  match s.pc with
  | .flush => some { s with pc := s.afterAct }
  | _ => none

/-- `error_tx.send` completes: there is room for the report, or nobody listens. -/
def State.onReported (s : State T) : Option (State T) :=
  match s.pc with
  | .report =>
      let t := { s with pc := s.afterAct, isFailed := true, reports := s.reports + 1 }
      if s.errorRx = false then some t
      else if s.errors < errorCapacity then some { t with errors := s.errors + 1 }
      else none
  | _ => none

/-- A read of `recv_message` returns `n` bytes. -/
def State.onRead [DecidableEq T] (d : Direction T) (s : State T) (n : Nat) :
    Option (State T) :=
  match s.reader with
  | .reading r =>
      if 0 < n ∧ n ≤ r.wanted ∧ n ≤ s.wire.length then
        let t := { s with wire := s.wire.drop n }
        match d.codec.receive r (s.wire.take n) with
        | .more next => some { t with reader := .reading next }
        | .message m =>
            some { t with
              reader := if m = d.finished then .finished else .dispatch m
              received := s.received ++ [m] }
        | .error => some { t with reader := .failed }
      else none
  | _ => none

/-- The `select!` of the receive loop yields an error: a read has failed, or the sender
of that side has reported one, which drops `recv_message` half-way. -/
def State.onReadFailed (s : State T) : Option (State T) :=
  match s.reader with
  | .reading _ => some { s with reader := .failed }
  | _ => none

/-- The handler of the message has it, or could not be given it. -/
def State.onDispatched (s : State T) (ok : Bool) : Option (State T) :=
  match s.reader with
  | .dispatch _ => some { s with reader := if ok then .reading .start else .failed }
  | _ => none

inductive Event (T : Type)
  | enqueue (m : T)
  | clone
  | drop
  | recv
  | notified
  | write (n : Nat)
  | writeFailed
  | flushed
  | reported
  | takeError
  | dropErrorRx
  | read (n : Nat)
  | readFailed
  | dispatched (ok : Bool)
deriving DecidableEq, Repr

def step [DecidableEq T] (d : Direction T) (s : State T) : Event T → Option (State T)
  | .enqueue m =>
      if 0 < s.handlers ∧ s.pc ≠ .done ∧ s.queue.length < queueCapacity then
        some { s with queue := s.queue ++ [m], enqueued := s.enqueued ++ [m] }
      else none
  | .clone => if 0 < s.handlers then some { s with handlers := s.handlers + 1 } else none
  | .drop => if 0 < s.handlers then some { s with handlers := s.handlers - 1 } else none
  | .recv => s.onRecv d
  | .notified => s.onNotified d
  | .write n => s.onWrite n
  | .writeFailed => s.onWriteFailed
  | .flushed => s.onFlushed
  | .reported => s.onReported
  | .takeError =>
      if s.errorRx = true ∧ 0 < s.errors then some { s with errors := s.errors - 1 } else none
  | .dropErrorRx => some { s with errorRx := false }
  | .read n => s.onRead d n
  | .readFailed => s.onReadFailed
  | .dispatched ok => s.onDispatched ok

/-- A `send_message` has failed. -/
def State.broken (s : State T) : Prop := s.isFailed = true ∨ s.pc = .report

/-- The bytes of the current frame that are not written yet. -/
def SendPc.unwritten : SendPc → Bytes
  | .writeSize rest body => rest ++ body
  | .writeBody rest => rest
  | _ => []

/-- The bytes of the current frame that `recv_message` has taken. -/
def RecvPc.consumed : RecvPc T → Bytes
  | .reading r => r.consumed
  | _ => []

/-- What holds of the sender task. -/
structure SenderInv (d : Direction T) (s : State T) : Prop where
  -- the queue is drained in order until a message fails
  begun_eq : ¬ s.broken → s.closing = false → s.begun ++ s.queue = s.enqueued
  begun_notified : ¬ s.broken → s.pc = .notified → s.begun = s.enqueued
  begun_initial : s.begun <+: s.enqueued ∨ s.closing = true ∧ s.begun = s.enqueued ++ [d.finished]
  closing_queue : s.closing = true → s.queue = [] ∧ s.handlers = 0
  closing_pc : s.pc = .notified ∨ s.pc = .done → s.closing = true
  recv_pc : s.pc = .recv → s.closing = false
  failed_pc : s.isFailed = true → s.pc = .recv ∨ s.pc = .notified ∨ s.pc = .done
  reports_eq : s.reports = if s.isFailed = true then 1 else 0
  errors_le : s.errors ≤ s.reports
  accepted : ∀ m ∈ s.begun, (d.codec.accepted m).isSome

theorem senderInv_new (d : Direction T) (handlers : Nat) : SenderInv d (new T handlers) := by
  constructor <;> simp [new]

variable [DecidableEq T]

omit [DecidableEq T] in
theorem SenderInv.onRecv {d : Direction T} {s t : State T} (h : SenderInv d s)
    (hstep : s.onRecv d = some t) : SenderInv d t := by
  obtain ⟨heq, hnotified, hbefore, hqueue, hclosing, hrecv, hfailed, hreports, herrors, hacc⟩ := h
  have hnext {m : T} {queue : List T} (h : s.begun ++ m :: queue = s.enqueued) :
      s.begun ++ [m] <+: s.enqueued := ⟨queue, by simpa using h⟩
  simp only [State.onRecv] at hstep
  constructor <;> grind [State.act, State.broken, State.afterAct]

omit [DecidableEq T] in
theorem SenderInv.onNotified {d : Direction T} {s t : State T} (h : SenderInv d s)
    (hstep : s.onNotified d = some t) : SenderInv d t := by
  obtain ⟨heq, hnotified, hbefore, hqueue, hclosing, hrecv, hfailed, hreports, herrors, hacc⟩ := h
  simp only [State.onNotified] at hstep
  constructor <;> grind [State.act, State.broken, State.afterAct]

omit [DecidableEq T] in
theorem SenderInv.enqueue {d : Direction T} {s : State T} (h : SenderInv d s) (m : T)
    (hhandlers : 0 < s.handlers) :
    SenderInv d { s with queue := s.queue ++ [m], enqueued := s.enqueued ++ [m] } := by
  have hopen : s.closing = false := by
    rw [← Bool.not_eq_true]
    intro hclosing
    have := (h.closing_queue hclosing).2
    omega
  refine ⟨fun hnot hclosing => ?_, fun hnot hpc => ?_, ?_, fun hclosing => ?_, h.closing_pc,
    h.recv_pc, h.failed_pc, h.reports_eq, h.errors_le, h.accepted⟩
  · rw [← h.begun_eq hnot hclosing, List.append_assoc]
  · rw [h.closing_pc (Or.inl hpc)] at hopen
    cases hopen
  · rcases h.begun_initial with hbegun | ⟨hclosing, -⟩
    · exact Or.inl (hbegun.trans (List.prefix_append _ _))
    · rw [hclosing] at hopen
      cases hopen
  · rw [hclosing] at hopen
    cases hopen

omit [DecidableEq T] in
theorem SenderInv.onWrite {d : Direction T} {s t : State T} {n : Nat} (h : SenderInv d s)
    (hstep : s.onWrite n = some t) : SenderInv d t := by
  obtain ⟨heq, hnotified, hbefore, hqueue, hclosing, hrecv, hfailed, hreports, herrors, hacc⟩ := h
  simp only [State.onWrite] at hstep
  constructor <;> grind [State.broken]

omit [DecidableEq T] in
theorem SenderInv.onWriteFailed {d : Direction T} {s t : State T} (h : SenderInv d s)
    (hstep : s.onWriteFailed = some t) : SenderInv d t := by
  obtain ⟨heq, hnotified, hbefore, hqueue, hclosing, hrecv, hfailed, hreports, herrors, hacc⟩ := h
  simp only [State.onWriteFailed] at hstep
  constructor <;> grind [State.broken]

omit [DecidableEq T] in
theorem SenderInv.onFlushed {d : Direction T} {s t : State T} (h : SenderInv d s)
    (hstep : s.onFlushed = some t) : SenderInv d t := by
  obtain ⟨heq, hnotified, hbefore, hqueue, hclosing, hrecv, hfailed, hreports, herrors, hacc⟩ := h
  simp only [State.onFlushed] at hstep
  constructor <;> grind [State.broken, State.afterAct]

omit [DecidableEq T] in
theorem SenderInv.onReported {d : Direction T} {s t : State T} (h : SenderInv d s)
    (hstep : s.onReported = some t) : SenderInv d t := by
  obtain ⟨heq, hnotified, hbefore, hqueue, hclosing, hrecv, hfailed, hreports, herrors, hacc⟩ := h
  simp only [State.onReported] at hstep
  constructor <;> grind [State.broken, State.afterAct]

omit [DecidableEq T] in
theorem SenderInv.receiving {d : Direction T} {s : State T} {wire : Bytes} {reader : RecvPc T}
    {received : List T} {errors : Nat} {errorRx : Bool} (h : SenderInv d s)
    (herrors : errors ≤ s.errors) :
    SenderInv d { s with wire, reader, received, errors, errorRx } :=
  ⟨h.begun_eq, h.begun_notified, h.begun_initial, h.closing_queue, h.closing_pc, h.recv_pc,
    h.failed_pc, h.reports_eq, Nat.le_trans herrors h.errors_le, h.accepted⟩

omit [DecidableEq T] in
theorem SenderInv.setHandlers {d : Direction T} {s : State T} {n : Nat} (h : SenderInv d s)
    (hhandlers : s.handlers = 0 → n = 0) : SenderInv d { s with handlers := n } :=
  ⟨h.begun_eq, h.begun_notified, h.begun_initial,
    fun hclosing => ⟨(h.closing_queue hclosing).1, hhandlers (h.closing_queue hclosing).2⟩,
    h.closing_pc, h.recv_pc, h.failed_pc, h.reports_eq, h.errors_le, h.accepted⟩

theorem SenderInv.onRead {d : Direction T} {s t : State T} {n : Nat} (h : SenderInv d s)
    (hstep : s.onRead d n = some t) : SenderInv d t := by
  simp only [State.onRead] at hstep
  split at hstep
  · rw [Option.ite_none_right_eq_some] at hstep
    obtain ⟨-, hstep⟩ := hstep
    split at hstep
    all_goals
      obtain rfl := Option.some.inj hstep
      exact h.receiving (Nat.le_refl _)
  · cases hstep

theorem SenderInv.step {d : Direction T} {s t : State T} {e : Event T} (h : SenderInv d s)
    (hstep : step d s e = some t) : SenderInv d t := by
  cases e with
  | recv => exact h.onRecv hstep
  | notified => exact h.onNotified hstep
  | enqueue m =>
      simp only [Link.step] at hstep
      rw [Option.ite_none_right_eq_some, Option.some.injEq] at hstep
      obtain ⟨⟨hhandlers, -⟩, rfl⟩ := hstep
      exact h.enqueue m hhandlers
  | write n => exact h.onWrite hstep
  | writeFailed => exact h.onWriteFailed hstep
  | flushed => exact h.onFlushed hstep
  | reported => exact h.onReported hstep
  | clone | drop =>
      simp only [Link.step] at hstep
      rw [Option.ite_none_right_eq_some, Option.some.injEq] at hstep
      obtain ⟨hhandlers, rfl⟩ := hstep
      exact h.setHandlers (by omega)
  | takeError =>
      simp only [Link.step] at hstep
      rw [Option.ite_none_right_eq_some, Option.some.injEq] at hstep
      obtain ⟨-, rfl⟩ := hstep
      exact h.receiving (Nat.sub_le _ _)
  | dropErrorRx =>
      obtain rfl := Option.some.inj hstep
      exact h.receiving (Nat.le_refl _)
  | read n => exact h.onRead hstep
  | readFailed | dispatched ok =>
      simp only [Link.step, State.onReadFailed, State.onDispatched] at hstep
      split at hstep
      · obtain rfl := Option.some.inj hstep
        exact h.receiving (Nat.le_refl _)
      · cases hstep

/-- Where the bytes of the messages are: what `recv_message` has taken of the current
frame, what is on its way and what is left to write are the frames of the messages that
have been begun and not received. -/
structure WireInv (d : Direction T) (s : State T) : Prop where
  good : ∀ r, s.reader = .reading r → r.Good
  received_initial : s.received <+: s.begun
  bytes : s.reader ≠ .failed → ∃ rest u, s.begun = s.received ++ rest ∧
    s.reader.consumed ++ s.wire ++ u = d.codec.frames rest ∧
    (¬ s.broken → u = s.pc.unwritten)
  finished_last : s.reader = .finished → ∃ pre, s.received = pre ++ [d.finished]

omit [DecidableEq T] in
theorem wireInv_new (d : Direction T) (handlers : Nat) : WireInv d (new T handlers) := by
  constructor
  · rintro r hr
    obtain rfl : r = .start := by simpa [new] using hr.symm
    exact Reading.good_start
  · simp [new]
  · exact fun _ => ⟨[], [], by simp [new, RecvPc.consumed, Reading.start, Reading.consumed,
      SendPc.unwritten]⟩
  · simp [new]

omit [DecidableEq T] in
theorem WireInv.congr {d : Direction T} {s t : State T} (h : WireInv d s)
    (hreader : t.reader = s.reader) (hwire : t.wire = s.wire) (hbegun : t.begun = s.begun)
    (hreceived : t.received = s.received)
    (hpc : ¬ t.broken → ¬ s.broken ∧ t.pc.unwritten = s.pc.unwritten) : WireInv d t := by
  obtain ⟨hgood, hbefore, hbytes, hlast⟩ := h
  refine ⟨by rwa [hreader], by rwa [hreceived, hbegun], fun hne => ?_, by rwa [hreader, hreceived]⟩
  obtain ⟨rest, u, hrest, hu, heq⟩ := hbytes (hreader ▸ hne)
  refine ⟨rest, u, by rwa [hbegun, hreceived], by rwa [hreader, hwire], fun hnot => ?_⟩
  obtain ⟨hnot', hsame⟩ := hpc hnot
  rw [hsame, heq hnot']

omit [DecidableEq T] in
theorem WireInv.act {d : Direction T} {s : State T} {m : T} (h : WireInv d s)
    (hidle : s.pc = .recv ∨ s.pc = .notified) : WireInv d (s.act d m) := by
  have hunwritten : s.pc.unwritten = [] := by
    rcases hidle with hpc | hpc <;> simp [hpc, SendPc.unwritten]
  unfold State.act
  by_cases hfailed : s.isFailed = true
  · rw [if_pos hfailed]
    exact h.congr rfl rfl rfl rfl fun hnot => absurd (Or.inl hfailed) hnot
  · rw [if_neg hfailed]
    have hnot : ¬ s.broken := by
      rintro (hb | hb)
      · exact hfailed hb
      · rcases hidle with hpc | hpc <;> simp [hpc] at hb
    cases hacc : d.codec.accepted m with
    | none => exact h.congr rfl rfl rfl rfl fun hnot => absurd (Or.inr rfl) hnot
    | some b =>
        refine ⟨h.good, h.received_initial.trans (List.prefix_append _ _), fun hne => ?_,
          h.finished_last⟩
        obtain ⟨rest, u, hrest, hu, heq⟩ := h.bytes hne
        have hnil : u = [] := by rw [heq hnot, hunwritten]
        refine ⟨rest ++ [m], frame b, by simp [hrest], ?_, fun _ => rfl⟩
        rw [d.codec.frames_append, d.codec.frames_cons hacc, ← hu, hnil]
        simp

omit [DecidableEq T] in
theorem WireInv.write {d : Direction T} {s : State T} {pc : SendPc} {chunk : Bytes}
    (h : WireInv d s) (hnot : ¬ s.broken)
    (hchunk : s.pc.unwritten = chunk ++ pc.unwritten) :
    WireInv d { s with pc, wire := s.wire ++ chunk, written := s.written ++ chunk } := by
  refine ⟨h.good, h.received_initial, fun hne => ?_, h.finished_last⟩
  obtain ⟨rest, u, hrest, hu, heq⟩ := h.bytes hne
  refine ⟨rest, pc.unwritten, hrest, ?_, fun _ => rfl⟩
  rw [← hu, heq hnot, hchunk]
  simp

theorem WireInv.step_read {d : Direction T} {s t : State T} {n : Nat} (hsender : SenderInv d s)
    (h : WireInv d s) (hstep : step d s (.read n) = some t) : WireInv d t := by
  simp only [Link.step, State.onRead] at hstep
  split at hstep
  · rename_i r hreader
    rw [Option.ite_none_right_eq_some] at hstep
    obtain ⟨⟨hpos, hwanted, hwire⟩, hstep⟩ := hstep
    obtain ⟨rest, u, hrest, hu, heq⟩ := h.bytes (by simp [hreader])
    have hacc : ∀ m ∈ rest, (d.codec.accepted m).isSome :=
      fun m hm => hsender.accepted m (by simp [hrest, hm])
    have hsplit : r.consumed ++ s.wire.take n ++ (s.wire.drop n ++ u) =
        d.codec.frames rest := by
      rw [← hu, hreader, List.append_assoc r.consumed, ← List.append_assoc (s.wire.take n),
        List.take_append_drop, List.append_assoc]
      rfl
    have hchunk : s.wire.take n ≠ [] := by
      rw [← List.length_pos_iff, List.length_take]
      omega
    have hspec := receive_spec d.codec (h.good r hreader) hchunk
      (by simp only [List.length_take]; omega) hacc hsplit
    split at hstep
    · rename_i next hnext
      rw [hnext] at hspec
      obtain rfl := Option.some.inj hstep
      refine ⟨?_, h.received_initial, fun _ => ⟨rest, u, hrest, ?_, heq⟩, by simp⟩
      · rintro r' hr'
        obtain rfl : next = r' := by simpa using hr'
        exact hspec.1
      · rw [← hsplit, ← hspec.2, ← List.append_assoc]
        rfl
    · rename_i m hmessage
      rw [hmessage] at hspec
      obtain ⟨ns, hns, hframes⟩ := hspec
      obtain rfl := Option.some.inj hstep
      have hbegun : s.begun = s.received ++ [m] ++ ns := by simp [hrest, hns]
      have hleft : s.wire.drop n ++ u = d.codec.frames ns := by
        rw [hframes, List.append_cancel_left_eq] at hsplit
        exact hsplit
      refine ⟨?_, ⟨ns, hbegun.symm⟩, fun _ => ⟨ns, u, hbegun, ?_, heq⟩, ?_⟩
      · rintro r' hr'
        split at hr' <;> simp at hr'
      · rw [← hleft]
        split <;> simp [RecvPc.consumed]
      · split
        · rename_i hm
          exact fun _ => ⟨s.received, by simp [hm]⟩
        · simp
    · rename_i herror
      rw [herror] at hspec
      exact hspec.elim
  · simp at hstep

omit [DecidableEq T] in
theorem WireInv.onFlushed {d : Direction T} {s t : State T} (h : WireInv d s)
    (hstep : s.onFlushed = some t) : WireInv d t := by
  simp only [State.onFlushed] at hstep
  split at hstep
  · rename_i hpc
    obtain rfl := Option.some.inj hstep
    refine h.congr rfl rfl rfl rfl fun hnot => ⟨?_, ?_⟩
    · rintro (hfailed | hreport)
      · exact hnot (Or.inl hfailed)
      · rw [hpc] at hreport
        cases hreport
    · rw [hpc]
      simp only [State.afterAct]
      split <;> rfl
  · cases hstep

omit [DecidableEq T] in
theorem WireInv.onWriteFailed {d : Direction T} {s t : State T} (h : WireInv d s)
    (hstep : s.onWriteFailed = some t) : WireInv d t := by
  simp only [State.onWriteFailed] at hstep
  split at hstep
  all_goals try cases hstep
  all_goals exact h.congr rfl rfl rfl rfl fun hnot => absurd (Or.inr rfl) hnot

omit [DecidableEq T] in
theorem WireInv.onReported {d : Direction T} {s t : State T} (h : WireInv d s)
    (hstep : s.onReported = some t) : WireInv d t := by
  simp only [State.onReported] at hstep
  split at hstep
  · split at hstep
    · obtain rfl := Option.some.inj hstep
      exact h.congr rfl rfl rfl rfl fun hnot => absurd (Or.inl rfl) hnot
    · rw [Option.ite_none_right_eq_some, Option.some.injEq] at hstep
      obtain ⟨-, rfl⟩ := hstep
      exact h.congr rfl rfl rfl rfl fun hnot => absurd (Or.inl rfl) hnot
  · cases hstep

theorem WireInv.step {d : Direction T} {s t : State T} {e : Event T} (hsender : SenderInv d s)
    (h : WireInv d s) (hstep : step d s e = some t) : WireInv d t := by
  have hfailed := hsender.failed_pc
  cases e with
  | recv =>
      simp only [Link.step, State.onRecv] at hstep
      split at hstep
      · rename_i m queue hpc hqueue
        obtain rfl := Option.some.inj hstep
        exact WireInv.act (h.congr rfl rfl rfl rfl fun hnot => ⟨hnot, rfl⟩) (Or.inl hpc)
      · rename_i hpc hqueue
        split at hstep
        · split at hstep
          · obtain rfl := Option.some.inj hstep
            exact h.congr rfl rfl rfl rfl fun hnot => by
              simp_all [State.broken, SendPc.unwritten]
          · obtain rfl := Option.some.inj hstep
            exact WireInv.act (h.congr rfl rfl rfl rfl fun hnot => ⟨hnot, rfl⟩) (Or.inl hpc)
        · simp at hstep
      · simp at hstep
  | notified =>
      simp only [Link.step, State.onNotified] at hstep
      split at hstep
      · rename_i hpc
        obtain rfl := Option.some.inj hstep
        exact h.act (Or.inr hpc)
      · simp at hstep
  | write n =>
      simp only [Link.step, State.onWrite] at hstep
      split at hstep
      · rename_i rest body hpc
        rw [Option.ite_none_right_eq_some, Option.some.injEq] at hstep
        obtain ⟨-, rfl⟩ := hstep
        apply h.write (by grind [State.broken])
        rw [hpc]
        conv_lhs => rw [SendPc.unwritten, ← List.take_append_drop n rest, List.append_assoc]
        split
        · rfl
        · rename_i hdrop
          have hnil : rest.drop n = [] := by simpa using hdrop
          rw [hnil, List.nil_append]
          split
          · rfl
          · rename_i hbody
            rw [show body = [] by simpa using hbody]
            rfl
      · rename_i rest hpc
        rw [Option.ite_none_right_eq_some, Option.some.injEq] at hstep
        obtain ⟨-, rfl⟩ := hstep
        apply h.write (by grind [State.broken])
        rw [hpc]
        conv_lhs => rw [SendPc.unwritten, ← List.take_append_drop n rest]
        split
        · rfl
        · rename_i hdrop
          have hnil : rest.drop n = [] := by simpa using hdrop
          simp [hnil, SendPc.unwritten]
      · simp at hstep
  | flushed => exact h.onFlushed hstep
  | writeFailed => exact h.onWriteFailed hstep
  | reported => exact h.onReported hstep
  | enqueue m | clone | drop | takeError =>
      simp only [Link.step] at hstep
      rw [Option.ite_none_right_eq_some, Option.some.injEq] at hstep
      obtain ⟨-, rfl⟩ := hstep
      exact h.congr rfl rfl rfl rfl fun hnot => ⟨hnot, rfl⟩
  | dropErrorRx =>
      obtain rfl := Option.some.inj hstep
      exact h.congr rfl rfl rfl rfl fun hnot => ⟨hnot, rfl⟩
  | read n => exact h.step_read hsender hstep
  | readFailed =>
      simp only [Link.step, State.onReadFailed] at hstep
      split at hstep
      · obtain rfl := Option.some.inj hstep
        exact ⟨by simp, h.received_initial, by simp, by simp⟩
      · simp at hstep
  | dispatched ok =>
      simp only [Link.step, State.onDispatched] at hstep
      split at hstep
      · rename_i m hreader
        obtain rfl := Option.some.inj hstep
        obtain ⟨rest, u, hrest, hu, heq⟩ := h.bytes (by simp [hreader])
        cases ok with
        | true =>
            refine ⟨?_, h.received_initial, fun _ => ⟨rest, u, hrest, ?_, heq⟩, by simp⟩
            · rintro r hr
              obtain rfl : Reading.start = r := by simpa using hr
              exact Reading.good_start
            · rw [← hu, hreader]
              rfl
        | false => exact ⟨by simp, h.received_initial, by simp, by simp⟩
      · simp at hstep

/-- The invariant of every run of a direction. -/
structure Inv (d : Direction T) (s : State T) : Prop where
  sender : SenderInv d s
  wire : WireInv d s

theorem inv_of_reach {d : Direction T} {ok : State T → Event T → Prop} {handlers : Nat}
    {s : State T} (h : Reach (step d) ok (new T handlers) s) : Inv d s :=
  h.invariant ⟨senderInv_new d handlers, wireInv_new d handlers⟩
    fun _ _ _ _ hinv _ hstep => ⟨hinv.sender.step hstep, hinv.wire.step hinv.sender hstep⟩

omit [DecidableEq T] in
/-- What the peer receives is a prefix of what is enqueued, followed by `Finished`. -/
theorem Inv.received_initial {d : Direction T} {s : State T} (h : Inv d s) :
    s.received <+: s.enqueued ++ [d.finished] := by
  apply h.wire.received_initial.trans
  rcases h.sender.begun_initial with hbefore | ⟨-, hall⟩
  · exact hbefore.trans (List.prefix_append _ _)
  · exact hall ▸ List.prefix_refl _

theorem written_step {d : Direction T} {s t : State T} {e : Event T} (h : SenderInv d s)
    (hbroken : s.broken) (hstep : step d s e = some t) :
    t.broken ∧ t.written = s.written := by
  have hfailed := h.failed_pc
  cases e <;>
    simp only [Link.step, State.onRecv, State.onNotified, State.onWrite, State.onWriteFailed,
      State.onFlushed, State.onReported, State.onRead, State.onReadFailed,
      State.onDispatched] at hstep <;>
    grind [State.broken, State.act]

theorem written_of_reach {d : Direction T} {ok : State T → Event T → Prop} {s t : State T}
    (h : Inv d s) (hbroken : s.broken) (hreach : Reach (step d) ok s t) :
    t.written = s.written := by
  have hall : Inv d t ∧ t.broken ∧ t.written = s.written := by
    apply hreach.invariant (P := fun a => Inv d a ∧ a.broken ∧ a.written = s.written)
      ⟨h, hbroken, rfl⟩
    rintro a e b _ ⟨ha, hb, hw⟩ _ hstep
    obtain ⟨hb', hw'⟩ := written_step ha.sender hb hstep
    exact ⟨⟨ha.sender.step hstep, ha.wire.step ha.sender hstep⟩, hb', hw'.trans hw⟩
  exact hall.2.2

/-- The steps of the sender task. -/
def Sending (_ : State T) (e : Event T) : Prop :=
  match e with
  | .recv | .notified | .write _ | .writeFailed | .flushed | .reported => True
  | _ => False

theorem SenderInv.reported_enabled {d : Direction T} {s : State T} (h : SenderInv d s)
    (hpc : s.pc = .report) : (Link.step d s .reported).isSome := by
  have hnot : s.isFailed = false := by
    have := h.failed_pc
    grind
  have hzero : s.errors = 0 := by
    have hle := h.errors_le
    rw [h.reports_eq] at hle
    simpa [hnot] using hle
  cases hrx : s.errorRx <;>
    simp [Link.step, State.onReported, hpc, hrx, hzero, errorCapacity]

/-- The steps a failed sender is away from an empty queue, at most. -/
def drainRank (s : State T) : Nat :=
  2 * s.queue.length + if s.pc = .report then 1 else 0

theorem drain_enabled {d : Direction T} {s : State T} (h : SenderInv d s) (hbroken : s.broken)
    (hqueue : s.queue ≠ []) : ∃ t, Step (step d) Sending s t := by
  obtain ⟨m, queue, hm⟩ := List.exists_cons_of_ne_nil hqueue
  have hopen : s.closing = false := by
    rw [Bool.eq_false_iff]
    exact fun hclosing => hqueue (h.closing_queue hclosing).1
  by_cases hreport : s.pc = .report
  · obtain ⟨t, ht⟩ := Option.isSome_iff_exists.mp (h.reported_enabled hreport)
    exact ⟨t, .reported, trivial, ht⟩
  · have hfailed : s.isFailed = true := hbroken.resolve_right hreport
    have hpc : s.pc = .recv := by
      have hclosing := h.closing_pc
      rcases h.failed_pc hfailed with hpc | hpc | hpc <;> simp_all
    have hsome : (step d s .recv).isSome := by simp [step, State.onRecv, hpc, hm]
    obtain ⟨t, ht⟩ := Option.isSome_iff_exists.mp hsome
    exact ⟨t, .recv, trivial, ht⟩

theorem drain_step {d : Direction T} {s t : State T} {e : Event T} (h : SenderInv d s)
    (hbroken : s.broken) (hok : Sending s e) (hstep : step d s e = some t) :
    t.queue = [] ∨ drainRank t < drainRank s := by
  have hfailed := h.failed_pc
  have hqueue := h.closing_queue
  have hclosing := h.closing_pc
  cases e <;> simp only [Sending] at hok <;>
    simp only [Link.step, State.onRecv, State.onNotified, State.onWrite, State.onWriteFailed,
      State.onFlushed, State.onReported] at hstep <;>
    grind [State.broken, State.act, State.afterAct, drainRank]

theorem drained {d : Direction T} {s : State T} (h : Inv d s) (hbroken : s.broken) :
    Inevitable (step d) Sending (fun t => t.queue = []) s := by
  refine Inevitable.of_rank (I := fun t => Inv d t ∧ t.broken) drainRank ⟨h, hbroken⟩ ?_ ?_
  · rintro t ⟨ht, hb⟩
    by_cases hqueue : t.queue = []
    · exact Or.inl hqueue
    · exact Or.inr (drain_enabled ht.sender hb hqueue)
  · rintro t e r ⟨ht, hb⟩ hok hstep
    apply (drain_step ht.sender hb hok hstep).imp_right
    intro hlt
    exact ⟨⟨⟨ht.sender.step hstep, ht.wire.step ht.sender hstep⟩,
      (written_step ht.sender hb hstep).1⟩, hlt⟩

/-- A direction delivers a prefix.  What the peer's receive loop has taken from the
connection, `Finished` included, is a prefix of what the handlers have enqueued followed
by `Finished`.  After the first message that fails nothing more is written, the sender
goes on until it has drained the queue, and it ends only when no handler is left, so that
none finds the queue closed.  It reports one error at most, and the report does not
block. -/
theorem delivers_prefix (d : Direction T) (handlers : Nat) (s : State T)
    (h : Reach (step d) Any (new T handlers) s) :
    s.received <+: s.enqueued ++ [d.finished] ∧
    (s.reader = .finished → ∃ pre, s.received = pre ++ [d.finished]) ∧
    (s.broken → (∀ t, Reach (step d) Any s t → t.written = s.written) ∧
      Inevitable (step d) Sending (fun t => t.queue = []) s) ∧
    (0 < s.handlers → s.pc ≠ .done) ∧
    s.reports ≤ 1 ∧
    (s.pc = .report → (step d s .reported).isSome) := by
  have hinv := inv_of_reach h
  refine ⟨hinv.received_initial, hinv.wire.finished_last,
    fun hbroken => ⟨fun t ht => written_of_reach hinv hbroken ht, drained hinv hbroken⟩,
    fun hpos hpc => ?_, ?_, hinv.sender.reported_enabled⟩
  · have := (hinv.sender.closing_queue (hinv.sender.closing_pc (Or.inr hpc))).2
    omega
  · rw [hinv.sender.reports_eq]
    split <;> omega

/-- `bincode` on two messages of the client. -/
def resizeCodec : Codec ClientAction where
  serialize m :=
    if m = .windowSizeChange ⟨80, 24⟩ then some [1, 0, 0, 0, 80, 0, 24, 0]
    else if m = .finished then some [2, 0, 0, 0]
    else none
  deserialize b :=
    if b = [1, 0, 0, 0, 80, 0, 24, 0] then some (.windowSizeChange ⟨80, 24⟩)
    else if b = [2, 0, 0, 0] then some .finished
    else none
  deserialize_serialize := by
    intro m b h
    split at h
    · rename_i hm
      obtain rfl := Option.some.inj h
      exact hm ▸ rfl
    · split at h
      · rename_i hm
        obtain rfl := Option.some.inj h
        exact hm ▸ rfl
      · cases h

/-- The client's `Finished` is cut off in the middle, after a change of the window size
that arrived in three pieces. -/
def cutOff : List (Event ClientAction) :=
  [.enqueue (.windowSizeChange ⟨80, 24⟩), .recv, .write 3, .write 1, .write 8, .flushed,
    .drop, .recv, .write 4, .write 2, .writeFailed, .read 4, .read 5, .read 3,
    .dispatched true, .read 4, .read 1, .readFailed, .reported]

theorem delivers_prefix_cutOff :
    ∃ s, run (step (clientToServer resizeCodec)) (new _ 1) cutOff = some s ∧
      s.received = [.windowSizeChange ⟨80, 24⟩] ∧ s.wire = [0] ∧
      s.received <+: s.enqueued ++ [.finished] ∧
      (∀ t, Reach (step (clientToServer resizeCodec)) Any s t → t.written = s.written) ∧
      s.reports ≤ 1 := by
  obtain ⟨s, hrun⟩ :
      ∃ s, run (step (clientToServer resizeCodec)) (new _ 1) cutOff = some s := ⟨_, rfl⟩
  obtain ⟨hbefore, -, hbroken, -, hreports, -⟩ :=
    delivers_prefix (clientToServer resizeCodec) 1 s (reach_of_run hrun)
  have hs := Option.some.inj hrun
  refine ⟨s, hrun, ?_, ?_, hbefore, (hbroken (Or.inl ?_)).1, hreports⟩ <;> rw [← hs] <;> rfl

end Rlirsh.Link
