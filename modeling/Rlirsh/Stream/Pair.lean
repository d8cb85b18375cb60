import Rlirsh.Lib.Machine
import Rlirsh.Stream.Source
import Rlirsh.Stream.Sink

/-!
One direction of one stream: a source, a sink and the two message paths between
them.  A path is everything between the `tx.send` of one task and the inbox of
the other one: the send queue, the connection and the hand of the receiver loop.
It is first in, first out, and may hold a message for ever, which is also what a
lost connection looks like from here.
-/

namespace Rlirsh.Stream.Pair

open Rlirsh.Protocol
open Rlirsh.Lib.Machine

structure State where
  source : Source.Task
  sink : Sink.Task
  -- actions on their way to the inbox of the sink, and to that of the source
  fwd : List SourceAction
  back : List SinkAction
  -- history: what was put into the inbox of the sink, and how many `SinkClosed` others than
  -- the sink have sent
  delivered : List SourceAction
  injected : Nat
deriving DecidableEq, Repr

/-- Both tasks have just been spawned. -/
def new (writer : Sink.Writer) : State :=
  { source := Source.Task.new, sink := Sink.Task.new writer, fwd := [], back := [],
    delivered := [], injected := 0 }

inductive Event
  | source (e : Source.Event)
  | sink (e : Sink.Event)
  | sendSourceAction
  | sendSinkAction
  -- the server enqueues a `SinkClosed` in the name of the sink
  | inject
deriving DecidableEq, Repr

/-- One step.  `RecvRouter::shutdown` runs once, after the receiver loop of its side,
so that nothing is delivered to a sink that has been shut down. -/
def step (p : State) : Event → Option State
  | .source (.deliver _) | .sink (.deliver _) => none
  | .source .sent => do
      let action ← p.source.pending
      let source ← p.source.onSent
      some { p with source, fwd := p.fwd ++ [action] }
  | .source .shutdown =>
      if p.source.shut then none
      else do
        let source ← p.source.shutdown
        some { p with source, injected := p.injected + 1 }
  | .source e => do
      let source ← p.source.step e
      some { p with source }
  | .sink .sent => do
      let action ← p.sink.pending
      let sink ← p.sink.onSent
      some { p with sink, back := p.back ++ [action] }
  | .sink .shutdown =>
      if p.sink.shut then none
      else do
        let sink ← p.sink.shutdown
        some { p with sink }
  | .sink e => do
      let sink ← p.sink.step e
      some { p with sink }
  | .sendSourceAction =>
      match p.fwd with
      | action :: fwd =>
          if p.sink.shut then none
          else do
            let sink ← p.sink.deliver action
            some { p with sink, fwd, delivered := p.delivered ++ [action] }
      | [] => none
  | .sendSinkAction =>
      match p.back with
      | action :: back => do
          let source ← p.source.deliver action
          some { p with source, back }
      | [] => none
  | .inject => some { p with back := p.back ++ [.sinkClosed], injected := p.injected + 1 }

theorem step_source {p q : State} {e : Source.Event} (h : step p (.source e) = some q) :
    p.source.step e = some q.source ∧ (∀ action, e ≠ .deliver action) ∧
      q = { p with source := q.source, fwd := p.fwd ++ p.source.emitted e,
                   injected := p.injected + if e = .shutdown then 1 else 0 } := by
  cases e <;> simp only [step, Source.Task.step, Source.Task.emitted, Option.bind_eq_bind,
    reduceCtorEq, Option.bind_eq_some_iff, Option.some.injEq,
    Option.ite_none_left_eq_some] at h ⊢ <;> grind

theorem step_sink {p q : State} {e : Sink.Event} (h : step p (.sink e) = some q) :
    p.sink.step e = some q.sink ∧ (∀ action, e ≠ .deliver action) ∧
      (e = .shutdown → p.sink.shut = false) ∧
      q = { p with sink := q.sink, back := p.back ++ p.sink.emitted e } := by
  cases e <;> simp only [step, Sink.Task.step, Sink.Task.emitted, Option.bind_eq_bind,
    reduceCtorEq, Option.bind_eq_some_iff, Option.some.injEq,
    Option.ite_none_left_eq_some] at h ⊢ <;> grind

theorem step_sendSourceAction {p q : State} (h : step p .sendSourceAction = some q) :
    ∃ action, p.fwd = action :: q.fwd ∧ p.sink.shut = false ∧
      p.sink.step (.deliver action) = some q.sink ∧
      q = { p with sink := q.sink, fwd := q.fwd,
                   delivered := p.delivered ++ [action] } := by
  simp only [step, Option.bind_eq_bind] at h
  split at h
  · rename_i action fwd hfwd
    rw [Option.ite_none_left_eq_some] at h
    obtain ⟨hshut, h⟩ := h
    obtain ⟨sink, hsink, hq⟩ := Option.bind_eq_some_iff.mp h
    obtain rfl := Option.some.inj hq
    exact ⟨action, hfwd, by simpa using hshut, hsink, rfl⟩
  · simp at h

theorem step_sendSinkAction {p q : State} (h : step p .sendSinkAction = some q) :
    ∃ action, p.back = action :: q.back ∧
      p.source.step (.deliver action) = some q.source ∧
      q = { p with source := q.source, back := q.back } := by
  simp only [step, Option.bind_eq_bind] at h
  split at h
  · rename_i action back hback
    obtain ⟨source, hsource, hq⟩ := Option.bind_eq_some_iff.mp h
    obtain rfl := Option.some.inj hq
    exact ⟨action, hback, hsource, rfl⟩
  · simp at h

theorem step_source_eq {p : State} {e : Source.Event} {u : Source.Task}
    (hstep : p.source.step e = some u) (hdeliver : ∀ action, e ≠ .deliver action)
    (hshut : e ≠ .shutdown) :
    step p (.source e) =
      some { p with source := u, fwd := p.fwd ++ p.source.emitted e } := by
  cases e with
  | deliver action => exact absurd rfl (hdeliver action)
  | shutdown => exact absurd rfl hshut
  | sent =>
      obtain ⟨action, haction⟩ : ∃ action, p.source.pending = some action := by
        simp only [Source.Task.step, Source.Task.onSent] at hstep
        cases hpc : p.source.pc <;> simp [Source.Task.pending, hpc] at hstep ⊢
      simp only [Source.Task.step] at hstep
      simp [step, haction, hstep, Source.Task.emitted]
  | read res | recv | recvNone | sendFailed => simp [step, hstep, Source.Task.emitted]

theorem step_sink_eq {p : State} {e : Sink.Event} {u : Sink.Task}
    (hstep : p.sink.step e = some u) (hdeliver : ∀ action, e ≠ .deliver action)
    (hshut : e ≠ .shutdown) :
    step p (.sink e) = some { p with sink := u, back := p.back ++ p.sink.emitted e } := by
  cases e with
  | deliver action => exact absurd rfl (hdeliver action)
  | shutdown => exact absurd rfl hshut
  | sent =>
      obtain ⟨action, haction⟩ : ∃ action, p.sink.pending = some action := by
        simp only [Sink.Task.step, Sink.Task.onSent] at hstep
        cases hpc : p.sink.pc <;> simp [Sink.Task.pending, hpc] at hstep ⊢
      simp only [Sink.Task.step] at hstep
      simp [step, haction, hstep, Sink.Task.emitted]
  | recv | recvNone | written res | flushed res | sendFailed | shutdownDone =>
      simp [step, hstep, Sink.Task.emitted]

theorem step_inject {p q : State} (h : step p .inject = some q) :
    q = { p with back := p.back ++ [.sinkClosed], injected := p.injected + 1 } :=
  (Option.some.inj h).symm

theorem step_tasks {p q : State} {e : Event} (h : step p e = some q) :
    (q.source = p.source ∨ ∃ e, p.source.step e = some q.source) ∧
    (q.sink = p.sink ∨ ∃ e, p.sink.step e = some q.sink) := by
  cases e with
  | source e =>
      obtain ⟨hsource, -, hq⟩ := step_source h
      exact ⟨Or.inr ⟨e, hsource⟩, Or.inl (by rw [hq])⟩
  | sink e =>
      obtain ⟨hsink, -, -, hq⟩ := step_sink h
      exact ⟨Or.inl (by rw [hq]), Or.inr ⟨e, hsink⟩⟩
  | sendSourceAction =>
      obtain ⟨action, -, -, hsink, hq⟩ := step_sendSourceAction h
      exact ⟨Or.inl (by rw [hq]), Or.inr ⟨_, hsink⟩⟩
  | sendSinkAction =>
      obtain ⟨action, -, hsource, hq⟩ := step_sendSinkAction h
      exact ⟨Or.inr ⟨_, hsource⟩, Or.inl (by rw [hq])⟩
  | inject =>
      rw [step_inject h]
      exact ⟨Or.inl rfl, Or.inl rfl⟩

/-- Both tasks satisfy what holds of a task on its own. -/
def TasksValid (p : State) : Prop := Source.Valid p.source ∧ Sink.Valid p.sink

theorem tasksValid_new (writer : Sink.Writer) : TasksValid (new writer) :=
  ⟨Source.valid_new, Sink.valid_new writer⟩

theorem TasksValid.step {p q : State} {e : Event} (h : TasksValid p)
    (hstep : step p e = some q) : TasksValid q := by
  obtain ⟨hsource, hsink⟩ := step_tasks hstep
  constructor
  · rcases hsource with heq | ⟨e, he⟩
    · exact heq ▸ h.1
    · exact h.1.step he
  · rcases hsink with heq | ⟨e, he⟩
    · exact heq ▸ h.2
    · exact h.2.step he

end Rlirsh.Stream.Pair
