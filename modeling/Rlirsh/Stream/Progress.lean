import Rlirsh.Stream.Closure
import Rlirsh.Stream.Queue

namespace Rlirsh.Stream

open Rlirsh.Protocol
open Rlirsh.Lib

/-- The source waits for its reader. -/
def Source.Task.reading (t : Source.Task) : Bool :=
  match t.pc with
  | .select => true
  | _ => false

/-- The sink waits for its writer. -/
def Sink.Task.writing (t : Sink.Task) : Bool :=
  match t.pc with
  | .write | .flush | .shutdown => true
  | _ => false

theorem Source.rx_eq_nil {t : Source.Task} (hrecv : t.onRecv = none)
    (hpc : t.pc = .select ∨ t.pc = .recvAnswer) : t.rx = [] := by
  cases hrx : t.rx with
  | nil => rfl
  | cons action rx =>
      rcases hpc with hpc | hpc <;> cases action <;> simp [Source.Task.onRecv, hpc, hrx] at hrecv

theorem Sink.rx_eq_nil {t : Sink.Task} (hrecv : t.onRecv = none) (hpc : t.pc = .recv) :
    t.rx = [] := by
  cases hrx : t.rx with
  | nil => rfl
  | cons action rx =>
      simp only [Sink.Task.onRecv, hpc, hrx] at hrecv
      cases action with
      | data bytes => cases hclosed : t.isClosed <;> simp [hclosed] at hrecv
      | sourceClosed => simp at hrecv

theorem Source.onSent_isSome {t : Source.Task} (hpending : t.pending.isSome = true) :
    t.onSent.isSome = true := by
  unfold Source.Task.pending at hpending
  unfold Source.Task.onSent
  split at hpending <;> simp_all

theorem Sink.onSent_isSome {t : Sink.Task} (hvalid : Sink.Valid t)
    (hpending : t.pending.isSome = true) : t.onSent.isSome = true := by
  cases hcurrent : t.current with
  | none =>
      unfold Sink.Task.pending at hpending
      rcases hvalid.idle hcurrent with hpc | hpc | hpc <;> simp [hpc] at hpending
  | some c =>
      unfold Sink.Task.pending at hpending
      cases hpc : t.pc with
      | sendAck =>
          cases hready : t.writer.flushReady <;>
            simp [Sink.Task.onSent, hpc, hcurrent, hready]
      | sendClosed => simp [Sink.Task.onSent, hpc, hcurrent]
      | _ => simp [hpc] at hpending

end Rlirsh.Stream

namespace Rlirsh.Stream.Closure

open Rlirsh.Protocol
open Rlirsh.Stream.Pair
open Rlirsh.Stream.Window

variable {p : State}

theorem deliver_source_isSome (h : Counted p) (action : SourceAction) (hfwd : p.fwd ≠ [])
    (halive : p.sink.ended = false) (hrecv : p.sink.onRecv = none) :
    (p.sink.deliver action).isSome = true := by
  have hroom : p.sink.rx.length < Sink.inboxCapacity := by
    by_cases hbusy : Busy p.sink
    · have hlength := h.length_ahead_le hbusy
      have hpos := List.length_pos_iff.mpr hfwd
      rw [ahead, List.length_append] at hlength
      simp only [Sink.inboxCapacity]
      omega
    · have hpc : p.sink.pc = .recv := by
        cases hpc : p.sink.pc <;> simp_all [Sink.Task.ended, Busy]
      rw [Sink.rx_eq_nil hrecv hpc]
      exact Nat.zero_lt_one
  simp [Sink.Task.deliver, halive, hroom]

theorem deliver_sink_isSome (h : Counted p) (action : SinkAction) (hback : p.back ≠ [])
    (hrecv : p.source.onRecv = none) : (p.source.deliver action).isSome = true := by
  cases hended : p.source.ended with
  | true => simp [Source.Task.deliver, hended]
  | false =>
      have hroom : p.source.rx.length < Source.inboxCapacity := by
        by_cases hpending : p.source.pending.isSome = true
        · have hlength := h.length_answersAhead_le hpending
          have hpos := List.length_pos_iff.mpr hback
          rw [answersAhead, List.length_append] at hlength
          simp only [Source.inboxCapacity]
          omega
        · have hpc : p.source.pc = .select ∨ p.source.pc = .recvAnswer := by
            cases hpc : p.source.pc <;> simp_all [Source.Task.ended, Source.Task.pending]
          rw [Source.rx_eq_nil hrecv hpc]
          exact Nat.zero_lt_one
      simp [Source.Task.deliver, hended, hroom]

/-- Nothing is under way on the stream, and its ends wait for their reader or writer, or for
each other. -/
structure Still (p : State) : Prop where
  fwd : p.fwd = []
  back : p.back = []
  source_recv : p.source.onRecv = none
  source_pending : p.source.pending = none
  sink_recv : p.sink.onRecv = none
  sink_pending : p.sink.pending = none

theorem Still.source_pc (h : Still p) (hlively : Lively p) (hpanicked : p.source.pc ≠ .panicked) :
    p.source.pc = .select ∨ p.source.pc = .recvAnswer ∨ p.source.pc = .done := by
  have hpending := h.source_pending
  have halive := hlively.source_alive
  cases hpc : p.source.pc <;> simp_all [Source.Task.pending]

theorem Still.sink_pc (h : Still p) (hlively : Lively p) (hwriting : p.sink.writing = false) :
    p.sink.pc = .recv ∨ p.sink.pc = .done := by
  have hpending := h.sink_pending
  have halive := hlively.not_failed
  cases hpc : p.sink.pc <;> simp_all [Sink.Task.pending, Sink.Task.writing]

theorem Still.not_waiting (h : Still p) (hlively : Lively p) (hwriting : p.sink.writing = false) :
    p.source.pc ≠ .recvAnswer := by
  intro hpc
  have hidle := h.sink_pc hlively hwriting
  have hsource := Source.rx_eq_nil h.source_recv (Or.inr hpc)
  have hsink : p.sink.rx = [] := by
    rcases hidle with hrecv | hdone
    · exact Sink.rx_eq_nil h.sink_recv hrecv
    · have htook := hlively.took (Or.inr hdone)
      exact (hlively.inv.taken_all hlively.not_shut htook).2.2.1
  have howing : owing p.sink = 0 := by
    rw [owing, hlively.inv.tasks.2.current_eq_none (hidle.imp_right Or.inr)]
  have hunresolved : unresolved p = 0 := by
    simp [unresolved, packets, acks, howing, hsource, hsink, h.fwd, h.back]
  have hcloses := hlively.bounded.answered hpc hunresolved
  simp [closes, hsource, h.back] at hcloses

theorem Still.source_done (h : Still p) (hlively : Lively p) (hpanicked : p.source.pc ≠ .panicked)
    (hwriting : p.sink.writing = false) (hreading : p.source.reading = false) :
    p.source.pc = .done := by
  rcases h.source_pc hlively hpanicked with hpc | hpc | hpc
  · rw [Source.Task.reading, hpc] at hreading
    cases hreading
  · exact absurd hpc (h.not_waiting hlively hwriting)
  · exact hpc

theorem Still.source_done_of_closing (h : Still p) (hlively : Lively p)
    (hpanicked : p.source.pc ≠ .panicked) (hclosings : 0 < closings p) :
    p.source.pc = .done := by
  have hnone (hpc : p.source.pc = .select ∨ p.source.pc = .recvAnswer) : False := by
    have hcloses := hlively.unheeded (hpc.imp_right Or.inr)
    simp only [closes, Source.rx_eq_nil h.source_recv hpc, h.back, List.count_nil] at hcloses
    omega
  rcases h.source_pc hlively hpanicked with hpc | hpc | hpc
  · exact (hnone (Or.inl hpc)).elim
  · exact (hnone (Or.inr hpc)).elim
  · exact hpc

theorem Still.sink_done (h : Still p) (hlively : Lively p) (hdone : p.source.pc = .done)
    (hwriting : p.sink.writing = false) : p.sink.pc = .done := by
  rcases h.sink_pc hlively hwriting with hpc | hpc
  · exact absurd (Sink.rx_eq_nil h.sink_recv hpc) (hlively.rx_ne_nil hdone h.fwd hpc)
  · exact hpc

end Rlirsh.Stream.Closure

namespace Rlirsh.Stream.Side

open Rlirsh.Protocol
open Rlirsh.Lib

/-- The event completes what goes on outside of the process: on a reader or a writer, a
socket, the connection. -/
def external : Event → Bool
  | .source _ (.read _) | .sink _ (.written _) | .sink _ (.flushed _) | .sink _ .shutdownDone
  | .listener _ .accepted | .listener _ .acceptFailed | .connect _ (.connected _)
  | .sender .failed | .receiver (.abort _ _ _) => true
  | _ => false

variable {T : Type} [Message T] {env : Env} {s : Side T} {id : StreamId}

/-- No task of the side can take a step, but its sender may be able to write. -/
def Blocked (env : Env) (s : Side T) : Prop :=
  ∀ e, external e = false → e ≠ .sender .sent → s.step env e = none

/-- The sources and the sinks have nothing to take and nothing to enqueue. -/
structure Rested (s : Side T) : Prop where
  source : ∀ id, (s.view.source id).onRecv = none ∧ (s.view.source id).pending = none
  sink : ∀ id, (s.view.sink id).onRecv = none ∧ (s.view.sink id).pending = none

theorem rested_of_get
    (hsource : ∀ id t, s.sources.get id = some t → t.onRecv = none ∧ t.pending = none)
    (hsink : ∀ id t, s.sinks.get id = some t → t.onRecv = none ∧ t.pending = none) :
    Rested s where
  source id := by
    cases get : s.sources.get id with
    | none => simp [view, get, Source.Task.new, Source.Task.onRecv, Source.Task.pending]
    | some t =>
        rw [view_source get]
        exact hsource id t get
  sink id := by
    cases get : s.sinks.get id with
    | none => simp [view, get, Sink.Task.new, Sink.Task.onRecv, Sink.Task.pending]
    | some t =>
        rw [view_sink get]
        exact hsink id t get

theorem Blocked.source_recv (h : Blocked env s) {t : Source.Task}
    (get : s.sources.get id = some t) : t.onRecv = none := by
  have hnone := h (.source id .recv) rfl (by simp)
  simp only [step, stepSource, get] at hnone
  cases hrecv : t.onRecv with
  | none => rfl
  | some u => simp [hrecv, steppedSource] at hnone

theorem Blocked.sink_recv (h : Blocked env s) {t : Sink.Task}
    (get : s.sinks.get id = some t) : t.onRecv = none := by
  have hnone := h (.sink id .recv) rfl (by simp)
  simp only [step, stepSink, get] at hnone
  cases hrecv : t.onRecv with
  | none => rfl
  | some u => simp [hrecv, steppedSink] at hnone

theorem Blocked.source_pending (h : Blocked env s) {t : Source.Task}
    (get : s.sources.get id = some t) (hopen : s.sender ≠ .done)
    (hroom : s.queue.length < queueCapacity) : t.pending = none := by
  have hnone := h (.source id .sent) rfl (by simp)
  simp only [step, stepSource, get] at hnone
  cases hpending : t.pending with
  | none => rfl
  | some action =>
      obtain ⟨u, hu⟩ := Option.isSome_iff_exists.mp
        (Source.onSent_isSome (t := t) (by rw [hpending]; rfl))
      simp [hpending, enqueue_eq _ hopen hroom, hu, steppedSource] at hnone

theorem Blocked.sink_pending (h : Blocked env s) {t : Sink.Task} (hvalid : Sink.Valid t)
    (get : s.sinks.get id = some t) (hopen : s.sender ≠ .done)
    (hroom : s.queue.length < queueCapacity) : t.pending = none := by
  have hnone := h (.sink id .sent) rfl (by simp)
  simp only [step, stepSink, get] at hnone
  cases hpending : t.pending with
  | none => rfl
  | some action =>
      obtain ⟨u, hu⟩ := Option.isSome_iff_exists.mp
        (Sink.onSent_isSome (t := t) hvalid (by rw [hpending]; rfl))
      simp [hpending, enqueue_eq _ hopen hroom, hu, steppedSink] at hnone

theorem Blocked.queue_eq_nil (h : Blocked env s) (hpc : s.sender = .recv) : s.queue = [] := by
  have hnone := h (.sender .recv) rfl (by simp)
  simp only [step, stepSender, hpc] at hnone
  cases hqueue : s.queue with
  | nil => rfl
  | cons m queue =>
      rw [hqueue] at hnone
      simp only at hnone
      split at hnone <;> cases hnone

theorem Blocked.held (h : Blocked env s) (hpc : s.sender = .recv) (hquiet : Quiet s) :
    env.held = true := by
  have hnone := h (.sender .recvNone) rfl (by simp)
  simp only [step, stepSender, hpc, h.queue_eq_nil hpc, quiet_iff.mpr hquiet] at hnone
  cases hheld : env.held with
  | true => rfl
  | false =>
      simp only [hheld, and_self, if_true] at hnone
      split at hnone <;> cases hnone

theorem Blocked.unpermitted (h : Blocked env s) (hpc : s.sender = .notified) :
    env.permit = false := by
  have hnone := h (.sender .notified) rfl (by simp)
  simp only [step, stepSender, hpc] at hnone
  cases hpermit : env.permit with
  | false => rfl
  | true => simp [hpermit] at hnone

theorem Blocked.undispatched (h : Blocked env s) {action : StreamAction}
    (hpc : s.receiver = .dispatch action) : s.dispatch action = none := by
  have hnone := h (.receiver .dispatch) rfl (by simp)
  simpa only [step, stepReceiver, hpc] using hnone

theorem Blocked.dispatch_source (h : Blocked env s) {p : Pair.State} {u : Sink.Task}
    (hcounted : Window.Counted p) (hserved : Answers.Served p) (hfwd : p.fwd ≠ [])
    (get : s.sinks.get id = some u) (hsink : p.sink = u) (action : SourceAction) :
    s.dispatch (.source id action) ≠ none := by
  subst hsink
  have halive := hserved.alive_of_fwd hfwd
  obtain ⟨u, hu⟩ := Option.isSome_iff_exists.mp
    (Closure.deliver_source_isSome hcounted action hfwd halive (h.sink_recv get))
  simp [dispatch, get, halive, hu, steppedSink]

theorem Blocked.dispatch_sink (h : Blocked env s) {p : Pair.State} {u : Source.Task}
    (hcounted : Window.Counted p) (hback : p.back ≠ []) (get : s.sources.get id = some u)
    (hsource : p.source = u) (action : SinkAction) : s.dispatch (.sink id action) ≠ none := by
  subst hsource
  obtain ⟨u, hu⟩ := Option.isSome_iff_exists.mp
    (Closure.deliver_sink_isSome hcounted action hback (h.source_recv get))
  by_cases horphaned : s.orphaned id = true
  · simp [dispatch, horphaned]
  · simp [dispatch, horphaned, get, hu, steppedSource]

theorem Quiet.rested (h : Quiet s) : Rested s := by
  refine rested_of_get (fun id t get => ?_) (fun id t get => ?_)
  · have hended := h.sources id t get
    unfold Source.Task.ended at hended
    constructor
    · unfold Source.Task.onRecv
      grind
    · unfold Source.Task.pending
      grind
  · have hended := h.sinks id t get
    unfold Sink.Task.ended at hended
    constructor
    · unfold Sink.Task.onRecv
      grind
    · unfold Sink.Task.pending
      grind

theorem Blocked.drained {held : Bool} (h : Blocked env s) (hsender : SenderInv held s)
    (hsending : s.sending = []) : s.queue = [] := by
  cases hpc : s.sender with
  | recv => exact h.queue_eq_nil hpc
  | send m => simp [sending, hpc] at hsending
  | notified | finish | done => exact (hsender.closed (by simp [closing, hpc])).2.1

theorem Blocked.rested {held : Bool} (h : Blocked env s) (hsender : SenderInv held s)
    (hvalid : ∀ id, Sink.Valid (s.view.sink id)) (hsending : s.sending = []) : Rested s := by
  by_cases hclosing : s.closing = true
  · exact (hsender.closed hclosing).1.rested
  · have hopen : s.sender ≠ .done := by
      intro hdone
      simp [closing, hdone] at hclosing
    have hroom : s.queue.length < queueCapacity := by
      rw [h.drained hsender hsending]
      exact Nat.zero_lt_succ _
    refine rested_of_get
      (fun id t get => ⟨h.source_recv get, h.source_pending get hopen hroom⟩)
      (fun id t get => ⟨h.sink_recv get, h.sink_pending ?_ get hopen hroom⟩)
    rw [← view_sink get]
    exact hvalid id

theorem isFailed_step {t : Side T} {e : Event} (hopen : s.isFailed = false)
    (hne : e ≠ .sender .failed) (hstep : s.step env e = some t) : t.isFailed = false := by
  by_cases hsender : ∃ e', e = .sender e'
  · obtain ⟨e', rfl⟩ := hsender
    cases stepSender_spec hstep with
    | failed | unfinished => exact absurd rfl hne
    | close | notified => simp [finish, hopen]
    | _ => exact hopen
  · obtain ⟨actions, henqueues⟩ := enqueues_step (fun e' he => hsender ⟨e', he⟩) hstep
    rw [henqueues.isFailed]
    exact hopen

theorem impatient_step {t : Side T} {e : Event} (hnot : Message.waitsForNotify T = false)
    (h : s.sender ≠ .notified) (hstep : s.step env e = some t) : t.sender ≠ .notified := by
  by_cases hsender : ∃ e', e = .sender e'
  · obtain ⟨e', rfl⟩ := hsender
    cases stepSender_spec hstep with
    | wait _ _ _ _ waits =>
        rw [hnot] at waits
        cases waits
    | close | notified =>
        unfold finish
        split <;> simp
    | drop pc => simp [pc]
    | _ => simp
  · obtain ⟨actions, henqueues⟩ := enqueues_step (fun e' he => hsender ⟨e', he⟩) hstep
    rw [henqueues.sender]
    exact h

theorem Quiet.step_eq_none (h : Quiet s) {e : Event} (hsender : ∀ e', e ≠ .sender e')
    (hreceiver : ∀ e', e ≠ .receiver e') : s.step env e = none := by
  rw [Option.eq_none_iff_forall_not_mem]
  intro t hstep
  cases e with
  | source id e =>
      obtain ⟨a, u, hs⟩ := stepSource_spec hstep
      obtain ⟨-, ⟨action, rfl⟩ | rfl⟩ := Source.ended_step (h.sources id a hs.get) hs.step
      · exact hs.not_deliver action rfl
      · exact hs.not_shutdown rfl
  | sink id e =>
      obtain ⟨a, u, hs⟩ := stepSink_spec hstep
      exact hs.not_shutdown (Sink.ended_step (h.sinks id a hs.get) hs.step).2
  | listener port e =>
      obtain ⟨a, ha, hlistening⟩ := stepListener_spec hstep
      have hended := h.listeners port a ha
      unfold Listener.Task.ended at hended
      cases hlistening <;> simp_all
  | connecter port e =>
      obtain ⟨a, ha, haccepting⟩ := stepConnecter_spec hstep
      have hdone := h.connecters port a ha
      cases haccepting <;> simp_all
  | connect i e =>
      obtain ⟨a, ha, hconnecting⟩ := stepConnect_spec hstep
      have hended := h.connects a (List.mem_of_getElem? ha)
      unfold Connecter.Connect.ended at hended
      cases hconnecting <;> simp_all
  | sender e => exact hsender e rfl
  | receiver e => exact hreceiver e rfl

theorem Quiet.step_internal (h : Quiet s) (hsender : ∀ e, s.stepSender env e = none)
    (hreceiver : s.receiver = .recv ∨ s.receiver = .done true) {e : Event}
    (hinternal : external e = false) : s.step env e = none := by
  cases e with
  | sender e => exact hsender e
  | receiver e =>
      cases e with
      | abort => cases hinternal
      | _ => rcases hreceiver with hpc | hpc <;> simp [Side.step, stepReceiver, hpc]
  | _ =>
      refine h.step_eq_none ?_ ?_ <;>
        · rintro e' he
          cases he

omit [Message T] in
theorem Quiet.not_reading (h : Quiet s) {t : Source.Task} (get : s.sources.get id = some t) :
    t.reading = false := by
  have hended := h.sources id t get
  cases hpc : t.pc <;> simp_all [Source.Task.ended, Source.Task.reading]

omit [Message T] in
theorem Quiet.not_writing (h : Quiet s) {t : Sink.Task} (get : s.sinks.get id = some t) :
    t.writing = false := by
  have hended := h.sinks id t get
  cases hpc : t.pc <;> simp_all [Sink.Task.ended, Sink.Task.writing]

end Rlirsh.Stream.Side
