import Rlirsh.Stream.Window

namespace Rlirsh.Stream.Answers

open Rlirsh.Protocol
open Rlirsh.Lib.Machine
open Rlirsh.Stream.Pair
open Rlirsh.Stream.Integrity
open Rlirsh.Stream.Window

theorem failed_step {t u : Sink.Task} {e : Sink.Event} (hnot : t.pc ≠ .failed)
    (hqueue : e ≠ .sendFailed)
    (hwriter : ∀ res, e = .written res ∨ e = .flushed res → res.orderly)
    (hstep : t.step e = some u) : u.pc ≠ .failed := by
  cases e with
  | sendFailed => exact absurd rfl hqueue
  | written res =>
      have horderly := hwriter res (Or.inl rfl)
      simp only [Sink.Task.step, Sink.Task.onWritten, Sink.doIfNotClosed] at hstep
      grind [Sink.IoResult.orderly]
  | flushed res =>
      have horderly := hwriter res (Or.inr rfl)
      simp only [Sink.Task.step, Sink.Task.onFlushed, Sink.doIfNotClosed,
        Sink.Task.finish] at hstep
      grind [Sink.IoResult.orderly]
  | recv | recvNone | sent | shutdownDone | deliver action | shutdown =>
      simp only [Sink.Task.step, Sink.Task.onRecv, Sink.Task.onRecvNone, Sink.Task.onSent,
        Sink.Task.onShutdown, Sink.Task.deliver, Sink.Task.shutdown,
        Sink.Task.finish] at hstep
      grind

/-- The steps of a stream with open queues and writers that fail with `BrokenPipe` only;
its routers may be shut down. -/
def Serving (_ : State) (e : Event) : Prop :=
  match e with
  | .source .recvNone | .source .sendFailed | .sink .recvNone | .sink .sendFailed => False
  | .sink (.written res) | .sink (.flushed res) => res.orderly
  | _ => True

theorem serving_of_orderly {p : State} {e : Event} (h : Orderly p e) : Serving p e := by
  unfold Orderly at h
  unfold Serving
  grind

/-- What every serving run keeps. -/
structure Lasting (p : State) : Prop where
  inv : Inv p
  took : p.sink.pc = .shutdown ∨ p.sink.pc = .done → p.sink.tookClosed = true
  not_failed : p.sink.pc ≠ .failed

theorem lasting_new (writer : Sink.Writer) : Lasting (new writer) :=
  ⟨inv_new writer, by simp [new, Sink.Task.new], by simp [new, Sink.Task.new]⟩

theorem Lasting.step {p q : State} {e : Event} (h : Lasting p) (hok : Serving p e)
    (hstep : step p e = some q) : Lasting q := by
  have hsink {e' : Sink.Event} (hqueue : e' ≠ .sendFailed) (hnone : e' ≠ .recvNone)
      (hwriter : ∀ res, e' = .written res ∨ e' = .flushed res → res.orderly)
      (hstep' : p.sink.step e' = some q.sink) : Lasting q :=
    ⟨h.inv.step hstep, Sink.took_step hnone h.took hstep',
      failed_step h.not_failed hqueue hwriter hstep'⟩
  have hsame (heq : q.sink = p.sink) : Lasting q :=
    ⟨h.inv.step hstep, heq ▸ h.took, heq ▸ h.not_failed⟩
  cases e with
  | sink e =>
      refine hsink ?_ ?_ ?_ (step_sink hstep).1
      · rintro rfl
        exact hok
      · rintro rfl
        exact hok
      · rintro res (rfl | rfl) <;> exact hok
  | sendSourceAction =>
      obtain ⟨action, -, -, hdeliver, -⟩ := step_sendSourceAction hstep
      exact hsink (by simp) (by simp) (by simp) hdeliver
  | source e => exact hsame (by rw [(step_source hstep).2.2])
  | sendSinkAction =>
      obtain ⟨action, -, -, hq⟩ := step_sendSinkAction hstep
      exact hsame (by rw [hq])
  | inject => exact hsame (by rw [step_inject hstep])

theorem lasting_of_reach {writer : Sink.Writer} {p : State}
    (h : Reach step Serving (new writer) p) : Lasting p :=
  h.invariant (lasting_new writer) fun _ _ _ _ hlasting hok hstep => hlasting.step hok hstep

/-- What every orderly run keeps. -/
structure Served (p : State) : Prop extends Lasting p where
  not_shut : p.sink.shut = false
  bounded : Bounded p

theorem Served.closing {p : State} (h : Served p) : Closing p := ⟨h.not_shut, h.took⟩

theorem Served.step {p q : State} {e : Event} (h : Served p) (hok : Orderly p e)
    (hstep : step p e = some q) : Served q where
  toLasting := h.toLasting.step (serving_of_orderly hok) hstep
  not_shut := (h.closing.step hok.connected hstep).not_shut
  bounded := h.bounded.step h.inv.tasks hstep

theorem served_of_reach {writer : Sink.Writer} {p : State}
    (h : Reach step Orderly (new writer) p) : Served p :=
  h.invariant ⟨lasting_new writer, rfl, bounded_new writer⟩
    fun _ _ _ _ hserved hok hstep => hserved.step hok hstep

theorem answered_of_past {t : Sink.Task} (h : Sink.Valid t) {c : Sink.Handled}
    (hc : c ∈ t.past) : c.answers ≠ [] := by
  cases hclosed : t.isClosed with
  | false => simp [(h.past_open hclosed c hc).2.2]
  | true =>
      rcases h.past_closed hclosed with ⟨hacked, -⟩ | ⟨pre, b, post, hpast, hpre, hb, hpost, -⟩
      · simp [(hacked c hc).2.2]
      · have hcb : c ∈ pre ∨ c = b ∨ c ∈ post := by simpa [hpast] using hc
        rcases hcb with hc' | rfl | hc'
        · simp [(hpre c hc').2.2]
        · rcases hb with hb | hb <;> simp [hb.2.2]
        · simp [(hpost c hc').2.2]

theorem Lasting.tookClosed_of_ended {p : State} (h : Lasting p)
    (hended : p.sink.ended = true) : p.sink.tookClosed = true := by
  refine h.took (Or.inr ?_)
  have := h.not_failed
  simp only [Sink.Task.ended] at hended
  grind

theorem Served.source_done {p : State} (h : Served p) (hended : p.sink.ended = true) :
    p.source.pc = .done :=
  (h.inv.taken_all h.closing.not_shut (h.tookClosed_of_ended hended)).1

theorem Served.rx_ne_nil {p : State} (h : Served p) (hdone : p.source.pc = .done)
    (hfwd : p.fwd = []) (hpc : p.sink.pc = .recv) : p.sink.rx ≠ [] := by
  intro hrx
  have hsent := h.inv.sent_eq h.not_shut
  rw [hrx, hfwd, List.append_nil, List.append_nil] at hsent
  obtain ⟨pre, hpre, -⟩ := h.inv.tasks.1.closed_last hdone
  have hopen : p.sink.tookClosed = false := by
    cases htook : p.sink.tookClosed with
    | false => rfl
    | true => rcases h.inv.tasks.2.took_pc htook with hpc' | hpc' <;> simp [hpc'] at hpc
  have hmem : .sourceClosed ∈ p.sink.taken := by
    rw [← hsent, hpre]
    exact List.mem_append_right _ (List.mem_singleton_self _)
  simp [Sink.Task.taken, hopen] at hmem

theorem Served.alive_of_fwd {p : State} (h : Served p) (hfwd : p.fwd ≠ []) :
    p.sink.ended = false := by
  rw [Bool.eq_false_iff]
  intro hended
  exact hfwd (h.inv.taken_all h.closing.not_shut (h.tookClosed_of_ended hended)).2.2.2

/-- The steps that lead to an answer: those of the sink, its writer included, and of
the two receiver loops. -/
def Answering (p : State) (e : Event) : Prop :=
  Orderly p e ∧ (∀ e', e ≠ .source e') ∧ e ≠ .inject

/-- The steps of the sink alone. -/
def Handling (p : State) (e : Event) : Prop :=
  Orderly p e ∧ ∃ e', e = .sink e'

/-- How many steps a sink at `pc` is away from its inbox, at most. -/
def distance : Sink.Pc → Nat
  | .write => 8
  | .sendAck => 6
  | .flush => 4
  | .sendClosed => 2
  | .shutdown => 1
  | .recv | .done | .failed => 0

/-- A bound on the steps that can be taken before the source is answered. -/
def rank (p : State) : Nat :=
  10 * p.fwd.length + 9 * p.sink.rx.length + distance p.sink.pc + p.back.length

theorem distance_step {t u : Sink.Task} {e : Sink.Event} (hne : ∀ action, e ≠ .deliver action)
    (hshut : e ≠ .shutdown) (hnone : e ≠ .recvNone) (hqueue : e ≠ .sendFailed)
    (hstep : t.step e = some u) :
    9 * u.rx.length + distance u.pc + (t.emitted e).length <
      9 * t.rx.length + distance t.pc := by
  cases e <;>
    simp only [Sink.Task.step, Sink.Task.onRecv, Sink.Task.onWritten, Sink.Task.onSent,
      Sink.Task.onFlushed, Sink.Task.onShutdown, Sink.Task.finish] at hstep <;>
    grind [distance, Sink.Task.emitted, Sink.Task.pending]

theorem rank_step {p q : State} {e : Event} (hok : Answering p e)
    (hstep : step p e = some q) : rank q < rank p := by
  obtain ⟨horderly, hsource, hinject⟩ := hok
  cases e with
  | source e => exact absurd rfl (hsource e)
  | inject => exact absurd rfl hinject
  | sink e =>
      obtain ⟨hsink, hne, -, hq⟩ := step_sink hstep
      have hlt := distance_step hne (by rintro rfl; exact horderly)
        (by rintro rfl; exact horderly) (by rintro rfl; exact horderly) hsink
      rw [hq]
      simp only [rank, List.length_append]
      omega
  | sendSourceAction =>
      obtain ⟨action, hfwd, -, hdeliver, hq⟩ := step_sendSourceAction hstep
      have hrx : q.sink.rx.length = p.sink.rx.length + 1 ∧ q.sink.pc = p.sink.pc := by
        simp only [Sink.Task.step, Sink.Task.deliver] at hdeliver
        grind
      rw [hq]
      simp only [rank, hfwd, hrx, List.length_cons]
      omega
  | sendSinkAction =>
      obtain ⟨action, hback, -, hq⟩ := step_sendSinkAction hstep
      rw [hq]
      simp [rank, hback]

/-- What the sink can do next by itself, its writer succeeding. -/
def next (pc : Sink.Pc) : Sink.Event :=
  match pc with
  | .write => .written .ok
  | .flush => .flushed .ok
  | .sendAck | .sendClosed => .sent
  | .shutdown => .shutdownDone
  | .recv | .done | .failed => .recv

theorem sink_enabled {p : State} (h : Lasting p) (hcur : p.sink.current ≠ none) :
    ∃ q, Step step Handling p q := by
  obtain ⟨c, hc⟩ := Option.ne_none_iff_exists'.mp hcur
  have hst := h.inv.tasks.2.stage c hc
  have hnot := h.not_failed
  have hsome : (step p (.sink (next p.sink.pc))).isSome := by
    cases hpc : p.sink.pc with
    | write | flush =>
        cases hclosed : p.sink.isClosed <;>
          simp [next, step, Sink.Task.step, Sink.Task.onWritten, Sink.Task.onFlushed,
            Sink.doIfNotClosed, hpc, hc, hclosed]
    | sendAck =>
        cases hready : p.sink.writer.flushReady <;>
          simp [next, step, Sink.Task.pending, Sink.Task.onSent, hpc, hc, hready]
    | sendClosed => simp [next, step, Sink.Task.pending, Sink.Task.onSent, hpc, hc]
    | recv | shutdown | done => simp [Sink.Stage, hpc] at hst
    | failed => exact absurd hpc hnot
  obtain ⟨q, hq⟩ := Option.isSome_iff_exists.mp hsome
  refine ⟨q, _, ⟨?_, _, rfl⟩, hq⟩
  cases hpc : p.sink.pc <;> simp [next, Orderly, Sink.IoResult.orderly]

theorem answer_enabled {p : State} (h : Served p) (hpc : p.source.pc = .recvAnswer)
    (hrx : p.source.rx = []) : ∃ q, Step step Answering p q := by
  have hsink : (∃ q, Step step Handling p q) → ∃ q, Step step Answering p q := by
    rintro ⟨q, e, ⟨horderly, e', rfl⟩, hq⟩
    exact ⟨q, _, ⟨horderly, by simp, by simp⟩, hq⟩
  have hnot : p.sink.tookClosed = false := by
    rw [Bool.eq_false_iff]
    intro htook
    simp [(h.inv.taken_all h.closing.not_shut htook).1] at hpc
  have hstays : p.sink.pc ≠ .shutdown ∧ p.sink.pc ≠ .done := by
    have := h.closing.took
    grind
  by_cases hcur : p.sink.current = none
  · have hrecv : p.sink.pc = .recv := by
      have := h.inv.tasks.2.idle hcur
      grind
    cases hback : p.back with
    | cons action back =>
        have hsome : (step p .sendSinkAction).isSome := by
          simp [step, hback, Source.Task.deliver, Source.Task.ended, hpc, hrx,
            Source.inboxCapacity]
        obtain ⟨q, hq⟩ := Option.isSome_iff_exists.mp hsome
        exact ⟨q, .sendSinkAction, ⟨trivial, by simp, by simp⟩, hq⟩
    | nil =>
        have hpackets : packets p ≠ 0 := by
          intro hzero
          have := h.bounded.answered hpc
            (by simp [unresolved, hzero, owing, hcur, acks, hrx, hback])
          simp [closes, hrx, hback] at this
        cases hsinkRx : p.sink.rx with
        | cons action rx =>
            have hsome : (step p (.sink .recv)).isSome := by
              cases action <;> cases hclosed : p.sink.isClosed <;>
                simp [step, Sink.Task.step, Sink.Task.onRecv, hrecv, hsinkRx, hclosed]
            obtain ⟨q, hq⟩ := Option.isSome_iff_exists.mp hsome
            exact ⟨q, .sink .recv, ⟨trivial, by simp, by simp⟩, hq⟩
        | nil =>
            cases hfwd : p.fwd with
            | nil => simp [packets, hsinkRx, hfwd] at hpackets
            | cons action fwd =>
                have hsome : (step p .sendSourceAction).isSome := by
                  simp [step, hfwd, h.closing.not_shut, Sink.Task.deliver, Sink.Task.ended,
                    hrecv, hsinkRx, Sink.inboxCapacity]
                obtain ⟨q, hq⟩ := Option.isSome_iff_exists.mp hsome
                exact ⟨q, .sendSourceAction, ⟨trivial, by simp, by simp⟩, hq⟩
  · exact hsink (sink_enabled h.toLasting hcur)

theorem waiting_step {p q : State} {e : Event} (hok : Answering p e)
    (hpc : p.source.pc = .recvAnswer) (hstep : step p e = some q) :
    q.source.pc = .recvAnswer := by
  obtain ⟨-, hsource, hinject⟩ := hok
  cases e with
  | source e => exact absurd rfl (hsource e)
  | inject => exact absurd rfl hinject
  | sink e => rw [(step_sink hstep).2.2.2]; exact hpc
  | sendSourceAction =>
      obtain ⟨action, -, -, -, hq⟩ := step_sendSourceAction hstep
      rw [hq]; exact hpc
  | sendSinkAction =>
      obtain ⟨action, -, hdeliver, -⟩ := step_sendSinkAction hstep
      simp only [Source.Task.step, Source.Task.deliver] at hdeliver
      grind

/-- A waiting source is answered, however the sink and the receiver loops take turns. -/
theorem Served.inevitably_answered {p : State} (h : Served p)
    (hpc : p.source.pc = .recvAnswer) :
    Inevitable Pair.step Answering (fun q => q.source.rx ≠ []) p := by
  refine Inevitable.of_rank (I := fun q => Served q ∧ q.source.pc = .recvAnswer) rank
    ⟨h, hpc⟩ (fun q hq => ?_) fun q e r hq hok hstep => ?_
  · by_cases hrx : q.source.rx = []
    · exact Or.inr (answer_enabled hq.1 hq.2 hrx)
    · exact Or.inl hrx
  · exact Or.inr ⟨⟨hq.1.step hok.1 hstep, waiting_step hok hq.2 hstep⟩, rank_step hok hstep⟩

theorem handled_step {t u : Sink.Task} {e : Sink.Event} {c : Sink.Handled}
    (h : Sink.Valid t) (hcur : t.current = some c) (hstep : t.step e = some u) :
    (u.past = t.past ∧ ∃ d, u.current = some d ∧ d.bytes = c.bytes) ∨
      ∃ d, u.past = t.past ++ [d] ∧ d.bytes = c.bytes := by
  have hst := h.stage c hcur
  cases e <;>
    simp only [Sink.Task.step, Sink.Task.onRecv, Sink.Task.onRecvNone, Sink.Task.onWritten,
      Sink.Task.onSent, Sink.Task.onSendFailed, Sink.Task.onFlushed, Sink.Task.onShutdown,
      Sink.Task.deliver, Sink.Task.shutdown, Sink.Task.finish] at hstep <;>
    grind [Sink.Stage]

theorem Lasting.inevitably_handled {p : State} (h : Lasting p) {c : Sink.Handled}
    (hcur : p.sink.current = some c) :
    Inevitable Pair.step Handling
      (fun q => ∃ d, q.sink.past = p.sink.past ++ [d] ∧ d.bytes = c.bytes ∧ d.answers ≠ [])
      p := by
  refine Inevitable.of_rank (I := fun q => Lasting q ∧ q.sink.past = p.sink.past ∧
    ∃ d, q.sink.current = some d ∧ d.bytes = c.bytes) rank ⟨h, rfl, c, hcur, rfl⟩ ?_ ?_
  · rintro q ⟨hq, -, d, hd, -⟩
    exact Or.inr (sink_enabled hq (by simp [hd]))
  · rintro q e r ⟨hq, hpast, d, hd, hbytes⟩ ⟨horderly, e', rfl⟩ hstep
    have hr := hq.step (serving_of_orderly horderly) hstep
    rcases handled_step hq.inv.tasks.2 hd (step_sink hstep).1 with
      ⟨hkeep, d', hd', hbytes'⟩ | ⟨d', hjoin, hbytes'⟩
    · exact Or.inr ⟨⟨hr, hkeep.trans hpast, d', hd', hbytes'.trans hbytes⟩,
        rank_step ⟨horderly, by simp, by simp⟩ hstep⟩
    · refine Or.inl ⟨d', hpast ▸ hjoin, hbytes'.trans hbytes, ?_⟩
      exact answered_of_past hr.inv.tasks.2 (by simp [hjoin])

/-- A sink whose writer fails with `BrokenPipe` only does not strand its source.  Every
packet it has taken is answered, the last one as soon as its writer lets it, and it ends
only after a `SourceClosed`, its own source's or that of a shutdown.  Unless a router is
shut down, nothing more comes then, so that `send_source_action` never finds it gone, and
a source that waits for an answer gets one. -/
theorem sink_answers (writer : Sink.Writer) :
    (∀ p, Reach Pair.step Serving (new writer) p →
      (∀ c ∈ p.sink.past, c.answers ≠ []) ∧
      (∀ c ∈ p.sink.current, Inevitable Pair.step Handling
        (fun q => ∃ d, q.sink.past = p.sink.past ++ [d] ∧ d.bytes = c.bytes ∧
          d.answers ≠ []) p) ∧
      (p.sink.ended = true → p.sink.tookClosed = true)) ∧
    ∀ p, Reach Pair.step Orderly (new writer) p →
      (p.fwd ≠ [] → p.sink.ended = false) ∧
      (p.source.pc = .recvAnswer →
        Inevitable Pair.step Answering (fun q => q.source.rx ≠ []) p) := by
  refine ⟨fun p hp => ?_, fun p hp => ?_⟩
  · have hlasting := lasting_of_reach hp
    exact ⟨fun c hc => answered_of_past hlasting.inv.tasks.2 hc,
      fun c hc => hlasting.inevitably_handled hc, hlasting.tookClosed_of_ended⟩
  · have hserved := served_of_reach hp
    exact ⟨hserved.alive_of_fwd, hserved.inevitably_answered⟩

/-- A flush finds the standard output closed after the `Ack` of the packet, and the source
has already sent the next one. -/
def closedWhileFlushing : List Event :=
  [.source (.read (.ok [104, 105])), .source .sent, .sendSourceAction, .sink .recv,
    .sink (.written .ok), .sink .sent, .sink (.flushed (.err .brokenPipe)),
    .sendSinkAction, .source .recv, .source (.read (.ok [33])), .source .sent]

theorem sink_answers_closedWhileFlushing :
    ∃ p, run Pair.step (new .file) closedWhileFlushing = some p ∧
      p.fwd = [.data [33]] ∧ p.sink.ended = false ∧
      Inevitable Pair.step Answering (fun q => q.source.rx ≠ []) p := by
  obtain ⟨p, hrun⟩ : ∃ p, run (guarded Pair.step Orderly) (new .file)
      closedWhileFlushing = some p := ⟨_, rfl⟩
  obtain ⟨hrun', hreach⟩ := reach_of_guarded hrun
  obtain ⟨halive, hanswer⟩ := (sink_answers .file).2 p hreach
  obtain rfl := Option.some.inj hrun
  exact ⟨_, hrun', rfl, halive (by decide), hanswer rfl⟩

/-- A forwarded connection is reset while the packet is being written. -/
def resetWhileWriting : List Event :=
  [.source (.read (.ok [104, 105])), .source .sent, .sendSourceAction, .sink .recv,
    .sink (.written (.err .connectionReset))]

/-- The disk the standard output goes to is full when the packet is being flushed, and the
source, which has got its `Ack`, sends the next one. -/
def fullWhileFlushing : List Event :=
  [.source (.read (.ok [104, 105])), .source .sent, .sendSourceAction, .sink .recv,
    .sink (.written .ok), .sink .sent, .sink (.flushed (.err .other)),
    .sendSinkAction, .source .recv, .source (.read (.ok [33])), .source .sent]

/-- After an error other than `BrokenPipe` the packet stays unanswered: the sink has ended
without a `SourceClosed`, its source waits, and no step but those of a shutdown or of an
injected `SinkClosed` is left; or the next packet finds the sink gone. -/
theorem stranded_by_reset :
    (∃ p, run Pair.step (new .socket) resetWhileWriting = some p ∧
      p.sink.ended = true ∧ p.sink.tookClosed = false ∧
      (∃ c ∈ p.sink.current, c.answers = []) ∧ p.source.pc = .recvAnswer ∧
      ∀ e, e ≠ .inject → e ≠ .source .shutdown → e ≠ .source .recvNone →
        ∀ q, Pair.step p e = some q → q = p) ∧
    ∃ p, run Pair.step (new .file) fullWhileFlushing = some p ∧
      p.fwd ≠ [] ∧ p.sink.ended = true ∧ Pair.step p .sendSourceAction = none := by
  refine ⟨⟨_, rfl, rfl, rfl, ⟨_, rfl, rfl⟩, rfl, fun e hinject hshutdown hnone q hq => ?_⟩,
    _, rfl, by decide, rfl, rfl⟩
  cases e with
  | source e => cases e <;> contradiction
  | sink e => cases e <;> cases hq; rfl
  | sendSourceAction | sendSinkAction => cases hq
  | inject => contradiction

/-- The steps of a stream in a session whose connection does not fail: the writer fails as it
likes, but for its `flush`. -/
def Flushing (p : State) (e : Event) : Prop :=
  match e with
  | .source .shutdown | .sink .shutdown | .sink .sendFailed => False
  | .sink .recvNone => p.source.ended = true
  | .sink (.flushed res) => res.orderly
  | _ => True

/-- What these steps keep: a sink that ends leaves its source closed, or without the answer
it waits for. -/
structure Muting (p : State) : Prop where
  inv : Inv p
  bounded : Bounded p
  not_shut : p.sink.shut = false
  took : p.sink.pc = .shutdown ∨ p.sink.pc = .done →
    p.sink.tookClosed = true ∨ p.source.ended = true
  unanswered : p.sink.pc = .failed →
    p.sink.isClosed = false ∧ ∃ c, p.sink.current = some c ∧ c.answers = []

theorem muting_new (writer : Sink.Writer) : Muting (new writer) :=
  ⟨inv_new writer, bounded_new writer, rfl, by simp [new, Sink.Task.new],
    by simp [new, Sink.Task.new]⟩

theorem unanswered_step {t u : Sink.Task} {e : Sink.Event} (hvalid : Sink.Valid t)
    (h : t.pc = .failed → t.isClosed = false ∧ ∃ c, t.current = some c ∧ c.answers = [])
    (hqueue : e ≠ .sendFailed) (hflush : ∀ res, e = .flushed res → res.orderly)
    (hstep : t.step e = some u) (hfailed : u.pc = .failed) :
    u.isClosed = false ∧ ∃ c, u.current = some c ∧ c.answers = [] := by
  have hstage := hvalid.stage
  cases e with
  | sendFailed => exact absurd rfl hqueue
  | flushed res =>
      have horderly := hflush res rfl
      simp only [Sink.Task.step, Sink.Task.onFlushed, Sink.doIfNotClosed,
        Sink.Task.finish] at hstep
      grind [Sink.IoResult.orderly]
  | written res =>
      simp only [Sink.Task.step, Sink.Task.onWritten, Sink.doIfNotClosed] at hstep
      grind [Sink.Stage]
  | recv | recvNone | sent | shutdownDone | deliver action | shutdown =>
      simp only [Sink.Task.step, Sink.Task.onRecv, Sink.Task.onRecvNone, Sink.Task.onSent,
        Sink.Task.onShutdown, Sink.Task.deliver, Sink.Task.shutdown,
        Sink.Task.finish] at hstep
      grind

theorem Muting.step {p q : State} {e : Event} (h : Muting p) (hok : Flushing p e)
    (hstep : Pair.step p e = some q) : Muting q := by
  have hsource (hended : p.source.ended = true) : q.source.ended = true := by
    rcases (step_tasks hstep).1 with heq | ⟨e', he'⟩
    · rw [heq, hended]
    · exact (Source.ended_step hended he').1
  have hsink {e' : Sink.Event} (hshut : e' ≠ .shutdown) (hqueue : e' ≠ .sendFailed)
      (hnone : e' = .recvNone → p.source.ended = true)
      (hflush : ∀ res, e' = .flushed res → res.orderly)
      (hstep' : p.sink.step e' = some q.sink) : Muting q := by
    refine ⟨h.inv.step hstep, h.bounded.step h.inv.tasks hstep, ?_, fun hpc => ?_,
      fun hfailed => ?_⟩
    · rw [Sink.shut_step hstep', h.not_shut]
      simp [hshut]
    · cases hended : p.source.ended with
      | true => exact Or.inr (hsource hended)
      | false =>
          refine Or.inl (Sink.took_step (fun heq => ?_) (fun hpc => ?_) hstep' hpc)
          · rw [hnone heq] at hended
            cases hended
          · apply (h.took hpc).resolve_right
            rw [hended]
            exact Bool.false_ne_true
    · exact unanswered_step h.inv.tasks.2 h.unanswered hqueue hflush hstep' hfailed
  have hsame (heq : q.sink = p.sink) : Muting q :=
    ⟨h.inv.step hstep, h.bounded.step h.inv.tasks hstep, heq ▸ h.not_shut,
      fun hpc => heq ▸ (h.took (heq ▸ hpc)).imp_right hsource, heq ▸ h.unanswered⟩
  cases e with
  | sink e =>
      refine hsink ?_ ?_ ?_ ?_ (step_sink hstep).1
      · rintro rfl
        exact hok
      · rintro rfl
        exact hok
      · rintro rfl
        exact hok
      · rintro res rfl
        exact hok
  | sendSourceAction =>
      obtain ⟨action, -, -, hdeliver, -⟩ := step_sendSourceAction hstep
      exact hsink (by simp) (by simp) (by simp) (by simp) hdeliver
  | source e => exact hsame (by rw [(step_source hstep).2.2])
  | sendSinkAction =>
      obtain ⟨action, -, -, hq⟩ := step_sendSinkAction hstep
      exact hsame (by rw [hq])
  | inject => exact hsame (by rw [step_inject hstep])

theorem Muting.pending_eq_none {p : State} (h : Muting p) (hinjected : p.injected = 0)
    (hended : p.sink.ended = true) : p.source.pending = none := by
  have hdone (hsource : p.source.ended = true) : p.source.pending = none := by
    unfold Source.Task.ended at hsource
    unfold Source.Task.pending
    grind
  have hpc : p.sink.pc = .done ∨ p.sink.pc = .failed := by
    unfold Sink.Task.ended at hended
    grind
  rcases hpc with hpc | hfailed
  · rcases h.took (Or.inr hpc) with htook | hsource
    · exact hdone (by rw [Source.Task.ended, (h.inv.taken_all h.not_shut htook).1])
    · exact hdone hsource
  · obtain ⟨hopen, c, hcur, hanswers⟩ := h.unanswered hfailed
    have howing : owing p.sink = 1 := by simp [owing, hcur, hanswers]
    have hsent : closesSent p.sink = 0 := by
      apply List.sum_eq_zero_iff_forall_eq_nat.mpr
      intro n hn
      obtain ⟨d, hd, rfl⟩ := List.mem_map.mp hn
      rcases List.mem_append.mp hd with hd | hd
      · rw [(h.inv.tasks.2.past_open hopen d hd).2.2]
        rfl
      · obtain rfl : d = c := by simpa [hcur] using hd
        rw [hanswers]
        rfl
    have hcloses := h.bounded.closes_sent
    have hidle : ¬ Idle p.source := fun hidle => by
      have hzero := h.bounded.idle_unresolved hidle
      simp only [unresolved] at hzero
      omega
    unfold Source.Task.pending
    split
    · rename_i bytes hpc
      exact absurd (Or.inr (Or.inl ⟨bytes, hpc⟩)) hidle
    · rename_i hpc
      cases hstop : p.source.stop with
      | none => exact absurd hstop (h.inv.tasks.1.stop_ne_none (Or.inl hpc))
      | some stop =>
          cases stop with
          | eof | readError => exact absurd (by simp [Idle, hstop]) hidle
          | sinkClosed =>
              have hheeded : heeded p.source = 1 := by simp [heeded, hstop]
              omega
    · rfl

end Rlirsh.Stream.Answers
