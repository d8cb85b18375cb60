import Mathlib.Algebra.Ring.Nat
import Rlirsh.Stream.Integrity

namespace Rlirsh.Stream.Window

open Rlirsh.Protocol
open Rlirsh.Lib.Machine
open Rlirsh.Stream.Pair

/-- The packet the sink is handling has not been answered. -/
def owing (t : Sink.Task) : Nat :=
  match t.current with
  | some c => if c.answers = [] then 1 else 0
  | none => 0

/-- Packets that were answered twice, by `Ack` and then by `SinkClosed`. -/
def seconds (t : Sink.Task) : Nat :=
  t.past.countP fun c => decide (1 < c.answers.length)

/-- The `SinkClosed` the sink has enqueued. -/
def closesSent (t : Sink.Task) : Nat :=
  ((t.past ++ t.current.toList).map fun c => c.answers.count .sinkClosed).sum

/-- Packets enqueued by the source and not yet taken by the sink. -/
def packets (p : State) : Nat :=
  p.sink.rx.countP SourceAction.isData + p.fwd.countP SourceAction.isData

/-- `Ack`s enqueued by the sink and not yet taken by the source. -/
def acks (p : State) : Nat :=
  p.source.rx.count .ack + p.back.count .ack

/-- `SinkClosed`s under way to the source. -/
def closes (p : State) : Nat :=
  p.source.rx.count .sinkClosed + p.back.count .sinkClosed

/-- Packets the source has not seen an answer to, unless by a `SinkClosed`. -/
def unresolved (p : State) : Nat := packets p + owing p.sink + acks p

/-- The source has taken a `SinkClosed`. -/
def heeded (t : Source.Task) : Nat :=
  if t.stop = some .sinkClosed then 1 else 0

/-- `SinkClosed`s beyond the one a packet can be answered with. -/
def extra (p : State) : Nat := p.injected + seconds p.sink

/-- The source has no packet of its own under way. -/
def Idle (t : Source.Task) : Prop :=
  t.pc = .select ∨ (∃ bytes, t.pc = .sendData bytes) ∨
    t.stop = some .eof ∨ t.stop = some .readError

/-- The accounting of packets and answers. -/
structure Bounded (p : State) : Prop where
  unresolved_le : unresolved p ≤ 1
  idle_unresolved : Idle p.source → unresolved p = 0
  closes_le : closes p + heeded p.source + unresolved p ≤ 1 + extra p
  idle_closes : Idle p.source → closes p + heeded p.source ≤ extra p
  answered : p.source.pc = .recvAnswer → unresolved p = 0 → 0 < closes p
  closes_sent : closes p + heeded p.source ≤ p.injected + closesSent p.sink

theorem bounded_new (writer : Sink.Writer) : Bounded (new writer) := by
  constructor <;>
    simp [new, Source.Task.new, Sink.Task.new, unresolved, packets, owing, acks, closes,
      heeded, Idle, extra, seconds, closesSent]

theorem Bounded.step_source {p q : State} {e : Source.Event} (hvalid : TasksValid p)
    (h : Bounded p) (hstep : step p (.source e) = some q) : Bounded q := by
  obtain ⟨hsource, hne, hq⟩ := Pair.step_source hstep
  obtain ⟨hread, hnot, hlast, hnone, hdata, hsome⟩ := hvalid.1
  obtain ⟨hle, hidle, hcloses, hidleCloses, hanswered, hsent⟩ := h
  cases e <;>
    simp only [Source.Task.step, Source.Task.onRead, Source.Task.onRecv,
      Source.Task.onRecvNone, Source.Task.onSent, Source.Task.onSendFailed,
      Source.Task.deliver, Source.Task.shutdown] at hsource <;>
    constructor <;>
    grind [unresolved, packets, acks, closes, heeded, Idle, extra, Source.Task.emitted,
      Source.Task.pending, SourceAction.isData]

theorem Bounded.step_sink {p q : State} {e : Sink.Event} (hvalid : TasksValid p)
    (h : Bounded p) (hstep : step p (.sink e) = some q) : Bounded q := by
  obtain ⟨hsink, hne, -, hq⟩ := Pair.step_sink hstep
  have hstage := hvalid.2.stage
  have hcur := hvalid.2.current_eq_none
  obtain ⟨hle, hidle, hcloses, hidleCloses, hanswered, hsent⟩ := h
  cases e <;>
    simp only [Sink.Task.step, Sink.Task.onRecv, Sink.Task.onRecvNone, Sink.Task.onWritten,
      Sink.Task.onSent, Sink.Task.onSendFailed, Sink.Task.onFlushed, Sink.Task.onShutdown,
      Sink.Task.deliver, Sink.Task.shutdown, Sink.Task.finish] at hsink <;>
    constructor <;>
    grind [unresolved, packets, acks, closes, heeded, Idle, extra, owing, seconds, closesSent,
      Sink.Task.emitted, Sink.Task.pending, SourceAction.isData, Sink.Stage]

theorem Bounded.step {p q : State} {e : Event} (hvalid : TasksValid p)
    (h : Bounded p) (hstep : step p e = some q) : Bounded q := by
  cases e with
  | source e => exact h.step_source hvalid hstep
  | sink e => exact h.step_sink hvalid hstep
  | sendSourceAction =>
      obtain ⟨action, hfwd, -, hdeliver, hq⟩ := step_sendSourceAction hstep
      simp only [Sink.Task.step, Sink.Task.deliver] at hdeliver
      obtain ⟨hle, hidle, hcloses, hidleCloses, hanswered, hsent⟩ := h
      constructor <;>
        grind [unresolved, packets, acks, closes, heeded, extra, owing, seconds, closesSent]
  | sendSinkAction =>
      obtain ⟨action, hback, hdeliver, hq⟩ := step_sendSinkAction hstep
      simp only [Source.Task.step, Source.Task.deliver] at hdeliver
      obtain ⟨hle, hidle, hcloses, hidleCloses, hanswered, hsent⟩ := h
      constructor <;>
        grind [unresolved, packets, acks, closes, heeded, extra, Idle, Source.Task.ended]
  | inject =>
      have hq := step_inject hstep
      obtain ⟨hle, hidle, hcloses, hidleCloses, hanswered, hsent⟩ := h
      constructor <;>
        grind [unresolved, packets, acks, closes, heeded, extra, Idle]

theorem bounded_of_reach {ok : State → Event → Prop} {writer : Sink.Writer} {p : State}
    (h : Reach step ok (new writer) p) : Bounded p := by
  have hboth : TasksValid p ∧ Bounded p :=
    h.invariant (P := fun p => TasksValid p ∧ Bounded p)
      ⟨tasksValid_new writer, bounded_new writer⟩
      fun _ _ _ _ ⟨hvalid, hbounded⟩ _ hstep =>
        ⟨hvalid.step hstep, hbounded.step hvalid hstep⟩
  exact hboth.2

theorem Bounded.not_panicked_step {p q : State} {e : Event} (h : Bounded p)
    (hpc : p.source.pc ≠ .panicked) (hstep : Pair.step p e = some q) :
    q.source.pc ≠ .panicked := by
  have hidle := h.idle_unresolved
  rcases (step_tasks hstep).1 with heq | ⟨e', he'⟩
  · rw [heq]
    exact hpc
  · cases e' <;>
      simp only [Source.Task.step, Source.Task.onRead, Source.Task.onRecv,
        Source.Task.onRecvNone, Source.Task.onSent, Source.Task.onSendFailed,
        Source.Task.deliver, Source.Task.shutdown] at he' <;>
      grind [unresolved, acks, Idle]

theorem not_panicked_of_reach {ok : State → Event → Prop} {writer : Sink.Writer} {p : State}
    (h : Reach step ok (new writer) p) : p.source.pc ≠ .panicked := by
  refine h.invariant (P := fun p => p.source.pc ≠ .panicked) (by simp [new, Source.Task.new])
    fun _ _ _ ha hpc _ hstep => (bounded_of_reach ha).not_panicked_step hpc hstep

theorem seconds_of_acked {cs : List Sink.Handled} (h : ∀ c ∈ cs, c.Acked ∨ c.Refused ∨ c.Skipped) :
    cs.countP (fun c => decide (1 < c.answers.length)) = 0 := by
  rw [List.countP_eq_zero]
  intro c hc
  rcases h c hc with ⟨-, -, ha⟩ | ⟨-, -, ha⟩ | ⟨-, -, ha⟩ <;> simp [ha]

theorem seconds_le_one {t : Sink.Task} (h : Sink.Valid t) : seconds t ≤ 1 := by
  have hopen (hacked : ∀ c ∈ t.past, c.Acked) : seconds t = 0 :=
    seconds_of_acked fun c hc => Or.inl (hacked c hc)
  cases hclosed : t.isClosed with
  | false => simp [hopen (h.past_open hclosed)]
  | true =>
      rcases h.past_closed hclosed with ⟨hacked, -⟩ | ⟨pre, b, post, hpast, hpre, -, hpost, -⟩
      · simp [hopen hacked]
      · have hpre' := seconds_of_acked fun c hc => Or.inl (hpre c hc)
        have hpost' := seconds_of_acked fun c hc => Or.inr (Or.inr (hpost c hc))
        simp only [seconds, hpast, List.countP_append, List.countP_cons, hpre', hpost']
        split <;> omega

theorem seconds_of_flushReady {t : Sink.Task} (h : Sink.Valid t)
    (hready : t.writer.flushReady = true) : seconds t = 0 := by
  have hflush := (h.ready hready).2
  apply seconds_of_acked
  intro c hc
  cases hclosed : t.isClosed with
  | false => exact Or.inl (h.past_open hclosed c hc)
  | true =>
      rcases h.past_closed hclosed with ⟨hacked, -⟩ | ⟨pre, b, post, hpast, hpre, hb, hpost, -⟩
      · exact Or.inl (hacked c hc)
      · have hcb : c ∈ pre ∨ c = b ∨ c ∈ post := by simpa [hpast] using hc
        rcases hcb with hc' | rfl | hc'
        · exact Or.inl (hpre c hc')
        · rcases hb with hb | hb
          · rcases hflush c (by simp [hc]) with hf | hf <;> simp [hb.2.1] at hf
          · exact Or.inr (Or.inl hb)
        · exact Or.inr (Or.inr (hpost c hc'))

theorem closesSent_eq_zero {t : Sink.Task} (h : Sink.Valid t)
    (hfirst : t.isClosed = false ∨ ∃ c, t.current = some c ∧ c.answers = [.ack]) :
    t.pc = .failed ∨ closesSent t = 0 := by
  by_cases hfailed : t.pc = .failed
  · exact Or.inl hfailed
  have hpast : ∀ c ∈ t.past, c.Acked := by
    rcases hfirst with hopen | ⟨c, hcur, hanswers⟩
    · exact h.past_open hopen
    · cases hclosed : t.isClosed with
      | false => exact h.past_open hclosed
      | true =>
          rcases h.past_closed hclosed with ⟨hacked, -⟩ | ⟨_, _, _, _, _, _, _, hnone⟩
          · exact hacked
          · simp [(hnone c hcur).2.2] at hanswers
  refine Or.inr (List.sum_eq_zero_iff_forall_eq_nat.mpr fun n hn => ?_)
  obtain ⟨c, hc, rfl⟩ := List.mem_map.mp hn
  rcases List.mem_append.mp hc with hc | hc
  · simp [(hpast c hc).2.2]
  · have hst := h.stage c (by simpa using hc)
    unfold Sink.Stage at hst
    grind

/-- The steps of a stream whose router has not been shut down, with both peers running
and writers that fail with `BrokenPipe` only. -/
def Orderly (_ : State) (e : Event) : Prop :=
  match e with
  | .source .recvNone | .source .sendFailed | .source .shutdown => False
  | .sink .recvNone | .sink .sendFailed | .sink .shutdown => False
  | .sink (.written res) | .sink (.flushed res) => res.orderly
  | _ => True

/-- One `SinkClosed` may be injected, and only into the stream of the child's standard
input, whose writers need no flush. -/
def OnceInjected (p : State) (e : Event) : Prop :=
  Orderly p e ∧ (e = .inject → p.sink.writer.flushReady = true ∧ p.injected = 0)

instance (p : State) (e : Event) : Decidable (Orderly p e) :=
  match e with
  | .source .recvNone | .source .sendFailed | .source .shutdown => isFalse id
  | .sink .recvNone | .sink .sendFailed | .sink .shutdown => isFalse id
  | .sink (.written res) | .sink (.flushed res) => inferInstanceAs (Decidable res.orderly)
  | .source (.read _) | .source .recv | .source .sent | .source (.deliver _) =>
      isTrue trivial
  | .sink .recv | .sink .sent | .sink .shutdownDone | .sink (.deliver _) => isTrue trivial
  | .sendSourceAction | .sendSinkAction | .inject => isTrue trivial

instance (p : State) (e : Event) : Decidable (OnceInjected p e) :=
  inferInstanceAs (Decidable (_ ∧ _))

theorem Orderly.connected {p : State} {e : Event} (h : Orderly p e) :
    Integrity.Connected p e := by
  constructor <;> rintro rfl <;> exact h

/-- What is known of the injected `SinkClosed`s. -/
structure Injected (p : State) : Prop where
  le_one : p.injected ≤ 1
  flushReady : 0 < p.injected → p.sink.writer.flushReady = true

theorem writer_step {p q : State} {e : Event} (hstep : step p e = some q) :
    q.sink.writer = p.sink.writer := by
  rcases (step_tasks hstep).2 with heq | ⟨e', he'⟩
  · rw [heq]
  · exact Sink.writer_step he'

theorem Injected.step {p q : State} {e : Event} (h : Injected p)
    (hok : OnceInjected p e) (hstep : step p e = some q) : Injected q := by
  have hwriter := writer_step hstep
  have hsame (heq : q.injected = p.injected) : Injected q :=
    ⟨heq ▸ h.le_one, by rw [heq, hwriter]; exact h.flushReady⟩
  cases e with
  | source e =>
      have hne : e ≠ .shutdown := by
        rintro rfl
        exact hok.1
      have hq := (Pair.step_source hstep).2.2
      exact hsame (by rw [hq]; simp [hne])
  | sink e => exact hsame (by rw [(Pair.step_sink hstep).2.2.2])
  | sendSourceAction =>
      obtain ⟨action, -, -, -, hq⟩ := step_sendSourceAction hstep
      exact hsame (by rw [hq])
  | sendSinkAction =>
      obtain ⟨action, -, -, hq⟩ := step_sendSinkAction hstep
      exact hsame (by rw [hq])
  | inject =>
      obtain ⟨hready, hzero⟩ := hok.2 rfl
      have hq := step_inject hstep
      exact ⟨by rw [hq]; simp [hzero], fun _ => hwriter ▸ hready⟩

/-- Everything the bounds on the messages under way are drawn from. -/
structure Counted (p : State) : Prop where
  inv : Integrity.Inv p
  closing : Integrity.Closing p
  bounded : Bounded p
  injected : Injected p

theorem counted_of_reach {writer : Sink.Writer} {p : State}
    (h : Reach step OnceInjected (new writer) p) : Counted p where
  inv := Integrity.inv_of_reach h
  closing := Integrity.closing_of_reach (h.mono fun _ _ hok => hok.1.connected)
  bounded := bounded_of_reach h
  injected := h.invariant ⟨by simp [new], by simp [new]⟩
    fun _ _ _ _ hinj hok hstep => hinj.step hok hstep

/-- Source actions enqueued and not yet taken by the sink. -/
def ahead (p : State) : List SourceAction := p.sink.rx ++ p.fwd

/-- Sink actions enqueued and not yet taken by the source. -/
def answersAhead (p : State) : List SinkAction := p.source.rx ++ p.back

theorem length_ahead (p : State) :
    (ahead p).length = packets p + (ahead p).count .sourceClosed := by
  rw [length_eq_data_add_closed, ahead, List.countP_append, packets]

theorem length_answersAhead (p : State) : (answersAhead p).length = acks p + closes p := by
  rw [length_eq_ack_add_closed, answersAhead, List.count_append, List.count_append, acks,
    closes]

theorem Counted.sent_eq {p : State} (h : Counted p) :
    p.source.sent = p.sink.taken ++ ahead p := h.inv.sent_eq h.closing.not_shut

theorem Counted.count_closed_le {p : State} (h : Counted p) :
    (ahead p).count .sourceClosed ≤ 1 := by
  have hle : (ahead p).count .sourceClosed ≤ p.source.sent.count .sourceClosed := by
    rw [h.sent_eq, List.count_append]
    omega
  apply Nat.le_trans hle
  by_cases hdone : p.source.pc = .done
  · obtain ⟨pre, hpre, hnot⟩ := h.inv.tasks.1.closed_last hdone
    rw [hpre, List.count_append, List.count_eq_zero.mpr hnot]
    simp
  · rw [List.count_eq_zero.mpr (h.inv.tasks.1.not_closed hdone)]
    omega

theorem Counted.heeded_of_closed {p : State} (h : Counted p)
    (hclosed : .sourceClosed ∈ ahead p) (hunresolved : 0 < unresolved p) :
    heeded p.source = 1 := by
  have hdone : p.source.pc = .done := by
    by_contra hnot
    exact h.inv.tasks.1.not_closed hnot (by simp [h.sent_eq, hclosed])
  have hidle : ¬ Idle p.source := fun hidle => by
    have := h.bounded.idle_unresolved hidle
    omega
  cases hstop : p.source.stop with
  | none => exact absurd hstop (h.inv.tasks.1.stop_ne_none (Or.inr hdone))
  | some stop =>
      cases stop with
      | eof => exact absurd (by simp [Idle, hstop]) hidle
      | readError => exact absurd (by simp [Idle, hstop]) hidle
      | sinkClosed => simp [heeded, hstop]

/-- Only one `SinkClosed` can be more than a packet is answered with: a second answer
needs a writer with a flush, and an injected one is for a writer without. -/
theorem Counted.extra_le {p : State} (h : Counted p) : extra p ≤ 1 := by
  have hvalid := h.inv.tasks.2
  have hone := h.injected.le_one
  by_cases hzero : p.injected = 0
  · have := seconds_le_one hvalid
    simp only [extra]
    omega
  · have := seconds_of_flushReady hvalid (h.injected.flushReady (by omega))
    simp only [extra]
    omega

/-- A sink that is not waiting on its inbox, and has not returned. -/
def Busy (t : Sink.Task) : Prop :=
  t.pc = .write ∨ t.pc = .sendAck ∨ t.pc = .flush ∨ t.pc = .sendClosed ∨ t.pc = .shutdown

theorem Counted.ahead_of_shutdown {p : State} (h : Counted p) (hpc : p.sink.pc = .shutdown) :
    ahead p = [] := by
  obtain ⟨-, -, hrx, hfwd⟩ :=
    h.inv.taken_all h.closing.not_shut (h.closing.took (Or.inl hpc))
  simp [ahead, hrx, hfwd]

theorem Counted.not_heeded_of_acked {p : State} (h : Counted p) {c : Sink.Handled}
    (hcur : p.sink.current = some c) (hpc : p.sink.pc ≠ .failed) (hanswers : c.answers ≠ []) :
    heeded p.source = 0 := by
  have hvalid := h.inv.tasks.2
  have hst := hvalid.stage c hcur
  have hack : c.answers = [.ack] ∧
      (p.sink.pc = .flush ∨ ∃ kind, c.flush = some (.err kind)) := by
    unfold Sink.Stage at hst
    grind
  have hzero : closesSent p.sink = 0 :=
    (closesSent_eq_zero hvalid (Or.inr ⟨c, hcur, hack.1⟩)).resolve_left hpc
  have hinj : p.injected = 0 := by
    by_contra hne
    obtain ⟨hflush, hall⟩ := hvalid.ready (h.injected.flushReady (by omega))
    rcases hack.2 with hpc | ⟨kind, hk⟩
    · exact hflush hpc
    · have := hall c (by simp [hcur])
      simp [hk] at this
  have := h.bounded.closes_sent
  omega

theorem Counted.length_ahead_le {p : State} (h : Counted p) (hbusy : Busy p.sink) :
    (ahead p).length ≤ 1 := by
  by_cases hshut : p.sink.pc = .shutdown
  · simp [h.ahead_of_shutdown hshut]
  have hvalid := h.inv.tasks.2
  by_contra hlong
  have hlength := length_ahead p
  have hclosed := h.count_closed_le
  have hle := h.bounded.unresolved_le
  have hpackets : packets p = 1 ∧ (ahead p).count .sourceClosed = 1 := by
    simp only [unresolved] at hle
    omega
  have howing : owing p.sink = 0 := by
    simp only [unresolved] at hle
    omega
  have hheeded : heeded p.source = 1 := by
    apply h.heeded_of_closed (List.count_pos_iff.mp (by omega))
    simp only [unresolved]
    omega
  cases hcur : p.sink.current with
  | none =>
      have := hvalid.idle hcur
      grind [Busy]
  | some c =>
      have hanswers : c.answers ≠ [] := by
        intro hnil
        simp [owing, hcur, hnil] at howing
      have := h.not_heeded_of_acked hcur (by grind [Busy]) hanswers
      omega

theorem Counted.length_answersAhead_le {p : State} (h : Counted p)
    (hpending : p.source.pending.isSome) : (answersAhead p).length ≤ 1 := by
  have hvalid := h.inv.tasks.1
  have hextra := h.extra_le
  have hcloses := h.bounded.closes_le
  have hidle (hidle : Idle p.source) : (answersAhead p).length ≤ 1 := by
    have hunresolved := h.bounded.idle_unresolved hidle
    have hle := h.bounded.idle_closes hidle
    simp only [unresolved] at hunresolved
    rw [length_answersAhead]
    omega
  cases hpc : p.source.pc with
  | sendData bytes => exact hidle (Or.inr (Or.inl ⟨bytes, hpc⟩))
  | sendClosed =>
      cases hstop : p.source.stop with
      | none => exact absurd hstop (hvalid.stop_ne_none (Or.inl hpc))
      | some stop =>
          cases stop with
          | eof => exact hidle (by simp [Idle, hstop])
          | readError => exact hidle (by simp [Idle, hstop])
          | sinkClosed =>
              have hheeded : heeded p.source = 1 := by simp [heeded, hstop]
              simp only [unresolved] at hcloses
              rw [length_answersAhead]
              omega
  | _ => simp [Source.Task.pending, hpc] at hpending

theorem Counted.ahead_of_write {p : State} (h : Counted p) (hinj : p.injected = 0)
    (hpc : p.sink.pc = .write) : ahead p = [] := by
  have hvalid := h.inv.tasks.2
  obtain ⟨c, hcur, hst⟩ : ∃ c, p.sink.current = some c ∧ Sink.Stage .write p.sink.isClosed c := by
    cases hcur : p.sink.current with
    | none => grind [hvalid.idle hcur]
    | some c => exact ⟨c, rfl, hpc ▸ hvalid.stage c hcur⟩
  have howing : owing p.sink = 1 := by simp [owing, hcur, hst.2.2.2]
  have hle := h.bounded.unresolved_le
  have hzero : closesSent p.sink = 0 :=
    (closesSent_eq_zero hvalid (Or.inl hst.1)).resolve_left (by simp [hpc])
  have hsent := h.bounded.closes_sent
  have hclosed : (ahead p).count .sourceClosed = 0 := by
    apply List.count_eq_zero.mpr
    intro hmem
    have := h.heeded_of_closed hmem (by simp only [unresolved]; omega)
    omega
  have hlength := length_ahead p
  simp only [unresolved] at hle
  exact List.length_eq_zero_iff.mp (by omega)

/-- Stop and wait keeps both receiver loops from blocking: at most one action is ahead
of a sink that is not waiting on its inbox and of a source that is enqueueing, so that
there is room for it in their inboxes of capacity 1; and `RecvRouter::shutdown` finds
the inbox of a sink in `write_all` empty, unless a `SinkClosed` was injected. -/
theorem stop_and_wait (writer : Sink.Writer) (p : State)
    (h : Reach step OnceInjected (new writer) p) :
    (Busy p.sink → (p.sink.rx ++ p.fwd).length ≤ 1) ∧
    (p.source.pending.isSome → (p.source.rx ++ p.back).length ≤ 1) ∧
    (Busy p.sink → p.fwd ≠ [] → (step p .sendSourceAction).isSome) ∧
    (p.source.pending.isSome → p.back ≠ [] → (step p .sendSinkAction).isSome) ∧
    (p.injected = 0 → p.sink.pc = .write → (step p (.sink .shutdown)).isSome) := by
  have hcounted := counted_of_reach h
  have hsink := hcounted.length_ahead_le
  have hsource := hcounted.length_answersAhead_le
  have hshut := hcounted.closing.not_shut
  refine ⟨hsink, hsource, fun hbusy hne => ?_, fun hpending hne => ?_, fun hinj hpc => ?_⟩
  · obtain ⟨action, fwd, hfwd⟩ := List.exists_cons_of_ne_nil hne
    have hlength := hsink hbusy
    have hrx : p.sink.rx.length = 0 := by
      simp only [ahead, hfwd, List.length_append, List.length_cons] at hlength
      omega
    have hended : p.sink.ended = false := by
      simp only [Sink.Task.ended]
      grind [Busy]
    simp [step, hfwd, hshut, Sink.Task.deliver, hended, hrx, Sink.inboxCapacity]
  · obtain ⟨action, back, hback⟩ := List.exists_cons_of_ne_nil hne
    have hlength := hsource hpending
    have hrx : p.source.rx.length = 0 := by
      simp only [answersAhead, hback, List.length_append, List.length_cons] at hlength
      omega
    have hended : p.source.ended = false := by
      simp only [Source.Task.ended]
      simp only [Source.Task.pending] at hpending
      grind
    simp [step, hback, Source.Task.deliver, hended, hrx, Source.inboxCapacity]
  · have hnil := hcounted.ahead_of_write hinj hpc
    have hrx : p.sink.rx = [] := (List.append_eq_nil_iff.mp hnil).1
    simp [step, hshut, Sink.Task.shutdown, Sink.Task.deliver, Sink.Task.ended, hpc, hrx,
      Sink.inboxCapacity]

/-- The child exits while the sink of its standard input is writing: the source is told
to close, and its `SourceClosed` reaches the sink behind the packet. -/
def exitWhileWriting : List Event :=
  [.source (.read (.ok [104, 105])), .source .sent, .sendSourceAction, .sink .recv,
    .inject, .sendSinkAction, .source .recv, .source .sent]

theorem stop_and_wait_exitWhileWriting :
    ∃ p, run step (new .childStdin) exitWhileWriting = some p ∧ Busy p.sink ∧
      p.fwd = [.sourceClosed] ∧ (step p .sendSourceAction).isSome := by
  obtain ⟨p, hrun⟩ : ∃ p, run (guarded step OnceInjected) (new .childStdin)
      exitWhileWriting = some p := ⟨_, rfl⟩
  obtain ⟨hrun', hreach⟩ := reach_of_guarded hrun
  obtain ⟨-, -, hdispatch, -⟩ := stop_and_wait .childStdin p hreach
  obtain rfl := Option.some.inj hrun
  exact ⟨_, hrun', Or.inl rfl, rfl, hdispatch (Or.inl rfl) (by decide)⟩

end Rlirsh.Stream.Window
