import Rlirsh.Stream.Acks
import Rlirsh.Stream.Answers
import Rlirsh.Stream.Side

namespace Rlirsh.Stream.Closure

open Rlirsh.Protocol
open Rlirsh.Lib.Machine
open Rlirsh.Stream.Pair
open Rlirsh.Stream.Integrity
open Rlirsh.Stream.Window
open Rlirsh.Stream.Acks
open Rlirsh.Stream.Answers

/-- The `SinkClosed`s that have been enqueued, by whomever. -/
def closings (p : State) : Nat := p.injected + closesSent p.sink

/-- The source is in its loop. -/
def Looping (t : Source.Task) : Prop :=
  t.pc = .select ∨ (∃ bytes, t.pc = .sendData bytes) ∨ t.pc = .recvAnswer

/-- No `SinkClosed` is lost on a source that is in its loop. -/
def Unheeded (p : State) : Prop := Looping p.source → closes p = closings p

theorem unheeded_new (writer : Sink.Writer) : Unheeded (new writer) := by
  simp [Unheeded, new, Source.Task.new, Sink.Task.new, closes, closings, closesSent]

theorem closesSent_step {t u : Sink.Task} {e : Sink.Event} (hvalid : Sink.Valid t)
    (hstep : t.step e = some u) :
    closesSent u = closesSent t + (t.emitted e).count .sinkClosed := by
  have heq (t : Sink.Task) : closesSent t = (answered t).count .sinkClosed := by
    rw [closesSent, answered, List.count_flatMap]
    rfl
  rw [heq, heq, answered_step hvalid hstep, List.count_append]

theorem Unheeded.step {p q : State} {e : Event} (hvalid : TasksValid p) (h : Unheeded p)
    (hstep : step p e = some q) : Unheeded q := by
  intro hloop
  cases e with
  | source e =>
      obtain ⟨hsource, hne, hq⟩ := step_source hstep
      cases e <;>
        simp only [Source.Task.step, Source.Task.onRead, Source.Task.onRecv, Source.Task.onSent,
          Source.Task.onRecvNone, Source.Task.onSendFailed, Source.Task.deliver,
          Source.Task.shutdown] at hsource <;>
        grind [Unheeded, Looping, closes, closings, Source.Task.ended]
  | sink e =>
      obtain ⟨hsink, -, -, hq⟩ := step_sink hstep
      have hsent := closesSent_step hvalid.2 hsink
      rw [hq] at hloop ⊢
      have heq := h hloop
      simp only [closes, closings, List.count_append, hsent] at heq ⊢
      omega
  | sendSourceAction =>
      obtain ⟨action, -, -, hdeliver, hq⟩ := step_sendSourceAction hstep
      have hsent := closesSent_step hvalid.2 hdeliver
      rw [hq] at hloop ⊢
      have heq := h hloop
      simp only [closes, closings, hsent, Sink.Task.emitted, List.count_nil] at heq ⊢
      exact heq
  | sendSinkAction =>
      obtain ⟨action, hback, hdeliver, hq⟩ := step_sendSinkAction hstep
      simp only [Source.Task.step, Source.Task.deliver] at hdeliver
      grind [Unheeded, Looping, closes, closings, Source.Task.ended]
  | inject =>
      rw [step_inject hstep] at hloop ⊢
      have heq := h hloop
      simp only [closes, closings, List.count_append] at heq ⊢
      simp only [List.count_singleton_self]
      omega

/-- The packets the source has enqueued. -/
def packetsSent (p : State) : Nat := p.source.sent.countP SourceAction.isData

/-- The packets the source can still enqueue once a `SinkClosed` has been enqueued: it will
find it ahead of it at the latest when it waits for an answer. -/
def outlook (p : State) : Nat :=
  match p.source.pc with
  | .select | .sendData _ => 1
  | .recvAnswer => if (answersAhead p).head? = some .sinkClosed then 0 else 1
  | _ => 0

theorem outlook_le (p : State) : outlook p ≤ 1 := by
  unfold outlook
  split
  · exact Nat.le_refl 1
  · exact Nat.le_refl 1
  · split
    · exact Nat.zero_le 1
    · exact Nat.le_refl 1
  · exact Nat.zero_le 1

theorem head_of_idle {p : State} (hbounded : Bounded p) (hidle : Idle p.source)
    (hcloses : 0 < closes p) : (answersAhead p).head? = some .sinkClosed := by
  have hzero := hbounded.idle_unresolved hidle
  have hnone : .ack ∉ answersAhead p := by
    rw [← List.count_eq_zero, answersAhead, List.count_append]
    simp only [unresolved, acks] at hzero
    omega
  have hlength := length_answersAhead p
  cases hahead : answersAhead p with
  | nil =>
      rw [hahead, List.length_nil] at hlength
      omega
  | cons action actions =>
      cases action with
      | ack => simp [hahead] at hnone
      | sinkClosed => rfl

theorem outlook_append {p q : State} (hsource : q.source.pc = p.source.pc)
    (hne : Looping p.source → answersAhead p ≠ [])
    (hahead : ∃ actions, answersAhead q = answersAhead p ++ actions) :
    outlook q = outlook p := by
  obtain ⟨actions, hahead⟩ := hahead
  unfold outlook
  rw [hsource, hahead]
  cases hpc : p.source.pc with
  | recvAnswer =>
      obtain ⟨action, rest, hcons⟩ :=
        List.exists_cons_of_ne_nil (hne (Or.inr (Or.inr hpc)))
      rw [hcons]
      rfl
  | _ => rfl

theorem outlook_source {p q : State} {e : Source.Event} (hbounded : Bounded p)
    (hunheeded : Unheeded p) (hclosings : 0 < closings p) (hok : Orderly p (.source e))
    (hstep : step p (.source e) = some q) :
    packetsSent q + outlook q ≤ packetsSent p + outlook p := by
  obtain ⟨hsource, hne, hq⟩ := step_source hstep
  have hback : q.back = p.back := by rw [hq]
  cases e with
  | read res =>
      have hpc : p.source.pc = .select := by
        simp only [Source.Task.step, Source.Task.onRead] at hsource
        split at hsource <;> first | assumption | cases hsource
      have hsent : q.source.sent = p.source.sent := by
        simpa [Source.Task.emitted] using Source.sent_step hsource
      have hp : outlook p = 1 := by rw [outlook, hpc]
      rw [packetsSent, hsent, hp]
      exact Nat.add_le_add_left (outlook_le q) _
  | recv =>
      have hsent : q.source.sent = p.source.sent := by
        simpa [Source.Task.emitted] using Source.sent_step hsource
      rw [packetsSent, hsent]
      refine Nat.add_le_add_left ?_ _
      simp only [Source.Task.step, Source.Task.onRecv] at hsource
      split at hsource
      · rename_i hpc _
        rw [show outlook p = 1 by rw [outlook, hpc]]
        exact outlook_le q
      · rename_i hpc _
        rw [show outlook p = 1 by rw [outlook, hpc]]
        exact outlook_le q
      · rename_i hpc hrx
        rw [show outlook p = 1 by simp [outlook, hpc, answersAhead, hrx]]
        exact outlook_le q
      · rename_i hpc hrx
        rw [show outlook q = 0 by rw [outlook, ← Option.some.inj hsource]]
        exact Nat.zero_le _
      · cases hsource
  | sent =>
      simp only [Source.Task.step, Source.Task.onSent] at hsource
      split at hsource
      · -- the packet uses up the outlook: the next answer ahead is the `SinkClosed`
        rename_i bytes hpc
        have heq := Option.some.inj hsource
        have hidle : Idle p.source := Or.inr (Or.inl ⟨bytes, hpc⟩)
        have hcloses : 0 < closes p := by
          rw [hunheeded (Or.inr (Or.inl ⟨bytes, hpc⟩))]
          exact hclosings
        have hhead : (answersAhead q).head? = some .sinkClosed := by
          rw [answersAhead, hback, ← heq]
          exact head_of_idle hbounded hidle hcloses
        have hq : outlook q = 0 := by rw [outlook, ← heq]; exact if_pos hhead
        have hp : outlook p = 1 := by rw [outlook, hpc]
        rw [hq, hp, packetsSent, ← heq, List.countP_append]
        exact Nat.le_refl _
      · have heq := Option.some.inj hsource
        rw [show outlook q = 0 by rw [outlook, ← heq], packetsSent, ← heq, List.countP_append]
        exact Nat.le_add_right _ _
      · cases hsource
  | deliver action => exact absurd rfl (hne action)
  | recvNone | sendFailed | shutdown => exact hok.elim

theorem outlook_step {p q : State} {e : Event} (hbounded : Bounded p) (hunheeded : Unheeded p)
    (hclosings : 0 < closings p) (hok : Orderly p e) (hstep : step p e = some q) :
    packetsSent q + outlook q ≤ packetsSent p + outlook p := by
  have hne (hloop : Looping p.source) : answersAhead p ≠ [] := by
    intro hnil
    have hlength := length_answersAhead p
    have heq := hunheeded hloop
    rw [hnil, List.length_nil] at hlength
    omega
  cases e with
  | source e => exact outlook_source hbounded hunheeded hclosings hok hstep
  | sink e =>
      obtain ⟨hsink, -, -, hq⟩ := step_sink hstep
      have hahead : answersAhead q = answersAhead p ++ p.sink.emitted e := by
        rw [hq]
        exact (List.append_assoc _ _ _).symm
      rw [outlook_append (by rw [hq]) hne ⟨_, hahead⟩, packetsSent, hq]
      exact Nat.le_refl _
  | sendSourceAction =>
      obtain ⟨action, -, -, -, hq⟩ := step_sendSourceAction hstep
      rw [hq]
      exact Nat.le_refl _
  | sendSinkAction =>
      obtain ⟨action, hback, hdeliver, hq⟩ := step_sendSinkAction hstep
      simp only [Source.Task.step, Source.Task.deliver] at hdeliver
      split at hdeliver
      · rename_i hended
        obtain heq := Option.some.inj hdeliver
        have hout : outlook q = outlook p := by
          unfold outlook
          rw [← heq]
          unfold Source.Task.ended at hended
          split at hended
          all_goals first | (rename_i hpc; rw [hpc]) | cases hended
        rw [hout, packetsSent, ← heq]
        exact Nat.le_refl _
      · rw [Option.ite_none_right_eq_some, Option.some.injEq] at hdeliver
        obtain ⟨-, heq⟩ := hdeliver
        have hahead : answersAhead q = answersAhead p ++ [] := by
          rw [answersAhead, answersAhead, ← heq, hback]
          simp
        rw [outlook_append (by rw [← heq]) hne ⟨[], hahead⟩, packetsSent, ← heq]
        exact Nat.le_refl _
  | inject =>
      have hq := step_inject hstep
      have hahead : answersAhead q = answersAhead p ++ [.sinkClosed] := by
        rw [hq]
        exact (List.append_assoc _ _ _).symm
      rw [outlook_append (by rw [hq]) hne ⟨_, hahead⟩, packetsSent, hq]
      exact Nat.le_refl _

theorem source_alive_step {t u : Source.Task} {e : Source.Event}
    (hnot : ∀ bytes, t.pc ≠ .failed bytes) (hnone : e ≠ .recvNone) (hqueue : e ≠ .sendFailed)
    (hstep : t.step e = some u) : ∀ bytes, u.pc ≠ .failed bytes := by
  cases e <;>
    simp only [Source.Task.step, Source.Task.onRead, Source.Task.onRecv, Source.Task.onSent,
      Source.Task.deliver, Source.Task.shutdown] at hstep <;>
    grind

theorem back_of_empty {p : State} (h : Served p) (hsent : p.source.sent = [.sourceClosed])
    (hstop : p.source.stop = some .eof) (hinjected : p.injected = 0) : p.back = [] := by
  have hidle : Idle p.source := Or.inr (Or.inr (Or.inl hstop))
  have hnone : p.sink.past = [] := by
    have htaken := h.inv.sent_eq h.not_shut
    rw [hsent] at htaken
    by_contra hne
    obtain ⟨c, past, hpast⟩ := List.exists_cons_of_ne_nil hne
    have hmem : .data c.bytes ∈ p.sink.taken := by simp [Sink.Task.taken, hpast]
    have hmem' := htaken ▸ List.mem_append_left (p.sink.rx ++ p.fwd) hmem
    cases List.mem_singleton.mp hmem'
  have hunresolved := h.bounded.idle_unresolved hidle
  have hcloses := h.bounded.idle_closes hidle
  have hextra : extra p = 0 := by simp [extra, seconds, hinjected, hnone]
  have hlength := length_eq_ack_add_closed p.back
  apply List.length_eq_zero_iff.mp
  simp only [unresolved, acks, closes] at hunresolved hcloses
  omega

/-- What every orderly run keeps of both ends. -/
structure Lively (p : State) : Prop extends Served p where
  unheeded : Unheeded p
  source_alive : ∀ bytes, p.source.pc ≠ .failed bytes

theorem Lively.step {p q : State} {e : Event} (h : Lively p) (hok : Orderly p e)
    (hstep : step p e = some q) : Lively q := by
  refine ⟨h.toServed.step hok hstep, h.unheeded.step h.inv.tasks hstep, ?_⟩
  have hsame (heq : q.source = p.source) : ∀ bytes, q.source.pc ≠ .failed bytes :=
    heq ▸ h.source_alive
  cases e with
  | source e =>
      refine source_alive_step h.source_alive ?_ ?_ (step_source hstep).1
      · rintro rfl
        exact hok
      · rintro rfl
        exact hok
  | sendSinkAction =>
      obtain ⟨action, -, hdeliver, -⟩ := step_sendSinkAction hstep
      exact source_alive_step h.source_alive (by simp) (by simp) hdeliver
  | sink e => exact hsame (by rw [(step_sink hstep).2.2.2])
  | sendSourceAction =>
      obtain ⟨action, -, -, -, hq⟩ := step_sendSourceAction hstep
      exact hsame (by rw [hq])
  | inject => exact hsame (by rw [step_inject hstep])

theorem lively_of_reach {writer : Sink.Writer} {p : State}
    (h : Reach step Orderly (new writer) p) : Lively p := by
  refine h.invariant ⟨⟨lasting_new writer, rfl, bounded_new writer⟩, unheeded_new writer, ?_⟩
    fun _ _ _ _ hlively hok hstep => hlively.step hok hstep
  intro bytes hpc
  cases hpc

theorem closings_step {p q : State} {e : Event} (hvalid : TasksValid p)
    (hstep : step p e = some q) : closings p ≤ closings q := by
  have hsink {e' : Sink.Event} (hinj : q.injected = p.injected)
      (hstep' : p.sink.step e' = some q.sink) : closings p ≤ closings q := by
    have hsent := closesSent_step hvalid.2 hstep'
    simp only [closings, hinj, hsent]
    omega
  cases e with
  | sink e => exact hsink (by rw [(step_sink hstep).2.2.2]) (step_sink hstep).1
  | sendSourceAction =>
      obtain ⟨action, -, -, hdeliver, hq⟩ := step_sendSourceAction hstep
      exact hsink (by rw [hq]) hdeliver
  | source e =>
      rw [(step_source hstep).2.2]
      simp only [closings]
      omega
  | sendSinkAction =>
      obtain ⟨action, -, -, hq⟩ := step_sendSinkAction hstep
      rw [hq]
      exact Nat.le_refl _
  | inject =>
      rw [step_inject hstep]
      simp only [closings]
      omega

/-- After a `SinkClosed` the source enqueues one more packet at most. -/
theorem Lively.packetsSent_le {p q : State} (h : Lively p) (hclosings : 0 < closings p)
    (hreach : Reach Pair.step Orderly p q) : packetsSent q ≤ packetsSent p + 1 := by
  have hall : Lively q ∧ 0 < closings q ∧
      packetsSent q + outlook q ≤ packetsSent p + outlook p := by
    refine hreach.invariant (P := fun a => Lively a ∧ 0 < closings a ∧
      packetsSent a + outlook a ≤ packetsSent p + outlook p)
      ⟨h, hclosings, Nat.le_refl _⟩ ?_
    rintro a e b - ⟨ha, hpos, hle⟩ hok hstep
    refine ⟨ha.step hok hstep, ?_, ?_⟩
    · exact Nat.lt_of_lt_of_le hpos (closings_step ha.inv.tasks hstep)
    · exact Nat.le_trans (outlook_step ha.bounded ha.unheeded hpos hok hstep) hle
  have := outlook_le p
  omega

theorem ended_source_step {t u : Source.Task} {e : Source.Event} (h : t.ended = true)
    (hstep : t.step e = some u) : u.pc = t.pc ∧ u.sent = t.sent := by
  obtain ⟨-, ⟨action, rfl⟩ | rfl⟩ := Source.ended_step h hstep
  · simp only [Source.Task.step, Source.Task.deliver, h, if_true] at hstep
    rw [← Option.some.inj hstep]
    exact ⟨rfl, rfl⟩
  · simp only [Source.Task.step, Source.Task.shutdown, Source.Task.deliver, h, if_true,
      Option.map_some] at hstep
    rw [← Option.some.inj hstep]
    exact ⟨rfl, rfl⟩

theorem sent_of_closed {p q : State} (hvalid : Source.Valid p.source)
    (hclosed : .sourceClosed ∈ p.source.sent) (hreach : Reach step Orderly p q) :
    q.source.sent = p.source.sent := by
  have hdone : p.source.pc = .done := by
    by_contra hnot
    exact hvalid.not_closed hnot hclosed
  have hall : q.source.pc = .done ∧ q.source.sent = p.source.sent := by
    refine hreach.invariant (P := fun a => a.source.pc = .done ∧ a.source.sent = p.source.sent)
      ⟨hdone, rfl⟩ ?_
    rintro a e b - ⟨hpc, hsent⟩ - hstep
    rcases (step_tasks hstep).1 with heq | ⟨e', he'⟩
    · exact heq ▸ ⟨hpc, hsent⟩
    · obtain ⟨hpc', hsent'⟩ := ended_source_step (by rw [Source.Task.ended, hpc]) he'
      exact ⟨hpc'.trans hpc, hsent'.trans hsent⟩
  exact hall.2

theorem eq_map_data {actions : List SourceAction} (h : .sourceClosed ∉ actions) :
    ∃ packets : List Bytes, actions = packets.map .data := by
  induction actions with
  | nil => exact ⟨[], rfl⟩
  | cons action actions ih =>
      obtain ⟨packets, hpackets⟩ := ih fun hmem => h (List.mem_cons_of_mem _ hmem)
      cases action with
      | data bytes => exact ⟨bytes :: packets, by rw [hpackets]; rfl⟩
      | sourceClosed => exact absurd (List.mem_cons_self ..) h

theorem sent_of_done {t : Source.Task} (hvalid : Source.Valid t) (hdone : t.pc = .done) :
    ∃ packets : List Bytes, t.sent = packets.map .data ++ [.sourceClosed] := by
  obtain ⟨pre, hsent, hnot⟩ := hvalid.closed_last hdone
  obtain ⟨packets, hpackets⟩ := eq_map_data hnot
  exact ⟨packets, by rw [hsent, hpackets]⟩

theorem left_sink_step {p q : State} {e : Event} (h : Lively p)
    (htook : p.sink.tookClosed = true) (hok : Orderly p e) (hstep : step p e = some q) :
    q.sink = p.sink ∨
      e = .sink .shutdownDone ∧ p.sink.pc = .shutdown ∧ q.sink = { p.sink with pc := .done } := by
  have hpc := h.inv.tasks.2.took_pc htook
  cases e with
  | sink e =>
      obtain ⟨hsink, hne, -, -⟩ := step_sink hstep
      cases e <;>
        simp only [Sink.Task.step, Sink.Task.onRecv, Sink.Task.onWritten, Sink.Task.onSent,
          Sink.Task.onFlushed, Sink.Task.onShutdown] at hsink <;>
        grind [Orderly]
  | sendSourceAction =>
      obtain ⟨action, hfwd, -, -, -⟩ := step_sendSourceAction hstep
      have hnil := (h.inv.taken_all h.not_shut htook).2.2.2
      rw [hnil] at hfwd
      cases hfwd
  | source e => exact Or.inl (by rw [(step_source hstep).2.2])
  | sendSinkAction =>
      obtain ⟨action, -, -, hq⟩ := step_sendSinkAction hstep
      exact Or.inl (by rw [hq])
  | inject => exact Or.inl (by rw [step_inject hstep])

theorem Lively.sink_last {p q : State} (h : Lively p) (htook : p.sink.tookClosed = true)
    (hreach : Reach Pair.step Orderly p q) :
    q.sink.taken = p.sink.taken ∧ answered q.sink = answered p.sink := by
  have hall : Lively q ∧ q.sink.tookClosed = true ∧ q.sink.taken = p.sink.taken ∧
      answered q.sink = answered p.sink := by
    refine hreach.invariant (P := fun a => Lively a ∧ a.sink.tookClosed = true ∧
      a.sink.taken = p.sink.taken ∧ answered a.sink = answered p.sink)
      ⟨h, htook, rfl, rfl⟩ ?_
    rintro a e b - ⟨ha, hclosed, htaken, hanswered⟩ hok hstep
    refine ⟨ha.step hok hstep, ?_⟩
    rcases left_sink_step ha hclosed hok hstep with heq | ⟨-, -, heq⟩
    · rw [heq]
      exact ⟨hclosed, htaken, hanswered⟩
    · rw [heq]
      exact ⟨hclosed, htaken, hanswered⟩
  exact hall.2.2

/-- Whether the sink has shut its writer down. -/
def shutDown (p : State) : Nat := if p.sink.pc = .done then 1 else 0

theorem shutDown_step {p q : State} {e : Event} (hok : Orderly p e)
    (hstep : step p e = some q) :
    (if e = .sink .shutdownDone then 1 else 0) + shutDown p = shutDown q := by
  have hsame (hne : e ≠ .sink .shutdownDone) (hpc : q.sink.pc = .done ↔ p.sink.pc = .done) :
      (if e = .sink .shutdownDone then 1 else 0) + shutDown p = shutDown q := by
    simp only [shutDown, hpc, if_neg hne, Nat.zero_add]
  cases e with
  | sink e =>
      obtain ⟨hsink, hne, -, -⟩ := step_sink hstep
      cases e <;>
        simp only [Sink.Task.step, Sink.Task.onRecv, Sink.Task.onWritten, Sink.Task.onSent,
          Sink.Task.onFlushed, Sink.Task.onShutdown, Sink.Task.finish] at hsink <;>
        grind [Orderly, shutDown]
  | sendSourceAction =>
      obtain ⟨action, -, -, hdeliver, -⟩ := step_sendSourceAction hstep
      simp only [Sink.Task.step, Sink.Task.deliver] at hdeliver
      apply hsame (by simp)
      grind
  | source e => exact hsame (by simp) (by rw [(step_source hstep).2.2])
  | sendSinkAction =>
      obtain ⟨action, -, -, hq⟩ := step_sendSinkAction hstep
      exact hsame (by simp) (by rw [hq])
  | inject => exact hsame (by simp) (by rw [step_inject hstep])

theorem count_shutdownDone {p q : State} {es : List Event}
    (hrun : run (guarded step Orderly) p es = some q) :
    es.count (.sink .shutdownDone) + shutDown p = shutDown q := by
  induction es generalizing p with
  | nil =>
      obtain rfl := Option.some.inj hrun
      simp
  | cons e es ih =>
      simp only [run, guarded, Option.bind_eq_some_iff] at hrun
      obtain ⟨a, hstep, hrun⟩ := hrun
      rw [Option.ite_none_right_eq_some] at hstep
      obtain ⟨hok, hstep⟩ := hstep
      have hone := shutDown_step hok hstep
      have hrest := ih hrun
      rw [List.count_cons]
      simp only [beq_iff_eq]
      omega

/-- A stream is closed in order, from whichever end: the source closes it once and enqueues
nothing behind that, nor more than one packet after it could have known that the sink is
closed; the sink takes the `SourceClosed` last and is silent from then on; what is late for
the source is dropped; and neither task fails. -/
structure InOrder (p : State) : Prop where
  sent : p.source.ended = true →
    ∃ packets : List Bytes, p.source.sent = packets.map .data ++ [.sourceClosed]
  taken : p.sink.tookClosed = true →
    p.sink.taken = p.source.sent ∧ p.sink.rx = [] ∧ p.fwd = []
  later : ∀ q, Reach step Orderly p q →
    (.sourceClosed ∈ p.source.sent → q.source.sent = p.source.sent) ∧
    (0 < closings p → packetsSent q ≤ packetsSent p + 1) ∧
    (p.sink.tookClosed = true →
      q.sink.taken = p.sink.taken ∧ answered q.sink = answered p.sink)
  dropped : p.source.ended = true → ∀ action back, p.back = action :: back →
    step p .sendSinkAction = some { p with back }
  source_not_failed : ∀ bytes, p.source.pc ≠ .failed bytes
  source_not_panicked : p.source.pc ≠ .panicked
  sink_not_failed : p.sink.pc ≠ .failed

theorem inOrder_of_reach {writer : Sink.Writer} {p : State}
    (hp : Reach step Orderly (new writer) p) : InOrder p := by
  have hlively := lively_of_reach hp
  have hpanicked := not_panicked_of_reach hp
  refine ⟨fun hended => ?_, fun htook => ?_, fun q hq => ⟨?_, ?_, ?_⟩, ?_,
    hlively.source_alive, hpanicked, hlively.not_failed⟩
  · apply sent_of_done hlively.inv.tasks.1
    unfold Source.Task.ended at hended
    split at hended
    · assumption
    · rename_i bytes hpc
      exact absurd hpc (hlively.source_alive bytes)
    · rename_i hpc
      exact absurd hpc hpanicked
    · cases hended
  · exact (hlively.inv.taken_all hlively.not_shut htook).2
  · exact fun hclosed => sent_of_closed hlively.inv.tasks.1 hclosed hq
  · exact fun hclosings => hlively.packetsSent_le hclosings hq
  · exact fun htook => hlively.sink_last htook hq
  · intro hended action back hback
    simp [step, hback, Source.Task.deliver, hended]

/-- The sink shuts its writer down once it has taken the `SourceClosed`, and only then. -/
theorem shutdownDone_once {writer : Sink.Writer} {es : List Event} {p : State}
    (hrun : run (guarded step Orderly) (new writer) es = some p) :
    es.count (.sink .shutdownDone) + (if p.sink.pc = .shutdown then 1 else 0) =
      if p.sink.tookClosed then 1 else 0 := by
  obtain ⟨-, hreach⟩ := reach_of_guarded hrun
  have hlively := lively_of_reach hreach
  have hcount := count_shutdownDone hrun
  have htook := hlively.took
  have hpc := hlively.inv.tasks.2.took_pc
  simp only [shutDown, new, Sink.Task.new, reduceCtorEq, if_false, Nat.add_zero] at hcount
  rw [hcount]
  grind

/-- The end of the file, a broken pipe and the exit of the child cross. -/
def allAtOnce : List Event :=
  [.source (.read (.ok [104, 105])), .source .sent, .sendSourceAction, .sink .recv,
    .inject, .sink (.written .ok), .sink .sent, .sink (.flushed (.err .brokenPipe)),
    .sendSinkAction, .source .recv, .source .sent, .sink .sent, .sendSourceAction, .sink .recv,
    .sendSinkAction, .sink .shutdownDone]

end Rlirsh.Stream.Closure
