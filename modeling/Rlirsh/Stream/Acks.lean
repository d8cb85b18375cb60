import Rlirsh.Stream.Window

namespace Rlirsh.Stream.Acks

open Rlirsh.Protocol
open Rlirsh.Lib.Machine
open Rlirsh.Stream.Pair
open Rlirsh.Stream.Window

/-- What the sink has enqueued, in order. -/
def answered (t : Sink.Task) : List SinkAction :=
  (t.past ++ t.current.toList).flatMap Sink.Handled.answers

/-- What a step makes the sink enqueue. -/
def answers (p : State) : Event → List SinkAction
  | .sink e => p.sink.emitted e
  | _ => []

/-- A packet that is acknowledged is the first to be answered after packets that are. -/
def Prompt (t : Sink.Task) : Prop :=
  ∀ c, t.current = some c →
    c.answers = [] ∨ c.answers = [.ack] ∧ c.write = some .ok ∧ ∀ d ∈ t.past, d.Acked

theorem prompt_new (writer : Sink.Writer) : Prompt (Sink.Task.new writer) := by
  intro c hcur
  cases hcur

theorem prompt_of_valid {t : Sink.Task} (h : Sink.Valid t) (hpc : t.pc ≠ .failed) :
    Prompt t := by
  intro c hcur
  have hstage := h.stage c hcur
  have hacked (hclosed : t.isClosed = false) : ∀ d ∈ t.past, d.Acked := h.past_open hclosed
  cases hpc' : t.pc with
  | failed => exact absurd hpc' hpc
  | recv | shutdown | done =>
      rw [hpc'] at hstage
      exact hstage.elim
  | write | sendAck =>
      rw [hpc'] at hstage
      exact Or.inl hstage.2.2.2
  | flush =>
      rw [hpc'] at hstage
      exact Or.inr ⟨hstage.2.2.2, hstage.2.1, hacked hstage.1⟩
  | sendClosed =>
      rw [hpc'] at hstage
      obtain ⟨hclosed, hstage⟩ := hstage
      rcases hstage with ⟨-, -, ha⟩ | ⟨-, -, ha⟩ | ⟨hw, -, ha⟩
      · exact Or.inl ha
      · exact Or.inl ha
      · rcases h.past_closed hclosed with ⟨hall, -⟩ | ⟨_, _, _, -, -, -, -, hnone⟩
        · exact Or.inr ⟨ha, hw, hall⟩
        · exact Or.inl (hnone c hcur).2.2

theorem Prompt.step {t u : Sink.Task} {e : Sink.Event} (hvalid : Sink.Valid t) (h : Prompt t)
    (hstep : t.step e = some u) : Prompt u := by
  by_cases hpc : u.pc = .failed
  · cases e with
    | written res =>
        simp only [Sink.Task.step, Sink.Task.onWritten] at hstep
        split at hstep
        · rename_i c hwrite hcur
          have hstage := hvalid.stage c hcur
          rw [hwrite] at hstage
          have hcur' : u.current = some { c with write := some res } := by
            split at hstep <;> obtain rfl := Option.some.inj hstep <;> rfl
          intro d hd
          obtain rfl := Option.some.inj (hcur'.symm.trans hd)
          exact Or.inl hstage.2.2.2
        · cases hstep
    | flushed res =>
        simp only [Sink.Task.step, Sink.Task.onFlushed] at hstep
        split at hstep
        · rename_i c hflush hcur
          have hstage := hvalid.stage c hcur
          rw [hflush] at hstage
          obtain ⟨hopen, hw, -, ha⟩ := hstage
          split at hstep <;> obtain rfl := Option.some.inj hstep
          · cases hpc
          · cases hpc
          · intro d hd
            obtain rfl := Option.some.inj hd
            exact Or.inr ⟨ha, hw, hvalid.past_open hopen⟩
        · cases hstep
    | sendFailed =>
        simp only [Sink.Task.step, Sink.Task.onSendFailed] at hstep
        rw [Option.ite_none_right_eq_some, Option.some.injEq] at hstep
        obtain ⟨-, rfl⟩ := hstep
        exact h
    | recv | recvNone | sent | shutdownDone | deliver action | shutdown =>
        simp only [Sink.Task.step, Sink.Task.onRecv, Sink.Task.onRecvNone, Sink.Task.onSent,
          Sink.Task.onShutdown, Sink.Task.deliver, Sink.Task.shutdown,
          Sink.Task.finish] at hstep
        grind [Sink.Task.ended]
  · exact prompt_of_valid (hvalid.step hstep) hpc

theorem prompt_of_reach {ok : State → Event → Prop} {writer : Sink.Writer} {p : State}
    (h : Reach step ok (new writer) p) : Prompt p.sink := by
  apply h.invariant (P := fun p => Prompt p.sink) (prompt_new writer)
  intro a _ b ha hprompt _ hstep
  rcases (step_tasks hstep).2 with heq | ⟨e, he⟩
  · exact heq ▸ hprompt
  · exact hprompt.step (Integrity.inv_of_reach ha).tasks.2 he

theorem answered_step {t u : Sink.Task} {e : Sink.Event} (hvalid : Sink.Valid t)
    (hstep : t.step e = some u) : answered u = answered t ++ t.emitted e := by
  cases e with
  | recv =>
      simp only [Sink.Task.step, Sink.Task.onRecv] at hstep
      split at hstep
      · rename_i bytes rx hpc hrx
        have hcur := hvalid.current_eq_none (Or.inl hpc)
        split at hstep <;> obtain rfl := Option.some.inj hstep <;>
          simp [answered, hcur, Sink.Task.emitted]
      · obtain rfl := Option.some.inj hstep
        simp [answered, Sink.Task.emitted]
      · cases hstep
  | written res =>
      simp only [Sink.Task.step, Sink.Task.onWritten] at hstep
      split at hstep
      · rename_i c hpc hcur
        split at hstep <;> obtain rfl := Option.some.inj hstep <;>
          simp [answered, hcur, Sink.Task.emitted]
      · cases hstep
  | sent =>
      simp only [Sink.Task.step, Sink.Task.onSent] at hstep
      split at hstep
      · rename_i c hpc hcur
        split at hstep <;> obtain rfl := Option.some.inj hstep <;>
          simp [answered, hcur, hpc, Sink.Task.finish, Sink.Task.emitted, Sink.Task.pending]
      · rename_i c hpc hcur
        obtain rfl := Option.some.inj hstep
        simp [answered, hcur, hpc, Sink.Task.finish, Sink.Task.emitted, Sink.Task.pending]
      · cases hstep
  | flushed res =>
      simp only [Sink.Task.step, Sink.Task.onFlushed] at hstep
      split at hstep
      · rename_i c hpc hcur
        split at hstep <;> obtain rfl := Option.some.inj hstep <;>
          simp [answered, hcur, Sink.Task.finish, Sink.Task.emitted]
      · cases hstep
  | recvNone | sendFailed | shutdownDone | deliver action | shutdown =>
      simp only [Sink.Task.step, Sink.Task.onRecvNone, Sink.Task.onSendFailed,
        Sink.Task.onShutdown, Sink.Task.deliver, Sink.Task.shutdown] at hstep
      grind [answered, Sink.Task.emitted]

theorem answered_of_step {p q : State} {e : Event} (hvalid : Sink.Valid p.sink)
    (hstep : step p e = some q) : answered q.sink = answered p.sink ++ answers p e := by
  cases e with
  | sink e => exact answered_step hvalid (step_sink hstep).1
  | sendSourceAction =>
      obtain ⟨action, -, -, hdeliver, -⟩ := step_sendSourceAction hstep
      exact answered_step hvalid hdeliver
  | source e =>
      rw [(step_source hstep).2.2]
      exact (List.append_nil _).symm
  | sendSinkAction =>
      obtain ⟨action, -, -, hq⟩ := step_sendSinkAction hstep
      rw [hq]
      exact (List.append_nil _).symm
  | inject =>
      rw [step_inject hstep]
      exact (List.append_nil _).symm

theorem answers_of_acked {cs : List Sink.Handled} (h : ∀ c ∈ cs, c.Acked) :
    cs.flatMap Sink.Handled.answers = List.replicate cs.length .ack := by
  induction cs with
  | nil => rfl
  | cons c cs ih =>
      have hc : c.answers = [.ack] := (h c (List.mem_cons_self ..)).2.2
      rw [List.flatMap_cons, hc, ih fun d hd => h d (List.mem_cons_of_mem c hd)]
      rfl

theorem answers_of_skipped {cs : List Sink.Handled} (h : ∀ c ∈ cs, c.Skipped) :
    cs.flatMap Sink.Handled.answers = List.replicate cs.length .sinkClosed := by
  induction cs with
  | nil => rfl
  | cons c cs ih =>
      have hc : c.answers = [.sinkClosed] := (h c (List.mem_cons_self ..)).2.2
      rw [List.flatMap_cons, hc, ih fun d hd => h d (List.mem_cons_of_mem c hd)]
      rfl

theorem answered_eq {t : Sink.Task} (hvalid : Sink.Valid t) (h : Prompt t) :
    ∃ n k, answered t = List.replicate n .ack ++ List.replicate k .sinkClosed := by
  have hopen (hacked : ∀ c ∈ t.past, c.Acked) :
      ∃ n k, answered t = List.replicate n .ack ++ List.replicate k .sinkClosed := by
    have hpast := answers_of_acked hacked
    cases hcur : t.current with
    | none => exact ⟨t.past.length, 0, by simp [answered, hcur, hpast]⟩
    | some c =>
        rcases h c hcur with hnil | ⟨hack, -, -⟩
        · exact ⟨t.past.length, 0, by simp [answered, hcur, hpast, hnil]⟩
        · refine ⟨t.past.length + 1, 0, ?_⟩
          simp [answered, hcur, hpast, hack, List.replicate_succ']
  cases hclosed : t.isClosed with
  | false => exact hopen (hvalid.past_open hclosed)
  | true =>
      rcases hvalid.past_closed hclosed with ⟨hacked, -⟩ |
          ⟨pre, b, post, hpast, hpre, hb, hpost, hnone⟩
      · exact hopen hacked
      · have hcur : t.current.toList.flatMap Sink.Handled.answers = [] := by
          cases hcur : t.current with
          | none => rfl
          | some c => simp [(hnone c hcur).2.2]
        rcases hb with hb | hb
        · refine ⟨pre.length + 1, post.length + 1, ?_⟩
          rw [answered, List.flatMap_append, hcur, hpast, List.flatMap_append, List.flatMap_cons,
            answers_of_acked hpre, answers_of_skipped hpost, hb.2.2, List.replicate_succ',
            List.replicate_succ]
          simp
        · refine ⟨pre.length, post.length + 1, ?_⟩
          rw [answered, List.flatMap_append, hcur, hpast, List.flatMap_append, List.flatMap_cons,
            answers_of_acked hpre, answers_of_skipped hpost, hb.2.2, List.replicate_succ]
          simp

theorem answered_ordered {t : Sink.Task} (hvalid : Sink.Valid t) (h : Prompt t) :
    (answered t).Pairwise fun a b => a = .sinkClosed → b = .sinkClosed := by
  obtain ⟨n, k, hshape⟩ := answered_eq hvalid h
  rw [hshape, List.pairwise_append]
  refine ⟨List.pairwise_replicate.mpr (Or.inr id), List.pairwise_replicate.mpr (Or.inr id), ?_⟩
  intro a _ b hb _
  exact List.eq_of_mem_replicate hb

theorem ack_of_mem {t : Sink.Task} (hvalid : Sink.Valid t) (h : Prompt t) {c : Sink.Handled}
    (hc : c ∈ t.past ++ t.current.toList) :
    c.answers.count .ack ≤ 1 ∧ (.ack ∈ c.answers → c.write = some .ok) := by
  have hacked (hc : c.Acked) : c.answers.count .ack ≤ 1 ∧ (.ack ∈ c.answers → c.write = some .ok) :=
    ⟨by simp [hc.2.2], fun _ => hc.1⟩
  have hnot (hnone : .ack ∉ c.answers) :
      c.answers.count .ack ≤ 1 ∧ (.ack ∈ c.answers → c.write = some .ok) :=
    ⟨by rw [List.count_eq_zero.mpr hnone]; exact Nat.zero_le _, fun hmem => absurd hmem hnone⟩
  rcases List.mem_append.mp hc with hpast | hcur
  · cases hclosed : t.isClosed with
    | false => exact hacked (hvalid.past_open hclosed c hpast)
    | true =>
        rcases hvalid.past_closed hclosed with ⟨hall, -⟩ | ⟨pre, b, post, heq, hpre, hb, hpost, -⟩
        · exact hacked (hall c hpast)
        · have hcase : c ∈ pre ∨ c = b ∨ c ∈ post := by simpa [heq] using hpast
          rcases hcase with hmem | rfl | hmem
          · exact hacked (hpre c hmem)
          · rcases hb with hb | hb
            · exact ⟨by simp [hb.2.2], fun _ => hb.1⟩
            · exact hnot (by simp [hb.2.2])
          · exact hnot (by simp [(hpost c hmem).2.2])
  · rcases h c (by simpa using hcur) with hnil | ⟨hack, hok, -⟩
    · exact hnot (by simp [hnil])
    · exact ⟨by simp [hack], fun _ => hok⟩

/-- No `Ack` is unexpected: each is the one of a packet that is completely written, none
comes after a `SinkClosed` of the sink, and none is under way to a source that is reading,
which therefore does not panic. -/
theorem acks_expected (writer : Sink.Writer) (p : State) (h : Reach step Any (new writer) p) :
    (∀ c ∈ p.sink.past ++ p.sink.current.toList,
      c.answers.count .ack ≤ 1 ∧ (.ack ∈ c.answers → c.write = some .ok)) ∧
    (∀ before after, answered p.sink = before ++ .sinkClosed :: after → .ack ∉ after) ∧
    (∀ e q, step p e = some q → answered q.sink = answered p.sink ++ answers p e) ∧
    (p.source.pc = .select → .ack ∉ p.source.rx ++ p.back) ∧
    p.source.pc ≠ .panicked := by
  have hvalid := (Integrity.inv_of_reach h).tasks.2
  have hprompt := prompt_of_reach h
  refine ⟨fun c hc => ack_of_mem hvalid hprompt hc, ?_, ?_, ?_, not_panicked_of_reach h⟩
  · intro before after heq hmem
    have hordered := answered_ordered hvalid hprompt
    rw [heq, List.pairwise_append, List.pairwise_cons] at hordered
    cases hordered.2.1.1 .ack hmem rfl
  · intro e q hstep
    exact answered_of_step hvalid hstep
  · intro hpc hmem
    have hzero := (bounded_of_reach h).idle_unresolved (Or.inl hpc)
    have hacks : acks p = 0 := by
      simp only [unresolved] at hzero
      omega
    rw [acks, ← List.count_append] at hacks
    exact List.count_eq_zero.mp hacks hmem

/-- The flush after an `Ack` fails, the child exits and the router is shut down: the source
hears the `Ack` and then three times of the end. -/
def ackThenClosed : List Event :=
  [.source (.read (.ok [104, 105])), .source .sent, .sendSourceAction, .sink .recv,
    .sink (.written .ok), .sink .sent, .inject, .sink (.flushed (.err .brokenPipe)),
    .sink .sent, .sendSinkAction, .source .recv]

theorem acks_expected_ackThenClosed :
    ∃ p, run step (new .file) ackThenClosed = some p ∧ p.source.pc = .select ∧
      answered p.sink = [.ack, .sinkClosed] ∧ .ack ∉ p.source.rx ++ p.back := by
  obtain ⟨p, hrun⟩ : ∃ p, run step (new .file) ackThenClosed = some p := ⟨_, rfl⟩
  obtain ⟨-, -, -, hnone, -⟩ := acks_expected .file p (reach_of_run hrun)
  obtain rfl := Option.some.inj hrun
  exact ⟨_, hrun, rfl, rfl, hnone rfl⟩

end Rlirsh.Stream.Acks
