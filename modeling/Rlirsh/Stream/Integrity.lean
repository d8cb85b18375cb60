import Rlirsh.Stream.Pair

namespace Rlirsh.Stream.Integrity

open Rlirsh.Protocol
open Rlirsh.Lib.Machine
open Rlirsh.Stream.Pair

/-- Where the actions of the source are: every action it has enqueued has been
delivered or is on its way, and what has been delivered has been taken by the
sink or is in its inbox, before the message of a shutdown. -/
structure Conserved (p : State) : Prop where
  sent_eq : p.source.sent = p.delivered ++ p.fwd
  taken_eq : p.sink.taken ++ p.sink.rx = p.delivered ++ Sink.closing p.sink.shut

theorem conserved_new (writer : Sink.Writer) : Conserved (new writer) := by
  constructor <;> simp [new, Source.Task.new, Sink.Task.new, Sink.Task.taken]

theorem Conserved.step {p q : State} {e : Event} (hvalid : TasksValid p) (h : Conserved p)
    (hstep : step p e = some q) : Conserved q := by
  obtain ⟨hsent, htaken⟩ := h
  cases e with
  | source e =>
      obtain ⟨hsource, -, hq⟩ := step_source hstep
      have hsent' := Source.sent_step hsource
      rw [hq]
      exact ⟨by rw [hsent', hsent, List.append_assoc], htaken⟩
  | sink e =>
      obtain ⟨hsink, hne, honce, hq⟩ := step_sink hstep
      have htaken' := Sink.taken_step hvalid.2 hsink
      have hshut' := Sink.shut_step hsink
      rw [hq]
      refine ⟨hsent, ?_⟩
      cases e <;> grind [Sink.Event.arriving, Sink.closing]
  | sendSourceAction =>
      obtain ⟨action, hfwd, hshut, hsink, hq⟩ := step_sendSourceAction hstep
      have htaken' := Sink.taken_step hvalid.2 hsink
      have hshut' := Sink.shut_step hsink
      have halive : p.sink.ended = false := by
        simp only [Sink.Task.step, Sink.Task.deliver] at hsink
        grind
      rw [hq]
      refine ⟨by simp [hsent, hfwd], ?_⟩
      simp [htaken', htaken, hshut', hshut, halive, Sink.Event.arriving]
  | sendSinkAction =>
      obtain ⟨action, hback, hsource, hq⟩ := step_sendSinkAction hstep
      have hsent' := Source.sent_step hsource
      rw [hq]
      exact ⟨by simpa [Source.Task.emitted, hsent'] using hsent, htaken⟩
  | inject =>
      rw [step_inject hstep]
      exact ⟨hsent, htaken⟩

/-- The invariant of every run of a stream. -/
structure Inv (p : State) : Prop where
  tasks : TasksValid p
  conserved : Conserved p

theorem inv_new (writer : Sink.Writer) : Inv (new writer) :=
  ⟨tasksValid_new writer, conserved_new writer⟩

theorem Inv.step {p q : State} {e : Event} (h : Inv p) (hstep : step p e = some q) : Inv q :=
  ⟨h.tasks.step hstep, h.conserved.step h.tasks hstep⟩

theorem inv_of_reach {ok : State → Event → Prop} {writer : Sink.Writer} {p : State}
    (h : Reach step ok (new writer) p) : Inv p :=
  h.invariant (inv_new writer) fun _ _ _ _ hinv _ hstep => hinv.step hstep

theorem Inv.written_initial {p : State} (h : Inv p) : p.sink.written <+: p.source.read := by
  have htaken : payload p.sink.taken <+: payload p.delivered := by
    have heq := congrArg payload h.conserved.taken_eq
    have hnil : payload (Sink.closing p.sink.shut) = [] := by
      cases p.sink.shut <;> rfl
    rw [payload_append, payload_append, hnil, List.append_nil] at heq
    exact ⟨_, heq⟩
  have hread : payload p.delivered <+: p.source.read := by
    rw [h.tasks.1.read_eq, h.conserved.sent_eq, payload_append, List.append_assoc]
    exact List.prefix_append _ _
  exact h.tasks.2.written_initial.trans (htaken.trans hread)

/-- The steps of a stream whose connection does not fail: the sink is not shut down
by its router, and the router does not go away under it. -/
def Connected (_ : State) (e : Event) : Prop :=
  e ≠ .sink .shutdown ∧ e ≠ .sink .recvNone

/-- While the connection lives, the sink leaves its loop on the source's own
`SourceClosed`. -/
structure Closing (p : State) : Prop where
  not_shut : p.sink.shut = false
  took : p.sink.pc = .shutdown ∨ p.sink.pc = .done → p.sink.tookClosed = true

theorem Closing.step {p q : State} {e : Event} (h : Closing p) (hok : Connected p e)
    (hstep : step p e = some q) : Closing q := by
  have hsink {e' : Sink.Event} (hshut : e' ≠ .shutdown) (hnone : e' ≠ .recvNone)
      (hstep' : p.sink.step e' = some q.sink) : Closing q :=
    ⟨by simpa [hshut, h.not_shut] using Sink.shut_step hstep',
      Sink.took_step hnone h.took hstep'⟩
  cases e with
  | sink e => exact hsink (by grind [Connected]) (by grind [Connected]) (step_sink hstep).1
  | sendSourceAction =>
      obtain ⟨action, -, -, hdeliver, -⟩ := step_sendSourceAction hstep
      exact hsink (by simp) (by simp) hdeliver
  | source e =>
      rw [(step_source hstep).2.2]
      exact ⟨h.not_shut, h.took⟩
  | sendSinkAction =>
      obtain ⟨action, -, -, hq⟩ := step_sendSinkAction hstep
      rw [hq]
      exact ⟨h.not_shut, h.took⟩
  | inject =>
      rw [step_inject hstep]
      exact ⟨h.not_shut, h.took⟩

theorem closing_of_reach {writer : Sink.Writer} {p : State}
    (h : Reach step Connected (new writer) p) : Closing p :=
  h.invariant ⟨rfl, by simp [new, Sink.Task.new]⟩
    fun _ _ _ _ hclosing hok hstep => hclosing.step hok hstep

theorem eq_nil_of_append_last {α : Type*} {a : α} {bs pre : List α} (as : List α)
    (h : as ++ a :: bs = pre ++ [a]) (hnot : a ∉ pre) : bs = [] := by
  induction as generalizing pre with
  | nil => cases pre <;> simp_all
  | cons b as ih => cases pre <;> simp_all

theorem Inv.sent_eq {p : State} (h : Inv p) (hshut : p.sink.shut = false) :
    p.source.sent = p.sink.taken ++ (p.sink.rx ++ p.fwd) := by
  rw [h.conserved.sent_eq, ← List.append_assoc, h.conserved.taken_eq, hshut]
  simp

theorem Inv.taken_all {p : State} (h : Inv p) (hshut : p.sink.shut = false)
    (htook : p.sink.tookClosed = true) :
    p.source.pc = .done ∧ p.sink.taken = p.source.sent ∧ p.sink.rx = [] ∧ p.fwd = [] := by
  have hsent := h.sent_eq hshut
  obtain ⟨data, htaken⟩ : ∃ data, p.sink.taken = data ++ [.sourceClosed] :=
    ⟨_, by rw [Sink.Task.taken, htook, Sink.closing_true]⟩
  have hdone : p.source.pc = .done := by
    by_contra hnot
    exact h.tasks.1.not_closed hnot (by simp [hsent, htaken])
  obtain ⟨pre, hpre, hnot⟩ := h.tasks.1.closed_last hdone
  have hnil : p.sink.rx ++ p.fwd = [] :=
    eq_nil_of_append_last data (by simpa [htaken, hpre] using hsent.symm) hnot
  obtain ⟨hrx, hfwd⟩ := List.append_eq_nil_iff.mp hnil
  exact ⟨hdone, by simp [hsent, hnil], hrx, hfwd⟩

/-- When the sink shuts its writer down after a source that was heard to the end, it
has written everything that was read. -/
theorem Inv.written_eq {p : State} (h : Inv p) (hclosing : Closing p)
    (hnot : ¬ p.sink.broken) (hpc : p.sink.pc = .shutdown ∨ p.sink.pc = .done) :
    p.sink.written = p.source.read := by
  obtain ⟨hdone, htaken, -, -⟩ := h.taken_all hclosing.not_shut (hclosing.took hpc)
  rw [h.tasks.2.written_eq hnot (Or.inr hpc), htaken, h.tasks.1.read_eq]
  simp [Source.Task.unsent, hdone]

theorem Inv.delivered_all {p : State} (h : Inv p) (hclosed : .sourceClosed ∈ p.delivered) :
    p.source.pc = .done ∧ p.delivered = p.source.sent := by
  have hsent := h.conserved.sent_eq
  have hdone : p.source.pc = .done := by
    by_contra hnot
    exact h.tasks.1.not_closed hnot (by rw [hsent]; exact List.mem_append_left _ hclosed)
  obtain ⟨pre, hpre, hnot⟩ := h.tasks.1.closed_last hdone
  obtain ⟨as, bs, hdelivered⟩ := List.append_of_mem hclosed
  have hnil : bs ++ p.fwd = [] := by
    refine eq_nil_of_append_last as ?_ hnot
    rw [← hpre, hsent, hdelivered]
    simp
  refine ⟨hdone, ?_⟩
  rw [hsent, (List.append_eq_nil_iff.mp hnil).2, List.append_nil]

theorem eq_of_append_first {α : Type*} {a : α} {xs ys zs ws : List α}
    (h : xs ++ a :: zs = ys ++ a :: ws) (hxs : a ∉ xs) (hys : a ∉ ys) : xs = ys := by
  induction xs generalizing ys with
  | nil => cases ys <;> simp_all
  | cons x xs ih => cases ys <;> simp_all

theorem Inv.taken_delivered {p : State} (h : Inv p) (hclosed : .sourceClosed ∈ p.delivered)
    (htook : p.sink.tookClosed = true) : p.sink.taken = p.delivered := by
  obtain ⟨hdone, hall⟩ := h.delivered_all hclosed
  obtain ⟨pre, hpre, hnot⟩ := h.tasks.1.closed_last hdone
  have htaken := h.conserved.taken_eq
  rw [Sink.Task.taken, htook, Sink.closing_true, hall, hpre] at htaken ⊢
  simp only [List.append_assoc, List.singleton_append] at htaken
  rw [eq_of_append_first htaken (by simp) hnot]

theorem Inv.written_of_delivered {p : State} (h : Inv p) (hclosed : .sourceClosed ∈ p.delivered)
    (htook : p.sink.tookClosed = true) (hnot : ¬ p.sink.broken) :
    p.sink.written = p.source.read := by
  obtain ⟨hdone, hall⟩ := h.delivered_all hclosed
  have hpc := h.tasks.2.took_pc htook
  rw [h.tasks.2.written_eq hnot (Or.inr hpc), h.taken_delivered hclosed htook, hall,
    h.tasks.1.read_eq]
  simp [Source.Task.unsent, hdone]

theorem writes_of_reach {ok : State → Event → Prop} {p q : State} (hinv : Inv p)
    (hbroken : p.sink.broken) (h : Reach step ok p q) :
    q.sink.broken ∧ q.sink.writes = p.sink.writes := by
  have hall : Inv q ∧ q.sink.broken ∧ q.sink.writes = p.sink.writes := by
    apply h.invariant (P := fun a => Inv a ∧ a.sink.broken ∧ a.sink.writes = p.sink.writes)
      ⟨hinv, hbroken, rfl⟩
    rintro a e b _ ⟨ha, hb, hw⟩ _ hstep
    refine ⟨ha.step hstep, ?_⟩
    rcases (step_tasks hstep).2 with heq | ⟨e', he'⟩
    · exact heq ▸ ⟨hb, hw⟩
    · obtain ⟨hb', hw'⟩ := ha.tasks.2.writes_step hb he'
      exact ⟨hb', hw'.trans hw⟩
  exact hall.2

/-- End-to-end integrity of a stream.  In every run the bytes written are a prefix of
the bytes read, and `write_all` is not called again once a write or a flush has failed.
If moreover the connection does not fail and no write or flush has failed, then all
that was read has been written when the sink shuts its writer down, whatever made the
source stop. -/
theorem stream_integrity (writer : Sink.Writer) :
    (∀ p, Reach step Any (new writer) p →
      p.sink.written <+: p.source.read ∧
      ∀ q, Reach step Any p q → p.sink.broken → q.sink.writes = p.sink.writes) ∧
    ∀ p, Reach step Connected (new writer) p → ¬ p.sink.broken →
      p.sink.pc = .shutdown → p.sink.written = p.source.read := by
  refine ⟨fun p hp => ⟨(inv_of_reach hp).written_initial, fun q hq hbroken => ?_⟩,
    fun p hp hnot hpc => ?_⟩
  · exact (writes_of_reach (inv_of_reach hp) hbroken hq).2
  · exact (inv_of_reach hp).written_eq (closing_of_reach hp) hnot (Or.inl hpc)

instance (p : State) (e : Event) : Decidable (Connected p e) :=
  inferInstanceAs (Decidable (_ ∧ _))

/-- Two packets and the end of the file. -/
def twoPackets : List Event :=
  [.source (.read (.ok [104, 105])), .source .sent, .sendSourceAction, .sink .recv,
    .sink (.written .ok), .sink .sent, .sink (.flushed .ok), .sendSinkAction,
    .source .recv, .source (.read (.ok [33])), .source .sent, .sendSourceAction,
    .sink .recv, .sink (.written .ok), .sink .sent, .sink (.flushed .ok),
    .sendSinkAction, .source .recv, .source (.read (.ok [])), .source .sent,
    .sendSourceAction, .sink .recv]

theorem stream_integrity_twoPackets :
    ∃ p, run step (new .file) twoPackets = some p ∧ p.source.read = [104, 105, 33] ∧
      p.sink.written = p.source.read := by
  obtain ⟨p, hrun⟩ : ∃ p, run (guarded step Connected) (new .file) twoPackets = some p :=
    ⟨_, rfl⟩
  obtain ⟨hrun', hreach⟩ := reach_of_guarded hrun
  obtain rfl := Option.some.inj hrun
  refine ⟨_, hrun', rfl, (stream_integrity .file).2 _ hreach (fun hbroken => ?_) rfl⟩
  rcases (inv_of_reach hreach).tasks.2.closed_of_broken hbroken with h | h <;> cases h

end Rlirsh.Stream.Integrity
