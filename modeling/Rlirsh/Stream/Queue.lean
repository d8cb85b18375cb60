import Rlirsh.Stream.View

namespace Rlirsh.Stream.Side

open Rlirsh.Protocol
open Rlirsh.Lib

variable {T : Type} [Message T]

/-- What is enqueued and not handed to the connection, oldest first. -/
def unsent (s : Side T) : List T := s.lost ++ s.sending ++ s.queue

/-- What an event of a side hands to the connection. -/
def output (s : Side T) (e : Event) : Option T :=
  match e with
  | .sender .sent => s.sending.head?
  | _ => none

/-- The sender has found the queue closed. -/
def closing (s : Side T) : Bool :=
  match s.sender with
  | .notified | .finish | .done => true
  | .recv | .send _ => false

/-- Every task that could hold a clone of the send queue has ended. -/
structure Quiet (s : Side T) : Prop where
  sources : ∀ id t, s.sources.get id = some t → t.ended = true
  sinks : ∀ id t, s.sinks.get id = some t → t.ended = true
  listeners : ∀ port t, s.listeners.get port = some t → t.ended = true
  connecters : ∀ port t, s.connecters.get port = some t → t.pc = .done
  connects : ∀ t ∈ s.connects, t.ended = true

omit [Message T] in
theorem quiet_iff {s : Side T} : s.quiet = true ↔ Quiet s := by
  simp only [quiet, Bool.and_eq_true, decide_eq_true_eq, Table.all_iff, List.all_eq_true]
  constructor
  · rintro ⟨⟨⟨⟨h₁, h₂⟩, h₃⟩, h₄⟩, h₅⟩
    exact ⟨h₁, h₂, h₃, h₄, h₅⟩
  · rintro ⟨h₁, h₂, h₃, h₄, h₅⟩
    exact ⟨⟨⟨⟨h₁, h₂⟩, h₃⟩, h₄⟩, h₅⟩

omit [Message T] in
theorem Quiet.setSource {s : Side T} {id : StreamId} {u : Source.Task} (h : Quiet s)
    (hu : u.ended = true) : Quiet (s.setSource id u) := by
  obtain ⟨hsources, hsinks, hlisteners, hconnecters, hconnects⟩ := h
  constructor <;> grind [Side.setSource]

omit [Message T] in
theorem Quiet.setSink {s : Side T} {id : StreamId} {u : Sink.Task} (h : Quiet s)
    (hu : u.ended = true) : Quiet (s.setSink id u) := by
  obtain ⟨hsources, hsinks, hlisteners, hconnecters, hconnects⟩ := h
  constructor <;> grind [Side.setSink]

omit [Message T] in
theorem Quiet.setListener {s : Side T} {port : PortId} {u : Listener.Task} (h : Quiet s)
    (hu : u.ended = true) : Quiet (s.setListener port u) := by
  obtain ⟨hsources, hsinks, hlisteners, hconnecters, hconnects⟩ := h
  constructor <;> grind [Side.setListener]

omit [Message T] in
theorem Quiet.dispatched {s t : Side T} {action : StreamAction} (h : Quiet s)
    (hdispatched : Dispatched s action t) :
    Quiet t ∧ t.log = s.log ∧ t.queue = s.queue := by
  have hhanded : Quiet (s.handed action) := ⟨h.1, h.2, h.3, h.4, h.5⟩
  cases hdispatched with
  | sink get step =>
      have := (Sink.ended_step (h.sinks _ _ get) step).2
      simp at this
  | @source id action a u kept get step =>
      have hdropped : Quiet ((s.handed (.sink id action)).dropSender id) :=
        ⟨h.1, h.2, h.3, h.4, h.5⟩
      exact ⟨hdropped.setSource (Source.ended_step (h.sources _ _ get) step).1, rfl, rfl⟩
  | discarded => exact ⟨hhanded, rfl, rfl⟩
  | connecter get alive => exact absurd (h.connecters _ _ get) alive
  | listener get requesting =>
      have := h.listeners _ _ get
      simp only [Listener.Task.ended, Listener.Task.requesting] at this requesting
      grind
  | gone => exact ⟨⟨h.1, h.2, h.3, h.4, h.5⟩, rfl, rfl⟩

omit [Message T] in
theorem Quiet.received {s t : Side T} {e : ReceiverEvent} (h : Quiet s)
    (hreceived : Received s e t) : Quiet t ∧ t.log = s.log ∧ t.queue = s.queue := by
  cases hreceived with
  | dispatch pc dispatched => exact h.dispatched dispatched
  | abort | shutdownOrphan => exact ⟨⟨h.1, h.2, h.3, h.4, h.5⟩, rfl, rfl⟩
  | @shutdownSink id sinks sources a u pc get step =>
      have hquiet : Quiet { s with receiver := .shutdown sinks sources } :=
        ⟨h.1, h.2, h.3, h.4, h.5⟩
      obtain ⟨rfl, -⟩ := Sink.ended_step (h.sinks _ _ get) step
      exact ⟨hquiet.setSink (h.sinks _ _ get), rfl, rfl⟩
  | @shutdownSource id sources a u pc kept get step =>
      have hquiet : Quiet { s with receiver := .shutdown [] sources } :=
        ⟨h.1, h.2, h.3, h.4, h.5⟩
      exact ⟨hquiet.setSource (Source.ended_step (h.sources _ _ get) step).1, rfl, rfl⟩

theorem Quiet.step {env : Env} {s t : Side T} {e : Event} (h : Quiet s)
    (hne : ∀ e', e ≠ .sender e') (hstep : s.step env e = some t) :
    Quiet t ∧ t.log = s.log ∧ t.queue = s.queue := by
  cases e with
  | source id e =>
      obtain ⟨a, u, hs⟩ := stepSource_spec hstep
      rcases (Source.ended_step (h.sources id a hs.get) hs.step).2 with ⟨action, he⟩ | he
      · exact absurd he (hs.not_deliver action)
      · exact absurd he hs.not_shutdown
  | sink id e =>
      obtain ⟨a, u, hs⟩ := stepSink_spec hstep
      exact absurd (Sink.ended_step (h.sinks id a hs.get) hs.step).2 hs.not_shutdown
  | listener port e =>
      obtain ⟨a, ha, hlistened⟩ := stepListener_spec hstep
      have hended := h.listeners port a ha
      cases hlistened <;> simp_all [Listener.Task.ended]
  | connecter port e =>
      obtain ⟨a, ha, haccepting⟩ := stepConnecter_spec hstep
      have hdone := h.connecters port a ha
      cases haccepting <;> simp_all
  | connect i e =>
      obtain ⟨a, ha, hconnecting⟩ := stepConnect_spec hstep
      have hended := h.connects a (List.mem_of_getElem? ha)
      cases hconnecting <;> simp_all [Connecter.Connect.ended]
  | sender e => exact absurd rfl (hne e)
  | receiver e => exact h.received (stepReceiver_spec hstep)

/-- What a step that is not one of the sender does to the queue: it appends the actions
it enqueues. -/
structure Enqueues (s t : Side T) (actions : List StreamAction) : Prop where
  queue : t.queue = s.queue ++ actions.map Message.stream
  log : t.log = s.log ++ actions.map Message.stream
  sender : t.sender = s.sender
  isFailed : t.isFailed = s.isFailed
  lost : t.lost = s.lost

theorem Enqueues.of_enqueued (s : Side T) {actions : List StreamAction} {ms : List T}
    (h : ms = actions.map Message.stream) : Enqueues s (s.enqueued ms) actions :=
  ⟨by rw [← h]; rfl, by rw [← h]; rfl, rfl, rfl, rfl⟩

theorem Enqueues.nil {s t : Side T} (hqueue : t.queue = s.queue) (hlog : t.log = s.log)
    (hsender : t.sender = s.sender) (hfailed : t.isFailed = s.isFailed)
    (hlost : t.lost = s.lost) : Enqueues s t [] :=
  ⟨by simp [hqueue], by simp [hlog], hsender, hfailed, hlost⟩

theorem Enqueues.register {s t : Side T} {actions : List StreamAction} (id : StreamId)
    (h : Enqueues s t actions) : Enqueues s (t.register id) actions := by
  unfold Side.register
  split
  · exact ⟨h.1, h.2, h.3, h.4, h.5⟩
  · split <;> exact ⟨h.1, h.2, h.3, h.4, h.5⟩

theorem enqueues_step {env : Env} {s t : Side T} {e : Event} (hne : ∀ e', e ≠ .sender e')
    (hstep : s.step env e = some t) : ∃ actions, Enqueues s t actions := by
  cases e with
  | source id e =>
      obtain ⟨a, u, hs⟩ := stepSource_spec hstep
      rw [hs.eq]
      have hout : sourceOutput T a id e = ((a.emitted e).map (.source id)).map Message.stream := by
        simp [sourceOutput]
      have h := Enqueues.of_enqueued s hout
      exact ⟨_, h.1, h.2, h.3, h.4, h.5⟩
  | sink id e =>
      obtain ⟨a, u, hs⟩ := stepSink_spec hstep
      rw [hs.eq]
      have hout : sinkOutput T a id e = ((a.emitted e).map (.sink id)).map Message.stream := by
        simp [sinkOutput]
      have h := Enqueues.of_enqueued s hout
      exact ⟨_, h.1, h.2, h.3, h.4, h.5⟩
  | listener port e =>
      obtain ⟨a, ha, hlistened⟩ := stepListener_spec hstep
      cases hlistened with
      | request => exact ⟨[.listener port (.connect ⟨a.conn⟩)], rfl, rfl, rfl, rfl, rfl⟩
      | close => exact ⟨[.listener port .listenerClosed], rfl, rfl, rfl, rfl, rfl⟩
      | connected =>
          have h := (Enqueues.nil (s := s) (t := s.removeListenerTx (a.id port)) rfl rfl rfl
            rfl rfl).register (a.id port)
          exact ⟨[], h.1, h.2, h.3, h.4, h.5⟩
      | accepted | inUse | acceptFailed | taskEnd | unrequested | unclosed | refused | removed =>
          exact ⟨[], .nil rfl rfl rfl rfl rfl⟩
  | connecter port e =>
      obtain ⟨a, ha, haccepting⟩ := stepConnecter_spec hstep
      cases haccepting <;> exact ⟨[], .nil rfl rfl rfl rfl rfl⟩
  | connect i e =>
      obtain ⟨a, ha, hconnecting⟩ := stepConnect_spec hstep
      cases hconnecting with
      | connected | sendFailed => exact ⟨[], .nil rfl rfl rfl rfl rfl⟩
      | @refuse error =>
          exact ⟨[.connecter a.id (.connectResponse (.err error))], rfl, rfl, rfl, rfl, rfl⟩
      | accept =>
          have hout : [Message.stream (T := T) (.connecter a.id (.connectResponse .ok))] =
              [StreamAction.connecter a.id (.connectResponse .ok)].map Message.stream := rfl
          have h := (Enqueues.of_enqueued s hout).register a.id
          exact ⟨_, h.1, h.2, h.3, h.4, h.5⟩
  | sender e => exact absurd rfl (hne e)
  | receiver e =>
      have hreceived := stepReceiver_spec hstep
      cases hreceived with
      | dispatch pc dispatched => cases dispatched <;> exact ⟨[], .nil rfl rfl rfl rfl rfl⟩
      | abort | shutdownSink | shutdownSource | shutdownOrphan =>
          exact ⟨[], .nil rfl rfl rfl rfl rfl⟩

/-- What holds of the sender.  `held` tells whether a task outside the side still holds
a clone of the send queue. -/
structure SenderInv (held : Bool) (s : Side T) : Prop where
  lost_nil : s.isFailed = false → s.lost = []
  not_failed : s.sending ≠ [] → s.isFailed = false
  -- the queue is closed when no task is left that could enqueue anything
  closed : s.closing = true → Quiet s ∧ s.queue = [] ∧ held = false
  finished_last : Message.finished ∈ s.log →
    (s.sender = .finish ∨ s.sender = .done) ∧
      ∃ pre, s.log = pre ++ [Message.finished] ∧ Message.finished ∉ pre
  finished_mem : s.sender = .finish ∨ s.sender = .done ∧ s.isFailed = false →
    Message.finished ∈ s.log

theorem SenderInv.quiet_of_gone {held : Bool} {s : Side T} (h : SenderInv held s)
    (hgone : s.queueGone = true) : Quiet s := by
  refine (h.closed ?_).1
  simp only [queueGone] at hgone
  simp only [closing]
  grind

theorem stream_ne_finished (action : StreamAction) :
    (Message.stream action : T) ≠ Message.finished := by
  intro h
  have := congrArg Message.toStream h
  simp at this

theorem SenderInv.release {held held' : Bool} {s : Side T} (h : SenderInv held s)
    (himp : held' = true → held = true) : SenderInv held' s where
  lost_nil := h.lost_nil
  not_failed := h.not_failed
  closed hclosing := by
    obtain ⟨hquiet, hqueue, hheld⟩ := h.closed hclosing
    refine ⟨hquiet, hqueue, ?_⟩
    cases held' with
    | false => rfl
    | true => exact (himp rfl).symm.trans hheld
  finished_last := h.finished_last
  finished_mem := h.finished_mem

theorem unsent_append {s t : Side T} {ms : List T} (hqueue : t.queue = s.queue ++ ms)
    (hlost : t.lost = s.lost) (hsender : t.sender = s.sender) :
    t.unsent = s.unsent ++ ms := by
  simp [unsent, Side.sending, hqueue, hlost, hsender]

theorem SenderInv.append {held : Bool} {s t : Side T} (ms : List T) (h : SenderInv held s)
    (hlog : t.log = s.log ++ ms) (hsender : t.sender = s.sender)
    (hfailed : t.isFailed = s.isFailed) (hlost : t.lost = s.lost)
    (hms : Message.finished ∉ ms)
    (hclosing : s.closing = true → ms = [] ∧ Quiet t ∧ t.queue = []) :
    SenderInv held t := by
  have hsending : t.sending = s.sending := by simp [Side.sending, hsender]
  have hclosed : t.closing = s.closing := by simp [Side.closing, hsender]
  refine ⟨?_, ?_, ?_, ?_, ?_⟩
  · rw [hfailed, hlost]
    exact h.lost_nil
  · rw [hsending, hfailed]
    exact h.not_failed
  · intro hc
    rw [hclosed] at hc
    exact ⟨(hclosing hc).2.1, (hclosing hc).2.2, (h.closed hc).2.2⟩
  · rw [hlog, hsender]
    intro hmem
    have hmem' : Message.finished ∈ s.log := (List.mem_append.mp hmem).resolve_right hms
    obtain ⟨hpc, hpre⟩ := h.finished_last hmem'
    have hc : s.closing = true := by rcases hpc with hpc | hpc <;> simp [Side.closing, hpc]
    rw [(hclosing hc).1, List.append_nil]
    exact ⟨hpc, hpre⟩
  · rw [hlog, hsender, hfailed]
    exact fun hpc => List.mem_append_left _ (h.finished_mem hpc)

theorem SenderInv.step_other {env : Env} {s t : Side T} {e : Event}
    (h : SenderInv env.held s) (hne : ∀ e', e ≠ .sender e')
    (hstep : s.step env e = some t) :
    SenderInv env.held t ∧ ∃ actions : List StreamAction,
      t.log = s.log ++ actions.map Message.stream ∧
        t.unsent = s.unsent ++ actions.map Message.stream := by
  obtain ⟨actions, henq⟩ := enqueues_step hne hstep
  refine ⟨?_, actions, henq.log, unsent_append henq.queue henq.lost henq.sender⟩
  refine h.append _ henq.log henq.sender henq.isFailed henq.lost ?_ fun hclosing => ?_
  · intro hmem
    obtain ⟨action, -, haction⟩ := List.mem_map.mp hmem
    exact stream_ne_finished action haction
  · obtain ⟨hquiet, hqueue, -⟩ := h.closed hclosing
    obtain ⟨hquiet', hlog, hqueue'⟩ := hquiet.step hne hstep
    refine ⟨?_, hquiet', hqueue'.trans hqueue⟩
    rw [henq.log] at hlog
    simpa using hlog

omit [Message T] in
theorem Quiet.of_sender {s t : Side T} (h : Quiet s) (hsources : t.sources = s.sources)
    (hsinks : t.sinks = s.sinks) (hlisteners : t.listeners = s.listeners)
    (hconnecters : t.connecters = s.connecters) (hconnects : t.connects = s.connects) :
    Quiet t :=
  ⟨hsources ▸ h.1, hsinks ▸ h.2, hlisteners ▸ h.3, hconnecters ▸ h.4, hconnects ▸ h.5⟩

theorem SenderInv.finish {held : Bool} {s : Side T} (h : SenderInv held s)
    (hpc : s.sender = .recv ∨ s.sender = .notified) (hqueue : s.queue = []) (hquiet : Quiet s)
    (hheld : held = false) :
    SenderInv held s.finish ∧ ∃ ms, s.finish.log = s.log ++ ms ∧
      s.finish.unsent = s.unsent ++ ms := by
  have hsending : s.sending = [] := by
    rcases hpc with hpc | hpc <;> simp [Side.sending, hpc]
  have hlog : Message.finished ∉ s.log := by
    intro hmem
    rcases hpc with hpc | hpc <;> rcases (h.finished_last hmem).1 with hpc' | hpc' <;>
      simp [hpc] at hpc'
  have hquiet' : Quiet s.finish := by
    unfold Side.finish
    split <;> exact hquiet.of_sender rfl rfl rfl rfl rfl
  have hqueue' : s.finish.queue = [] := by
    unfold Side.finish
    split <;> exact hqueue
  by_cases hfailed : s.isFailed = true
  · have hfinish : s.finish = { s with sender := .done } := by simp [Side.finish, hfailed]
    refine ⟨⟨?_, ?_, fun _ => ⟨hquiet', hqueue', hheld⟩, ?_, ?_⟩, [], ?_, ?_⟩
    · simp [hfinish, hfailed]
    · simp [hfinish, Side.sending]
    · rw [hfinish]
      exact fun hmem => absurd hmem hlog
    · simp [hfinish, hfailed]
    · simp [hfinish]
    · rw [hfinish]
      simp only [unsent, hsending, List.append_nil]
      simp [Side.sending]
  · have hok : s.isFailed = false := by simpa using hfailed
    have hlost := h.lost_nil hok
    have hfinish : s.finish =
        { s with sender := .finish, log := s.log ++ [Message.finished] } := by
      simp [Side.finish, hok]
    refine ⟨⟨?_, ?_, fun _ => ⟨hquiet', hqueue', hheld⟩, ?_, ?_⟩, [Message.finished], ?_, ?_⟩
    · simp [hfinish, hlost]
    · simp [hfinish, hok]
    · rw [hfinish]
      exact fun _ => ⟨Or.inl rfl, s.log, rfl, hlog⟩
    · simp [hfinish]
    · simp [hfinish]
    · rw [hfinish]
      simp only [unsent, hsending, hlost, hqueue]
      simp [Side.sending]

theorem SenderInv.step_sender {env : Env} {s t : Side T} {e : SenderEvent}
    (h : SenderInv env.held s) (hsent : Sent env s e t) :
    SenderInv env.held t ∧ ∃ ms, t.log = s.log ++ ms ∧
      s.unsent ++ ms = (s.output (.sender e)).toList ++ t.unsent := by
  cases hsent with
  | @recv m queue pc head ok =>
      refine ⟨⟨h.lost_nil, fun _ => ok, by simp [Side.closing], ?_, by simp⟩, [], by simp, ?_⟩
      · intro hmem
        simpa [pc] using (h.finished_last hmem).1
      · simp [unsent, Side.sending, output, pc, head]
  | @drop m queue pc head failed =>
      refine ⟨⟨by simp [failed], by simp [Side.sending, pc], by simp [Side.closing, pc], ?_,
        by simp [pc]⟩, [], by simp, ?_⟩
      · intro hmem
        simpa [pc] using (h.finished_last hmem).1
      · simp [unsent, Side.sending, output, pc, head]
  | wait pc empty quiet released waits =>
      refine ⟨⟨h.lost_nil, by simp [Side.sending], fun _ => ⟨?_, empty, released⟩, ?_, by simp⟩,
        [], by simp, ?_⟩
      · exact (quiet_iff.mp quiet).of_sender rfl rfl rfl rfl rfl
      · intro hmem
        simpa [pc] using (h.finished_last hmem).1
      · simp [unsent, Side.sending, output, pc]
  | close pc empty quiet released waits =>
      obtain ⟨hinv, ms, hlog, hunsent⟩ := h.finish (Or.inl pc) empty (quiet_iff.mp quiet) released
      exact ⟨hinv, ms, hlog, by simp [output, hunsent]⟩
  | notified pc permit =>
      obtain ⟨hquiet, hqueue, hheld⟩ := h.closed (by simp [Side.closing, pc])
      obtain ⟨hinv, ms, hlog, hunsent⟩ := h.finish (Or.inr pc) hqueue hquiet hheld
      exact ⟨hinv, ms, hlog, by simp [output, hunsent]⟩
  | @sent m pc =>
      have hok := h.not_failed (by simp [Side.sending, pc])
      refine ⟨⟨h.lost_nil, fun _ => hok, by simp [Side.closing], ?_, by simp⟩, [], by simp, ?_⟩
      · intro hmem
        simpa [pc] using (h.finished_last hmem).1
      · simp [unsent, Side.sending, output, pc, h.lost_nil hok]
  | finished pc =>
      have hok := h.not_failed (by simp [Side.sending, pc])
      have hmem := h.finished_mem (Or.inl pc)
      obtain ⟨hquiet, hqueue, hheld⟩ := h.closed (by simp [Side.closing, pc])
      refine ⟨⟨h.lost_nil, fun _ => hok, fun _ => ⟨hquiet.of_sender rfl rfl rfl rfl rfl, hqueue,
        hheld⟩, fun _ => ⟨Or.inr rfl, (h.finished_last hmem).2⟩, fun _ => hmem⟩, [], by simp, ?_⟩
      simp [unsent, Side.sending, output, pc, h.lost_nil hok]
  | @failed m pc =>
      refine ⟨⟨by simp, by simp [Side.sending], by simp [Side.closing], ?_, by simp⟩,
        [], by simp, ?_⟩
      · intro hmem
        simpa [pc] using (h.finished_last hmem).1
      · simp [unsent, Side.sending, output, pc]
  | unfinished pc =>
      have hmem := h.finished_mem (Or.inl pc)
      obtain ⟨hquiet, hqueue, hheld⟩ := h.closed (by simp [Side.closing, pc])
      refine ⟨⟨by simp, by simp [Side.sending], fun _ => ⟨hquiet.of_sender rfl rfl rfl rfl rfl,
        hqueue, hheld⟩, fun _ => ⟨Or.inr rfl, (h.finished_last hmem).2⟩, by simp⟩, [], by simp, ?_⟩
      simp [unsent, Side.sending, output, pc]

theorem log_step {env : Env} {s t : Side T} {e : Event} (hstep : s.step env e = some t) :
    ∃ ms, t.log = s.log ++ ms ∧
      ∀ m ∈ ms, m = Message.finished ∨ ∃ action, m = Message.stream action := by
  have hsame (hlog : t.log = s.log) : ∃ ms, t.log = s.log ++ ms ∧
      ∀ m ∈ ms, m = Message.finished ∨ ∃ action, m = Message.stream action :=
    ⟨[], by simp [hlog], by simp⟩
  by_cases hsender : ∃ e', e = .sender e'
  · obtain ⟨e', rfl⟩ := hsender
    cases stepSender_spec hstep with
    | close | notified =>
        unfold finish at hsame ⊢
        split
        · exact ⟨[], by simp, by simp⟩
        · exact ⟨[Message.finished], rfl, by simp⟩
    | _ => exact hsame rfl
  · obtain ⟨actions, henq⟩ := enqueues_step (fun e' he => hsender ⟨e', he⟩) hstep
    refine ⟨_, henq.log, fun m hm => Or.inr ?_⟩
    obtain ⟨action, -, rfl⟩ := List.mem_map.mp hm
    exact ⟨action, rfl⟩

/-- What a step of a side does to its messages. -/
theorem SenderInv.step {env : Env} {s t : Side T} {e : Event} (h : SenderInv env.held s)
    (hstep : s.step env e = some t) :
    SenderInv env.held t ∧ ∃ ms, t.log = s.log ++ ms ∧
      s.unsent ++ ms = (s.output e).toList ++ t.unsent := by
  by_cases hsender : ∃ e', e = .sender e'
  · obtain ⟨e', rfl⟩ := hsender
    exact h.step_sender (stepSender_spec hstep)
  · have hne : ∀ e', e ≠ .sender e' := fun e' he => hsender ⟨e', he⟩
    obtain ⟨hinv, actions, hlog, hunsent⟩ := h.step_other hne hstep
    refine ⟨hinv, _, hlog, ?_⟩
    have hout : s.output e = none := by
      cases e with
      | sender e' => exact absurd rfl (hne e')
      | _ => rfl
    rw [hout, hunsent]
    rfl

end Rlirsh.Stream.Side
