import Rlirsh.Stream.Queue
import Rlirsh.Stream.Router

namespace Rlirsh.Stream.Side

open Rlirsh.Protocol
open Rlirsh.Lib

variable {T : Type} [Message T]

/-- A step of the side that is a step of its source `id`, from `a` to `u`. -/
inductive SourceMove (env : Env) (s : Side T) (id : StreamId) (a u : Source.Task) : Event → Prop
  | own {e : Source.Event} {t : Side T} (step : SourceStep env s id e t a u) :
      SourceMove env s id a u (.source id e)
  | deliver {action : SinkAction} (pc : s.receiver = .dispatch (.sink id action))
      (step : a.step (.deliver action) = some u) : SourceMove env s id a u (.receiver .dispatch)
  | shutdown {sources : List StreamId} (pc : s.receiver = .shutdown [] (id :: sources))
      (step : a.step .shutdown = some u) :
      SourceMove env s id a u (.receiver .shutdownSource)

/-- A step of the side that is a step of its sink `id`, from `a` to `u`. -/
inductive SinkMove (env : Env) (s : Side T) (id : StreamId) (a u : Sink.Task) : Event → Prop
  | own {e : Sink.Event} {t : Side T} (step : SinkStep env s id e t a u) :
      SinkMove env s id a u (.sink id e)
  | deliver {action : SourceAction} (pc : s.receiver = .dispatch (.source id action))
      (step : a.step (.deliver action) = some u) : SinkMove env s id a u (.receiver .dispatch)
  | shutdown {sinks sources : List StreamId} (pc : s.receiver = .shutdown (id :: sinks) sources)
      (step : a.step .shutdown = some u) : SinkMove env s id a u (.receiver .shutdownSink)

theorem SourceMove.step {env : Env} {s : Side T} {id : StreamId} {a u : Source.Task} {e : Event}
    (h : SourceMove env s id a u e) : ∃ e', a.step e' = some u := by
  cases h with
  | own h => exact ⟨_, h.step⟩
  | deliver _ h => exact ⟨_, h⟩
  | shutdown _ h => exact ⟨_, h⟩

theorem SinkMove.step {env : Env} {s : Side T} {id : StreamId} {a u : Sink.Task} {e : Event}
    (h : SinkMove env s id a u e) : ∃ e', a.step e' = some u := by
  cases h with
  | own h => exact ⟨_, h.step⟩
  | deliver _ h => exact ⟨_, h⟩
  | shutdown _ h => exact ⟨_, h⟩

omit [Message T] in
theorem effect_source {s : Side T} {e : Event} {id : StreamId} {e' : Source.Event}
    (h : s.effect e = .source id e') : e = .source id e' := by
  cases e <;> simp only [effect] at h <;> grind

omit [Message T] in
theorem effect_sink {s : Side T} {e : Event} {id : StreamId} {e' : Sink.Event}
    (h : s.effect e = .sink id e') : e = .sink id e' := by
  cases e <;> simp only [effect] at h <;> grind

omit [Message T] in
theorem effect_deliver {s : Side T} {e : Event} {action : StreamAction}
    (h : s.effect e = .deliver action) :
    e = .receiver .dispatch ∧ s.receiver = .dispatch action := by
  cases e <;> simp only [effect] at h <;> grind

omit [Message T] in
theorem effect_shutdownSink {s : Side T} {e : Event} {id : StreamId}
    (h : s.effect e = .shutdownSink id) : e = .receiver .shutdownSink ∧
      ∃ sinks sources, s.receiver = .shutdown (id :: sinks) sources := by
  cases e <;> simp only [effect] at h <;> grind

omit [Message T] in
theorem effect_shutdownSource {s : Side T} {e : Event} {id : StreamId}
    (h : s.effect e = .shutdownSource id) : e = .receiver .shutdownSource ∧
      ∃ sources, s.receiver = .shutdown [] (id :: sources) := by
  cases e <;> simp only [effect] at h <;> grind

theorem source_moves {env : Env} {s t : Side T} {e : Event} (hstep : s.step env e = some t)
    (id : StreamId) : t.view.source id = s.view.source id ∨
      SourceMove env s id (s.view.source id) (t.view.source id) e := by
  rcases (holds_step hstep).source id with heq | ⟨e', hon, hstep'⟩
  · exact Or.inl heq
  · right
    generalize heffect : s.effect e = effect at hon
    cases hon with
    | own =>
        obtain rfl := effect_source heffect
        obtain ⟨a, u, hs⟩ := stepSource_spec hstep
        have ha := view_source hs.get
        have hu : t.view.source id = u := by
          rw [hs.eq, view_setSource]
          simp
        rw [ha, hu]
        exact .own hs
    | deliver action =>
        obtain ⟨rfl, pc⟩ := effect_deliver heffect
        exact .deliver pc hstep'
    | shutdown =>
        obtain ⟨rfl, sources, pc⟩ := effect_shutdownSource heffect
        exact .shutdown pc hstep'

theorem sink_moves {env : Env} {s t : Side T} {e : Event} (hstep : s.step env e = some t)
    (id : StreamId) : t.view.sink id = s.view.sink id ∨
      SinkMove env s id (s.view.sink id) (t.view.sink id) e := by
  rcases (holds_step hstep).sink id with heq | ⟨e', hon, hstep'⟩
  · exact Or.inl heq
  · right
    generalize heffect : s.effect e = effect at hon
    cases hon with
    | own =>
        obtain rfl := effect_sink heffect
        obtain ⟨a, u, hs⟩ := stepSink_spec hstep
        have ha := view_sink hs.get
        have hu : t.view.sink id = u := by
          rw [hs.eq, view_setSink]
          simp
        rw [ha, hu]
        exact .own hs
    | deliver action =>
        obtain ⟨rfl, pc⟩ := effect_deliver heffect
        exact .deliver pc hstep'
    | shutdown =>
        obtain ⟨rfl, sinks, sources, pc⟩ := effect_shutdownSink heffect
        exact .shutdown pc hstep'

omit [Message T] in
theorem register_sinks (s : Side T) (id id' : StreamId) :
    (s.register id).sinks.get id' = s.sinks.get id' ∨ id' ∈ (s.register id).sinkTxMap := by
  unfold register
  split
  · exact Or.inl rfl
  · split
    · exact Or.inl rfl
    · by_cases hid : id' = id
      · exact Or.inr (by simp [registerSink, hid])
      · exact Or.inl (by simp [registerSink, registerSource, Table.get_set, hid])

omit [Message T] in
theorem register_sources (s : Side T) (id id' : StreamId) :
    (s.register id).sources.get id' = s.sources.get id' ∨
      id' ∈ (s.register id).sourceTxMap := by
  unfold register
  split
  · exact Or.inl rfl
  · split <;>
    · by_cases hid : id' = id
      · exact Or.inr (by simp [registerSink, registerSource, hid])
      · exact Or.inl (by simp [registerSink, registerSource, Table.get_set, hid])

omit [Message T] in
theorem setSink_isNone {s : Side T} {id id' : StreamId} {a u : Sink.Task}
    (get : s.sinks.get id = some a) (hnone : s.sinks.get id' = none) :
    (s.setSink id u).sinks.get id' = none := by
  have hid : id' ≠ id := by
    rintro rfl
    simp [get] at hnone
  simp [setSink, Table.get_set, hid, hnone]

omit [Message T] in
theorem setSource_isNone {s : Side T} {id id' : StreamId} {a u : Source.Task}
    (get : s.sources.get id = some a) (hnone : s.sources.get id' = none) :
    (s.setSource id u).sources.get id' = none := by
  have hid : id' ≠ id := by
    rintro rfl
    simp [get] at hnone
  simp [setSource, Table.get_set, hid, hnone]

theorem spawned_step {env : Env} {s t : Side T} {e : Event} (hstep : s.step env e = some t)
    (id : StreamId) :
    (s.sinks.get id = none → t.sinks.get id = none ∨ id ∈ t.sinkTxMap) ∧
      (s.sources.get id = none → t.sources.get id = none ∨ id ∈ t.sourceTxMap) := by
  have hsame (hsinks : t.sinks = s.sinks) (hsources : t.sources = s.sources) :
      (s.sinks.get id = none → t.sinks.get id = none ∨ id ∈ t.sinkTxMap) ∧
        (s.sources.get id = none → t.sources.get id = none ∨ id ∈ t.sourceTxMap) :=
    ⟨fun h => Or.inl (hsinks ▸ h), fun h => Or.inl (hsources ▸ h)⟩
  cases e with
  | source id' e =>
      obtain ⟨a, u, hs⟩ := stepSource_spec hstep
      rw [hs.eq]
      exact ⟨fun h => Or.inl h, fun h => Or.inl (setSource_isNone (s := s.enqueued _) hs.get h)⟩
  | sink id' e =>
      obtain ⟨a, u, hs⟩ := stepSink_spec hstep
      rw [hs.eq]
      exact ⟨fun h => Or.inl (setSink_isNone (s := s.enqueued _) hs.get h), fun h => Or.inl h⟩
  | listener port e =>
      obtain ⟨a, -, hlistened⟩ := stepListener_spec hstep
      cases hlistened with
      | connected =>
          have hsink := register_sinks (s.removeListenerTx (a.id port)) (a.id port) id
          have hsource := register_sources (s.removeListenerTx (a.id port)) (a.id port) id
          exact ⟨fun h => hsink.imp_left fun heq => heq.trans h,
            fun h => hsource.imp_left fun heq => heq.trans h⟩
      | _ => exact hsame rfl rfl
  | connecter port e =>
      obtain ⟨a, -, haccepting⟩ := stepConnecter_spec hstep
      cases haccepting <;> exact hsame rfl rfl
  | connect i e =>
      obtain ⟨a, -, hconnecting⟩ := stepConnect_spec hstep
      cases hconnecting with
      | accept =>
          have hsink := register_sinks (s.enqueued [Message.stream
            (.connecter a.id (.connectResponse .ok))]) a.id id
          have hsource := register_sources (s.enqueued [Message.stream
            (.connecter a.id (.connectResponse .ok))]) a.id id
          exact ⟨fun h => hsink.imp_left fun heq => heq.trans h,
            fun h => hsource.imp_left fun heq => heq.trans h⟩
      | _ => exact hsame rfl rfl
  | sender e =>
      have hsent := stepSender_spec hstep
      cases hsent with
      | close | notified =>
          unfold finish
          split <;> exact ⟨Or.inl, Or.inl⟩
      | _ => exact hsame rfl rfl
  | receiver e =>
      have hreceived := stepReceiver_spec hstep
      cases hreceived with
      | dispatch pc dispatched =>
          cases dispatched with
          | @sink id' action a u get =>
              exact ⟨fun h => Or.inl (setSink_isNone (s := s.handed _) get h), Or.inl⟩
          | @source id' action a u kept get =>
              exact ⟨Or.inl, fun h => Or.inl
                (setSource_isNone (s := (s.handed _).dropSender id') get h)⟩
          | _ => exact hsame rfl rfl
      | abort | shutdownOrphan => exact hsame rfl rfl
      | @shutdownSink id' sinks sources a u pc get =>
          exact ⟨fun h => Or.inl (setSink_isNone
            (s := { s with receiver := .shutdown sinks sources }) get h), Or.inl⟩
      | @shutdownSource id' sources a u pc kept get =>
          exact ⟨Or.inl, fun h => Or.inl (setSource_isNone
            (s := { s with receiver := .shutdown [] sources }) get h)⟩

omit [Message T] in
theorem setSink_isSome {s : Side T} {id id' : StreamId} {u : Sink.Task}
    (h : (s.sinks.get id').isSome = true) : ((s.setSink id u).sinks.get id').isSome = true := by
  simp only [setSink, Table.get_set]
  split
  · rfl
  · exact h

omit [Message T] in
theorem setSource_isSome {s : Side T} {id id' : StreamId} {u : Source.Task}
    (h : (s.sources.get id').isSome = true) :
    ((s.setSource id u).sources.get id').isSome = true := by
  simp only [setSource, Table.get_set]
  split
  · rfl
  · exact h

omit [Message T] in
theorem register_isSome {s : Side T} (id id' : StreamId) :
    ((s.sinks.get id').isSome = true → ((s.register id).sinks.get id').isSome = true) ∧
      ((s.sources.get id').isSome = true →
        ((s.register id).sources.get id').isSome = true) := by
  unfold register
  split
  · exact ⟨fun h => h, fun h => h⟩
  · split
    · exact ⟨fun h => h, fun h => setSource_isSome (u := .new) h⟩
    · exact ⟨fun h => setSink_isSome (u := .new .socket) h,
        fun h => setSource_isSome (u := .new) h⟩

theorem present_step {env : Env} {s t : Side T} {e : Event} (hstep : s.step env e = some t)
    (id : StreamId) :
    ((s.sinks.get id).isSome = true → (t.sinks.get id).isSome = true) ∧
      ((s.sources.get id).isSome = true → (t.sources.get id).isSome = true) := by
  cases e with
  | source id' e =>
      obtain ⟨a, u, hs⟩ := stepSource_spec hstep
      rw [hs.eq]
      exact ⟨fun h => h, fun h => setSource_isSome (s := s.enqueued _) h⟩
  | sink id' e =>
      obtain ⟨a, u, hs⟩ := stepSink_spec hstep
      rw [hs.eq]
      exact ⟨fun h => setSink_isSome (s := s.enqueued _) h, fun h => h⟩
  | listener port e =>
      obtain ⟨a, -, hlistened⟩ := stepListener_spec hstep
      cases hlistened with
      | connected => exact register_isSome (s := s.removeListenerTx (a.id port)) (a.id port) id
      | _ => exact ⟨fun h => h, fun h => h⟩
  | connecter port e =>
      obtain ⟨a, -, haccepting⟩ := stepConnecter_spec hstep
      cases haccepting <;> exact ⟨fun h => h, fun h => h⟩
  | connect i e =>
      obtain ⟨a, -, hconnecting⟩ := stepConnect_spec hstep
      cases hconnecting with
      | accept => exact register_isSome (s := s.enqueued _) a.id id
      | _ => exact ⟨fun h => h, fun h => h⟩
  | sender e =>
      cases stepSender_spec hstep with
      | close | notified =>
          unfold finish
          split <;> exact ⟨fun h => h, fun h => h⟩
      | _ => exact ⟨fun h => h, fun h => h⟩
  | receiver e =>
      cases stepReceiver_spec hstep with
      | dispatch pc dispatched =>
          cases dispatched with
          | sink => exact ⟨fun h => setSink_isSome (s := s.handed _) h, fun h => h⟩
          | source =>
              exact ⟨fun h => h, fun h => setSource_isSome (s := (s.handed _).dropSender _) h⟩
          | _ => exact ⟨fun h => h, fun h => h⟩
      | abort | shutdownOrphan => exact ⟨fun h => h, fun h => h⟩
      | @shutdownSink id' sinks sources =>
          exact ⟨fun h => setSink_isSome (s := { s with receiver := .shutdown sinks sources }) h,
            fun h => h⟩
      | @shutdownSource id' sources =>
          exact ⟨fun h => h,
            fun h => setSource_isSome (s := { s with receiver := .shutdown [] sources }) h⟩

/-- The sink has its closing message, or has ended. -/
def SinkClosing (t : Sink.Task) : Prop := t.shut = true ∨ t.ended = true

/-- The source has its closing message, or has ended. -/
def SourceClosing (t : Source.Task) : Prop := t.shut = true ∨ t.ended = true

theorem SinkClosing.step {t u : Sink.Task} {e : Sink.Event} (h : SinkClosing t)
    (hstep : t.step e = some u) : SinkClosing u := by
  rcases h with hshut | hended
  · left
    rw [Sink.shut_step hstep]
    simp [hshut]
  · right
    rw [(Sink.ended_step hended hstep).1, hended]

theorem SourceClosing.step {t u : Source.Task} {e : Source.Event} (h : SourceClosing t)
    (hstep : t.step e = some u) : SourceClosing u := by
  rcases h with hshut | hended
  · left
    rw [Source.shut_step hstep]
    simp [hshut]
  · exact Or.inr (Source.ended_step hended hstep).1

theorem sinkClosing_of_shutdown {t u : Sink.Task} (hstep : t.step .shutdown = some u) :
    SinkClosing u := by
  by_cases hended : t.ended = true
  · exact Or.inr ((Sink.ended_step hended hstep).1 ▸ hended)
  · left
    rw [Sink.shut_step hstep]
    simp [hended]

theorem sourceClosing_of_shutdown {t u : Source.Task} (hstep : t.step .shutdown = some u) :
    SourceClosing u := by
  left
  rw [Source.shut_step hstep]
  simp

theorem SinkClosing.rx_ne_nil {t : Sink.Task} (h : SinkClosing t) (hheard : Sink.Heard t)
    (hpc : t.pc = .recv) : t.rx ≠ [] := by
  intro hrx
  rcases h with hshut | hended
  · have hmem := hheard hshut
    simp [hpc, hrx, Sink.Task.ended] at hmem
  · simp [Sink.Task.ended, hpc] at hended

theorem SourceClosing.rx_ne_nil {t : Source.Task} (h : SourceClosing t)
    (hheard : Source.Heard t) (hpc : t.pc = .select ∨ t.pc = .recvAnswer) : t.rx ≠ [] := by
  intro hrx
  rcases h with hshut | hended
  · have hmem := hheard hshut (hpc.imp_right Or.inl)
    simp [hrx] at hmem
  · rcases hpc with hpc | hpc <;> simp [Source.Task.ended, hpc] at hended

/-- Every handler is registered, or the shutdown has still to come to it, or it has its
closing message; but nobody can send one to a source without a sender. -/
structure Swept (s : Side T) : Prop where
  sinks : ∀ id t, s.sinks.get id = some t →
    id ∈ s.sinkTxMap ∨ id ∈ s.receiver.leftSinks ∨ SinkClosing t
  sources : ∀ id t, s.sources.get id = some t → s.orphaned id = false →
    id ∈ s.sourceTxMap ∨ id ∈ s.receiver.leftSources ∨ SourceClosing t

theorem not_orphaned_before {env : Env} {s t : Side T} {e : Event} {id : StreamId}
    (hstep : s.step env e = some t) (hkept : t.orphaned id = false) : s.orphaned id = false :=
  Bool.eq_false_iff.mpr fun horphaned => by simp [orphaned_step hstep horphaned] at hkept

theorem Swept.sink_step {env : Env} {s t : Side T} {e : Event} {id : StreamId} {b : Sink.Task}
    (h : Swept s) (hstep : s.step env e = some t) (hb : t.sinks.get id = some b)
    (hmaps : id ∈ s.sinkTxMap → id ∈ t.sinkTxMap ∨ id ∈ t.receiver.leftSinks)
    (hleft : id ∈ s.receiver.leftSinks → id ∈ t.receiver.leftSinks ∨ SinkClosing b) :
    id ∈ t.sinkTxMap ∨ id ∈ t.receiver.leftSinks ∨ SinkClosing b := by
  cases hget : s.sinks.get id with
  | none =>
      rcases (spawned_step hstep id).1 hget with hnone | hmem
      · simp [hb] at hnone
      · exact Or.inl hmem
  | some a =>
      rcases h.sinks id a hget with hmem | hmem | hclosing
      · exact (hmaps hmem).imp_right Or.inl
      · exact Or.inr (hleft hmem)
      · refine Or.inr (Or.inr ?_)
        have hview := (holds_step hstep).sink id
        rw [view_sink hget, view_sink hb] at hview
        rcases hview with rfl | ⟨e', -, he'⟩
        · exact hclosing
        · exact hclosing.step he'

theorem Swept.source_step {env : Env} {s t : Side T} {e : Event} {id : StreamId}
    {b : Source.Task} (h : Swept s) (hstep : s.step env e = some t)
    (hb : t.sources.get id = some b) (hkept : t.orphaned id = false)
    (hmaps : id ∈ s.sourceTxMap → id ∈ t.sourceTxMap ∨ id ∈ t.receiver.leftSources)
    (hleft : id ∈ s.receiver.leftSources → id ∈ t.receiver.leftSources ∨ SourceClosing b) :
    id ∈ t.sourceTxMap ∨ id ∈ t.receiver.leftSources ∨ SourceClosing b := by
  cases hget : s.sources.get id with
  | none =>
      rcases (spawned_step hstep id).2 hget with hnone | hmem
      · simp [hb] at hnone
      · exact Or.inl hmem
  | some a =>
      rcases h.sources id a hget (not_orphaned_before hstep hkept) with hmem | hmem | hclosing
      · exact (hmaps hmem).imp_right Or.inl
      · exact Or.inr (hleft hmem)
      · refine Or.inr (Or.inr ?_)
        have hview := (holds_step hstep).source id
        rw [view_source hget, view_source hb] at hview
        rcases hview with rfl | ⟨e', -, he'⟩
        · exact hclosing
        · exact hclosing.step he'

/-- A side keeps its handlers under the eye of the router. -/
theorem Swept.step {env : Env} {s t : Side T} {e : Event} (h : Swept s)
    (hstep : s.step env e = some t) : Swept t := by
  by_cases hreceiver : ∃ e', e = .receiver e'
  · obtain ⟨e', rfl⟩ := hreceiver
    have hreceived := stepReceiver_spec hstep
    cases hreceived with
    | dispatch pc dispatched =>
        refine ⟨fun id b hb => h.sink_step hstep hb (fun hmem => Or.inl ?_) fun hmem => ?_,
          fun id b hb hkept => h.source_step hstep hb hkept (fun hmem => Or.inl ?_) fun hmem => ?_⟩
        · cases dispatched <;> exact hmem
        · simp [pc, ReceiverPc.leftSinks] at hmem
        · cases dispatched <;> exact hmem
        · simp [pc, ReceiverPc.leftSources] at hmem
    | abort pc sinks_perm sources_perm =>
        refine ⟨fun id b hb => h.sink_step hstep hb (fun hmem => Or.inr ?_) fun hmem => ?_,
          fun id b hb hkept => h.source_step hstep hb hkept (fun hmem => Or.inr ?_) fun hmem => ?_⟩
        · exact sinks_perm.mem_iff.mpr hmem
        · simp [pc, ReceiverPc.leftSinks] at hmem
        · exact sources_perm.mem_iff.mpr hmem
        · simp [pc, ReceiverPc.leftSources] at hmem
    | @shutdownSink id' sinks sources a u pc get step =>
        refine ⟨fun id b hb => h.sink_step hstep hb Or.inl fun hmem => ?_,
          fun id b hb hkept => h.source_step hstep hb hkept Or.inl fun hmem => Or.inl ?_⟩
        · rw [pc] at hmem
          rcases List.mem_cons.mp hmem with rfl | hmem
          · right
            obtain rfl : u = b := by simpa [setSink] using hb
            exact sinkClosing_of_shutdown step
          · exact Or.inl hmem
        · rw [pc] at hmem
          exact hmem
    | @shutdownSource id' sources a u pc kept get step =>
        refine ⟨fun id b hb => h.sink_step hstep hb Or.inl fun hmem => ?_,
          fun id b hb hkept => h.source_step hstep hb hkept Or.inl fun hmem => ?_⟩
        · simp [pc, ReceiverPc.leftSinks] at hmem
        · rw [pc] at hmem
          rcases List.mem_cons.mp hmem with rfl | hmem
          · right
            obtain rfl : u = b := by simpa [setSource] using hb
            exact sourceClosing_of_shutdown step
          · exact Or.inl hmem
    | @shutdownOrphan id' sources pc orphaned =>
        refine ⟨fun id b hb => h.sink_step hstep hb Or.inl fun hmem => ?_,
          fun id b hb hkept => h.source_step hstep hb hkept Or.inl fun hmem => ?_⟩
        · simp [pc, ReceiverPc.leftSinks] at hmem
        · rw [pc] at hmem
          rcases List.mem_cons.mp hmem with rfl | hmem
          · simp [orphaned_step hstep orphaned] at hkept
          · exact Or.inl hmem
  · have hne : ∀ e', e ≠ .receiver e' := fun e' he => hreceiver ⟨e', he⟩
    obtain ⟨hsinks, hsources⟩ := maps_step hne hstep
    have hpc := (receiver_step hne hstep).1
    exact ⟨fun id b hb => h.sink_step hstep hb (fun hmem => Or.inl (hsinks.subset hmem)) fun hmem =>
        Or.inl (hpc ▸ hmem),
      fun id b hb hkept => h.source_step hstep hb hkept (fun hmem => Or.inl (hsources.subset hmem))
        fun hmem => Or.inl (hpc ▸ hmem)⟩

omit [Message T] in
theorem Swept.setReceiver {s : Side T} {pc : ReceiverPc} (h : Swept s)
    (hsinks : s.receiver.leftSinks = []) (hsources : s.receiver.leftSources = []) :
    Swept { s with receiver := pc } := by
  constructor
  · intro id t ht
    have hswept := h.sinks id t ht
    rw [hsinks] at hswept
    simp only [List.not_mem_nil, false_or] at hswept
    exact hswept.imp_right Or.inr
  · intro id t ht hkept
    have hswept := h.sources id t ht hkept
    rw [hsources] at hswept
    simp only [List.not_mem_nil, false_or] at hswept
    exact hswept.imp_right Or.inr

/-- A sink that has left its loop has taken a `SourceClosed`, unless it was left alone:
then nothing comes to it any more. -/
def Abandoned (s : Side T) : Prop :=
  ∀ id, (s.view.sink id).pc = .shutdown ∨ (s.view.sink id).pc = .done →
    (s.view.sink id).tookClosed = true ∨
      (s.view.sink id).rx = [] ∧ s.receiver.left = true ∧ id ∉ s.receiver.leftSinks

theorem left_step {env : Env} {s t : Side T} {e : Event} (hstep : s.step env e = some t)
    (hleft : s.receiver.left = true) :
    t.receiver.left = true ∧ t.receiver.leftSinks ⊆ s.receiver.leftSinks := by
  by_cases hreceiver : ∃ e', e = .receiver e'
  · obtain ⟨e', rfl⟩ := hreceiver
    cases stepReceiver_spec hstep with
    | dispatch pc | abort pc => simp [pc, ReceiverPc.left] at hleft
    | shutdownSink pc => exact ⟨rfl, by simp [pc, setSink, ReceiverPc.leftSinks]⟩
    | shutdownSource pc | shutdownOrphan pc =>
        exact ⟨rfl, by simp [setSource, ReceiverPc.leftSinks]⟩
  · rw [(receiver_step (fun e' he => hreceiver ⟨e', he⟩) hstep).1]
    exact ⟨hleft, fun _ h => h⟩

theorem SinkStep.left_of_recvNone {env : Env} {s t : Side T} {id : StreamId} {a u : Sink.Task}
    (h : SinkStep env s id .recvNone t a u) (hswept : Swept s) (hshutting : Shutting s)
    (hgone : env.routerGone = true → s.receiver.left = true) :
    s.receiver.left = true ∧ id ∉ s.receiver.leftSinks := by
  obtain ⟨hguard, hheld⟩ := h.recvNone rfl
  have hnot : id ∉ s.receiver.leftSinks := by
    cases hpc : s.receiver <;> simp_all [ReceiverPc.holdsSink, ReceiverPc.leftSinks]
  refine ⟨?_, hnot⟩
  rcases hguard with hrouter | hmap
  · exact hgone hrouter
  · rcases hswept.sinks id a h.get with hmem | hmem | hshut | hended
    · exact absurd hmem hmap
    · exact absurd hmem hnot
    · have hdrained := (hshutting.sink_shut id (by rw [view_sink h.get, hshut])).1
      cases hpc : s.receiver <;> simp_all [ReceiverPc.drained, ReceiverPc.left]
    · have := (Sink.ended_step hended h.step).2
      simp at this

theorem Abandoned.step {env : Env} {s t : Side T} {e : Event} (h : Abandoned s)
    (hswept : Swept s) (hshutting : Shutting s)
    (hgone : env.routerGone = true → s.receiver.left = true)
    (hstep : s.step env e = some t) : Abandoned t := by
  intro id
  have hkeep (hleft : s.receiver.left = true ∧ id ∉ s.receiver.leftSinks) :
      t.receiver.left = true ∧ id ∉ t.receiver.leftSinks :=
    ⟨(left_step hstep hleft.1).1, fun hmem => hleft.2 ((left_step hstep hleft.1).2 hmem)⟩
  rcases sink_moves hstep id with heq | hmove
  · rw [heq]
    exact fun hpc => (h id hpc).imp_right fun ⟨hrx, hleft⟩ => ⟨hrx, hkeep hleft⟩
  · have ha := h id
    generalize s.view.sink id = a at hmove ha
    generalize t.view.sink id = u at hmove
    have htook {e' : Sink.Event} (hstep' : a.step e' = some u) (hne : e' ≠ .recvNone)
        (hpc : a.pc = .shutdown ∨ a.pc = .done → a.tookClosed = true)
        (hpc' : u.pc = .shutdown ∨ u.pc = .done) : u.tookClosed = true :=
      Sink.took_step hne hpc hstep' hpc'
    intro hpc'
    cases hmove with
    | @own e' _ hs =>
        by_cases hpc : a.pc = .shutdown ∨ a.pc = .done
        · obtain ⟨hrx, hclosed⟩ := Sink.left_step hpc hs.not_deliver hs.not_shutdown hs.step
          rw [hrx, hclosed]
          exact (ha hpc).imp_right fun ⟨hrx, hleft⟩ => ⟨hrx, hkeep hleft⟩
        · by_cases hnone : e' = .recvNone
          · subst hnone
            have hleft := hs.left_of_recvNone hswept hshutting hgone
            obtain ⟨-, hrx, rfl⟩ := Sink.recvNone_spec hs.step
            exact Or.inr ⟨hrx, hkeep hleft⟩
          · exact Or.inl (htook hs.step hnone (fun hpc'' => absurd hpc'' hpc) hpc')
    | deliver pc hstep' =>
        refine Or.inl (htook hstep' (by simp) (fun hpc => (ha hpc).resolve_right ?_) hpc')
        simp [pc, ReceiverPc.left]
    | shutdown pc hstep' =>
        refine Or.inl (htook hstep' (by simp) (fun hpc => (ha hpc).resolve_right ?_) hpc')
        simp [pc, ReceiverPc.leftSinks]

omit [Message T] in
theorem register_mem {s : Side T} {id id' : StreamId} :
    (id' ∈ (s.register id).sinkTxMap → id' ∈ s.sinkTxMap ∨ id' = id) ∧
      (id' ∈ (s.register id).sourceTxMap → id' ∈ s.sourceTxMap ∨ id' = id) := by
  unfold register
  split
  · exact ⟨Or.inl, Or.inl⟩
  · split
    · exact ⟨Or.inl, by simp [registerSource]⟩
    · simp [registerSource, registerSink]

/-- Only forwarded connections are registered after the start. -/
structure Forwarded (s : Side T) : Prop where
  connects : ∀ t ∈ s.connects, t.id.isForward = true
  sinks : s.receiver.drained = true → ∀ id ∈ s.sinkTxMap, id.isForward = true
  sources : s.receiver.drained = true → ∀ id ∈ s.sourceTxMap, id.isForward = true

theorem Forwarded.step {env : Env} {s t : Side T} {e : Event} (h : Forwarded s)
    (hstep : s.step env e = some t) : Forwarded t := by
  obtain ⟨hconnects, hsinks, hsources⟩ := h
  cases e with
  | source id e =>
      obtain ⟨a, u, hs⟩ := stepSource_spec hstep
      rw [hs.eq]
      exact ⟨hconnects, hsinks, hsources⟩
  | sink id e =>
      obtain ⟨a, u, hs⟩ := stepSink_spec hstep
      rw [hs.eq]
      exact ⟨hconnects, hsinks, hsources⟩
  | listener port e =>
      obtain ⟨a, -, hlistened⟩ := stepListener_spec hstep
      cases hlistened with
      | connected =>
          have hpc := (register_frame (s.removeListenerTx (a.id port)) (a.id port)).1
          refine ⟨fun t ht => hconnects t ?_, fun hdrained id hid => ?_, fun hdrained id hid => ?_⟩
          · have hframe := register_connects (s.removeListenerTx (a.id port)) (a.id port)
            exact hframe ▸ ht
          · rcases register_mem.1 hid with hmem | rfl
            · exact hsinks (hpc ▸ hdrained) id hmem
            · rfl
          · rcases register_mem.2 hid with hmem | rfl
            · exact hsources (hpc ▸ hdrained) id hmem
            · rfl
      | _ => exact ⟨hconnects, hsinks, hsources⟩
  | connecter port e =>
      obtain ⟨a, -, haccepting⟩ := stepConnecter_spec hstep
      cases haccepting with
      | connect =>
          refine ⟨fun t ht => ?_, hsinks, hsources⟩
          rcases List.mem_append.mp ht with ht | ht
          · exact hconnects t ht
          · obtain rfl := List.mem_singleton.mp ht
            rfl
      | _ => exact ⟨hconnects, hsinks, hsources⟩
  | connect i e =>
      obtain ⟨a, ha, hconnecting⟩ := stepConnect_spec hstep
      have hid := hconnects a (List.mem_of_getElem? ha)
      have hset (u : Connecter.Connect) (hu : u.id = a.id) :
          ∀ t ∈ s.connects.set i u, t.id.isForward = true := by
        intro t ht
        rcases List.mem_or_eq_of_mem_set ht with ht | rfl
        · exact hconnects t ht
        · rw [hu, hid]
      cases hconnecting with
      | accept pc =>
          have hpc := (register_frame (s.enqueued [Message.stream
            (.connecter a.id (.connectResponse .ok))]) a.id).1
          have hframe := register_connects (s.enqueued [Message.stream
            (.connecter a.id (.connectResponse .ok))]) a.id
          refine ⟨fun t ht => ?_, fun hdrained id hid' => ?_, fun hdrained id hid' => ?_⟩
          · simp only [setConnect, hframe] at ht
            exact hset _ (by rfl) t ht
          · rcases register_mem.1 hid' with hmem | rfl
            · exact hsinks (hpc ▸ hdrained) id hmem
            · exact hid
          · rcases register_mem.2 hid' with hmem | rfl
            · exact hsources (hpc ▸ hdrained) id hmem
            · exact hid
      | _ => exact ⟨hset _ rfl, hsinks, hsources⟩
  | sender e =>
      cases stepSender_spec hstep with
      | close | notified =>
          unfold finish
          split <;> exact ⟨hconnects, hsinks, hsources⟩
      | _ => exact ⟨hconnects, hsinks, hsources⟩
  | receiver e =>
      cases stepReceiver_spec hstep with
      | dispatch pc dispatched =>
          cases dispatched with
          | gone => exact ⟨hconnects, by simp [unhanded, ReceiverPc.drained],
              by simp [unhanded, ReceiverPc.drained]⟩
          | _ => exact ⟨hconnects, by
              simp [handed, setSink, setSource, setConnecter, setListener, ReceiverPc.drained], by
              simp [handed, setSink, setSource, setConnecter, setListener, ReceiverPc.drained]⟩
      | abort => exact ⟨hconnects, by simp, by simp⟩
      | shutdownSink pc | shutdownSource pc | shutdownOrphan pc =>
          have hdrained : s.receiver.drained = true := by simp [pc, ReceiverPc.drained]
          exact ⟨hconnects, fun _ => hsinks hdrained, fun _ => hsources hdrained⟩

/-- A source that has a sender fails only when the receiver has ended without a shutdown,
unless its connection was registered after one. -/
def Deserted (s : Side T) : Prop :=
  ∀ id b, (s.view.source id).pc = .failed b → s.orphaned id = false →
    s.receiver.left = true ∧ (s.receiver.drained = true → id.isForward = true)

theorem Deserted.step {env : Env} {s t : Side T} {e : Event} (h : Deserted s)
    (hswept : Swept s) (hforwarded : Forwarded s)
    (hsender : SenderInv env.held s) (hheard : ∀ id, Source.Heard (s.view.source id))
    (hgone : env.routerGone = true → s.receiver.left = true)
    (hstep : s.step env e = some t) : Deserted t := by
  intro id b hb hkept'
  have hkept := not_orphaned_before hstep hkept'
  have hkeep (hleft : s.receiver.left = true ∧
      (s.receiver.drained = true → id.isForward = true)) : t.receiver.left = true ∧
      (t.receiver.drained = true → id.isForward = true) := by
    refine ⟨(left_step hstep hleft.1).1, fun hdrained => hleft.2 ?_⟩
    by_cases hreceiver : ∃ e', e = .receiver e'
    · obtain ⟨e', rfl⟩ := hreceiver
      cases stepReceiver_spec hstep with
      | dispatch pc | abort pc => simp [pc, ReceiverPc.left] at hleft
      | shutdownSink pc | shutdownSource pc | shutdownOrphan pc =>
          simp [pc, ReceiverPc.drained]
    · rw [← (receiver_step (fun e' he => hreceiver ⟨e', he⟩) hstep).1]
      exact hdrained
  rcases source_moves hstep id with heq | hmove
  · exact hkeep (h id b (heq ▸ hb) hkept)
  · have hold := h id
    have hear := hheard id
    generalize hview : s.view.source id = a at hmove hold hear
    generalize t.view.source id = u at hmove hb
    by_cases hended : ∃ b', a.pc = .failed b'
    · obtain ⟨b', hb'⟩ := hended
      exact hkeep (hold b' hb' hkept)
    · apply hkeep
      cases hmove with
      | @own e' _ hs =>
          have hstep' := hs.step
          cases e' with
          | recvNone =>
              -- its sender is still in the map, so that the map itself must be gone
              obtain ⟨hguard, hheld⟩ := (hs.recvNone rfl).resolve_left (by simp [hkept])
              have hmap : id ∈ s.sourceTxMap := by
                rcases hswept.sources id a hs.get hkept with hmem | hmem | hclosing
                · exact hmem
                · cases hpc : s.receiver <;>
                    simp_all [ReceiverPc.holdsSource, ReceiverPc.leftSources]
                · obtain ⟨hwaits, hrx, -⟩ := Source.recvNone_spec hstep'
                  exact absurd hrx (hclosing.rx_ne_nil hear hwaits)
              have hrouter := hguard.resolve_right (not_not_intro hmap)
              exact ⟨hgone hrouter, fun hdrained => hforwarded.sources hdrained id hmap⟩
          | sendFailed =>
              have hquiet := hsender.quiet_of_gone (hs.sendFailed rfl)
              have := hquiet.sources id a hs.get
              have := (Source.ended_step this hstep').2
              simp at this
          | _ =>
              simp only [Source.Task.step, Source.Task.onRead, Source.Task.onRecv,
                Source.Task.onSent, Source.Task.deliver, Source.Task.shutdown] at hstep'
              grind
      | deliver pc hstep' =>
          simp only [Source.Task.step, Source.Task.deliver] at hstep'
          grind
      | shutdown pc hstep' =>
          simp only [Source.Task.step, Source.Task.shutdown, Source.Task.deliver] at hstep'
          grind

end Rlirsh.Stream.Side
