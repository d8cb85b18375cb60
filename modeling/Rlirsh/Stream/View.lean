import Rlirsh.Stream.Steps
import Rlirsh.Stream.Pair

/-!
What a side shows of its streams, and what the steps of a side do to that.  The view
forgets the queue, the sender and the connection: only what is enqueued and what is
delivered counts for a stream.
-/

namespace Rlirsh.Stream

open Rlirsh.Protocol
open Rlirsh.Lib

/-- The streams of a side.  A task that is not there yet is shown as it will be when it
is spawned. -/
structure View where
  source : StreamId → Source.Task
  sink : StreamId → Sink.Task
  log : List StreamAction
  delivered : List StreamAction

@[ext] theorem View.ext' {v w : View} (hsource : v.source = w.source) (hsink : v.sink = w.sink)
    (hlog : v.log = w.log) (hdelivered : v.delivered = w.delivered) : v = w := by
  cases v; cases w; simp_all

/-- What a step can do to the streams of a side. -/
inductive Effect
  | quiet
  | source (id : StreamId) (e : Source.Event)
  | sink (id : StreamId) (e : Sink.Event)
  | listener (port : PortId) (action : ListenerAction)
  | connecter (id : StreamId) (action : ConnecterAction)
  -- a `SinkClosed` is enqueued in the name of the sink
  | inject (id : StreamId)
  | deliver (action : StreamAction)
  -- an action goes to no inbox, and nobody minds
  | discard (action : StreamAction)
  | shutdownSource (id : StreamId)
  | shutdownSink (id : StreamId)

/-- The source of `id` takes a step. -/
def View.stepSource (v : View) (id : StreamId) (e : Source.Event) (w : View) : Prop :=
  ∃ u, (v.source id).step e = some u ∧
    w = { v with
      source := Function.update v.source id u
      log := v.log ++ ((v.source id).emitted e).map (.source id) }

/-- The sink of `id` takes a step. -/
def View.stepSink (v : View) (id : StreamId) (e : Sink.Event) (w : View) : Prop :=
  ∃ u, (v.sink id).step e = some u ∧
    w = { v with
      sink := Function.update v.sink id u
      log := v.log ++ ((v.sink id).emitted e).map (.sink id) }

/-- An action is put into the inbox of its handler. -/
def View.deliver (v : View) (action : StreamAction) (w : View) : Prop :=
  match action with
  | .source id a => { v with delivered := v.delivered ++ [action] }.stepSink id (.deliver a) w
  | .sink id a => { v with delivered := v.delivered ++ [action] }.stepSource id (.deliver a) w
  | .listener _ _ | .connecter _ _ => w = { v with delivered := v.delivered ++ [action] }

def Effect.Holds (effect : Effect) (v w : View) : Prop :=
  match effect with
  | .quiet => w = v
  | .source id e => (∀ action, e ≠ .deliver action) ∧ e ≠ .shutdown ∧ v.stepSource id e w
  | .sink id e => (∀ action, e ≠ .deliver action) ∧ e ≠ .shutdown ∧ v.stepSink id e w
  | .listener port action => w = { v with log := v.log ++ [.listener port action] }
  | .connecter id action => w = { v with log := v.log ++ [.connecter id action] }
  | .inject id => w = { v with log := v.log ++ [.sink id .sinkClosed] }
  | .deliver action => w = v ∨ v.deliver action w
  | .discard action => w = { v with delivered := v.delivered ++ [action] }
  | .shutdownSource id => v.stepSource id .shutdown w
  | .shutdownSink id => v.stepSink id .shutdown w

/-- The event of the source of `id` an effect is. -/
inductive Effect.OnSource (id : StreamId) : Effect → Source.Event → Prop
  | own {e : Source.Event} (not_deliver : ∀ action, e ≠ .deliver action)
      (not_shutdown : e ≠ .shutdown) : OnSource id (.source id e) e
  | deliver (action : SinkAction) : OnSource id (.deliver (.sink id action)) (.deliver action)
  | shutdown : OnSource id (.shutdownSource id) .shutdown

/-- The event of the sink of `id` an effect is. -/
inductive Effect.OnSink (id : StreamId) : Effect → Sink.Event → Prop
  | own {e : Sink.Event} (not_deliver : ∀ action, e ≠ .deliver action)
      (not_shutdown : e ≠ .shutdown) : OnSink id (.sink id e) e
  | deliver (action : SourceAction) : OnSink id (.deliver (.source id action)) (.deliver action)
  | shutdown : OnSink id (.shutdownSink id) .shutdown

theorem View.stepSource.source {v w : View} {id' : StreamId} {e : Source.Event}
    (h : v.stepSource id' e w) (id : StreamId) :
    w.sink = v.sink ∧ (w.source id = v.source id ∨
      id' = id ∧ (v.source id).step e = some (w.source id)) := by
  obtain ⟨u, hu, rfl⟩ := h
  refine ⟨rfl, ?_⟩
  by_cases hid : id' = id
  · subst hid
    exact Or.inr ⟨rfl, by simpa using hu⟩
  · exact Or.inl (by simp [Ne.symm hid])

theorem View.stepSink.sink {v w : View} {id' : StreamId} {e : Sink.Event}
    (h : v.stepSink id' e w) (id : StreamId) :
    w.source = v.source ∧ (w.sink id = v.sink id ∨
      id' = id ∧ (v.sink id).step e = some (w.sink id)) := by
  obtain ⟨u, hu, rfl⟩ := h
  refine ⟨rfl, ?_⟩
  by_cases hid : id' = id
  · subst hid
    exact Or.inr ⟨rfl, by simpa using hu⟩
  · exact Or.inl (by simp [Ne.symm hid])

theorem Effect.Holds.source {effect : Effect} {v w : View} (h : effect.Holds v w)
    (id : StreamId) :
    w.source id = v.source id ∨
      ∃ e, effect.OnSource id e ∧ (v.source id).step e = some (w.source id) := by
  cases effect with
  | quiet => exact Or.inl (by rw [show w = v from h])
  | source id' e =>
      rcases (h.2.2.source id).2 with heq | ⟨rfl, hstep⟩
      · exact Or.inl heq
      · exact Or.inr ⟨e, .own h.1 h.2.1, hstep⟩
  | sink id' e => exact Or.inl (congrFun (h.2.2.sink id).1 id)
  | listener port action | connecter id' action | inject id' =>
      exact Or.inl (by rw [show w = _ from h])
  | deliver action =>
      rcases h with rfl | h
      · exact Or.inl rfl
      cases action with
      | source id' a => exact Or.inl (congrFun (View.stepSink.sink h id).1 id)
      | sink id' a =>
          rcases (View.stepSource.source h id).2 with heq | ⟨rfl, hstep⟩
          · exact Or.inl heq
          · exact Or.inr ⟨_, .deliver a, hstep⟩
      | listener port a | connecter id' a => exact Or.inl (by rw [show w = _ from h])
  | discard action => exact Or.inl (by rw [show w = _ from h])
  | shutdownSource id' =>
      rcases (View.stepSource.source h id).2 with heq | ⟨rfl, hstep⟩
      · exact Or.inl heq
      · exact Or.inr ⟨_, .shutdown, hstep⟩
  | shutdownSink id' => exact Or.inl (congrFun (View.stepSink.sink h id).1 id)

theorem Effect.Holds.sink {effect : Effect} {v w : View} (h : effect.Holds v w)
    (id : StreamId) :
    w.sink id = v.sink id ∨
      ∃ e, effect.OnSink id e ∧ (v.sink id).step e = some (w.sink id) := by
  cases effect with
  | quiet => exact Or.inl (by rw [show w = v from h])
  | source id' e => exact Or.inl (congrFun (h.2.2.source id).1 id)
  | sink id' e =>
      rcases (h.2.2.sink id).2 with heq | ⟨rfl, hstep⟩
      · exact Or.inl heq
      · exact Or.inr ⟨e, .own h.1 h.2.1, hstep⟩
  | listener port action | connecter id' action | inject id' =>
      exact Or.inl (by rw [show w = _ from h])
  | deliver action =>
      rcases h with rfl | h
      · exact Or.inl rfl
      cases action with
      | source id' a =>
          rcases (View.stepSink.sink h id).2 with heq | ⟨rfl, hstep⟩
          · exact Or.inl heq
          · exact Or.inr ⟨_, .deliver a, hstep⟩
      | sink id' a => exact Or.inl (congrFun (View.stepSource.source h id).1 id)
      | listener port a | connecter id' a => exact Or.inl (by rw [show w = _ from h])
  | discard action => exact Or.inl (by rw [show w = _ from h])
  | shutdownSource id' => exact Or.inl (congrFun (View.stepSource.source h id).1 id)
  | shutdownSink id' =>
      rcases (View.stepSink.sink h id).2 with heq | ⟨rfl, hstep⟩
      · exact Or.inl heq
      · exact Or.inr ⟨_, .shutdown, hstep⟩

theorem Effect.Holds.source_shut {effect : Effect} {v w : View} (h : effect.Holds v w)
    {id : StreamId} (hshut : (w.source id).shut = true) :
    (v.source id).shut = true ∨ effect = .shutdownSource id := by
  rcases h.source id with heq | ⟨e, hon, hstep⟩
  · exact Or.inl (heq ▸ hshut)
  · rw [Source.shut_step hstep] at hshut
    cases hon with
    | own _ hne => exact Or.inl (by simpa [hne] using hshut)
    | deliver => exact Or.inl (by simpa using hshut)
    | shutdown => exact Or.inr rfl

theorem Effect.Holds.sink_shut {effect : Effect} {v w : View} (h : effect.Holds v w)
    {id : StreamId} (hshut : (w.sink id).shut = true) :
    (v.sink id).shut = true ∨ effect = .shutdownSink id := by
  rcases h.sink id with heq | ⟨e, hon, hstep⟩
  · exact Or.inl (heq ▸ hshut)
  · rw [Sink.shut_step hstep] at hshut
    cases hon with
    | own _ hne => exact Or.inl (by simpa [hne] using hshut)
    | deliver => exact Or.inl (by simpa using hshut)
    | shutdown => exact Or.inr rfl

theorem Effect.Holds.delivered {effect : Effect} {v w : View} (h : effect.Holds v w) :
    v.delivered <+: w.delivered := by
  have hsource {v' : View} {id : StreamId} {e : Source.Event} (hw : v'.stepSource id e w)
      (hv : v.delivered <+: v'.delivered) : v.delivered <+: w.delivered := by
    obtain ⟨u, -, rfl⟩ := hw
    exact hv
  have hsink {v' : View} {id : StreamId} {e : Sink.Event} (hw : v'.stepSink id e w)
      (hv : v.delivered <+: v'.delivered) : v.delivered <+: w.delivered := by
    obtain ⟨u, -, rfl⟩ := hw
    exact hv
  cases effect with
  | quiet =>
      obtain rfl : w = v := h
      exact List.prefix_refl _
  | source id e => exact hsource h.2.2 (List.prefix_refl _)
  | sink id e => exact hsink h.2.2 (List.prefix_refl _)
  | listener port action | connecter id action | inject id =>
      obtain rfl : w = _ := h
      exact List.prefix_refl _
  | deliver action =>
      rcases h with rfl | h
      · exact List.prefix_refl _
      cases action with
      | source id a =>
          simp only [View.deliver] at h
          exact hsink h (List.prefix_append _ _)
      | sink id a =>
          simp only [View.deliver] at h
          exact hsource h (List.prefix_append _ _)
      | listener port a | connecter id a =>
          obtain rfl : w = _ := h
          exact List.prefix_append _ _
  | discard action =>
      obtain rfl : w = _ := h
      exact List.prefix_append _ _
  | shutdownSource id => exact hsource h (List.prefix_refl _)
  | shutdownSink id => exact hsink h (List.prefix_refl _)

namespace Side

variable {T : Type} [Message T]

def view (s : Side T) : View where
  source id := (s.sources.get id).getD .new
  sink id := (s.sinks.get id).getD (.new .socket)
  log := s.log.filterMap Message.toStream
  delivered := s.delivered

/-- What an event of a side does to its streams. -/
def effect (s : Side T) (e : Event) : Effect :=
  match e with
  | .source id e => .source id e
  | .sink id e => .sink id e
  | .listener port .sent =>
      match (s.listeners.get port).bind Listener.Task.pending with
      | some action => .listener port action
      | none => .quiet
  | .connect i .sent =>
      match s.connects[i]? with
      | some ⟨id, _, .sendResponse res, _⟩ => .connecter id (.connectResponse res)
      | _ => .quiet
  | .receiver .dispatch =>
      match s.receiver with
      | .dispatch action => if s.discards action then .discard action else .deliver action
      | _ => .quiet
  | .receiver .shutdownSink =>
      match s.receiver with
      | .shutdown (id :: _) _ => .shutdownSink id
      | _ => .quiet
  | .receiver .shutdownSource =>
      match s.receiver with
      | .shutdown [] (id :: _) => if s.orphaned id then .quiet else .shutdownSource id
      | _ => .quiet
  | _ => .quiet

theorem view_setSource (s : Side T) (id : StreamId) (u : Source.Task) :
    (s.setSource id u).view =
      { s.view with source := Function.update s.view.source id u } := by
  ext1
  · funext id'
    simp only [view, setSource, Table.get_set, Function.update_apply]
    split <;> rfl
  all_goals rfl

theorem view_setSink (s : Side T) (id : StreamId) (u : Sink.Task) :
    (s.setSink id u).view =
      { s.view with sink := Function.update s.view.sink id u } := by
  ext1
  · rfl
  · funext id'
    simp only [view, setSink, Table.get_set, Function.update_apply]
    split <;> rfl
  all_goals rfl

theorem view_enqueued (s : Side T) (ms : List T) :
    (s.enqueued ms).view =
      { s.view with log := s.view.log ++ ms.filterMap Message.toStream } := by
  ext1 <;> simp [view, enqueued]

theorem view_source {s : Side T} {id : StreamId} {a : Source.Task}
    (h : s.sources.get id = some a) : s.view.source id = a := by
  simp [view, h]

theorem view_sink {s : Side T} {id : StreamId} {a : Sink.Task}
    (h : s.sinks.get id = some a) : s.view.sink id = a := by
  simp [view, h]

theorem view_registerSource {s : Side T} {id : StreamId} (h : s.sources.get id = none) :
    (s.registerSource id).view = s.view := by
  ext1
  · funext id'
    simp only [view, registerSource, Table.get_set]
    split
    · rename_i heq
      rw [heq, h]
      rfl
    · rfl
  all_goals rfl

theorem view_registerSink {s : Side T} {id : StreamId} (h : s.sinks.get id = none) :
    (s.registerSink id).view = s.view := by
  ext1
  · rfl
  · funext id'
    simp only [view, registerSink, Table.get_set]
    split
    · rename_i heq
      rw [heq, h]
      rfl
    · rfl
  all_goals rfl

/-- A fresh identifier is shown as a pair of new tasks, so that their registration does
not show. -/
theorem view_register {s : Side T} {id : StreamId} (h : s.fresh id = true) :
    (s.register id).view = s.view := by
  simp only [fresh, decide_eq_true_eq, Option.isNone_iff_eq_none] at h
  unfold register
  split
  · rfl
  · rename_i hsource
    have hview := view_registerSource (h.1.resolve_left hsource)
    split
    · exact hview
    · rename_i hsink
      rw [view_registerSink (s := s.registerSource id) (h.2.resolve_left hsink), hview]

@[simp] theorem view_setListener (s : Side T) (port : PortId) (a : Listener.Task) :
    (s.setListener port a).view = s.view := rfl

@[simp] theorem view_setConnecter (s : Side T) (port : PortId) (a : Connecter.Task) :
    (s.setConnecter port a).view = s.view := rfl

@[simp] theorem view_setConnect (s : Side T) (i : Nat) (a : Connecter.Connect) :
    (s.setConnect i a).view = s.view := rfl

@[simp] theorem view_insertListenerTx (s : Side T) (id : StreamId) :
    (s.insertListenerTx id).view = s.view := rfl

@[simp] theorem view_removeListenerTx (s : Side T) (id : StreamId) :
    (s.removeListenerTx id).view = s.view := rfl

@[simp] theorem view_unhanded (s : Side T) (action : StreamAction) :
    (s.unhanded action).view = s.view := rfl

@[simp] theorem view_handed (s : Side T) (action : StreamAction) :
    (s.handed action).view = { s.view with delivered := s.view.delivered ++ [action] } := rfl

@[simp] theorem view_dropSender (s : Side T) (id : StreamId) :
    (s.dropSender id).view = s.view := rfl

theorem view_finish (s : Side T) : s.finish.view = s.view := by
  unfold finish
  split
  · rfl
  · ext1 <;> simp [view]

theorem holds_stepListener {env : Env} {s t : Side T} {port : PortId} {a : Listener.Task}
    {e : Listener.Event} (get : s.listeners.get port = some a)
    (h : Listened env s port a e t) : (s.effect (.listener port e)).Holds s.view t.view := by
  cases h with
  | request pc | close pc =>
      simp [effect, get, Listener.Task.pending, pc, Effect.Holds, view_enqueued]
  | unrequested pc | unclosed pc =>
      rfl
  | connected pc inbox mem fresh =>
      exact view_register (s := s.removeListenerTx (a.id port)) fresh
  | accepted | inUse | acceptFailed | taskEnd | refused | removed => rfl

theorem holds_stepConnecter {s t : Side T} {port : PortId} {a : Connecter.Task}
    {e : Connecter.Event} (h : Accepting s port a e t) : t.view = s.view := by
  cases h <;> rfl

theorem holds_stepConnect {s t : Side T} {i : Nat} {a : Connecter.Connect}
    {e : Connecter.ConnectEvent} (get : s.connects[i]? = some a)
    (h : Connecting s i a e t) : (s.effect (.connect i e)).Holds s.view t.view := by
  have heffect {res : Response} (pc : a.pc = .sendResponse res) :
      s.effect (.connect i .sent) = .connecter a.id (.connectResponse res) := by
    obtain ⟨id, addr, pc', peer⟩ := a
    obtain rfl : pc' = .sendResponse res := pc
    simp [effect, get]
  cases h with
  | connected | sendFailed => rfl
  | refuse pc =>
      rw [heffect pc, view_setConnect, view_enqueued]
      simp [Effect.Holds]
  | accept pc opened room fresh =>
      rw [heffect pc, view_setConnect, view_register (s := s.enqueued _) fresh, view_enqueued]
      simp [Effect.Holds]

theorem holds_stepSender {env : Env} {s t : Side T} {e : SenderEvent}
    (h : Sent env s e t) : t.view = s.view := by
  cases h with
  | close | notified => exact view_finish s
  | _ => rfl

theorem holds_dispatched {s t : Side T} {action : StreamAction}
    (h : Dispatched s action t) :
    (if s.discards action then Effect.discard action else .deliver action).Holds
      s.view t.view := by
  cases h with
  | @sink id action a u get step =>
      refine Or.inr ⟨u, (view_sink get).symm ▸ step, ?_⟩
      rw [view_setSink]
      simp [Sink.Task.emitted]
  | @source id action a u kept get step =>
      rw [discards_sink, kept]
      refine Or.inr ⟨u, (view_source get).symm ▸ step, ?_⟩
      rw [view_setSource]
      simp [Source.Task.emitted]
  | @discarded id action orphaned =>
      rw [discards_sink, orphaned]
      rfl
  | connecter | listener => exact Or.inr rfl
  | gone kept =>
      rw [kept]
      exact Or.inl rfl

theorem holds_stepReceiver {s t : Side T} {e : ReceiverEvent}
    (h : Received s e t) : (s.effect (.receiver e)).Holds s.view t.view := by
  cases h with
  | dispatch pc dispatched => simpa [effect, pc] using holds_dispatched dispatched
  | abort => rfl
  | @shutdownSink id sinks sources a u pc get step =>
      simp only [effect, pc]
      refine ⟨u, (view_sink get).symm ▸ step, ?_⟩
      rw [view_setSink]
      simp [Sink.Task.emitted, view]
  | @shutdownSource id sources a u pc kept get step =>
      simp only [effect, pc, kept]
      refine ⟨u, (view_source get).symm ▸ step, ?_⟩
      rw [view_setSource]
      simp [Source.Task.emitted, view]
  | shutdownOrphan pc orphaned =>
      simp only [effect, pc, orphaned]
      rfl

theorem view_sourceOutput (s : Side T) (a : Source.Task) (id : StreamId) (e : Source.Event) :
    (s.enqueued (sourceOutput T a id e)).view =
      { s.view with log := s.view.log ++ (a.emitted e).map (.source id) } := by
  rw [view_enqueued, sourceOutput, List.filterMap_map]
  have hcomp : (Message.toStream ∘ fun action => Message.stream (T := T) (.source id action)) =
      fun action => some (.source id action) := by
    funext action
    simp
  rw [hcomp, ← List.filterMap_eq_map]
  rfl

theorem view_sinkOutput (s : Side T) (a : Sink.Task) (id : StreamId) (e : Sink.Event) :
    (s.enqueued (sinkOutput T a id e)).view =
      { s.view with log := s.view.log ++ (a.emitted e).map (.sink id) } := by
  rw [view_enqueued, sinkOutput, List.filterMap_map]
  have hcomp : (Message.toStream ∘ fun action => Message.stream (T := T) (.sink id action)) =
      fun action => some (.sink id action) := by
    funext action
    simp
  rw [hcomp, ← List.filterMap_eq_map]
  rfl

/-- What a step of a side does to its streams. -/
theorem holds_step {env : Env} {s t : Side T} {e : Event} (h : s.step env e = some t) :
    (s.effect e).Holds s.view t.view := by
  cases e with
  | source id e =>
      obtain ⟨a, u, hstep⟩ := stepSource_spec h
      refine ⟨hstep.not_deliver, hstep.not_shutdown, u, ?_, ?_⟩
      · exact (view_source hstep.get).symm ▸ hstep.step
      · rw [hstep.eq, view_setSource, view_sourceOutput, view_source hstep.get]
  | sink id e =>
      obtain ⟨a, u, hstep⟩ := stepSink_spec h
      refine ⟨hstep.not_deliver, hstep.not_shutdown, u, ?_, ?_⟩
      · exact (view_sink hstep.get).symm ▸ hstep.step
      · rw [hstep.eq, view_setSink, view_sinkOutput, view_sink hstep.get]
  | listener port e =>
      obtain ⟨a, ha, hlistened⟩ := stepListener_spec h
      exact holds_stepListener ha hlistened
  | connecter port e =>
      obtain ⟨a, -, haccepting⟩ := stepConnecter_spec h
      exact holds_stepConnecter haccepting
  | connect i e =>
      obtain ⟨a, ha, hconnecting⟩ := stepConnect_spec h
      exact holds_stepConnect ha hconnecting
  | sender e => exact holds_stepSender (stepSender_spec h)
  | receiver e => exact holds_stepReceiver (stepReceiver_spec h)

end Side

end Rlirsh.Stream
