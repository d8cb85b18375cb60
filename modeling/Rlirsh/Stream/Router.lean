import Rlirsh.Stream.View

namespace Rlirsh.Stream

open Rlirsh.Protocol
open Rlirsh.Lib

/-- The action that is taken from the connection and not in an inbox. -/
def ReceiverPc.hand : ReceiverPc → List StreamAction
  | .dispatch action | .failed (some action) => [action]
  | _ => []

/-- The sinks the shutdown has still to come to. -/
def ReceiverPc.leftSinks : ReceiverPc → List StreamId
  | .shutdown sinks _ => sinks
  | _ => []

/-- The sources the shutdown has still to come to. -/
def ReceiverPc.leftSources : ReceiverPc → List StreamId
  | .shutdown _ sources => sources
  | _ => []

/-- The maps of the router have been drained. -/
def ReceiverPc.drained : ReceiverPc → Bool
  | .shutdown _ _ | .done false => true
  | _ => false

/-- The receiver dispatches nothing any more. -/
def ReceiverPc.left : ReceiverPc → Bool
  | .recv | .dispatch _ => false
  | .shutdown _ _ | .done _ | .failed _ => true

/-- The receiver is in its loop, or has left it on `Finished`. -/
def ReceiverPc.attending : ReceiverPc → Bool
  | .recv | .dispatch _ | .done true => true
  | .shutdown _ _ | .done false | .failed _ => false

theorem ReceiverPc.attending_iff {pc : ReceiverPc} :
    pc.attending = true ↔ pc.drained = false ∧ ∀ undelivered, pc ≠ .failed undelivered := by
  cases pc with
  | done finished => cases finished <;> simp [attending, drained]
  | _ => simp [attending, drained]

theorem ReceiverPc.done_of_left {pc : ReceiverPc} (h : pc.attending = true)
    (hleft : pc.left = true) : pc = .done true := by
  cases pc with
  | done finished =>
      cases finished with
      | true => rfl
      | false => cases h
  | recv | dispatch => cases hleft
  | shutdown | failed => cases h

namespace Side

variable {T : Type} [Message T]

omit [Message T] in
theorem register_frame (s : Side T) (id : StreamId) :
    (s.register id).receiver = s.receiver ∧ (s.register id).delivered = s.delivered ∧
      (s.register id).log = s.log := by
  unfold register
  split
  · exact ⟨rfl, rfl, rfl⟩
  · split <;> exact ⟨rfl, rfl, rfl⟩

/-- A map of the router is what it was, or has one more key. -/
def Grows (xs ys : List StreamId) : Prop := ys = xs ∨ ∃ id, id ∉ xs ∧ ys = xs ++ [id]

theorem Grows.refl (xs : List StreamId) : Grows xs xs := Or.inl rfl

theorem Grows.nodup {xs ys : List StreamId} (h : Grows xs ys) (hnodup : xs.Nodup) :
    ys.Nodup := by
  rcases h with rfl | ⟨id, hid, rfl⟩
  · exact hnodup
  · exact List.nodup_append.mpr ⟨hnodup, by simp, by grind⟩

theorem Grows.subset {xs ys : List StreamId} (h : Grows xs ys) : xs ⊆ ys := by
  rcases h with rfl | ⟨id, -, rfl⟩ <;> simp

omit [Message T] in
theorem register_grows (s : Side T) (id : StreamId) :
    Grows s.sinkTxMap (s.register id).sinkTxMap ∧
      Grows s.sourceTxMap (s.register id).sourceTxMap := by
  unfold register
  split
  · exact ⟨.refl _, .refl _⟩
  · rename_i hsource
    split
    · exact ⟨.refl _, Or.inr ⟨id, hsource, rfl⟩⟩
    · rename_i hsink
      exact ⟨Or.inr ⟨id, hsink, rfl⟩, Or.inr ⟨id, hsource, rfl⟩⟩

omit [Message T] in
theorem register_connecters (s : Side T) (id : StreamId) :
    (s.register id).connecterTxMap = s.connecterTxMap ∧
      (s.register id).listeners = s.listeners := by
  unfold register
  split
  · exact ⟨rfl, rfl⟩
  · split <;> exact ⟨rfl, rfl⟩

omit [Message T] in
theorem register_connects (s : Side T) (id : StreamId) :
    (s.register id).connects = s.connects := by
  unfold register
  split
  · rfl
  · split <;> rfl

/-- What every task but the receiver leaves alone; a side without listeners stays one. -/
structure Framed (s t : Side T) : Prop where
  receiver : t.receiver = s.receiver
  delivered : t.delivered = s.delivered
  connecterTxMap : t.connecterTxMap = s.connecterTxMap
  listeners : (∀ port, s.listeners.get port = none) → ∀ port, t.listeners.get port = none

/-- The maps of the streams are what they were, or a new connection is registered. -/
inductive Registered (s : Side T) : Event → Side T → Prop
  | unchanged {e : Event} {t : Side T} (sinks : t.sinkTxMap = s.sinkTxMap)
      (sources : t.sourceTxMap = s.sourceTxMap) : Registered s e t
  | response {port : PortId} {t : Side T} (sinks : Grows s.sinkTxMap t.sinkTxMap)
      (sources : Grows s.sourceTxMap t.sourceTxMap) : Registered s (.listener port .response) t
  | accept {i : Nat} {a : Connecter.Connect} {t : Side T} (get : s.connects[i]? = some a)
      (pc : a.pc = .sendResponse .ok) (sinks : Grows s.sinkTxMap t.sinkTxMap)
      (sources : Grows s.sourceTxMap t.sourceTxMap) : Registered s (.connect i .sent) t

theorem router_step {env : Env} {s t : Side T} {e : Event} (hne : ∀ e', e ≠ .receiver e')
    (hstep : s.step env e = some t) : Framed s t ∧ Registered s e t := by
  cases e with
  | source id e =>
      obtain ⟨a, u, hs⟩ := stepSource_spec hstep
      rw [hs.eq]
      exact ⟨⟨rfl, rfl, rfl, fun hnone => hnone⟩, .unchanged rfl rfl⟩
  | sink id e =>
      obtain ⟨a, u, hs⟩ := stepSink_spec hstep
      rw [hs.eq]
      exact ⟨⟨rfl, rfl, rfl, fun hnone => hnone⟩, .unchanged rfl rfl⟩
  | listener port e =>
      obtain ⟨a, ha, hlistened⟩ := stepListener_spec hstep
      have hsome {t : Side T} (hnone : ∀ port, s.listeners.get port = none) :
          ∀ port, t.listeners.get port = none := by
        rw [hnone port] at ha
        cases ha
      cases hlistened with
      | connected =>
          obtain ⟨hreceiver, hdelivered, -⟩ :=
            register_frame (s.removeListenerTx (a.id port)) (a.id port)
          obtain ⟨hconnecters, -⟩ :=
            register_connecters (s.removeListenerTx (a.id port)) (a.id port)
          obtain ⟨hsinks, hsources⟩ :=
            register_grows (s.removeListenerTx (a.id port)) (a.id port)
          exact ⟨⟨hreceiver, hdelivered, hconnecters, hsome⟩, .response hsinks hsources⟩
      | _ => exact ⟨⟨rfl, rfl, rfl, hsome⟩, .unchanged rfl rfl⟩
  | connecter port e =>
      obtain ⟨a, -, haccepting⟩ := stepConnecter_spec hstep
      cases haccepting <;> exact ⟨⟨rfl, rfl, rfl, id⟩, .unchanged rfl rfl⟩
  | connect i e =>
      obtain ⟨a, ha, hconnecting⟩ := stepConnect_spec hstep
      cases hconnecting with
      | accept pc =>
          obtain ⟨hreceiver, hdelivered, -⟩ := register_frame (s.enqueued _) a.id
          obtain ⟨hconnecters, hlisteners⟩ := register_connecters (s.enqueued _) a.id
          obtain ⟨hsinks, hsources⟩ := register_grows (s.enqueued _) a.id
          refine ⟨⟨hreceiver, hdelivered, hconnecters, fun hnone port => ?_⟩,
            .accept ha pc hsinks hsources⟩
          exact (congrArg (fun table => table.get port) hlisteners).trans (hnone port)
      | _ => exact ⟨⟨rfl, rfl, rfl, id⟩, .unchanged rfl rfl⟩
  | sender e =>
      cases stepSender_spec hstep with
      | close | notified =>
          unfold finish
          split <;> exact ⟨⟨rfl, rfl, rfl, id⟩, .unchanged rfl rfl⟩
      | _ => exact ⟨⟨rfl, rfl, rfl, id⟩, .unchanged rfl rfl⟩
  | receiver e => exact absurd rfl (hne e)

theorem receiver_step {env : Env} {s t : Side T} {e : Event} (hne : ∀ e', e ≠ .receiver e')
    (hstep : s.step env e = some t) :
    t.receiver = s.receiver ∧ t.delivered = s.delivered := by
  obtain ⟨hframed, -⟩ := router_step hne hstep
  exact ⟨hframed.receiver, hframed.delivered⟩

/-- No step of a side loses the action in hand. -/
theorem hand_step {env : Env} {s t : Side T} {e : Event} (hstep : s.step env e = some t) :
    t.delivered ++ t.receiver.hand = s.delivered ++ s.receiver.hand := by
  by_cases hreceiver : ∃ e', e = .receiver e'
  · obtain ⟨e', rfl⟩ := hreceiver
    have hreceived := stepReceiver_spec hstep
    cases hreceived with
    | dispatch pc dispatched =>
        rw [pc]
        cases dispatched with
        | gone => rfl
        | _ => exact List.append_nil _
    | abort pc => simp [ReceiverPc.hand, pc]
    | shutdownSink pc => simp [ReceiverPc.hand, pc, setSink]
    | shutdownSource pc | shutdownOrphan pc => simp [ReceiverPc.hand, pc, setSource]
  · obtain ⟨hreceiver', hdelivered⟩ :=
      receiver_step (fun e' he => hreceiver ⟨e', he⟩) hstep
    rw [hreceiver', hdelivered]

theorem failed_step {env : Env} {s t : Side T} {e : Event} {undelivered : Option StreamAction}
    (hstep : s.step env e = some t) (hfailed : t.receiver = .failed undelivered) :
    s.receiver = .failed undelivered ∨ ∃ action, undelivered = some action ∧
      s.receiver = .dispatch action ∧ s.dispatch action = some (s.unhanded action) := by
  by_cases hreceiver : ∃ e', e = .receiver e'
  · obtain ⟨e', rfl⟩ := hreceiver
    cases stepReceiver_spec hstep with
    | @dispatch action _ pc dispatched =>
        have hdispatch : s.dispatch action = some t := by
          simpa only [step, stepReceiver, pc] using hstep
        cases dispatched with
        | gone =>
            cases hfailed
            exact Or.inr ⟨action, rfl, pc, hdispatch⟩
        | _ => cases hfailed
    | _ => cases hfailed
  · obtain ⟨hreceiver', -⟩ := receiver_step (fun e' he => hreceiver ⟨e', he⟩) hstep
    exact Or.inl (hreceiver' ▸ hfailed)

omit [Message T] in
@[simp] theorem hand_take (s : Side T) (action : StreamAction) :
    (s.take action).receiver.hand = [action] := by
  unfold take
  split <;> rfl

theorem maps_step {env : Env} {s t : Side T} {e : Event} (hne : ∀ e', e ≠ .receiver e')
    (hstep : s.step env e = some t) :
    Grows s.sinkTxMap t.sinkTxMap ∧ Grows s.sourceTxMap t.sourceTxMap := by
  obtain ⟨-, hregistered⟩ := router_step hne hstep
  cases hregistered with
  | unchanged sinks sources =>
      rw [sinks, sources]
      exact ⟨.refl _, .refl _⟩
  | response sinks sources => exact ⟨sinks, sources⟩
  | accept get pc sinks sources => exact ⟨sinks, sources⟩

theorem maps_eq_step {env : Env} {s t : Side T} {e : Event} (hne : ∀ e', e ≠ .receiver e')
    (hlistener : ∀ port, e ≠ .listener port .response)
    (hconnect : ∀ i a, e = .connect i .sent → s.connects[i]? = some a →
      a.pc ≠ .sendResponse .ok) (hstep : s.step env e = some t) :
    t.sinkTxMap = s.sinkTxMap ∧ t.sourceTxMap = s.sourceTxMap := by
  obtain ⟨-, hregistered⟩ := router_step hne hstep
  cases hregistered with
  | unchanged sinks sources => exact ⟨sinks, sources⟩
  | @response port => exact absurd rfl (hlistener port)
  | @accept i a _ get pc => exact absurd pc (hconnect i a rfl get)

theorem connecters_step {env : Env} {s t : Side T} {e : Event}
    (hstep : s.step env e = some t) :
    (t.connecterTxMap = s.connecterTxMap ∧ (t.receiver.drained = true → s.receiver.drained = true) ∨
        t.connecterTxMap = []) ∧
      ((∀ port, s.listeners.get port = none) → ∀ port, t.listeners.get port = none) := by
  by_cases hreceiver : ∃ e', e = .receiver e'
  · obtain ⟨e', rfl⟩ := hreceiver
    have hreceived := stepReceiver_spec hstep
    cases hreceived with
    | dispatch pc dispatched =>
        cases dispatched with
        | listener get => exact ⟨Or.inl ⟨rfl, by simp [handed, setListener, ReceiverPc.drained]⟩,
            fun hnone => by simp [hnone] at get⟩
        | _ => exact ⟨Or.inl ⟨rfl, by
            simp [handed, unhanded, setSink, setSource, setConnecter, ReceiverPc.drained]⟩, id⟩
    | abort => exact ⟨Or.inr rfl, id⟩
    | shutdownSink pc | shutdownSource pc | shutdownOrphan pc =>
        exact ⟨Or.inl ⟨rfl, fun _ => by simp [pc, ReceiverPc.drained]⟩, id⟩
  · obtain ⟨hframed, -⟩ := router_step (fun e' he => hreceiver ⟨e', he⟩) hstep
    rw [hframed.receiver]
    exact ⟨Or.inl ⟨hframed.connecterTxMap, id⟩, hframed.listeners⟩

/-- What a step does to the senders that have been replaced. -/
inductive Replacing (s : Side T) : Event → Side T → Prop
  | unchanged {e : Event} {t : Side T} (eq : t.replaced = s.replaced) : Replacing s e t
  | response {port : PortId} {a : Listener.Task} {t : Side T} (get : s.listeners.get port = some a)
      (pc : a.pc = .awaitResponse) (mem : a.id port ∈ s.sourceTxMap)
      (eq : t.replaced = (s.replaceSource (a.id port)).replaced) :
      Replacing s (.listener port .response) t
  | accept {i : Nat} {a : Connecter.Connect} {t : Side T} (get : s.connects[i]? = some a)
      (pc : a.pc = .sendResponse .ok) (mem : a.id ∈ s.sourceTxMap)
      (eq : t.replaced = (s.replaceSource a.id).replaced) : Replacing s (.connect i .sent) t
  | dispatch {id : StreamId} {action : SinkAction} {t : Side T}
      (pc : s.receiver = .dispatch (.sink id action))
      (eq : t.replaced = (s.dropSender id).replaced) : Replacing s (.receiver .dispatch) t

omit [Message T] in
theorem register_replaced (s : Side T) (id : StreamId) :
    (s.register id).replaced = s.replaced ∨
      id ∈ s.sourceTxMap ∧ (s.register id).replaced = (s.replaceSource id).replaced := by
  unfold register
  split
  · rename_i hmem
    exact Or.inr ⟨hmem, rfl⟩
  · split <;> exact Or.inl rfl

theorem replacing_step {env : Env} {s t : Side T} {e : Event} (hstep : s.step env e = some t) :
    Replacing s e t := by
  cases e with
  | source id e =>
      obtain ⟨a, u, hs⟩ := stepSource_spec hstep
      rw [hs.eq]
      exact .unchanged rfl
  | sink id e =>
      obtain ⟨a, u, hs⟩ := stepSink_spec hstep
      rw [hs.eq]
      exact .unchanged rfl
  | listener port e =>
      obtain ⟨a, ha, hlistened⟩ := stepListener_spec hstep
      cases hlistened with
      | connected pc =>
          rcases register_replaced (s.removeListenerTx (a.id port)) (a.id port) with
            heq | ⟨hmem, heq⟩
          · exact .unchanged heq
          · exact .response ha pc hmem heq
      | _ => exact .unchanged rfl
  | connecter port e =>
      obtain ⟨a, -, haccepting⟩ := stepConnecter_spec hstep
      cases haccepting <;> exact .unchanged rfl
  | connect i e =>
      obtain ⟨a, ha, hconnecting⟩ := stepConnect_spec hstep
      cases hconnecting with
      | accept pc =>
          rcases register_replaced (s.enqueued [Message.stream
            (.connecter a.id (.connectResponse .ok))]) a.id with heq | ⟨hmem, heq⟩
          · exact .unchanged heq
          · exact .accept ha pc hmem heq
      | _ => exact .unchanged rfl
  | sender e =>
      cases stepSender_spec hstep with
      | close | notified =>
          unfold finish
          split <;> exact .unchanged rfl
      | _ => exact .unchanged rfl
  | receiver e =>
      cases stepReceiver_spec hstep with
      | dispatch pc dispatched =>
          cases dispatched with
          | source => exact .dispatch pc rfl
          | _ => exact .unchanged rfl
      | _ => exact .unchanged rfl

omit [Message T] in
theorem orphaned_replaceSource {s : Side T} {id : StreamId} (id' : StreamId)
    (h : s.orphaned id = true) : (s.replaceSource id').orphaned id = true := by
  have hget : s.replaced.get id = some false := of_decide_eq_true h
  refine decide_eq_true ?_
  unfold replaceSource
  split
  · exact hget
  · rename_i hnone
    have hid : id ≠ id' := by
      rintro rfl
      simp [hget] at hnone
    rw [Table.get_set, if_neg hid, hget]

omit [Message T] in
theorem orphaned_dropSender {s : Side T} {id : StreamId} (id' : StreamId)
    (h : s.orphaned id = true) : (s.dropSender id').orphaned id = true := by
  have hget : s.replaced.get id = some false := of_decide_eq_true h
  refine decide_eq_true ?_
  unfold dropSender
  split
  · rw [Table.get_set, hget, ite_self]
  · exact hget

/-- An inbox without a sender gets none. -/
theorem orphaned_step {env : Env} {s t : Side T} {e : Event} {id : StreamId}
    (hstep : s.step env e = some t) (h : s.orphaned id = true) : t.orphaned id = true := by
  have hsame {r : Side T} (heq : t.replaced = r.replaced) (hr : r.orphaned id = true) :
      t.orphaned id = true := by
    rw [orphaned, heq]
    exact hr
  cases replacing_step hstep with
  | unchanged eq => exact hsame eq h
  | response _ _ _ eq | accept _ _ _ eq => exact hsame eq (orphaned_replaceSource _ h)
  | dispatch _ eq => exact hsame eq (orphaned_dropSender _ h)

/-- No sender of an inbox has been replaced. -/
def Unreplaced (s : Side T) : Prop := ∀ id, s.replaced.get id = none

omit [Message T] in
theorem Unreplaced.not_orphaned {s : Side T} (h : Unreplaced s) (id : StreamId) :
    s.orphaned id = false := by
  simp [orphaned, h id]

omit [Message T] in
theorem Unreplaced.discards {s : Side T} (h : Unreplaced s) (action : StreamAction) :
    s.discards action = false := by
  cases action with
  | sink id action => exact h.not_orphaned id
  | _ => rfl

omit [Message T] in
theorem Unreplaced.effect_ne {s : Side T} (h : Unreplaced s) (e : Event) (action : StreamAction) :
    s.effect e ≠ .discard action := by
  intro heq
  have hkept := h.discards action
  cases e <;> simp only [effect] at heq <;> grind

theorem Unreplaced.step {env : Env} {s t : Side T} {e : Event} (h : Unreplaced s)
    (hresponse : ∀ port a, e = .listener port .response → s.listeners.get port = some a →
      a.pc = .awaitResponse → a.id port ∉ s.sourceTxMap)
    (haccept : ∀ i a, e = .connect i .sent → s.connects[i]? = some a →
      a.pc = .sendResponse .ok → a.id ∉ s.sourceTxMap)
    (hstep : s.step env e = some t) : Unreplaced t := by
  intro id
  cases replacing_step hstep with
  | unchanged eq => rw [eq, h id]
  | response get pc mem => exact absurd mem (hresponse _ _ rfl get pc)
  | accept get pc mem => exact absurd mem (haccept _ _ rfl get pc)
  | @dispatch id' _ _ pc eq =>
      have hnone : (s.replaced.get id').isSome = false := by rw [h id']; rfl
      rw [eq, dropSender, hnone]
      exact h id

theorem receiver_ended_step {env : Env} {s t : Side T} {e : Event}
    (hstep : s.step env e = some t) :
    (∀ b, t.receiver = .done b ↔ s.receiver = .done b) ∧
      (∀ u, t.receiver = .failed u → s.receiver = .failed u ∨
        e = .receiver .dispatch ∧ ∃ action, s.receiver = .dispatch action ∧
          t = s.unhanded action) := by
  by_cases hreceiver : ∃ e', e = .receiver e'
  · obtain ⟨e', rfl⟩ := hreceiver
    have hreceived := stepReceiver_spec hstep
    cases hreceived with
    | @dispatch action t pc dispatched =>
        cases dispatched with
        | gone => exact ⟨by simp [unhanded, pc], fun u _ => Or.inr ⟨rfl, action, pc, rfl⟩⟩
        | _ => simp [pc, handed, setSink, setSource, setConnecter, setListener]
    | abort pc => simp [pc]
    | shutdownSink pc => simp [pc, setSink]
    | shutdownSource pc | shutdownOrphan pc => simp [pc, setSource]
  · have hpc := (receiver_step (fun e' he => hreceiver ⟨e', he⟩) hstep).1
    rw [hpc]
    exact ⟨fun _ => Iff.rfl, fun _ h => Or.inl h⟩

theorem drained_step {env : Env} {s t : Side T} {e : Event} (hstep : s.step env e = some t)
    (hdrained : t.receiver.drained = true) :
    s.receiver.drained = true ∨
      ∃ reported sinks sources, e = .receiver (.abort reported sinks sources) := by
  by_cases hreceiver : ∃ e', e = .receiver e'
  · obtain ⟨e', rfl⟩ := hreceiver
    cases stepReceiver_spec hstep with
    | dispatch pc dispatched =>
        cases dispatched <;>
          simp [handed, unhanded, setSink, setSource, setConnecter, setListener,
            ReceiverPc.drained] at hdrained
    | abort => exact Or.inr ⟨_, _, _, rfl⟩
    | shutdownSink pc | shutdownSource pc | shutdownOrphan pc => simp [pc, ReceiverPc.drained]
  · rw [(receiver_step (fun e' he => hreceiver ⟨e', he⟩) hstep).1] at hdrained
    exact Or.inl hdrained

/-- The shutdown comes to each handler once. -/
structure Shutting (s : Side T) : Prop where
  sinks_nodup : s.sinkTxMap.Nodup
  sources_nodup : s.sourceTxMap.Nodup
  leftSinks_nodup : s.receiver.leftSinks.Nodup
  leftSources_nodup : s.receiver.leftSources.Nodup
  sink_shut : ∀ id, (s.view.sink id).shut = true →
    s.receiver.drained = true ∧ id ∉ s.receiver.leftSinks
  source_shut : ∀ id, (s.view.source id).shut = true →
    s.receiver.drained = true ∧ id ∉ s.receiver.leftSources

omit [Message T] in
theorem effect_ne_shutdown {s : Side T} {e : Event} (hne : ∀ e', e ≠ .receiver e')
    (id : StreamId) : s.effect e ≠ .shutdownSink id ∧ s.effect e ≠ .shutdownSource id := by
  cases e with
  | receiver e => exact absurd rfl (hne e)
  | source id' e | sink id' e | connecter port e | sender e => simp [effect]
  | listener port e =>
      cases e <;> simp only [effect] <;> try simp
      split <;> simp
  | connect i e =>
      cases e <;> simp only [effect] <;> try simp
      split <;> simp

theorem Shutting.step {env : Env} {s t : Side T} {e : Event} (h : Shutting s)
    (hstep : s.step env e = some t) : Shutting t := by
  have hholds := holds_step hstep
  by_cases hreceiver : ∃ e', e = .receiver e'
  · obtain ⟨e', rfl⟩ := hreceiver
    have hreceived := stepReceiver_spec hstep
    cases hreceived with
    | @dispatch action t pc dispatched =>
        have hsink (id : StreamId) : s.effect (.receiver .dispatch) ≠ .shutdownSink id := by
          simp only [effect, pc]
          split <;> simp
        have hsource (id : StreamId) : s.effect (.receiver .dispatch) ≠ .shutdownSource id := by
          simp only [effect, pc]
          split <;> simp
        have hnot : s.receiver.drained = false := by simp [ReceiverPc.drained, pc]
        have hmaps : t.sinkTxMap = s.sinkTxMap ∧ t.sourceTxMap = s.sourceTxMap ∧
            t.receiver.leftSinks = [] ∧ t.receiver.leftSources = [] := by
          cases dispatched <;> exact ⟨rfl, rfl, rfl, rfl⟩
        obtain ⟨hsinks, hsources, hleft, hleft'⟩ := hmaps
        refine ⟨hsinks ▸ h.sinks_nodup, hsources ▸ h.sources_nodup, by simp [hleft],
          by simp [hleft'], fun id hshut => ?_, fun id hshut => ?_⟩
        · rcases hholds.sink_shut hshut with hshut' | heq
          · simp [(h.sink_shut id hshut').1] at hnot
          · exact absurd heq (hsink id)
        · rcases hholds.source_shut hshut with hshut' | heq
          · simp [(h.source_shut id hshut').1] at hnot
          · exact absurd heq (hsource id)
    | abort pc sinks_perm sources_perm =>
        have hnot : s.receiver.drained = false := by simp [ReceiverPc.drained, pc]
        refine ⟨List.nodup_nil, List.nodup_nil, sinks_perm.nodup_iff.mpr h.sinks_nodup,
          sources_perm.nodup_iff.mpr h.sources_nodup, fun id hshut => ?_, fun id hshut => ?_⟩
        · simp [(h.sink_shut id hshut).1] at hnot
        · simp [(h.source_shut id hshut).1] at hnot
    | @shutdownSink id sinks sources a u pc get step =>
        have heffect : s.effect (.receiver .shutdownSink) = .shutdownSink id := by
          simp [effect, pc]
        have hleft := h.leftSinks_nodup
        have hleft' := h.leftSources_nodup
        rw [pc] at hleft hleft'
        refine ⟨h.sinks_nodup, h.sources_nodup, (List.nodup_cons.mp hleft).2, hleft',
          fun id' hshut => ⟨rfl, ?_⟩,
          fun id' hshut => ⟨rfl, ?_⟩⟩
        · rcases hholds.sink_shut hshut with hshut' | heq
          · have hmem := (h.sink_shut id' hshut').2
            rw [pc] at hmem
            exact fun hin => hmem (List.mem_cons_of_mem _ hin)
          · rw [heffect] at heq
            obtain rfl := (Effect.shutdownSink.inj heq)
            exact (List.nodup_cons.mp hleft).1
        · rcases hholds.source_shut hshut with hshut' | heq
          · have hmem := (h.source_shut id' hshut').2
            rw [pc] at hmem
            exact hmem
          · simp [heffect] at heq
    | @shutdownSource id sources a u pc kept get step =>
        have heffect : s.effect (.receiver .shutdownSource) = .shutdownSource id := by
          simp [effect, pc, kept]
        have hleft := h.leftSources_nodup
        rw [pc] at hleft
        refine ⟨h.sinks_nodup, h.sources_nodup, List.nodup_nil, (List.nodup_cons.mp hleft).2,
          fun id' hshut => ⟨rfl, by simp [setSource, ReceiverPc.leftSinks]⟩,
          fun id' hshut => ⟨rfl, ?_⟩⟩
        rcases hholds.source_shut hshut with hshut' | heq
        · have hmem := (h.source_shut id' hshut').2
          rw [pc] at hmem
          exact fun hin => hmem (List.mem_cons_of_mem _ hin)
        · rw [heffect] at heq
          obtain rfl := (Effect.shutdownSource.inj heq)
          exact (List.nodup_cons.mp hleft).1
    | @shutdownOrphan id sources pc =>
        have hleft := h.leftSources_nodup
        rw [pc] at hleft
        refine ⟨h.sinks_nodup, h.sources_nodup, List.nodup_nil, (List.nodup_cons.mp hleft).2,
          fun id' hshut => ⟨rfl, List.not_mem_nil⟩, fun id' hshut => ⟨rfl, fun hin => ?_⟩⟩
        have hmem := (h.source_shut id' hshut).2
        rw [pc] at hmem
        exact hmem (List.mem_cons_of_mem _ hin)
  · have hne : ∀ e', e ≠ .receiver e' := fun e' he => hreceiver ⟨e', he⟩
    obtain ⟨hsinks, hsources⟩ := maps_step hne hstep
    have hpc := (receiver_step hne hstep).1
    refine ⟨hsinks.nodup h.sinks_nodup, hsources.nodup h.sources_nodup,
      hpc ▸ h.leftSinks_nodup, hpc ▸ h.leftSources_nodup, fun id hshut => ?_,
      fun id hshut => ?_⟩
    · rw [hpc]
      rcases hholds.sink_shut hshut with hshut' | heq
      · exact h.sink_shut id hshut'
      · exact absurd heq (effect_ne_shutdown hne id).1
    · rw [hpc]
      rcases hholds.source_shut hshut with hshut' | heq
      · exact h.source_shut id hshut'
      · exact absurd heq (effect_ne_shutdown hne id).2

theorem Shutting.setReceiver {s : Side T} {pc : ReceiverPc} (h : Shutting s)
    (hsinks : pc.leftSinks = []) (hsources : pc.leftSources = [])
    (hdrained : s.receiver.drained = true → pc.drained = true) :
    Shutting { s with receiver := pc } where
  sinks_nodup := h.sinks_nodup
  sources_nodup := h.sources_nodup
  leftSinks_nodup := by simp [hsinks]
  leftSources_nodup := by simp [hsources]
  sink_shut id hshut := ⟨hdrained (h.sink_shut id hshut).1, by simp [hsinks]⟩
  source_shut id hshut := ⟨hdrained (h.source_shut id hshut).1, by simp [hsources]⟩

theorem Shutting.take {s : Side T} (h : Shutting s) (pc : s.receiver = .recv)
    (action : StreamAction) : Shutting (s.take action) := by
  refine h.setReceiver ?_ ?_ fun hdrained => ?_
  · split <;> rfl
  · split <;> rfl
  · simp [pc, ReceiverPc.drained] at hdrained

theorem Shutting.enqueued {s : Side T} (h : Shutting s) (ms : List T) :
    Shutting (s.enqueued ms) :=
  ⟨h.sinks_nodup, h.sources_nodup, h.leftSinks_nodup, h.leftSources_nodup, h.sink_shut,
    h.source_shut⟩

theorem Shutting.not_shut {s : Side T} {e : Event} (h : Shutting s) (id : StreamId) :
    (s.effect e = .shutdownSource id → (s.view.source id).shut = false) ∧
      (s.effect e = .shutdownSink id → (s.view.sink id).shut = false) ∧
      ∀ a, s.effect e = .deliver (.source id a) → (s.view.sink id).shut = false := by
  by_cases hreceiver : ∃ e', e = .receiver e'
  · obtain ⟨e', rfl⟩ := hreceiver
    refine ⟨fun heq => ?_, fun heq => ?_, fun a heq => ?_⟩
    all_goals
      rw [Bool.eq_false_iff]
      intro hshut
    · have hleft := (h.source_shut id hshut).2
      simp only [effect] at heq
      grind [ReceiverPc.leftSources]
    · have hleft := (h.sink_shut id hshut).2
      simp only [effect] at heq
      grind [ReceiverPc.leftSinks]
    · have hdrained := (h.sink_shut id hshut).1
      simp only [effect] at heq
      grind [ReceiverPc.drained]
  · have hne : ∀ e', e ≠ .receiver e' := fun e' he => hreceiver ⟨e', he⟩
    refine ⟨fun heq => absurd heq (effect_ne_shutdown hne id).2,
      fun heq => absurd heq (effect_ne_shutdown hne id).1, fun a heq => ?_⟩
    cases e with
    | receiver e => exact absurd rfl (hne e)
    | source id' e | sink id' e | connecter port e | sender e => simp [effect] at heq
    | listener port e =>
        cases e <;> simp only [effect] at heq <;> grind
    | connect i e =>
        cases e <;> simp only [effect] at heq <;> grind

/-- The handler of the action has not gone. -/
def listening (s : Side T) : StreamAction → Bool
  | .source id _ => (s.sinks.get id).any fun t => !t.ended
  | .sink _ _ => true
  | .listener port _ => (s.connecters.get port).any fun t => t.pc ≠ .done
  | .connecter (.forward port conn) _ =>
      (s.listeners.get port).any fun t => t.requesting && t.conn = conn.id
  | .connecter _ _ => false

omit [Message T] in
theorem dispatch_of_listening {s t : Side T} {action : StreamAction}
    (hlistening : s.listening action = true) (h : s.dispatch action = some t) :
    t.receiver = .recv := by
  unfold dispatch at h
  split at h
  · obtain rfl := Option.some.inj h
    rfl
  rename_i hkept
  clear hkept
  split at h
  · rename_i id a
    split at h
    · simp at h
    · rename_i b hb
      have hended : b.ended = false := by simpa [listening, hb] using hlistening
      simp only [hended, Bool.false_eq_true, if_false] at h
      obtain ⟨u, -, rfl⟩ := steppedSink_spec h
      rfl
  · split at h
    · simp at h
    · obtain ⟨u, -, rfl⟩ := steppedSource_spec h
      rfl
  · rename_i port a
    split at h
    · simp at h
    · rename_i b hb
      have halive : b.pc ≠ .done := by simpa [listening, hb] using hlistening
      rw [if_neg halive, Option.ite_none_right_eq_some] at h
      obtain rfl := Option.some.inj h.2
      rfl
  · rename_i port conn res
    split at h
    · simp at h
    · rename_i b hb
      have hrequesting : b.requesting = true ∧ b.conn = conn.id := by
        simpa [listening, hb] using hlistening
      rw [if_pos hrequesting, Option.ite_none_right_eq_some] at h
      obtain rfl := Option.some.inj h.2
      rfl
  · rename_i id res hne
    cases id with
    | forward port conn =>
        cases res with
        | connectResponse res => exact (hne port conn res rfl rfl).elim
    | _ => simp [listening] at hlistening

end Side

end Rlirsh.Stream
