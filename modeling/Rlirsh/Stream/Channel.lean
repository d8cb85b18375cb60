import Rlirsh.Stream.View

namespace Rlirsh.Stream.Channel

open Rlirsh.Protocol

/-- The actions of the source of `id` among all the stream actions. -/
def sourceOf (id : StreamId) : StreamAction → Option SourceAction
  | .source id' a => if id' = id then some a else none
  | _ => none

/-- The actions of the sink of `id`. -/
def sinkOf (id : StreamId) : StreamAction → Option SinkAction
  | .sink id' a => if id' = id then some a else none
  | _ => none

/-- The stream of `id` from the side `v` to the side `w`, into which `n` messages were
injected.  What is on its way is what is enqueued and not delivered. -/
def channel (v w : View) (id : StreamId) (n : Nat) : Pair.State where
  source := v.source id
  sink := w.sink id
  fwd := (v.log.filterMap (sourceOf id)).drop (w.delivered.filterMap (sourceOf id)).length
  back := (w.log.filterMap (sinkOf id)).drop (v.delivered.filterMap (sinkOf id)).length
  delivered := w.delivered.filterMap (sourceOf id)
  injected := n + if (v.source id).shut then 1 else 0

/-- What the peer delivers is what is enqueued, in order. -/
def Fifo (v w : View) : Prop := w.delivered <+: v.log ∧ v.delivered <+: w.log

theorem drop_append {α : Type*} {xs ys : List α} (zs : List α) (h : xs <+: ys) :
    (ys ++ zs).drop xs.length = ys.drop xs.length ++ zs :=
  List.drop_append_of_le_length h.length_le

theorem drop_eq_cons {α : Type*} {xs ys : List α} {a : α} (h : xs ++ [a] <+: ys) :
    ys.drop xs.length = a :: ys.drop (xs ++ [a]).length := by
  obtain ⟨zs, rfl⟩ := h
  simp

theorem filterMap_isPrefix_of {α β : Type*} {xs ys : List α} (f : α → Option β) (h : xs <+: ys) :
    xs.filterMap f <+: ys.filterMap f := by
  obtain ⟨zs, rfl⟩ := h
  exact ⟨zs.filterMap f, by simp⟩

@[simp] theorem filterMap_sourceOf_source (id id' : StreamId) (as : List SourceAction) :
    as.filterMap (fun a => sourceOf id (.source id' a)) = if id' = id then as else [] := by
  by_cases h : id' = id <;> simp [sourceOf, h]

@[simp] theorem filterMap_sinkOf_sink (id id' : StreamId) (as : List SinkAction) :
    as.filterMap (fun a => sinkOf id (.sink id' a)) = if id' = id then as else [] := by
  by_cases h : id' = id <;> simp [sinkOf, h]

@[simp] theorem filterMap_sourceOf_sink (id id' : StreamId) (as : List SinkAction) :
    as.filterMap (fun a => sourceOf id (.sink id' a)) = [] := by
  simp [sourceOf]

@[simp] theorem filterMap_sinkOf_source (id id' : StreamId) (as : List SourceAction) :
    as.filterMap (fun a => sinkOf id (.source id' a)) = [] := by
  simp [sinkOf]

theorem channel_fwd_cons {v w : View} {id : StreamId} {a : SourceAction}
    {rest : List StreamAction} (n : Nat) (h : v.log = w.delivered ++ .source id a :: rest) :
    (channel v w id n).fwd = a :: rest.filterMap (sourceOf id) := by
  simp [channel, h, sourceOf]

theorem channel_back_cons {v w : View} {id : StreamId} {a : SinkAction}
    {rest : List StreamAction} (n : Nat) (h : w.log = v.delivered ++ .sink id a :: rest) :
    (channel v w id n).back = a :: rest.filterMap (sinkOf id) := by
  simp [channel, h, sinkOf]

theorem channel_fwd_nil {v w : View} (id : StreamId) (n : Nat) (h : w.delivered = v.log) :
    (channel v w id n).fwd = [] := by
  simp [channel, h]

theorem channel_back_nil {v w : View} (id : StreamId) (n : Nat) (h : v.delivered = w.log) :
    (channel v w id n).back = [] := by
  simp [channel, h]

/-- The event of the pair an effect at the side of the source is. -/
def near (id : StreamId) : Effect → Option Pair.Event
  | .source id' e => if id' = id then some (.source e) else none
  | .deliver (.sink id' _) => if id' = id then some .sendSinkAction else none
  | .shutdownSource id' => if id' = id then some (.source .shutdown) else none
  | _ => none

/-- The event of the pair an effect at the side of the sink is. -/
def far (id : StreamId) : Effect → Option Pair.Event
  | .sink id' e => if id' = id then some (.sink e) else none
  | .inject id' => if id' = id then some .inject else none
  | .deliver (.source id' _) => if id' = id then some .sendSourceAction else none
  | .shutdownSink id' => if id' = id then some (.sink .shutdown) else none
  | _ => none

/-- A step of the side of the source is a step of the pair, or leaves it alone. -/
theorem near_step {v v' w : View} {effect : Effect} (id : StreamId) (n : Nat)
    (hfifo : Fifo v w) (hfifo' : Fifo v' w) (hholds : effect.Holds v v')
    (hdiscard : ∀ action, effect ≠ .discard action)
    (hshut : effect = .shutdownSource id → (v.source id).shut = false) :
    channel v' w id n = channel v w id n ∨
      ∃ e, near id effect = some e ∧
        Pair.step (channel v w id n) e = some (channel v' w id n) := by
  cases effect with
  | quiet => exact Or.inl (by rw [hholds])
  | source id' e =>
      obtain ⟨hdeliver, hne, u, hu, rfl⟩ := hholds
      by_cases hid : id' = id
      · subst hid
        refine Or.inr ⟨.source e, by simp [near], ?_⟩
        rw [Pair.step_source_eq (p := channel v w id' n) hu hdeliver hne]
        have hsame : u.shut = (v.source id').shut := by
          simp [Source.shut_step hu, hne]
        simp only [channel, Function.update_self, hsame]
        simp [drop_append _ (filterMap_isPrefix_of (sourceOf id') hfifo.1)]
      · left
        simp [channel, Ne.symm hid, hid]
  | sink id' e =>
      obtain ⟨-, -, u, -, rfl⟩ := hholds
      left
      simp [channel]
  | listener port action | connecter id' action | inject id' =>
      obtain rfl := hholds
      left
      simp [channel, sourceOf, List.filterMap_cons]
  | deliver action =>
      rcases hholds with rfl | hholds
      · exact Or.inl rfl
      cases action with
      | sink id' a =>
          obtain ⟨u, hu, rfl⟩ := hholds
          by_cases hid : id' = id
          · subst hid
            refine Or.inr ⟨.sendSinkAction, by simp [near], ?_⟩
            have hbefore : v.delivered.filterMap (sinkOf id') ++ [a] <+:
                w.log.filterMap (sinkOf id') := by
              simpa [sinkOf] using filterMap_isPrefix_of (sinkOf id') hfifo'.2
            have hback := drop_eq_cons hbefore
            have hsame := Source.shut_step hu
            simp only [Source.Task.step] at hu
            simp [Pair.step, channel, hback, hu, hsame, Source.Task.emitted, sinkOf]
          · left
            simp [channel, Ne.symm hid, hid, sinkOf, Source.Task.emitted]
      | source id' a =>
          obtain ⟨u, -, rfl⟩ := hholds
          left
          simp [channel, sinkOf, Sink.Task.emitted, List.filterMap_cons]
      | listener port a | connecter id' a =>
          obtain rfl := hholds
          left
          simp [channel, sinkOf, List.filterMap_cons]
  | discard action => exact absurd rfl (hdiscard action)
  | shutdownSource id' =>
      obtain ⟨u, hu, rfl⟩ := hholds
      by_cases hid : id' = id
      · subst hid
        refine Or.inr ⟨.source .shutdown, by simp [near], ?_⟩
        have hmark := Source.shut_step hu
        have hopen := hshut rfl
        simp only [Source.Task.step] at hu
        simp [Pair.step, channel, hu, hopen, hmark, Source.Task.emitted]
      · left
        simp [channel, Ne.symm hid, Source.Task.emitted]
  | shutdownSink id' =>
      obtain ⟨u, -, rfl⟩ := hholds
      left
      simp [channel]

/-- How many `SinkClosed` an effect injects into the stream of `id`. -/
def injects (id : StreamId) : Effect → Nat
  | .inject id' => if id' = id then 1 else 0
  | _ => 0

theorem far_step {v w w' : View} {effect : Effect} (id : StreamId) (n : Nat)
    (hfifo : Fifo v w) (hfifo' : Fifo v w') (hholds : effect.Holds w w')
    (hdiscard : ∀ action, effect ≠ .discard action)
    (hshut : effect = .shutdownSink id → (w.sink id).shut = false)
    (hopen : ∀ a, effect = .deliver (.source id a) → (w.sink id).shut = false) :
    channel v w' id (n + injects id effect) = channel v w id n ∨
      ∃ e, far id effect = some e ∧
        Pair.step (channel v w id n) e =
          some (channel v w' id (n + injects id effect)) := by
  cases effect with
  | quiet => exact Or.inl (by simp only [injects, Nat.add_zero, show w' = w from hholds])
  | sink id' e =>
      obtain ⟨hdeliver, hne, u, hu, rfl⟩ := hholds
      by_cases hid : id' = id
      · subst hid
        refine Or.inr ⟨.sink e, by simp [far], ?_⟩
        rw [Pair.step_sink_eq (p := channel v w id' n) hu hdeliver hne]
        simp [injects, channel, drop_append _ (filterMap_isPrefix_of (sinkOf id') hfifo.2)]
      · left
        simp [injects, channel, Ne.symm hid, hid]
  | source id' e =>
      obtain ⟨-, -, u, -, rfl⟩ := hholds
      left
      simp [injects, channel]
  | listener port action | connecter id' action =>
      obtain rfl := hholds
      left
      simp [injects, channel, sinkOf, List.filterMap_cons]
  | inject id' =>
      obtain rfl := hholds
      by_cases hid : id' = id
      · subst hid
        refine Or.inr ⟨.inject, by simp [far], ?_⟩
        have hback := drop_append [SinkAction.sinkClosed]
          (filterMap_isPrefix_of (sinkOf id') hfifo.2)
        simp [injects, Pair.step, channel, sinkOf, hback]
        omega
      · left
        simp [injects, channel, hid, sinkOf]
  | deliver action =>
      rcases hholds with rfl | hholds
      · exact Or.inl (by simp [injects])
      cases action with
      | source id' a =>
          obtain ⟨u, hu, rfl⟩ := hholds
          by_cases hid : id' = id
          · subst hid
            refine Or.inr ⟨.sendSourceAction, by simp [far], ?_⟩
            have hbefore : w.delivered.filterMap (sourceOf id') ++ [a] <+:
                v.log.filterMap (sourceOf id') := by
              simpa [sourceOf] using filterMap_isPrefix_of (sourceOf id') hfifo'.1
            have hfwd := drop_eq_cons hbefore
            have hmark := hopen a rfl
            simp only [Sink.Task.step] at hu
            simp [injects, Pair.step, channel, hfwd, hu, hmark, Sink.Task.emitted, sourceOf]
          · left
            simp [injects, channel, Ne.symm hid, hid, sourceOf, Sink.Task.emitted]
      | sink id' a =>
          obtain ⟨u, -, rfl⟩ := hholds
          left
          simp [injects, channel, sourceOf, Source.Task.emitted, List.filterMap_cons]
      | listener port a | connecter id' a =>
          obtain rfl := hholds
          left
          simp [injects, channel, sourceOf, List.filterMap_cons]
  | discard action => exact absurd rfl (hdiscard action)
  | shutdownSink id' =>
      obtain ⟨u, hu, rfl⟩ := hholds
      by_cases hid : id' = id
      · subst hid
        refine Or.inr ⟨.sink .shutdown, by simp [far], ?_⟩
        have hmark := hshut rfl
        simp only [Sink.Task.step] at hu
        simp [injects, Pair.step, channel, hu, hmark, Sink.Task.emitted]
      · left
        simp [injects, channel, Ne.symm hid, Sink.Task.emitted]
  | shutdownSource id' =>
      obtain ⟨u, -, rfl⟩ := hholds
      left
      simp [injects, channel, Source.Task.emitted]

end Rlirsh.Stream.Channel
