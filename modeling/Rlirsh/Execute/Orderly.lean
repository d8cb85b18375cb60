import Rlirsh.Stream.Channel
import Rlirsh.Stream.Closure
import Rlirsh.Execute.Process

namespace Rlirsh.Execute

open Rlirsh.Protocol
open Rlirsh.Lib
open Rlirsh.Stream

/-- A writer that fails does so with `BrokenPipe`. -/
def tidy : Side.Event → Bool
  | .sink _ (.written res) | .sink _ (.flushed res) => decide res.orderly
  | _ => true

variable {T U : Type} [Message T] [Message U] {env : Env} {received : List U} {s t : Side T}
  {e : Side.Event} {id : StreamId} {pe : Pair.Event}

/-- What a side does to a stream at the end of the sink. -/
inductive FarStep (s : Side T) (e : Side.Event) (id : StreamId) : Pair.Event → Prop
  | own {e' : Sink.Event} (eq : e = .sink id e') (not_shutdown : e' ≠ .shutdown)
      (open_queue : e' ≠ .sendFailed)
      (recvNone : e' = .recvNone → s.receiver = .done true ∧ (s.sinks.get id).isSome = true ∧
        (s.view.sink id).pc = .recv ∧ (s.view.sink id).rx = []) :
      FarStep s e id (.sink e')
  | deliver : FarStep s e id .sendSourceAction
  | inject : FarStep s e id .inject

/-- What a side does to a stream at the end of the source. -/
inductive NearStep (s : Side T) (e : Side.Event) (id : StreamId) : Pair.Event → Prop
  | own {e' : Source.Event} (eq : e = .source id e') (not_shutdown : e' ≠ .shutdown)
      (open_queue : e' ≠ .sendFailed)
      (recvNone : e' = .recvNone → s.receiver = .done true ∧ (s.sources.get id).isSome = true ∧
        (s.view.source id).pc ≠ .done) :
      NearStep s e id (.source e')
  | deliver : NearStep s e id .sendSinkAction

theorem Kept.far_step (h : Kept env.held received s)
    (hgone : env.routerGone = true → s.receiver.left = true)
    (hattending : s.receiver.attending = true) (hstep : s.step env e = some t)
    (hfar : Channel.far id (s.effect e) = some pe) : FarStep s e id pe := by
  unfold Channel.far at hfar
  split at hfar
  · rename_i id' e' heffect
    rw [Option.ite_none_right_eq_some] at hfar
    obtain ⟨rfl, hpe⟩ := hfar
    obtain rfl := Option.some.inj hpe
    obtain rfl := Side.effect_sink heffect
    obtain ⟨a, u, hs⟩ := Side.stepSink_spec hstep
    refine .own rfl hs.not_shutdown ?_ ?_
    · rintro rfl
      have hended := (h.sender.quiet_of_gone (hs.sendFailed rfl)).sinks _ _ hs.get
      have hmoved := hs.step
      simp only [Sink.Task.step, Sink.Task.onSendFailed, Sink.Task.pending] at hmoved
      unfold Sink.Task.ended at hended
      grind
    · rintro rfl
      obtain ⟨hleft, -⟩ := hs.left_of_recvNone h.swept h.shutting hgone
      obtain ⟨hpc, hrx, -⟩ := Sink.recvNone_spec hs.step
      rw [Side.view_sink hs.get]
      exact ⟨ReceiverPc.done_of_left hattending hleft, by rw [hs.get]; rfl, hpc, hrx⟩
  · rw [Option.ite_none_right_eq_some] at hfar
    obtain rfl := Option.some.inj hfar.2
    exact .inject
  · rw [Option.ite_none_right_eq_some] at hfar
    obtain rfl := Option.some.inj hfar.2
    exact .deliver
  · rename_i id' heffect
    obtain ⟨-, sinks, sources, hpc⟩ := Side.effect_shutdownSink heffect
    rw [hpc] at hattending
    cases hattending
  · cases hfar

theorem Kept.near_step (h : Kept env.held received s) (hkept : s.Unreplaced)
    (hgone : env.routerGone = true → s.receiver.left = true)
    (hattending : s.receiver.attending = true) (hstep : s.step env e = some t)
    (hnear : Channel.near id (s.effect e) = some pe) : NearStep s e id pe := by
  unfold Channel.near at hnear
  split at hnear
  · rename_i id' e' heffect
    rw [Option.ite_none_right_eq_some] at hnear
    obtain ⟨rfl, hpe⟩ := hnear
    obtain rfl := Option.some.inj hpe
    obtain rfl := Side.effect_source heffect
    obtain ⟨a, u, hs⟩ := Side.stepSource_spec hstep
    have hmoved := hs.step
    refine .own rfl hs.not_shutdown ?_ ?_
    · rintro rfl
      have hended := (h.sender.quiet_of_gone (hs.sendFailed rfl)).sources _ _ hs.get
      simp only [Source.Task.step, Source.Task.onSendFailed, Source.Task.pending] at hmoved
      unfold Source.Task.ended at hended
      grind
    · rintro rfl
      obtain ⟨hwaits, -, hu⟩ := Source.recvNone_spec hmoved
      have hpc : u.pc = .failed [] ∧ a.pc ≠ .done := by
        refine ⟨by rw [hu], fun hdone => ?_⟩
        rw [hdone] at hwaits
        rcases hwaits with hwaits | hwaits <;> cases hwaits
      have hfailed : (t.view.source id').pc = .failed [] := by
        rw [Side.view_source (a := u) (by rw [hs.eq]; exact Table.get_set_self _ _ _), hpc.1]
      have horphaned : t.orphaned id' = false := by
        rw [hs.eq]
        exact hkept.not_orphaned id'
      obtain ⟨hleft, -⟩ := (h.side hgone hstep).1.deserted id' [] hfailed horphaned
      rw [(Side.receiver_step (by simp) hstep).1] at hleft
      rw [Side.view_source hs.get]
      exact ⟨ReceiverPc.done_of_left hattending hleft, by rw [hs.get]; rfl, hpc.2⟩
  · rw [Option.ite_none_right_eq_some] at hnear
    obtain rfl := Option.some.inj hnear.2
    exact .deliver
  · rename_i id' heffect
    obtain ⟨-, sources, hpc⟩ := Side.effect_shutdownSource heffect
    rw [hpc] at hattending
    cases hattending
  · cases hnear

theorem FarStep.orderly (h : FarStep s e id pe) (htidy : tidy e = true)
    (hfed : s.receiver = .done true → (s.sinks.get id).isSome = true →
      (s.view.sink id).pc = .recv → (s.view.sink id).rx ≠ [])
    (p : Pair.State) : Window.Orderly p pe := by
  cases h with
  | @own e' eq not_shutdown open_queue recvNone =>
      subst eq
      cases e' with
      | recvNone =>
          obtain ⟨hdone, hsink, hpc, hrx⟩ := recvNone rfl
          exact absurd hrx (hfed hdone hsink hpc)
      | sendFailed => exact absurd rfl open_queue
      | shutdown => exact absurd rfl not_shutdown
      | written res | flushed res => exact of_decide_eq_true htidy
      | _ => trivial
  | _ => trivial

theorem NearStep.orderly (h : NearStep s e id pe)
    (hclosed : s.receiver = .done true → (s.sources.get id).isSome = true →
      (s.view.source id).pc = .done)
    (p : Pair.State) : Window.Orderly p pe := by
  cases h with
  | @own e' eq not_shutdown open_queue recvNone =>
      cases e' with
      | recvNone =>
          obtain ⟨hdone, hsource, hpc⟩ := recvNone rfl
          exact absurd (hclosed hdone hsource) hpc
      | sendFailed => exact absurd rfl open_queue
      | shutdown => exact absurd rfl not_shutdown
      | _ => trivial
  | deliver => trivial

end Rlirsh.Execute
