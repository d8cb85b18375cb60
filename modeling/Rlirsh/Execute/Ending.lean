import Rlirsh.Execute.Leaving

namespace Rlirsh.Execute

open Rlirsh.Protocol

/-- The status an action reports. -/
def exitOf : ServerAction → Option ExitStatus
  | .exit status => some status
  | _ => none

end Rlirsh.Execute

namespace Rlirsh.Execute.Server

open Rlirsh.Protocol
open Rlirsh.Net
open Rlirsh.Terminal (PtyMaster)
open Rlirsh.Lib
open Rlirsh.Lib.Machine
open Rlirsh.Stream

/-- `serve` has enqueued the `SinkClosed` for the standard input. -/
def State.stdinClosed (v : State) : Bool :=
  match v.main with
  | .select | .sendSinkClosed _ | .kill => false
  | .sendExit _ | .join | .ok | .err => v.exited.isSome

/-- `serve` reports the status of the child once, and closes its standard input once. -/
structure Reported (v : State) : Prop where
  pending : ∀ status, v.main = .sendSinkClosed status ∨ v.main = .sendExit status →
    v.exited = some status
  running : v.main = .select ∨ v.main = .kill → v.exited = none
  exits : v.side.log.filterMap exitOf = if v.released then v.exited.toList else []
  injected : v.injected = v.stdinClosed.toNat
  patient : v.side.sender = .finish ∨ v.side.sender = .done → v.notified = true
  present : (v.side.sinks.get .stdin).isSome = true ∧
    (v.side.sources.get .stdout).isSome = true ∧ (v.side.sources.get .stderr).isSome = true

theorem exits_step {env : Env} {s t : Side ServerAction} {e : Side.Event}
    (hstep : s.step env e = some t) : t.log.filterMap exitOf = s.log.filterMap exitOf := by
  obtain ⟨ms, hlog, hms⟩ := Side.log_step hstep
  rw [hlog, List.filterMap_append]
  have hnil : ms.filterMap exitOf = [] := by
    apply List.filterMap_eq_nil_iff.mpr
    intro m hm
    rcases hms m hm with rfl | ⟨action, rfl⟩ <;> rfl
  rw [hnil, List.append_nil]

theorem patient_step {env : Env} {s t : Side ServerAction} {e : Side.Event}
    (h : s.sender = .finish ∨ s.sender = .done → env.permit = true)
    (hstep : s.step env e = some t) :
    t.sender = .finish ∨ t.sender = .done → env.permit = true := by
  by_cases hsender : ∃ e', e = .sender e'
  · obtain ⟨e', rfl⟩ := hsender
    cases Side.stepSender_spec hstep with
    | close _ _ _ _ waits => simp [Message.waitsForNotify] at waits
    | notified _ permit => exact fun _ => permit
    | finished pc | unfinished pc => exact fun _ => h (Or.inl pc)
    | drop pc => simp [pc]
    | _ => simp
  · obtain ⟨actions, henq⟩ := Side.enqueues_step (fun e' he => hsender ⟨e', he⟩) hstep
    rw [henq.sender]
    exact h

theorem Reported.step {v w : State} {e : Event} (h : Reported v) (hkept : v.Kept)
    (hstepped : Stepped v e w) : Reported w := by
  obtain ⟨hpending, hrunning, hexits, hinjected, hpatient, hpresent⟩ := h
  cases hstepped with
  | @side e side step =>
      refine ⟨hpending, hrunning, ?_, hinjected, ?_, ?_⟩
      · rw [exits_step step]
        exact hexits
      · exact patient_step hpatient step
      · exact ⟨(Side.present_step step _).1 hpresent.1, (Side.present_step step _).2 hpresent.2.1,
          (Side.present_step step _).2 hpresent.2.2⟩
  | take | windowSizeChange => exact ⟨hpending, hrunning, hexits, hinjected, hpatient, hpresent⟩
  | finished | leave => exact ⟨hpending, hrunning, hexits, hinjected, fun _ => rfl, hpresent⟩
  | @sinkClosedSent status pc =>
      have hexited := hpending status (Or.inl pc)
      refine ⟨fun status' hpc => ?_, by simp, ?_, ?_, hpatient, hpresent⟩
      · simp only [reduceCtorEq, MainPc.sendExit.injEq, false_or] at hpc
        exact hpc ▸ hexited
      · simpa [State.released, pc, Side.enqueued, exitOf] using hexits
      · simp [State.stdinClosed, hinjected, pc, hexited]
  | @exitSent status pc =>
      have hexited := hpending status (Or.inr pc)
      refine ⟨by simp, by simp, ?_, ?_, hpatient, hpresent⟩
      · have hnil : v.side.log.filterMap exitOf = [] := by
          simpa [State.released, pc] using hexits
        simp [State.released, Side.enqueued, exitOf, hnil, hexited]
      · simp [State.stdinClosed, hinjected, pc]
  | @childExited status pc =>
      refine ⟨by simp, by simp, ?_, ?_, hpatient, hpresent⟩
      · simpa [State.released, pc] using hexits
      · simpa [State.stdinClosed, pc] using hinjected
  | mainSendFailed pc gone =>
      have hclosing : v.side.closing = true := by
        simp only [Side.queueGone] at gone
        simp only [Side.closing]
        grind
      have hreleased := (hkept.sender.closed hclosing).2.2
      rcases pc with pc | pc <;> simp [State.released, pc] at hreleased
  | waitFailed pc =>
      have hexited := hrunning (Or.inl pc)
      refine ⟨by simp, by simp, ?_, ?_, hpatient, hpresent⟩
      · simpa [State.released, pc, hexited] using hexits
      · simpa [State.stdinClosed, pc, hexited] using hinjected
  | killReceived pc =>
      have hexited := hrunning (Or.inl pc)
      refine ⟨by simp, fun _ => hexited, ?_, ?_, hpatient, hpresent⟩
      · simpa [State.released, pc] using hexits
      · simpa [State.stdinClosed, pc] using hinjected
  | killed pc =>
      have hexited := hrunning (Or.inr pc)
      refine ⟨by simp, by simp, ?_, ?_, hpatient, hpresent⟩
      · simpa [State.released, pc, hexited] using hexits
      · simpa [State.stdinClosed, pc, hexited] using hinjected
  | joined pc | receiverFailed pc | handlerFailed pc =>
      refine ⟨by simp, by simp, ?_, ?_, hpatient, hpresent⟩
      · simpa [State.released, pc] using hexits
      · simpa [State.stdinClosed, pc] using hinjected

theorem reported_new (pty : Option PtyMaster) (addrs : List (SocketAddrs SocketAddr)) :
    Reported (new pty addrs) where
  pending := by simp [new]
  running := by simp [new]
  exits := by cases pty <;> simp [new, State.released, exitOf]
  injected := by simp [new, State.stdinClosed]
  patient := by simp [new]
  present := by simp [new, Table.get_ofList]

theorem Reported.receiver_done {v : State} (h : Reported v) (hwatched : Watched v)
    (hfinished : .finished ∈ v.side.log) : ∃ b, v.side.receiver = .done b :=
  hwatched.notified.mp (h.patient (hwatched.kept.sender.finished_last hfinished).1)

end Rlirsh.Execute.Server

namespace Rlirsh.Execute.Client

open Rlirsh.Protocol
open Rlirsh.Net
open Rlirsh.Lib
open Rlirsh.Lib.Machine
open Rlirsh.Stream

/-- `serve` returns the status the receiver has taken, with its sinks done. -/
structure Reported (c : State) : Prop where
  status : ∀ status, c.main = .joinHandlers status ∨ c.main = .joinTasks status ∨
    c.main = .ok status → c.exitStatus = some (some status)
  received : ∀ status, c.exitStatus = some (some status) → .exit status ∈ c.received
  joined : ∀ status, c.main = .joinTasks status ∨ c.main = .ok status →
    (c.side.view.sink .stdout).pc = .done ∧ (c.side.view.sink .stderr).pc = .done
  ended : ∀ status, c.main = .ok status →
    (∃ b, c.side.receiver = .done b) ∧ c.side.sender = .done
  present : (c.side.sources.get .stdin).isSome = true ∧
    (c.side.sinks.get .stdout).isSome = true ∧ (c.side.sinks.get .stderr).isSome = true

theorem sink_done {c : State} {id : StreamId} (hpresent : (c.side.sinks.get id).isSome = true)
    (h : ∀ t ∈ c.side.sinks.get id, t.pc = .done) : (c.side.view.sink id).pc = .done := by
  obtain ⟨t, ht⟩ := Option.isSome_iff_exists.mp hpresent
  rw [Side.view_sink ht]
  exact h t ht

theorem Reported.step {c d : State} {e : Event} (h : Reported c) (halive : c.returned = false)
    (hstepped : Stepped c e d) : Reported d := by
  obtain ⟨hstatus, hreceived, hjoined, hended, hpresent⟩ := h
  have hok (status : ExitStatus) : c.main ≠ .ok status := by
    intro hmain
    simp [State.returned, hmain] at halive
  have happend {m m' : ServerAction} (hm : m ∈ c.received) : m ∈ c.received ++ [m'] :=
    List.mem_append_left _ hm
  cases hstepped with
  | @side e side step =>
      refine ⟨hstatus, hreceived, fun status hmain => ?_,
        fun status hmain => absurd hmain (hok status),
        (Side.present_step step _).2 hpresent.1, (Side.present_step step _).1 hpresent.2.1,
        (Side.present_step step _).1 hpresent.2.2⟩
      have hdone {id : StreamId} (hpc : (c.side.view.sink id).pc = .done) :
          (side.view.sink id).pc = .done := by
        rcases (Side.holds_step step).sink id with heq | ⟨e', -, hstep'⟩
        · rw [heq, hpc]
        · rw [(Sink.ended_step (by simp [Sink.Task.ended, hpc]) hstep').1, hpc]
      exact (hjoined status hmain).imp hdone hdone
  | take =>
      exact ⟨hstatus, fun status h => happend (hreceived status h), hjoined,
        fun status hmain => absurd hmain (hok status), hpresent⟩
  | @exit status pc first =>
      refine ⟨fun status' hmain => ?_, fun status' h => ?_, hjoined,
        fun status' hmain => absurd hmain (hok status'), hpresent⟩
      · have hexit := hstatus status' hmain
        simp [first] at hexit
      · obtain rfl : status = status' := by simpa using h
        simp
  | exitTwice | finished =>
      exact ⟨hstatus, fun status h => happend (hreceived status h), hjoined,
        fun status hmain => absurd hmain (hok status), hpresent⟩
  | leave =>
      refine ⟨fun status hmain => ?_, fun status h => hreceived status ?_, hjoined,
        fun status hmain => absurd hmain (hok status), hpresent⟩
      · simp [hstatus status hmain]
      · cases hexit : c.exitStatus <;> simp_all
  | @status status pc sent =>
      refine ⟨fun status' hmain => ?_, hreceived, by simp, by simp, hpresent⟩
      simp only [MainPc.joinHandlers.injEq, reduceCtorEq, or_false] at hmain
      exact hmain ▸ sent
  | @joined status pc ok =>
      have hexit := hstatus status (Or.inl pc)
      simp only [State.handlersOk, Bool.and_eq_true, decide_eq_true_eq] at ok
      refine ⟨fun status' hmain => ?_, hreceived, fun _ _ =>
        ⟨sink_done hpresent.2.1 ok.1.1.2, sink_done hpresent.2.2 ok.1.2⟩, by simp, hpresent⟩
      simp only [MainPc.joinTasks.injEq, reduceCtorEq, false_or, or_false] at hmain
      exact hmain ▸ hexit
  | @tasksJoined status finished pc receiver sender =>
      have hexit := hstatus status (Or.inr (Or.inl pc))
      refine ⟨fun status' hmain => ?_, hreceived, fun _ _ => hjoined status (Or.inl pc),
        fun _ _ => ⟨⟨finished, receiver⟩, sender⟩, hpresent⟩
      simp only [MainPc.ok.injEq, reduceCtorEq, false_or] at hmain
      exact hmain ▸ hexit
  | noStatus | notLeft | handlersFailed | tasksFailed =>
      exact ⟨by simp, hreceived, by simp, by simp, hpresent⟩
  | noSize | signal | windowSent | windowSendFailed | windowEnd =>
      exact ⟨hstatus, hreceived, hjoined, hended, hpresent⟩

theorem reported_new (pty : Bool) (listeners : List TcpListener) :
    Reported (new pty listeners) where
  status := by simp [new]
  received := by simp [new]
  joined := by simp [new]
  ended := by simp [new]
  present := by simp [new, Table.get_ofList]

/-- The receiver hands on the status it takes, and an error only when it has been shut
down. -/
structure Notified (c : State) : Prop where
  sent : ∀ status, .exit status ∈ c.received → c.exitStatus ≠ none
  shut : c.exitStatus = some none → c.side.receiver = .done false

theorem Notified.step {c d : State} {e : Event} (h : Notified c) (hstepped : Stepped c e d) :
    Notified d := by
  have hshut (hpc : c.side.receiver = .recv) : c.exitStatus ≠ some none := by
    intro hexit
    rw [h.shut hexit] at hpc
    cases hpc
  cases hstepped with
  | side step =>
      exact ⟨h.sent, fun hexit => ((Side.receiver_ended_step step).1 false).mpr (h.shut hexit)⟩
  | exit pc first => exact ⟨fun _ _ => Option.some_ne_none _, fun hnone => (by cases hnone)⟩
  | take pc | exitTwice pc second | finished pc =>
      refine ⟨fun status hmem => ?_, fun hexit => absurd hexit (hshut pc)⟩
      first
        | exact second
        | refine h.sent status ((List.mem_append.mp hmem).resolve_right fun hmem => ?_)
          cases List.mem_singleton.mp hmem
  | leave pc => exact ⟨fun _ _ => Option.some_ne_none _, fun _ => rfl⟩
  | _ => exact ⟨h.sent, h.shut⟩

theorem notified_new (pty : Bool) (listeners : List TcpListener) : Notified (new pty listeners) :=
  ⟨fun _ hmem => absurd hmem List.not_mem_nil, fun hnone => (by cases hnone)⟩

end Rlirsh.Execute.Client
