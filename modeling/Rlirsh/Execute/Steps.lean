import Rlirsh.Stream.Queue
import Rlirsh.Execute.Server

namespace Rlirsh.Execute.Client

open Rlirsh.Protocol
open Rlirsh.Lib
open Rlirsh.Stream

/-- What a step of the client is. -/
inductive Stepped (c : State) : Event → State → Prop
  | side {e : Side.Event} {side : Side ClientAction} (step : c.side.step c.env e = some side) :
      Stepped c (.side e) { c with side }
  | take {action : StreamAction} (pc : c.side.receiver = .recv) :
      Stepped c (.receive (.stream action))
        { c with received := c.received ++ [.stream action], side := c.side.take action }
  | exit {status : ExitStatus} (pc : c.side.receiver = .recv) (first : c.exitStatus = none) :
      Stepped c (.receive (.exit status))
        { c with received := c.received ++ [.exit status], exitStatus := some (some status) }
  | exitTwice {status : ExitStatus} (pc : c.side.receiver = .recv)
      (second : c.exitStatus ≠ none) :
      Stepped c (.receive (.exit status))
        { c with received := c.received ++ [.exit status]
                 side := { c.side with receiver := .failed none } }
  | finished (pc : c.side.receiver = .recv) :
      Stepped c (.receive .finished)
        { c with received := c.received ++ [.finished]
                 side := { c.side with receiver := .done true } }
  | leave (pc : c.side.receiver = .shutdown [] []) :
      Stepped c .leave
        { c with side := { c.side with receiver := .done false }
                 exitStatus := some (c.exitStatus.getD none) }
  | noSize (pc : c.window = some .select) : Stepped c (.windowSignal none) c
  | signal {size : WindowSize} (pc : c.window = some .select) :
      Stepped c (.windowSignal (some size)) { c with window := some (.send size) }
  | windowSent {size : WindowSize} (pc : c.window = some (.send size))
      (opened : c.side.sender ≠ .done) (room : c.side.queue.length < Side.queueCapacity) :
      Stepped c .windowSent
        { c with side := c.side.enqueued [.windowSizeChange size], window := some .select }
  | windowSendFailed {size : WindowSize} (pc : c.window = some (.send size))
      (gone : c.side.queueGone = true) :
      Stepped c .windowSendFailed { c with window := some .failed }
  | windowEnd (pc : c.window = some .select) (ended : c.taskEnd = true) :
      Stepped c .windowEnd { c with window := some .done }
  | status {status : ExitStatus} (pc : c.main = .awaitStatus)
      (sent : c.exitStatus = some (some status)) :
      Stepped c .status { c with main := .joinHandlers status, taskEnd := true }
  | noStatus (pc : c.main = .awaitStatus)
      (unsent : c.exitStatus = some none ∨
        c.exitStatus = none ∧ receiverEnded c.side.receiver = true) :
      Stepped c .status { c with main := .err }
  | joined {status : ExitStatus} (pc : c.main = .joinHandlers status) (ok : c.handlersOk = true) :
      Stepped c (.handlersJoined true) { c with main := .joinTasks status }
  | notLeft {status : ExitStatus} (pc : c.main = .joinHandlers status)
      (ok : c.handlersOk = true) : Stepped c (.handlersJoined false) { c with main := .err }
  | handlersFailed {status : ExitStatus} (pc : c.main = .joinHandlers status)
      (failed : c.handlerFailed = true) : Stepped c .handlersFailed { c with main := .err }
  | tasksJoined {status : ExitStatus} {finished : Bool} (pc : c.main = .joinTasks status)
      (receiver : c.side.receiver = .done finished) (sender : c.side.sender = .done) :
      Stepped c .tasksJoined { c with main := .ok status }
  | tasksFailed {status : ExitStatus} {undelivered : Option StreamAction}
      (pc : c.main = .joinTasks status) (receiver : c.side.receiver = .failed undelivered) :
      Stepped c .tasksFailed { c with main := .err }

theorem receive_enabled {c : State} (halive : c.returned = false)
    (hpc : c.side.receiver = .recv) (m : ServerAction) : (step c (.receive m)).isSome = true := by
  have hreceive : (c.receive m).isSome = true := by
    simp only [State.receive, hpc]
    cases m with
    | exit status => cases c.exitStatus <;> rfl
    | stream | finished => rfl
  simpa [step, halive] using hreceive

theorem receive_spec {c d : State} {m : ServerAction} (h : c.receive m = some d) :
    Stepped c (.receive m) d := by
  unfold State.receive at h
  split at h
  · rename_i pc
    cases m with
    | stream action =>
        obtain rfl := Option.some.inj h
        exact .take pc
    | exit status =>
        simp only at h
        split at h
        · rename_i hnone
          obtain rfl := Option.some.inj h
          exact .exit pc hnone
        · rename_i hsome
          obtain rfl := Option.some.inj h
          exact .exitTwice pc (by simp [hsome])
    | finished =>
        obtain rfl := Option.some.inj h
        exact .finished pc
  · simp at h

theorem step_spec {c d : State} {e : Event} (h : step c e = some d) :
    c.returned = false ∧ Stepped c e d := by
  unfold step at h
  rw [Option.ite_none_left_eq_some] at h
  obtain ⟨hreturned, h⟩ := h
  refine ⟨by simpa using hreturned, ?_⟩
  cases e with
  | side e =>
      simp only at h
      split at h
      · simp at h
      · rename_i side hside
        obtain rfl := Option.some.inj h
        exact .side hside
  | receive m => exact receive_spec h
  | leave =>
      simp only [State.leave] at h
      split at h
      · rename_i pc
        obtain rfl := Option.some.inj h
        exact .leave pc
      · simp at h
  | windowSignal size =>
      cases size with
      | none =>
          simp only [Option.ite_none_right_eq_some] at h
          obtain ⟨pc, h⟩ := h
          obtain rfl := Option.some.inj h
          exact .noSize pc
      | some size =>
          simp only [Option.ite_none_right_eq_some] at h
          obtain ⟨pc, h⟩ := h
          obtain rfl := Option.some.inj h
          exact .signal pc
  | windowSent =>
      simp only at h
      split at h
      · rename_i size pc
        split at h
        · simp at h
        · rename_i side hside
          obtain ⟨hopen, hroom, rfl⟩ := Side.enqueue_spec hside
          obtain rfl := Option.some.inj h
          exact .windowSent pc hopen hroom
      · simp at h
  | windowSendFailed =>
      simp only at h
      split at h
      · rename_i size pc
        rw [Option.ite_none_right_eq_some] at h
        obtain ⟨hgone, h⟩ := h
        obtain rfl := Option.some.inj h
        exact .windowSendFailed pc hgone
      · simp at h
  | windowEnd =>
      simp only [Option.ite_none_right_eq_some] at h
      obtain ⟨⟨pc, hended⟩, h⟩ := h
      obtain rfl := Option.some.inj h
      exact .windowEnd pc hended
  | status =>
      simp only at h
      split at h
      · rename_i status pc hsent
        obtain rfl := Option.some.inj h
        exact .status pc hsent
      · rename_i pc hsent
        obtain rfl := Option.some.inj h
        exact .noStatus pc (Or.inl hsent)
      · rename_i pc hunsent
        rw [Option.ite_none_right_eq_some] at h
        obtain ⟨hended, h⟩ := h
        obtain rfl := Option.some.inj h
        exact .noStatus pc (Or.inr ⟨hunsent, hended⟩)
      · simp at h
  | handlersJoined left =>
      simp only at h
      split at h
      · rename_i status pc
        rw [Option.ite_none_right_eq_some] at h
        obtain ⟨hok, h⟩ := h
        obtain rfl := Option.some.inj h
        cases left with
        | true => exact .joined pc hok
        | false => exact .notLeft pc hok
      · simp at h
  | handlersFailed =>
      simp only at h
      split at h
      · rename_i status pc
        rw [Option.ite_none_right_eq_some] at h
        obtain ⟨hfailed, h⟩ := h
        obtain rfl := Option.some.inj h
        exact .handlersFailed pc hfailed
      · simp at h
  | tasksJoined =>
      simp only at h
      split at h
      · rename_i status finished pc hreceiver hsender
        obtain rfl := Option.some.inj h
        exact .tasksJoined pc hreceiver hsender
      · simp at h
  | tasksFailed =>
      simp only at h
      split at h
      · rename_i status undelivered pc hreceiver
        obtain rfl := Option.some.inj h
        exact .tasksFailed pc hreceiver
      · simp at h

end Rlirsh.Execute.Client

namespace Rlirsh.Execute.Server

open Rlirsh.Protocol
open Rlirsh.Lib
open Rlirsh.Stream

/-- What a step of the server is. -/
inductive Stepped (v : State) : Event → State → Prop
  | side {e : Side.Event} {side : Side ServerAction} (step : v.side.step v.env e = some side) :
      Stepped v (.side e) { v with side }
  | take {action : StreamAction} (pc : v.side.receiver = .recv) :
      Stepped v (.receive (.stream action))
        { v with received := v.received ++ [.stream action], side := v.side.take action }
  | windowSizeChange {size : WindowSize} (pc : v.side.receiver = .recv) :
      Stepped v (.receive (.windowSizeChange size))
        { v with
          received := v.received ++ [.windowSizeChange size]
          ptyMaster := (resize v.ptyMaster size).1
          warnings := v.warnings ++ (resize v.ptyMaster size).2 }
  | finished (pc : v.side.receiver = .recv) :
      Stepped v (.receive .finished)
        { v with received := v.received ++ [.finished]
                 side := { v.side with receiver := .done true }, notified := true }
  | leave (pc : v.side.receiver = .shutdown [] []) :
      Stepped v .leave
        { v with side := { v.side with receiver := .done false }
                 killError := true, notified := true }
  | childExited {status : ExitStatus} (pc : v.main = .select) :
      Stepped v (.childExited status)
        { v with main := .sendSinkClosed status, exited := some status }
  | waitFailed (pc : v.main = .select) : Stepped v .waitFailed { v with main := .err }
  | sinkClosedSent {status : ExitStatus} (pc : v.main = .sendSinkClosed status)
      (opened : v.side.sender ≠ .done) (room : v.side.queue.length < Side.queueCapacity) :
      Stepped v .mainSent
        { v with side := v.side.enqueued [.stream (.sink .stdin .sinkClosed)]
                 main := .sendExit status, injected := v.injected + 1 }
  | exitSent {status : ExitStatus} (pc : v.main = .sendExit status)
      (opened : v.side.sender ≠ .done) (room : v.side.queue.length < Side.queueCapacity) :
      Stepped v .mainSent { v with side := v.side.enqueued [.exit status], main := .join }
  | mainSendFailed {status : ExitStatus}
      (pc : v.main = .sendSinkClosed status ∨ v.main = .sendExit status)
      (gone : v.side.queueGone = true) : Stepped v .mainSendFailed { v with main := .err }
  | killReceived (pc : v.main = .select) (error : v.killError = true) :
      Stepped v .killReceived { v with main := .kill }
  | killed (pc : v.main = .kill) : Stepped v .killed { v with main := .join }
  | joined {finished : Bool} (pc : v.main = .join) (receiver : v.side.receiver = .done finished)
      (sender : v.side.sender = .done) (ok : v.handlersOk = true) :
      Stepped v .joined { v with main := .ok }
  | receiverFailed {undelivered : Option StreamAction} (pc : v.main = .join)
      (receiver : v.side.receiver = .failed undelivered) :
      Stepped v .joinFailed { v with main := .err }
  | handlerFailed (pc : v.main = .join) (failed : v.handlerFailed = true) :
      Stepped v .joinFailed { v with main := .err }

theorem receive_enabled {v : State} (hpc : v.side.receiver = .recv) (m : ClientAction) :
    (step v (.receive m)).isSome = true := by
  simp only [step, State.receive, hpc]
  cases m <;> rfl

theorem receive_spec {v w : State} {m : ClientAction} (h : v.receive m = some w) :
    Stepped v (.receive m) w := by
  unfold State.receive at h
  split at h
  · rename_i pc
    cases m with
    | stream action =>
        obtain rfl := Option.some.inj h
        exact .take pc
    | windowSizeChange size =>
        obtain rfl := Option.some.inj h
        exact .windowSizeChange pc
    | finished =>
        obtain rfl := Option.some.inj h
        exact .finished pc
  · simp at h

theorem step_spec {v w : State} {e : Event} (h : step v e = some w) : Stepped v e w := by
  cases e with
  | side e =>
      simp only [step] at h
      split at h
      · simp at h
      · rename_i side hside
        obtain rfl := Option.some.inj h
        exact .side hside
  | receive m => exact receive_spec h
  | leave =>
      simp only [step, State.leave] at h
      split at h
      · rename_i pc
        obtain rfl := Option.some.inj h
        exact .leave pc
      · simp at h
  | childExited status =>
      simp only [step] at h
      split at h
      · rename_i pc
        obtain rfl := Option.some.inj h
        exact .childExited pc
      · simp at h
  | waitFailed =>
      simp only [step] at h
      split at h
      · rename_i pc
        obtain rfl := Option.some.inj h
        exact .waitFailed pc
      · simp at h
  | mainSent =>
      simp only [step] at h
      split at h
      · rename_i status pc
        split at h
        · simp at h
        · rename_i side hside
          obtain ⟨hopen, hroom, rfl⟩ := Side.enqueue_spec hside
          obtain rfl := Option.some.inj h
          exact .sinkClosedSent pc hopen hroom
      · rename_i status pc
        split at h
        · simp at h
        · rename_i side hside
          obtain ⟨hopen, hroom, rfl⟩ := Side.enqueue_spec hside
          obtain rfl := Option.some.inj h
          exact .exitSent pc hopen hroom
      · simp at h
  | mainSendFailed =>
      simp only [step] at h
      split at h
      · rename_i status pc
        rw [Option.ite_none_right_eq_some] at h
        obtain ⟨hgone, h⟩ := h
        obtain rfl := Option.some.inj h
        exact .mainSendFailed (Or.inl pc) hgone
      · rename_i status pc
        rw [Option.ite_none_right_eq_some] at h
        obtain ⟨hgone, h⟩ := h
        obtain rfl := Option.some.inj h
        exact .mainSendFailed (Or.inr pc) hgone
      · simp at h
  | killReceived =>
      simp only [step] at h
      split at h
      · rename_i pc
        rw [Option.ite_none_right_eq_some] at h
        obtain ⟨herror, h⟩ := h
        obtain rfl := Option.some.inj h
        exact .killReceived pc herror
      · simp at h
  | killed =>
      simp only [step] at h
      split at h
      · rename_i pc
        obtain rfl := Option.some.inj h
        exact .killed pc
      · simp at h
  | joined =>
      simp only [step] at h
      split at h
      · rename_i finished pc hreceiver hsender
        rw [Option.ite_none_right_eq_some] at h
        obtain ⟨hok, h⟩ := h
        obtain rfl := Option.some.inj h
        exact .joined pc hreceiver hsender hok
      · simp at h
  | joinFailed =>
      simp only [step] at h
      split at h
      · rename_i undelivered pc hreceiver
        obtain rfl := Option.some.inj h
        exact .receiverFailed pc hreceiver
      · rename_i pc hreceiver
        rw [Option.ite_none_right_eq_some] at h
        obtain ⟨hfailed, h⟩ := h
        obtain rfl := Option.some.inj h
        exact .handlerFailed pc hfailed
      · simp at h

end Rlirsh.Execute.Server
