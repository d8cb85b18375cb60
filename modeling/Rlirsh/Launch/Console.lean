import Rlirsh.Launch.Transport

namespace Rlirsh.Launch

open Rlirsh.Protocol
open Rlirsh.Lib
open Rlirsh.Lib.Machine
open Rlirsh.Lib.Parties (Move)
open Rlirsh.Execute
open Rlirsh.Terminal (Errno Restorable)

universe u

/-- How the process of the client has ended. -/
inductive Ending
  | exit (code : Int)
  | panicked
  -- a panic within a panic
  | aborted
deriving DecidableEq, Repr

/-- A connection, and the terminal the client has been started on. -/
structure Console (Termios : Type u) where
  conversation : Conversation
  terminal : Terminal.State Termios
  -- `_raw_mode` of `main` is set, and whether it holds a guard
  guard : Option Bool
  ended : Option Ending

inductive ConsoleEvent
  | talk (e : Event)
  | enter (get set : Except Errno Unit)
  | handlersJoined (set : Except Errno Unit)
  | panic (set : Except Errno Unit)
  -- `main` panics, and the guard is dropped with it
  | unwind (hook drop : Except Errno Unit)
  | exit (set : Except Errno Unit)

variable {Termios : Type u}

/-- The process of the client has been started for a request, on a terminal with the
settings `t`. -/
def Console.new (t : Termios) (prep : Prepared) : Console Termios :=
  { conversation := Launch.new prep, terminal := .new t, guard := none, ended := none }

/-- The steps that leave the terminal alone. -/
def Console.talks (s : Console Termios) : Event → Bool
  | .right _ => true
  | .left (.own (.setUp _)) => s.ended.isNone && s.guard.isSome
  | .left (.own (.serve (.handlersJoined _))) => false
  | .left _ => s.ended.isNone

/-- The value of a `Result` is not an error. -/
def isOk {α : Type} : Except Errno α → Bool
  | .ok _ => true
  | .error _ => false

def Console.step (cfmakeraw : Termios → Termios) (capacity : Nat) (s : Console Termios) :
    ConsoleEvent → Option (Console Termios)
  | .talk e =>
      if s.talks e then
        (Launch.step capacity s.conversation e).map fun conversation => { s with conversation }
      else none
  | .enter get set =>
      match s.conversation.left.pc, s.guard, s.ended with
      | .setUp, none, none =>
          if s.conversation.left.allocatePty then
            let (res, terminal) := Terminal.enter cfmakeraw s.terminal get set
            some { s with terminal, guard := some (isOk res) }
          else some { s with guard := some false }
      | _, _, _ => none
  | .handlersJoined set =>
      if s.ended.isNone then
        let (res, terminal) := Terminal.leave s.terminal set
        let joined := .left (.own (.serve (.handlersJoined (isOk res))))
        (Launch.step capacity s.conversation joined).map fun conversation =>
          { s with conversation, terminal }
      else none
  | .panic set =>
      if s.ended.isNone ∧ s.guard.isSome then
        let (res, terminal) := Terminal.leave s.terminal set
        -- `expect` in the hook
        some { s with terminal, ended := if isOk res then none else some .aborted }
      else none
  | .unwind hook drop =>
      if s.ended.isNone ∧ s.guard.isSome then
        let (res, terminal) := Terminal.leave s.terminal hook
        if isOk res ∧ s.guard = some true then
          let (res, terminal) := Terminal.leave terminal drop
          some { s with terminal, ended := some (if isOk res then .panicked else .aborted) }
        else some { s with terminal, ended := some (if isOk res then .panicked else .aborted) }
      else none
  | .exit set =>
      match s.conversation.left.exit with
      | none => none
      | some code =>
          if s.ended.isNone then
            if s.guard = some true then
              let (res, terminal) := Terminal.leave s.terminal set
              -- `expect` in `drop`; the record is empty by now, and the hook leaves it at that
              some { s with terminal, ended := some (if isOk res then .exit code else .panicked) }
            else some { s with ended := some (.exit code) }
          else none

theorem leave_orig (x : Terminal.State Termios) (set : Except Errno Unit) :
    (Terminal.leave x set).2.rawMode.orig = none := by
  obtain ⟨⟨orig⟩, terminal⟩ := x
  cases orig with
  | none => rfl
  | some orig => cases set <;> rfl

theorem leave_of_none {x : Terminal.State Termios} (h : x.rawMode.orig = none)
    (set : Except Errno Unit) : Terminal.leave x set = (.ok false, x) := by
  obtain ⟨⟨orig⟩, terminal⟩ := x
  obtain rfl : orig = none := h
  rfl

variable {cfmakeraw : Termios → Termios} {t : Termios}

theorem eq_new_of_restorable {x : Terminal.State Termios} (h : Restorable cfmakeraw t x)
    (horig : x.rawMode.orig = none) : x = .new t := by
  obtain ⟨⟨orig⟩, terminal⟩ := x
  obtain rfl : orig = none := horig
  obtain rfl : terminal = t := h
  rfl

theorem leave_eq_new {x : Terminal.State Termios} {set : Except Errno Unit}
    (h : Restorable cfmakeraw t x) (hok : isOk (Terminal.leave x set).1 = true) :
    (Terminal.leave x set).2 = .new t := by
  obtain ⟨⟨orig⟩, terminal⟩ := x
  cases orig with
  | none =>
      obtain rfl : terminal = t := h
      rfl
  | some orig =>
      obtain ⟨rfl, -⟩ := h
      cases set with
      | ok _ => rfl
      | error errno => cases hok

/-- The client returns an error. -/
def ClientMain.failed (c : ClientMain) : Bool :=
  match c.pc with
  | .err _ => true
  | .serve client => decide (client.main = .err)
  | _ => false

/-- `serve` has got beyond its `leave`, and has not failed. -/
def beyondLeave : Client.MainPc → Bool
  | .joinTasks _ | .ok _ => true
  | .awaitStatus | .joinHandlers _ | .err => false

def ClientMain.beyond (c : ClientMain) : Bool :=
  match c.pc with
  | .serve client => beyondLeave client.main
  | _ => false

/-- The process fails. -/
def Doomed (c : ClientMain) : Option Ending → Prop
  | none => c.failed = true
  | some (.exit code) => code = 255
  | some .panicked | some .aborted => True

/-- What holds of the terminal: it can be restored unless the process fails. -/
structure Consoled (cfmakeraw : Termios → Termios) (t : Termios) (prep : Prepared)
    (s : Console Termios) : Prop where
  launched : Launched prep s.conversation
  cooked : s.guard ≠ some true → s.terminal = .new t
  raw : s.guard = some true → prep.req.ptyParam.isSome = true
  serving : s.guard.isSome = true → ∃ server, s.conversation.right.pc = .serve server
  settled : Restorable cfmakeraw t s.terminal ∨
    s.terminal.rawMode.orig = none ∧ Doomed s.conversation.left s.ended
  beyond : s.conversation.left.beyond = true → s.terminal = .new t
  gone : s.ended.isSome = true → s.terminal.rawMode.orig = none

variable {prep : Prepared} {s r : Console Termios} {capacity : Nat}

theorem consoled_new : Consoled cfmakeraw t prep (Console.new t prep) :=
  ⟨launched_new prep, fun _ => rfl, nofun, nofun, Or.inl rfl, nofun, nofun⟩

theorem ClientMain.exit_of_failed {c : ClientMain} (h : c.failed = true) : c.exit = some 255 := by
  obtain ⟨pc, allocatePty, localListeners⟩ := c
  cases pc with
  | err => rfl
  | serve client =>
      have hmain : client.main = .err := of_decide_eq_true h
      simp only [ClientMain.exit, hmain]
  | sendRequest | recvResponse | setUp => cases h

theorem beyond_of_step {client client' : Client.State} {e : Client.Event}
    (hstep : Client.step client e = some client') :
    client.main ≠ .err ∧ (beyondLeave client'.main = true →
      beyondLeave client.main = true ∨ e = .handlersJoined true) := by
  obtain ⟨halive, hstepped⟩ := Client.step_spec hstep
  refine ⟨?_, ?_⟩
  · intro herr
    simp [Client.State.returned, herr] at halive
  · cases hstepped with
    | joined => exact fun _ => Or.inr rfl
    | status | noStatus | notLeft | handlersFailed | tasksFailed => exact fun h => by cases h
    | tasksJoined pc => exact fun _ => Or.inl (by rw [pc]; rfl)
    | _ => exact Or.inl

theorem client_moved {a b : Conversation} {m : Move ClientEvent}
    (hmoved : Parties.Moved client a m b) :
    a.left.failed = false ∧ b.right = a.right ∧ (b.left.beyond = true →
      a.left.beyond = true ∨ m = .own (.serve (.handlersJoined true))) := by
  obtain ⟨⟨pc, allocatePty, localListeners⟩, v, forth, back⟩ := a
  cases hmoved with
  | own hstep =>
      cases ClientMain.step_spec hstep with
      | serve hpc _ _ hserve =>
          obtain rfl : pc = _ := hpc
          obtain ⟨hnot, hbeyond⟩ := beyond_of_step hserve
          refine ⟨by simp [ClientMain.failed, hnot], rfl, fun h => (hbeyond h).imp_right ?_⟩
          rintro rfl
          rfl
      | sendFailed hpc | recvFailed hpc | setUp hpc | notSetUp hpc =>
          obtain rfl : pc = _ := hpc
          exact ⟨rfl, rfl, fun h => by cases h⟩
  | sent hoffer hsent =>
      cases ClientMain.sent_spec hoffer hsent with
      | request hpc =>
          obtain rfl : pc = _ := hpc
          exact ⟨rfl, rfl, fun h => by cases h⟩
      | action hpc _ hserve =>
          obtain rfl : pc = _ := hpc
          obtain ⟨hnot, hbeyond⟩ := beyond_of_step hserve
          exact ⟨by simp [ClientMain.failed, hnot], rfl, fun h => (hbeyond h).imp_right nofun⟩
  | receive hback hreceive =>
      cases ClientMain.receive_spec hreceive with
      | accepted hpc | rejected hpc =>
          obtain rfl : pc = _ := hpc
          exact ⟨rfl, rfl, fun h => by cases h⟩
      | action hpc hserve =>
          obtain rfl : pc = _ := hpc
          obtain ⟨hnot, hbeyond⟩ := beyond_of_step hserve
          exact ⟨by simp [ClientMain.failed, hnot], rfl, fun h => (hbeyond h).imp_right nofun⟩

theorem client_serves {a b : Conversation} {e : Event} (hstep : step capacity a e = some b)
    (hserves : ∃ client, a.left.pc = .serve client) : ∃ client, b.left.pc = .serve client := by
  cases e with
  | right m =>
      obtain ⟨r, hmove, rfl⟩ := Option.map_eq_some_iff.mp hstep
      have hsame : r.swap.left = a.left := (Parties.move_spec hmove).right_eq
      rw [hsame]
      exact hserves
  | left m =>
      obtain ⟨⟨pc, allocatePty, localListeners⟩, v, forth, back⟩ := a
      obtain ⟨client, hserve⟩ := hserves
      cases Parties.move_spec
          (show Parties.move Launch.client capacity _ m = some b from hstep) with
      | own hown =>
          cases ClientMain.step_spec hown with
          | serve => exact ⟨_, rfl⟩
          | sendFailed hpc | recvFailed hpc | setUp hpc | notSetUp hpc =>
              cases hserve.symm.trans hpc
      | sent hoffer hsent =>
          cases ClientMain.sent_spec hoffer hsent with
          | action => exact ⟨_, rfl⟩
          | request hpc => cases hserve.symm.trans hpc
      | receive hback hreceive =>
          cases ClientMain.receive_spec hreceive with
          | action => exact ⟨_, rfl⟩
          | accepted hpc | rejected hpc => cases hserve.symm.trans hpc

theorem Consoled.talk {e : Event} {conversation : Conversation}
    (h : Consoled cfmakeraw t prep s) (htalks : s.talks e = true)
    (hstep : step capacity s.conversation e = some conversation) :
    Consoled cfmakeraw t prep { s with conversation } := by
  have hlaunched := h.launched.step hstep
  cases e with
  | left m =>
      have hended : s.ended = none := by
        unfold Console.talks at htalks
        split at htalks <;> simp_all
      obtain ⟨hnot, hright, hbeyond⟩ := client_moved (Parties.move_spec hstep)
      refine ⟨hlaunched, h.cooked, h.raw, ?_, ?_, ?_, h.gone⟩
      · rw [hright]
        exact h.serving
      · refine h.settled.imp_right ?_
        rintro ⟨-, hdoomed⟩
        rw [hended, Doomed, hnot] at hdoomed
        cases hdoomed
      · intro hleft
        rcases hbeyond hleft with hbefore | rfl
        · exact h.beyond hbefore
        · cases htalks
  | right m =>
      refine ⟨hlaunched, h.cooked, h.raw, fun hguard => (serves_step hstep (h.serving hguard)).2,
        ?_, ?_, h.gone⟩
      all_goals
        obtain ⟨b, hmove, rfl⟩ := Option.map_eq_some_iff.mp hstep
        have hsame : b.swap.left = s.conversation.left := (Parties.move_spec hmove).right_eq
      · rw [hsame]
        exact h.settled
      · rw [hsame]
        exact h.beyond

theorem enter_new (get set : Except Errno Unit) :
    (∃ errno, Terminal.enter cfmakeraw (.new t) get set = (.error errno, .new t)) ∨
      Terminal.enter cfmakeraw (.new t) get set = (.ok true, ⟨⟨some t⟩, cfmakeraw t⟩) := by
  cases get with
  | error errno => exact Or.inl ⟨errno, rfl⟩
  | ok _ =>
      cases set with
      | error errno => exact Or.inl ⟨errno, rfl⟩
      | ok _ => exact Or.inr rfl

theorem Consoled.enter (h : Consoled cfmakeraw t prep s) (hguard : s.guard = none)
    (hpc : s.conversation.left.pc = .setUp) (hended : s.ended = none)
    (get set : Except Errno Unit) :
    Consoled cfmakeraw t prep
      (if s.conversation.left.allocatePty then
        { s with
          terminal := (Terminal.enter cfmakeraw s.terminal get set).2
          guard := some (isOk (Terminal.enter cfmakeraw s.terminal get set).1) }
      else { s with guard := some false }) := by
  have hterminal : s.terminal = .new t := h.cooked (by rw [hguard]; nofun)
  have happart : s.conversation.left.pc.apart = false := by rw [hpc]; rfl
  obtain ⟨server, -, -, hserve, -⟩ := h.launched.phase.serving happart
  split
  · rename_i hpty
    rw [h.launched.allocatePty] at hpty
    rw [hterminal]
    rcases enter_new get set with ⟨errno, henter⟩ | henter
    · rw [henter]
      exact ⟨h.launched, fun _ => rfl, nofun, fun _ => ⟨server, hserve⟩, Or.inl rfl,
        fun _ => rfl, fun _ => rfl⟩
    · rw [henter]
      refine ⟨h.launched, fun hnot => absurd rfl hnot, fun _ => hpty, fun _ => ⟨server, hserve⟩,
        Or.inl ⟨rfl, rfl⟩, fun hbeyond => ?_, fun hover => ?_⟩
      · rw [ClientMain.beyond, hpc] at hbeyond
        cases hbeyond
      · rw [hended] at hover
        cases hover
  · exact ⟨h.launched, fun _ => hterminal, nofun, fun _ => ⟨server, hserve⟩, h.settled, h.beyond,
      h.gone⟩

theorem Consoled.leave (h : Consoled cfmakeraw t prep s) (set : Except Errno Unit)
    (ended : Option Ending)
    (hkept : isOk (Terminal.leave s.terminal set).1 = true →
      Doomed s.conversation.left s.ended → Doomed s.conversation.left ended)
    (hfailed : isOk (Terminal.leave s.terminal set).1 = false → Doomed s.conversation.left ended) :
    Consoled cfmakeraw t prep { s with terminal := (Terminal.leave s.terminal set).2, ended } := by
  have horig := leave_orig s.terminal set
  have hsame (hnew : s.terminal = .new t) : (Terminal.leave s.terminal set).2 = .new t := by
    rw [leave_of_none (by rw [hnew]; rfl)]
    exact hnew
  refine ⟨h.launched, fun hguard => hsame (h.cooked hguard), h.raw, h.serving, ?_,
    fun hbeyond => hsame (h.beyond hbeyond), fun _ => horig⟩
  cases hok : isOk (Terminal.leave s.terminal set).1 with
  | false => exact Or.inr ⟨horig, hfailed hok⟩
  | true =>
      rcases h.settled with hrestorable | ⟨-, hdoomed⟩
      · left
        rw [leave_eq_new hrestorable hok]
        rfl
      · exact Or.inr ⟨horig, hkept hok hdoomed⟩

theorem client_joined {a b : Conversation} {left : Bool}
    (hstep : Launch.step capacity a (.left (.own (.serve (.handlersJoined left)))) = some b) :
    b.left.failed = !left ∧ b.left.beyond = left := by
  have hmove : Parties.move client capacity a (.own (.serve (.handlersJoined left))) = some b :=
    hstep
  obtain ⟨⟨pc, allocatePty, localListeners⟩, v, forth, back⟩ := a
  cases Parties.move_spec hmove with
  | @own _ c hown =>
      have hclient : ClientMain.step ⟨pc, allocatePty, localListeners⟩
        (.serve (.handlersJoined left)) = some c := hown
      cases ClientMain.step_spec hclient with
      | serve hpc _ _ hserve =>
          cases (Client.step_spec hserve).2 with
          | joined => exact ⟨rfl, rfl⟩
          | notLeft => exact ⟨rfl, rfl⟩

theorem Consoled.joined {set : Except Errno Unit} {conversation : Conversation}
    (h : Consoled cfmakeraw t prep s) (hended : s.ended = none)
    (hstep : Launch.step capacity s.conversation
      (.left (.own (.serve (.handlersJoined (isOk (Terminal.leave s.terminal set).1))))) =
        some conversation) :
    Consoled cfmakeraw t prep
      { s with conversation, terminal := (Terminal.leave s.terminal set).2 } := by
  have hmove : Parties.move client capacity s.conversation
      (.own (.serve (.handlersJoined (isOk (Terminal.leave s.terminal set).1)))) =
        some conversation := hstep
  obtain ⟨hnot, hright, -⟩ := client_moved (Parties.move_spec hmove)
  obtain ⟨hfailed, hbeyond⟩ := client_joined hstep
  have horig := leave_orig s.terminal set
  have hrestorable : Restorable cfmakeraw t s.terminal := by
    refine h.settled.resolve_right ?_
    rintro ⟨-, hdoomed⟩
    rw [hended, Doomed, hnot] at hdoomed
    cases hdoomed
  refine ⟨h.launched.step hstep, ?_, h.raw, ?_, ?_, ?_, fun _ => horig⟩
  · intro hguard
    have hnew := h.cooked hguard
    rw [leave_of_none (by rw [hnew]; rfl)]
    exact hnew
  · rw [hright]
    exact h.serving
  · cases hok : isOk (Terminal.leave s.terminal set).1 with
    | true =>
        left
        rw [leave_eq_new hrestorable hok]
        rfl
    | false =>
        rw [hok] at hfailed
        refine Or.inr ⟨horig, ?_⟩
        rw [hended]
        exact hfailed
  · intro hgone
    exact leave_eq_new hrestorable (hbeyond.symm.trans hgone)

theorem Consoled.step {e : ConsoleEvent} (h : Consoled cfmakeraw t prep s)
    (hstep : s.step cfmakeraw capacity e = some r) : Consoled cfmakeraw t prep r := by
  cases e with
  | talk e =>
      simp only [Console.step] at hstep
      split at hstep
      · rename_i htalks
        obtain ⟨conversation, hconversation, rfl⟩ := Option.map_eq_some_iff.mp hstep
        exact h.talk htalks hconversation
      · cases hstep
  | enter get set =>
      simp only [Console.step] at hstep
      split at hstep
      · rename_i hpc hguard hended
        have hentered := h.enter hguard hpc hended get set
        split at hstep
        · rename_i hpty
          rw [if_pos hpty] at hentered
          obtain rfl := Option.some.inj hstep
          exact hentered
        · rename_i hpty
          rw [if_neg hpty] at hentered
          obtain rfl := Option.some.inj hstep
          exact hentered
      · cases hstep
  | handlersJoined set =>
      simp only [Console.step] at hstep
      split at hstep
      · rename_i hended
        obtain ⟨conversation, hconversation, rfl⟩ := Option.map_eq_some_iff.mp hstep
        exact h.joined (Option.isNone_iff_eq_none.mp hended) hconversation
      · cases hstep
  | panic set =>
      simp only [Console.step] at hstep
      split at hstep
      · rename_i hrunning
        obtain rfl := Option.some.inj hstep
        refine h.leave set _ ?_ ?_
        · intro hok hdoomed
          rw [if_pos hok, ← Option.isNone_iff_eq_none.mp hrunning.1]
          exact hdoomed
        · intro hok
          rw [hok]
          trivial
      · cases hstep
  | unwind hook drop =>
      simp only [Console.step] at hstep
      split at hstep
      · rename_i hrunning
        have hpanics (b : Bool) :
            Doomed s.conversation.left (some (if b then .panicked else .aborted)) := by
          cases b <;> trivial
        split at hstep
        · -- the hook comes first, and the guard is dropped as the stack is unwound
          rename_i hok
          obtain rfl := Option.some.inj hstep
          have hhook := h.leave hook (some .panicked) (fun _ _ => trivial) fun _ => trivial
          exact hhook.leave drop _ (fun _ _ => hpanics _) fun _ => hpanics _
        · obtain rfl := Option.some.inj hstep
          exact h.leave hook _ (fun _ _ => hpanics _) fun _ => hpanics _
      · cases hstep
  | exit set =>
      simp only [Console.step] at hstep
      split at hstep
      · cases hstep
      · rename_i code hexit
        split at hstep
        · rename_i hended
          have hcode (hdoomed : Doomed s.conversation.left s.ended) : code = 255 := by
            rw [Option.isNone_iff_eq_none.mp hended] at hdoomed
            rw [ClientMain.exit_of_failed hdoomed] at hexit
            exact (Option.some.inj hexit).symm
          split at hstep
          · obtain rfl := Option.some.inj hstep
            refine h.leave set _ ?_ ?_
            · intro hok hdoomed
              rw [if_pos hok]
              exact hcode hdoomed
            · intro hok
              rw [hok]
              trivial
          · rename_i hguard
            obtain rfl := Option.some.inj hstep
            have hnew := h.cooked hguard
            refine ⟨h.launched, h.cooked, h.raw, h.serving, Or.inl ?_, h.beyond, fun _ => ?_⟩
            · rw [hnew]
              rfl
            · rw [hnew]
              rfl
        · cases hstep

theorem consoled_of_reach {ok : Console Termios → ConsoleEvent → Prop}
    (h : Reach (Console.step cfmakeraw capacity) ok (Console.new t prep) s) :
    Consoled cfmakeraw t prep s :=
  h.invariant consoled_new fun _ _ _ _ hconsoled _ hstep => hconsoled.step hstep

theorem cooked_step {e : ConsoleEvent} (hserves : ∃ client, s.conversation.left.pc = .serve client)
    (hnew : s.terminal = .new t) (hstep : s.step cfmakeraw capacity e = some r) :
    (∃ client, r.conversation.left.pc = .serve client) ∧ r.terminal = .new t := by
  have hleave (set : Except Errno Unit) : Terminal.leave s.terminal set = (.ok false, .new t) := by
    rw [leave_of_none (by rw [hnew]; rfl), hnew]
  cases e with
  | talk e =>
      simp only [Console.step] at hstep
      split at hstep
      · obtain ⟨conversation, hconversation, rfl⟩ := Option.map_eq_some_iff.mp hstep
        exact ⟨client_serves hconversation hserves, hnew⟩
      · cases hstep
  | enter get set =>
      obtain ⟨client, hserve⟩ := hserves
      simp only [Console.step, hserve] at hstep
      cases hstep
  | handlersJoined set =>
      simp only [Console.step, hleave] at hstep
      split at hstep
      · obtain ⟨conversation, hconversation, rfl⟩ := Option.map_eq_some_iff.mp hstep
        exact ⟨client_serves hconversation hserves, rfl⟩
      · cases hstep
  | panic set =>
      simp only [Console.step, hleave] at hstep
      split at hstep
      · obtain rfl := Option.some.inj hstep
        exact ⟨hserves, rfl⟩
      · cases hstep
  | unwind hook drop =>
      have hdrop : Terminal.leave (.new t) drop = (.ok false, .new t) := leave_of_none rfl drop
      simp only [Console.step, hleave, hdrop] at hstep
      split at hstep
      · split at hstep
        · obtain rfl := Option.some.inj hstep
          exact ⟨hserves, rfl⟩
        · obtain rfl := Option.some.inj hstep
          exact ⟨hserves, rfl⟩
      · cases hstep
  | exit set =>
      simp only [Console.step, hleave] at hstep
      split at hstep
      · cases hstep
      · split at hstep
        · split at hstep
          · obtain rfl := Option.some.inj hstep
            exact ⟨hserves, rfl⟩
          · obtain rfl := Option.some.inj hstep
            exact ⟨hserves, hnew⟩
        · cases hstep

theorem ClientMain.serves_of_beyond {c : ClientMain} (h : c.beyond = true) :
    ∃ client, c.pc = .serve client := by
  unfold ClientMain.beyond at h
  split at h
  · exact ⟨_, ‹_›⟩
  · cases h

/-- A client that exits with anything but 255 has restored the terminal, whatever failed or
panicked before; its settings differ only while the server has a process on a pty for it; and
they never do again once `leave` in `serve` has succeeded. -/
theorem restored_at_exit (cfmakeraw : Termios → Termios) (t : Termios) (capacity : Nat)
    (prep : Prepared) (s : Console Termios)
    (h : Reach (Console.step cfmakeraw capacity) Any (Console.new t prep) s) :
    (∀ code, s.ended = some (.exit code) → code ≠ 255 → s.terminal = .new t) ∧
    (s.terminal ≠ .new t → ∃ server p winsz, s.conversation.right.pc = .serve server ∧
      s.conversation.right.processes = [p] ∧ p.pty = some winsz) ∧
    (s.conversation.left.beyond = true → ∀ r, Reach (Console.step cfmakeraw capacity) Any s r →
      r.terminal = .new t) := by
  have hs := consoled_of_reach h
  refine ⟨?_, ?_, ?_⟩
  · intro code hended hcode
    have horig : s.terminal.rawMode.orig = none := hs.gone (by rw [hended]; rfl)
    rcases hs.settled with hrestorable | ⟨-, hdoomed⟩
    · exact eq_new_of_restorable hrestorable horig
    · rw [hended] at hdoomed
      exact absurd hdoomed hcode
  · intro hne
    have hguard : s.guard = some true := by
      by_contra hnot
      exact hne (hs.cooked hnot)
    obtain ⟨server, hserve⟩ := hs.serving (by rw [hguard]; rfl)
    obtain ⟨p, hprocesses⟩ := hs.launched.process hserve
    obtain ⟨param, hparam⟩ := Option.isSome_iff_exists.mp (hs.raw hguard)
    have hp : p ∈ s.conversation.right.processes := by
      rw [hprocesses]
      exact List.mem_singleton_self p
    have hpty := hs.launched.pty hp (Or.inr ⟨server, hserve⟩)
    rw [winsizeOf, hparam] at hpty
    exact ⟨server, p, _, hserve, hprocesses, hpty⟩
  · intro hbeyond r hr
    have hkept := hr.invariant (P := fun r => (∃ client, r.conversation.left.pc = .serve client) ∧
      r.terminal = .new t) ⟨ClientMain.serves_of_beyond hbeyond, hs.beyond hbeyond⟩
      fun _ _ _ _ hbefore _ hstep => cooked_step hbefore.1 hbefore.2 hstep
    exact hkept.2

/-- The client has asked for a pty and is answered; it enters raw mode and begins to serve. -/
def entered : List (ConsoleEvent) :=
  [.talk (.left .sent), .talk (.right .receive), .talk (.right (.own (.handle someSystem))),
    .talk (.right .sent), .talk (.left .receive), .enter (.ok ()) (.ok ()),
    .talk (.left (.own (.setUp (.ok ()))))]

/-- What a step of the session is for the terminal. -/
def settle : Session.Event → ConsoleEvent
  | .client (.side (.sender .sent)) => .talk (.left .sent)
  | .client (.receive _) => .talk (.left .receive)
  | .client (.handlersJoined _) => .handlersJoined (.ok ())
  | .client e => .talk (.left (.own (.serve e)))
  | .server (.side (.sender .sent)) => .talk (.right .sent)
  | .server (.receive _) => .talk (.right .receive)
  | .server e => .talk (.right (.own (.serve e)))

/-- The shell exits at once, and the connection fails when that is heard. -/
def loggedOut : List Session.Event :=
  Session.passDown (.stream (.source .stderr .sourceClosed)) ++
  [.server (.childExited (.code 0)), .server .mainSent, .server .mainSent,
    .server (.side (.source .stdout (.read (.ok [])))), .server (.side (.source .stdout .sent))] ++
  Session.passDown (.stream (.sink .stdin .sinkClosed)) ++ Session.passDown (.exit (.code 0)) ++
  Session.passDown (.stream (.source .stdout .sourceClosed)) ++
  [.client .status, .client .windowEnd,
    .client (.side (.sink .stdout .recv)), .client (.side (.sink .stdout .shutdownDone)),
    .client (.side (.sink .stderr .recv)), .client (.side (.sink .stderr .shutdownDone)),
    .client (.side (.source .stdin .recv)), .client (.side (.source .stdin .sent)),
    .client (.handlersJoined true), .client (.side (.sender .recv)),
    .client (.side (.sender .failed)), .client (.side (.sender .recvNone)),
    .client (.side (.receiver (.abort true [.stdout, .stderr] [.stdin]))),
    .client (.side (.receiver .shutdownSink)), .client (.side (.receiver .shutdownSink)),
    .client (.side (.receiver .shutdownSource)), .client .leave, .client .tasksJoined]

/-- The settings of a terminal at which a line is edited. -/
def cooked : Terminal.Flags := ⟨true, true, true, true⟩

theorem restored_at_exit_loggedOut :
    ∃ s, run (Console.step Terminal.Flags.makeRaw 1) (Console.new cooked login)
        (entered ++ loggedOut.map settle ++ [.exit (.ok ())]) = some s ∧
      s.ended = some (.exit 0) ∧ s.terminal = .new cooked := by
  have hrun : (run (Console.step Terminal.Flags.makeRaw 1) (Console.new cooked login)
      (entered ++ loggedOut.map settle ++ [.exit (.ok ())])).any (fun s =>
        decide (s.ended = some (.exit 0))) = true := by decide +kernel
  obtain ⟨s, hs, hfacts⟩ := (Option.any_eq_true _ _).mp hrun
  have hended := of_decide_eq_true hfacts
  obtain ⟨hexit, -⟩ := restored_at_exit Terminal.Flags.makeRaw cooked 1 login s (reach_of_run hs)
  exact ⟨s, hs, hended, hexit 0 hended (by decide)⟩

/-- No `leave` of raw mode fails with the step. -/
def Console.restoring (s : Console Termios) : ConsoleEvent → Bool
  | .handlersJoined set | .panic set | .unwind set _ | .exit set =>
      isOk set || !s.terminal.rawMode.isRawMode
  | .talk _ | .enter _ _ => true

def Console.Restoring (s : Console Termios) (e : ConsoleEvent) : Prop :=
  s.restoring e = true

theorem restorable_leave {x : Terminal.State Termios} {set : Except Errno Unit}
    (h : Restorable cfmakeraw t x) (hset : (isOk set || !x.rawMode.isRawMode) = true) :
    Restorable cfmakeraw t (Terminal.leave x set).2 := by
  refine ((Terminal.kept_leave_iff h set).mpr ?_).restorable
  rintro errno rfl
  simpa [isOk] using hset

theorem restorable_step {e : ConsoleEvent} (h : Restorable cfmakeraw t s.terminal)
    (hrestoring : s.Restoring e) (hstep : s.step cfmakeraw capacity e = some r) :
    Restorable cfmakeraw t r.terminal := by
  cases e with
  | talk e =>
      simp only [Console.step] at hstep
      split at hstep
      · obtain ⟨conversation, -, rfl⟩ := Option.map_eq_some_iff.mp hstep
        exact h
      · cases hstep
  | enter get set =>
      simp only [Console.step] at hstep
      split at hstep
      · split at hstep
        · obtain rfl := Option.some.inj hstep
          exact (Terminal.kept_enter h get set).restorable
        · obtain rfl := Option.some.inj hstep
          exact h
      · cases hstep
  | handlersJoined set =>
      simp only [Console.step] at hstep
      split at hstep
      · obtain ⟨conversation, -, rfl⟩ := Option.map_eq_some_iff.mp hstep
        exact restorable_leave h hrestoring
      · cases hstep
  | panic set =>
      simp only [Console.step] at hstep
      split at hstep
      · obtain rfl := Option.some.inj hstep
        exact restorable_leave h hrestoring
      · cases hstep
  | unwind hook drop =>
      have hhook := restorable_leave h hrestoring
      simp only [Console.step] at hstep
      split at hstep
      · split at hstep
        · obtain rfl := Option.some.inj hstep
          have hdrop := leave_of_none (leave_orig s.terminal hook) drop
          simp only [hdrop]
          exact hhook
        · obtain rfl := Option.some.inj hstep
          exact hhook
      · cases hstep
  | exit set =>
      simp only [Console.step] at hstep
      split at hstep
      · cases hstep
      · split at hstep
        · split at hstep
          · obtain rfl := Option.some.inj hstep
            exact restorable_leave h hrestoring
          · obtain rfl := Option.some.inj hstep
            exact h
        · cases hstep

/-- As long as no `leave` of raw mode fails, the terminal is restored when the process of the
client ends, whether it exits or panics. -/
theorem restored_at_end (cfmakeraw : Termios → Termios) (t : Termios) (capacity : Nat)
    (prep : Prepared) (s : Console Termios)
    (h : Reach (Console.step cfmakeraw capacity) Console.Restoring (Console.new t prep) s)
    (hended : s.ended.isSome = true) : s.terminal = .new t := by
  have hnew : Restorable cfmakeraw t (Console.new t prep).terminal := rfl
  have hrestorable := h.invariant (P := fun r => Restorable cfmakeraw t r.terminal) hnew
    fun _ _ _ _ hbefore hrestoring hstep => restorable_step hbefore hrestoring hstep
  exact eq_new_of_restorable hrestorable ((consoled_of_reach h).gone hended)

instance (s : Console Termios) (e : ConsoleEvent) : Decidable (s.Restoring e) :=
  inferInstanceAs (Decidable (s.restoring e = true))

theorem restored_at_end_panicking :
    ∃ s, run (guarded (Console.step Terminal.Flags.makeRaw 1) Console.Restoring)
        (Console.new cooked login)
        (entered ++ [.panic (.ok ()), .unwind (.error 5) (.ok ())]) = some s ∧
      s.ended = some .panicked ∧ s.terminal = .new cooked := by
  have hrun : (run (guarded (Console.step Terminal.Flags.makeRaw 1) Console.Restoring)
      (Console.new cooked login)
      (entered ++ [.panic (.ok ()), .unwind (.error 5) (.ok ())])).any (fun s =>
        decide (s.ended = some .panicked)) = true := by decide +kernel
  obtain ⟨s, hs, hfacts⟩ := (Option.any_eq_true _ _).mp hrun
  have hended := of_decide_eq_true hfacts
  have hnew := restored_at_end Terminal.Flags.makeRaw cooked 1 login s (reach_of_guarded hs).2
    (by rw [hended]; rfl)
  exact ⟨s, hs, hended, hnew⟩

end Rlirsh.Launch
