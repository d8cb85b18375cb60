import Rlirsh.Session.Ending
import Rlirsh.Terminal

namespace Rlirsh.Session

open Rlirsh.Protocol
open Rlirsh.Net
open Rlirsh.Lib.Machine
open Rlirsh.Stream
open Rlirsh.Execute
open Rlirsh.Terminal (Winsize PtyMaster setWindowSize)

/-- The sizes among the messages. -/
def sizes (ms : List ClientAction) : List WindowSize :=
  ms.filterMap fun
    | .windowSizeChange ws => some ws
    | .stream _ | .finished => none

/-- The sizes the window change task has read. -/
def signalled (es : List Event) : List WindowSize :=
  es.filterMap fun
    | .client (.windowSignal (some ws)) => some ws
    | _ => none

/-- The size the window change task has in hand. -/
def pendingSize (c : Client.State) : List WindowSize :=
  match c.window with
  | some (.send ws) => [ws]
  | _ => []

/-- The calls of `set_window_size` for the sizes, each with what it returns. -/
def calls (p : PtyMaster) (asked : List WindowSize) : List (Winsize × Except Report Unit) :=
  asked.zipIdx.map fun (ws, n) => (setWindowSize ws.width ws.height, p.tiocswinsz n)

/-- The call has succeeded. -/
def isSet : Winsize × Except Report Unit → Bool
  | (_, .ok _) => true
  | (_, .error _) => false

/-- The size of the last call that has succeeded. -/
def lastSet (p : PtyMaster) (asked : List WindowSize) : Winsize :=
  (((calls p asked).filter isSet).map Prod.fst).getLastD p.winsz

/-- The pty after the calls for the sizes, with the calls to come. -/
def sized (p : PtyMaster) (asked : List WindowSize) : PtyMaster :=
  { winsz := lastSet p asked, tiocswinsz := fun n => p.tiocswinsz (asked.length + n) }

@[simp] theorem sized_nil (p : PtyMaster) : sized p [] = p := by
  simp only [sized, lastSet, calls, List.length_nil, Nat.zero_add]
  rfl

theorem calls_snoc (p : PtyMaster) (asked : List WindowSize) (ws : WindowSize) :
    calls p (asked ++ [ws]) =
      calls p asked ++ [(setWindowSize ws.width ws.height, p.tiocswinsz asked.length)] := by
  simp [calls, List.zipIdx_append]

/-- What the receiver makes of one more size: the pty takes it, or a warning is logged. -/
theorem resize_sized (p : PtyMaster) (asked : List WindowSize) (ws : WindowSize) :
    Server.resize (some (sized p asked)) ws = (some (sized p (asked ++ [ws])),
      if isSet (setWindowSize ws.width ws.height, p.tiocswinsz asked.length) then []
      else [.notSet]) := by
  have htail : (fun n => p.tiocswinsz (asked.length + (n + 1))) =
      fun n => p.tiocswinsz ((asked ++ [ws]).length + n) := by
    funext n
    rw [List.length_append, List.length_singleton, Nat.add_assoc, Nat.add_comm n 1]
  have hlast : lastSet p (asked ++ [ws]) =
      if isSet (setWindowSize ws.width ws.height, p.tiocswinsz asked.length) then
        setWindowSize ws.width ws.height else lastSet p asked := by
    rw [lastSet, calls_snoc, List.filter_append, List.map_append]
    by_cases hset : isSet (setWindowSize ws.width ws.height, p.tiocswinsz asked.length) = true
    · rw [if_pos hset, List.filter_cons_of_pos hset]
      exact List.getLastD_concat
    · rw [if_neg hset, List.filter_cons_of_neg hset, List.filter_nil, List.map_nil,
        List.append_nil]
      rfl
  simp only [Server.resize, PtyMaster.setWindowSize, sized, Nat.add_zero, htail, hlast]
  cases hcall : p.tiocswinsz asked.length with
  | ok u => rfl
  | error chain => rfl

@[simp] theorem sizes_append (ms ns : List ClientAction) :
    sizes (ms ++ ns) = sizes ms ++ sizes ns :=
  List.filterMap_append

/-- What has become of the pty of the server, and what has been logged. -/
structure Sized (pty : Option PtyMaster) (v : Server.State) : Prop where
  some : ∀ p, pty = some p → v.ptyMaster = some (sized p (sizes v.received)) ∧
    v.warnings = List.replicate
      ((calls p (sizes v.received)).countP fun call => !isSet call) .notSet
  none : pty = none → v.ptyMaster = none ∧
    v.warnings = List.replicate (sizes v.received).length .notAllocated

theorem sized_new (pty : Option PtyMaster) (connectAddrs : List (SocketAddrs SocketAddr)) :
    Sized pty (Server.new pty connectAddrs) where
  some p hp := by
    rw [hp]
    exact ⟨congrArg Option.some (sized_nil p).symm, rfl⟩
  none hnone := ⟨hnone, rfl⟩

theorem Sized.frame {pty : Option PtyMaster} {v w : Server.State} (h : Sized pty v)
    (hpty : w.ptyMaster = v.ptyMaster) (hwarnings : w.warnings = v.warnings)
    (hsizes : sizes w.received = sizes v.received) : Sized pty w := by
  refine ⟨fun p hp => ?_, fun hnone => ?_⟩
  · rw [hpty, hwarnings, hsizes]
    exact h.some p hp
  · rw [hpty, hwarnings, hsizes]
    exact h.none hnone

theorem Sized.step {pty : Option PtyMaster} {v w : Server.State} {e : Server.Event}
    (h : Sized pty v) (hstep : Server.Stepped v e w) : Sized pty w := by
  cases hstep with
  | @windowSizeChange ws =>
      have hsizes : sizes (v.received ++ [.windowSizeChange ws]) = sizes v.received ++ [ws] :=
        sizes_append _ _
      refine ⟨fun p hp => ?_, fun hnone => ?_⟩
      · obtain ⟨hpty, hwarnings⟩ := h.some p hp
        simp only [hsizes, hpty, hwarnings, resize_sized, calls_snoc, List.countP_append,
          List.countP_singleton, true_and]
        by_cases hset : isSet (setWindowSize ws.width ws.height,
            p.tiocswinsz (sizes v.received).length) = true
        · simp [hset]
        · simp [hset, List.replicate_succ']
      · obtain ⟨hpty, hwarnings⟩ := h.none hnone
        simp only [hsizes, hpty, hwarnings, Server.resize, List.length_append,
          List.length_singleton, List.replicate_succ', true_and]
  | take => exact h.frame rfl rfl ((sizes_append _ _).trans (List.append_nil _))
  | finished => exact h.frame rfl rfl ((sizes_append _ _).trans (List.append_nil _))
  | _ => exact h.frame rfl rfl rfl

theorem sizes_of_plain {ms : List ClientAction}
    (h : ∀ m ∈ ms, m = Message.finished ∨ ∃ action, m = Message.stream action) :
    sizes ms = [] := by
  apply List.filterMap_eq_nil_iff.mpr
  intro m hm
  rcases h m hm with rfl | ⟨action, rfl⟩ <;> rfl

/-- What the window change task has read is enqueued, but for what it has in hand; without
a pty there is no such task. -/
structure Signalling (pty : Option PtyMaster) (es : List Event) (s : State) : Prop where
  transit : Transit s
  sized : Sized pty s.server
  enqueued : signalled es = sizes s.client.side.log ++ pendingSize s.client
  window : pty = none → s.client.window = none
  silent : pty = none → signalled es = []

variable {capacity : Nat} {pty : Option PtyMaster} {ports : List Port} {s t : State}
  {es : List Event}

theorem Signalling.step {e : Event} (h : Signalling pty es s)
    (hstep : Session.step capacity s e = some t) : Signalling pty (es ++ [e]) t := by
  have htransit := h.transit.step hstep
  have hsignalled : signalled (es ++ [e]) = signalled es ++ signalled [e] :=
    List.filterMap_append
  cases e with
  | server e =>
      obtain ⟨hstepped, -, -, hclient⟩ := server_spec hstep
      refine ⟨htransit, h.sized.step hstepped, ?_, ?_, fun hpty => ?_⟩
      · rw [hsignalled, h.enqueued, hclient]
        exact List.append_nil _
      · rw [hclient]
        exact h.window
      · rw [hsignalled, h.silent hpty]
        rfl
  | client e =>
      obtain ⟨hstepped, -, -, -, hserver⟩ := client_spec hstep
      suffices henqueued : signalled es ++ signalled [.client e] =
          sizes t.client.side.log ++ pendingSize t.client ∧
            (s.client.window = none → t.client.window = none ∧ signalled [.client e] = []) from
        ⟨htransit, hserver ▸ h.sized, hsignalled.trans henqueued.1,
          fun hpty => (henqueued.2 (h.window hpty)).1,
          fun hpty => by rw [hsignalled, h.silent hpty, (henqueued.2 (h.window hpty)).2]; rfl⟩
      rw [h.enqueued]
      have hkept := h.transit.client
      generalize t.client = d at hstepped
      cases hstepped with
      | side step =>
          obtain ⟨ms, hlog, hms⟩ := Side.log_step step
          refine ⟨?_, fun hnone => ⟨hnone, rfl⟩⟩
          simp only [hlog, sizes_append, sizes_of_plain hms, List.append_nil]
          exact List.append_nil _
      | signal pc =>
          refine ⟨?_, fun hnone => by rw [hnone] at pc; cases pc⟩
          simp only [pendingSize, pc, List.append_nil]
          rfl
      | windowSent pc _ _ =>
          refine ⟨?_, fun hnone => by rw [hnone] at pc; cases pc⟩
          simp only [pendingSize, pc, Side.enqueued, sizes_append, List.append_nil]
          exact List.append_nil _
      | windowSendFailed pc gone =>
          -- the queue is not closed as long as the task holds a clone of its sender
          have hclosing : s.client.side.closing = true := by
            cases hsender : s.client.side.sender <;> simp_all [Side.queueGone, Side.closing]
          have hheld := (hkept.sender.closed hclosing).2.2
          simp [Client.State.windowEnded, pc] at hheld
      | windowEnd pc _ =>
          refine ⟨?_, fun hnone => by rw [hnone] at pc; cases pc⟩
          simp only [pendingSize, pc, List.append_nil]
          exact List.append_nil _
      | _ => exact ⟨List.append_nil _, fun hnone => ⟨hnone, rfl⟩⟩

theorem signalling_of_run (hrun : run (Session.step capacity) (new pty ports) es = some s) :
    Signalling pty es s := by
  apply run_history hrun (P := fun es s => Signalling pty es s)
  · refine ⟨transit_new pty ports, sized_new _ _, ?_, ?_, fun _ => rfl⟩
    · cases pty <;> rfl
    · rintro rfl
      rfl
  · intro es a e b h hstep
    exact h.step hstep

/-- The pty of the child has the size of the window of the client, as the window change task
has read it and the pty has accepted it.  Whatever happens to the connection, the sizes come
in order, and without a pty none is sent; when the client has been heard out none is
missing. -/
theorem resized (capacity : Nat) (pty : Option PtyMaster) (ports : List Port) (es : List Event)
    (s : State) (hrun : run (Session.step capacity) (new pty ports) es = some s) :
    sizes s.server.received <+: signalled es ∧
      (s.server.side.receiver = .done true → sizes s.server.received = signalled es) ∧
      (∀ p, pty = some p →
        s.server.ptyMaster = some (sized p (sizes s.server.received)) ∧
        s.server.warnings = List.replicate
          ((calls p (sizes s.server.received)).countP fun call => !isSet call) .notSet) ∧
      (pty = none → sizes s.client.side.log = [] ∧ s.server.ptyMaster = none ∧
        s.server.warnings = []) := by
  obtain ⟨htransit, hsized, henqueued, -, hsilent⟩ := signalling_of_run hrun
  have hpre : sizes s.server.received <+: signalled es := by
    rw [henqueued, htransit.up]
    simp only [sizes_append, List.append_assoc]
    exact List.prefix_append _ _
  refine ⟨hpre, fun hdone => ?_, hsized.some, fun hnone => ?_⟩
  · obtain ⟨hfinished, hall, -⟩ :=
      (settled_of_reach (reach_of_run hrun)).server_received hdone
    have hheld := (quiet_of_finished htransit.client hfinished).2.2
    have hpending : pendingSize s.client = [] := by
      unfold pendingSize
      split
      · rename_i pc
        simp [Client.State.windowEnded, pc] at hheld
      · rfl
    rw [henqueued, hpending, List.append_nil, hall]
  · obtain ⟨hpty, hwarnings⟩ := hsized.none hnone
    rw [hsilent hnone] at henqueued hpre
    rw [List.prefix_nil.mp hpre] at hwarnings
    exact ⟨(List.append_eq_nil_iff.mp henqueued.symm).1, hpty, hwarnings⟩

/-- A pty that refuses the second size. -/
def refusing : PtyMaster :=
  { winsz := setWindowSize 80 24
    tiocswinsz := fun
      | 1 => .error ["Invalid argument (os error 22)"]
      | _ => .ok () }

/-- The window becomes larger, twice, and the server hears of it. -/
def enlarging : List Event :=
  [.client (.windowSignal (some ⟨100, 30⟩)), .client .windowSent] ++
    passUp (.windowSizeChange ⟨100, 30⟩) ++
  [.client (.windowSignal (some ⟨132, 50⟩)), .client .windowSent] ++
    passUp (.windowSizeChange ⟨132, 50⟩)

theorem resized_enlarging :
    ∃ s, run (Session.step 1) (new (some refusing) []) enlarging = some s ∧
      s.server.ptyMaster.map PtyMaster.winsz = some (setWindowSize 100 30) ∧
      s.server.warnings = [.notSet] := by
  have hrun : (run (Session.step 1) (new (some refusing) []) enlarging).any (fun s =>
      decide (s.server.received =
        [.windowSizeChange ⟨100, 30⟩, .windowSizeChange ⟨132, 50⟩])) = true := by decide +kernel
  obtain ⟨s, hs, hreceived⟩ := (Option.any_eq_true _ _).mp hrun
  have hreceived := of_decide_eq_true hreceived
  obtain ⟨-, -, hsized, -⟩ := resized 1 (some refusing) [] enlarging s hs
  obtain ⟨hpty, hwarnings⟩ := hsized refusing rfl
  refine ⟨s, hs, ?_, ?_⟩
  · rw [hpty, hreceived]
    decide
  · rw [hwarnings, hreceived]
    decide

end Rlirsh.Session
