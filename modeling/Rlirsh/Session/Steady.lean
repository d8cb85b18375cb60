import Rlirsh.Session.Parting
import Rlirsh.Stream.Progress

namespace Rlirsh.Session

open Rlirsh.Protocol
open Rlirsh.Terminal (PtyMaster)
open Rlirsh.Lib
open Rlirsh.Lib.Machine
open Rlirsh.Stream
open Rlirsh.Execute

/-- `child.wait` does not fail, and neither does `raw_mode::leave`, with which the client
would end and its connection with it. -/
def unfailing : Event → Bool
  | .server .waitFailed | .client (.handlersJoined false) => false
  | _ => true

def Steady (s : State) (e : Event) : Prop := Reliable s e ∧ unfailing e = true

instance (s : State) (e : Event) : Decidable (Steady s e) :=
  inferInstanceAs (Decidable (_ ∧ _))

variable {capacity : Nat} {pty : Option PtyMaster} {s t : State} {id : StreamId}

theorem Forwarding.not_connecter (h : Forwarding [] s) (action : ConnecterAction) :
    .connecter id action ∉ s.server.side.view.log := by
  intro hmem
  obtain ⟨port, conn, -, hport⟩ := h.server.numbered id _ hmem
  exact absurd hport List.not_mem_nil

theorem Forwarding.client_standard (h : Forwarding [] s) (huses : s.client.side.ports.uses id) :
    id.isForward = false := by
  apply Bool.eq_false_iff.mpr
  intro hid
  obtain ⟨port, conn, rfl⟩ := exists_forward hid
  obtain ⟨hacc, -⟩ := h.client.used port conn huses
  exact h.not_connecter _ (h.transit.fifo.2.subset hacc)

theorem Forwarding.server_standard (h : Forwarding [] s) (huses : s.server.side.ports.uses id) :
    id.isForward = false := by
  apply Bool.eq_false_iff.mpr
  intro hid
  obtain ⟨port, conn, rfl⟩ := exists_forward hid
  exact h.not_connecter _ (h.server.used port conn huses)

theorem Forwarding.client_listeners (h : Forwarding [] s) (port : PortId) :
    s.client.side.listeners.get port = none := by
  rw [← Option.not_isSome_iff_eq_none]
  intro hsome
  exact absurd ((h.client.present port).mp hsome) List.not_mem_nil

theorem Forwarding.attended (h : Forwarding [] s) {e : Event} (hok : Reliable s e) :
    Attended s e := by
  refine ⟨hok, ?_⟩
  unfold awake
  split
  · split
    · rename_i port conn _
      refine Bool.not_eq_true' _ ▸ decide_eq_false ?_
      rintro ⟨a, ha, -⟩
      have hnone := h.client_listeners port
      rw [show s.client.side.listeners.get port = some a from ha] at hnone
      cases hnone
    · rfl
  · rfl

theorem Forwarding.client_sink (h : Forwarding [] s) {t : Source.Task}
    (get : s.server.side.sources.get id = some t) :
    ∃ u, s.client.side.sinks.get id = some u := by
  have hsource := Side.sources_of_get get
  have hid := h.server_standard (Or.inr (Or.inr (Or.inl hsource)))
  exact Option.isSome_iff_exists.mp ((h.clientStreams.sinks id hid).mpr
    ((h.serverStreams.sources id hid).mp hsource))

theorem Forwarding.server_source (h : Forwarding [] s) {t : Sink.Task}
    (get : s.client.side.sinks.get id = some t) :
    ∃ u, s.server.side.sources.get id = some u := by
  have hsink := Side.sinks_of_get get
  have hid := h.client_standard (Or.inr (Or.inr (Or.inr hsink)))
  exact Option.isSome_iff_exists.mp ((h.serverStreams.sources id hid).mpr
    ((h.clientStreams.sinks id hid).mp hsink))

theorem Forwarding.server_sink (h : Forwarding [] s) {t : Source.Task}
    (get : s.client.side.sources.get id = some t) :
    id = .stdin ∧ ∃ u, s.server.side.sinks.get id = some u := by
  have hsource := Side.sources_of_get get
  have hid := h.client_standard (Or.inr (Or.inr (Or.inl hsource)))
  have hmem := (h.clientStreams.sources id hid).mp hsource
  exact ⟨List.mem_singleton.mp hmem,
    Option.isSome_iff_exists.mp ((h.serverStreams.sinks id hid).mpr hmem)⟩

theorem Forwarding.client_source (h : Forwarding [] s) {t : Sink.Task}
    (get : s.server.side.sinks.get id = some t) :
    ∃ u, s.client.side.sources.get id = some u := by
  have hsink := Side.sinks_of_get get
  have hid := h.server_standard (Or.inr (Or.inr (Or.inr hsink)))
  exact Option.isSome_iff_exists.mp ((h.clientStreams.sources id hid).mpr
    ((h.serverStreams.sinks id hid).mp hsink))

theorem Forwarding.client_quiet (h : Forwarding [] s)
    (hsources : ∀ id t, s.client.side.sources.get id = some t → t.ended = true)
    (hsinks : ∀ id t, s.client.side.sinks.get id = some t → t.ended = true) :
    Side.Quiet s.client.side where
  sources := hsources
  sinks := hsinks
  listeners port t get := by
    rw [h.client_listeners port] at get
    cases get
  connecters port t get := by
    rw [show s.client.side.connecters.get port = none from h.client.connecters port] at get
    cases get
  connects t ht := by
    rw [show s.client.side.connects = [] from h.client.connects] at ht
    exact absurd ht List.not_mem_nil

theorem Forwarding.server_quiet (h : Forwarding [] s)
    (hsources : ∀ id t, s.server.side.sources.get id = some t → t.ended = true)
    (hsinks : ∀ id t, s.server.side.sinks.get id = some t → t.ended = true) :
    Side.Quiet s.server.side where
  sources := hsources
  sinks := hsinks
  listeners port t get := by
    rw [show s.server.side.listeners.get port = none from h.server.listeners port] at get
    cases get
  connecters port t get := by
    have hpresent : (s.server.side.connecters.get port).isSome = true := by
      rw [get]
      rfl
    exact absurd ((h.server.present port).mp hpresent) List.not_mem_nil
  connects t ht := by
    obtain ⟨port, conn, -, -, hport⟩ := h.server.connects t ht
    exact absurd hport List.not_mem_nil

/-- What the client keeps. -/
structure ClientIntact (c : Client.State) : Prop where
  notified : Client.Notified c
  sends : c.side.isFailed = false
  impatient : c.side.sender ≠ .notified
  main : c.main ≠ .err
  window : c.window ≠ some .failed
  taskEnd : c.main ≠ .awaitStatus → c.taskEnd = true

/-- What the server keeps. -/
structure ServerIntact (v : Server.State) : Prop where
  sends : v.side.isFailed = false
  main : v.main ≠ .err ∧ v.main ≠ .kill
  exited : v.main ≠ .select → v.exited.isSome = true

/-- What every steady session without forwarded ports keeps. -/
structure Intact (pty : Option PtyMaster) (s : State) : Prop where
  sound : Sound pty [] s
  client : ClientIntact s.client
  server : ServerIntact s.server
  writer : (s.server.side.view.sink .stdin).writer = Server.writer pty .stdin

theorem Sound.source_alive {ports : List Port} (h : Sound pty ports s) (id : StreamId) :
    ¬ Client.sourceFailed (s.client.side.view.source id) = true ∧
      ¬ Client.sourceFailed (s.server.side.view.source id) = true := by
  have hnot {a : Source.Task} (halive : ∀ bytes, a.pc ≠ .failed bytes)
      (hpanicked : a.pc ≠ .panicked) : ¬ Client.sourceFailed a = true := by
    unfold Client.sourceFailed
    cases hpc : a.pc <;> simp_all
  exact ⟨hnot (h.inward id).source_alive (h.settled.not_panicked id).2,
    hnot (h.outward id).source_alive (h.settled.not_panicked id).1⟩

theorem Sound.client_handlers {ports : List Port} (h : Sound pty ports s)
    (hwindow : s.client.window ≠ some .failed) : s.client.handlerFailed = false := by
  have hsink (id : StreamId) : ¬ ∃ t ∈ s.client.side.sinks.get id, t.pc = .failed := by
    rintro ⟨t, ht, hfailed⟩
    apply (h.outward id).not_failed
    show (s.client.side.view.sink id).pc = .failed
    rw [Side.view_sink ht, hfailed]
  have hsource : ¬ ∃ t ∈ s.client.side.sources.get .stdin, Client.sourceFailed t = true := by
    rintro ⟨t, ht, hfailed⟩
    apply (h.source_alive .stdin).1
    rwa [Side.view_source ht]
  have hpc : ¬ ∃ pc ∈ s.client.window, pc = .failed := by
    rintro ⟨pc, hpc, rfl⟩
    exact hwindow hpc
  simp only [Client.State.handlerFailed, hsource, hsink, hpc, decide_false, Bool.or_self]

theorem Sound.server_handlers {ports : List Port} (h : Sound pty ports s) :
    s.server.handlerFailed = false := by
  have hsink : ¬ ∃ t ∈ s.server.side.sinks.get .stdin, t.pc = .failed := by
    rintro ⟨t, ht, hfailed⟩
    apply (h.inward .stdin).not_failed
    show (s.server.side.view.sink .stdin).pc = .failed
    rw [Side.view_sink ht, hfailed]
  have hsource (id : StreamId) :
      ¬ ∃ t ∈ s.server.side.sources.get id, Client.sourceFailed t = true := by
    rintro ⟨t, ht, hfailed⟩
    apply (h.source_alive id).2
    rwa [Side.view_source ht]
  simp only [Server.State.handlerFailed, hsource, hsink, decide_false, Bool.or_self]

theorem Intact.status_sent (h : Intact pty s)
    (hended : Client.receiverEnded s.client.side.receiver = true) :
    s.client.exitStatus ≠ none := by
  have hdone := ReceiverPc.done_of_left h.sound.client (Client.left_of_ended hended)
  obtain ⟨hfinished, -, -⟩ := h.sound.settled.client_received hdone
  obtain ⟨-, -, hheld⟩ := quiet_of_finished h.sound.settled.transit.server hfinished
  have hmain : s.server.main ≠ .select := by
    intro hmain
    simp [Server.State.released, hmain] at hheld
  obtain ⟨status, hexited⟩ := Option.isSome_iff_exists.mp (h.server.exited hmain)
  obtain ⟨-, -, -, hsent⟩ := exit_of_done h.sound.settled h.client.notified hdone hexited
  rw [hsent]
  exact Option.some_ne_none _

theorem Intact.client_step {e : Client.Event} (h : Intact pty s) (hok : Steady s (.client e))
    (hstep : step capacity s (.client e) = some t) : ClientIntact t.client := by
  obtain ⟨hnotified, hsends, himpatient, hmain, hwindow, htaskEnd⟩ := h.client
  have hstepped := (client_spec hstep).stepped
  have hnotified' := hnotified.step hstepped
  have hkept := h.sound.settled.transit.client
  have hstatus := h.status_sent
  have hnone := h.sound.status
  have hhandlers := h.sound.client_handlers hwindow
  have hattending := h.sound.client
  generalize t.client = d at hstepped hnotified' ⊢
  cases hstepped with
  | @side e side step =>
      refine ⟨hnotified', Side.isFailed_step hsends ?_ step,
        Side.impatient_step rfl himpatient step, hmain, hwindow, htaskEnd⟩
      rintro rfl
      cases hok.1.1
  | windowSendFailed pc gone =>
      have hclosing : s.client.side.closing = true := by
        cases hsender : s.client.side.sender <;> simp_all [Side.queueGone, Side.closing]
      have hheld := (hkept.sender.closed hclosing).2.2
      simp [Client.State.windowEnded, pc] at hheld
  | status | joined | tasksJoined =>
      refine ⟨hnotified', hsends, himpatient, ?_, hwindow, ?_⟩
      · intro hmain
        cases hmain
      · intro
        first
          | rfl
          | exact htaskEnd (by simp_all)
  | noStatus pc unsent =>
      rcases unsent with hexit | ⟨hexit, hended⟩
      · exact absurd hexit hnone
      · exact absurd hexit (hstatus hended)
  | notLeft => cases hok.2
  | handlersFailed pc failed =>
      rw [hhandlers] at failed
      cases failed
  | tasksFailed pc receiver =>
      rw [receiver] at hattending
      cases hattending
  | signal | windowSent | windowEnd =>
      exact ⟨hnotified', hsends, himpatient, hmain, by simp, htaskEnd⟩
  | _ => exact ⟨hnotified', hsends, himpatient, hmain, hwindow, htaskEnd⟩

theorem Intact.server_step {e : Server.Event} (h : Intact pty s) (hok : Steady s (.server e))
    (hstep : step capacity s (.server e) = some t) : ServerIntact t.server := by
  obtain ⟨hsends, ⟨herr, hkill⟩, hexited⟩ := h.server
  have hstepped := (server_spec hstep).stepped
  have hkept := h.sound.settled.transit.server
  have hhandlers := h.sound.server_handlers
  have hattending := h.sound.server
  have hwatched := h.sound.settled.watched
  generalize t.server = w at hstepped ⊢
  cases hstepped with
  | @side e side step =>
      refine ⟨Side.isFailed_step hsends ?_ step, ⟨herr, hkill⟩, hexited⟩
      rintro rfl
      cases hok.1.1
  | childExited pc => exact ⟨hsends, ⟨by simp, by simp⟩, fun _ => rfl⟩
  | waitFailed => cases hok.2
  | sinkClosedSent pc | exitSent pc | joined pc =>
      exact ⟨hsends, ⟨by simp, by simp⟩, fun _ => hexited (by simp [pc])⟩
  | mainSendFailed pc gone =>
      have hclosing : s.server.side.closing = true := by
        cases hsender : s.server.side.sender <;> simp_all [Side.queueGone, Side.closing]
      have hheld := (hkept.sender.closed hclosing).2.2
      rcases pc with pc | pc <;> simp [Server.State.released, pc] at hheld
  | killReceived pc error =>
      rw [hwatched.killError.mp error] at hattending
      cases hattending
  | killed pc => exact absurd pc hkill
  | receiverFailed pc receiver =>
      rw [receiver] at hattending
      cases hattending
  | handlerFailed pc failed =>
      rw [hhandlers] at failed
      cases failed
  | _ => exact ⟨hsends, ⟨herr, hkill⟩, hexited⟩

theorem Intact.step {e : Event} (h : Intact pty s) (hsound : Sound pty [] t)
    (hok : Steady s e) (hstep : Session.step capacity s e = some t) : Intact pty t where
  sound := hsound
  client := by
    cases e with
    | client e => exact h.client_step hok hstep
    | server e =>
        rw [(server_spec hstep).client]
        exact h.client
  server := by
    cases e with
    | client e =>
        rw [(client_spec hstep).server]
        exact h.server
    | server e => exact h.server_step hok hstep
  writer := by
    have hwriter := h.writer
    rcases inward_step h.sound.settled.transit h.sound.settled.unreplaced hstep .stdin with
      heq | ⟨pe, -, hpstep⟩
    · exact (congrArg (fun p => p.sink.writer) heq).trans hwriter
    · exact (Window.writer_step hpstep).trans hwriter

theorem intact_new (pty : Option PtyMaster) : Intact pty (new pty []) where
  sound := sound_new pty []
  client := ⟨Client.notified_new _ _, rfl, by simp [new, Client.new], by simp [new, Client.new],
    by cases pty <;> simp [new, Client.new], fun hmain => absurd rfl hmain⟩
  server := ⟨rfl, by simp [new, Server.new], fun hmain => absurd rfl hmain⟩
  writer := by rw [new, Server.sink_new]; rfl

theorem intact_of_reach (h : Reach (step capacity) Steady (new pty []) s) : Intact pty s := by
  obtain ⟨hreach, -⟩ : Reach (step capacity) (fun s e => Attended s e ∧ unfailing e = true)
      (new pty []) s ∧ Forwarding [] s :=
    h.restrict (forwarding_new pty []) fun _ _ _ hforwarding hok hstep =>
      ⟨⟨hforwarding.attended hok.1, hok.2⟩, hforwarding.step hstep⟩
  apply hreach.invariant (intact_new pty)
  intro a e b ha hintact hok hstep
  refine hintact.step ?_ ⟨hok.1.1, hok.2⟩ hstep
  exact sound_of_reach ((ha.snoc hok hstep).mono fun _ _ hok => hok.1)

end Rlirsh.Session
