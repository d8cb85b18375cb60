import Rlirsh.Lib.Machine
import Rlirsh.Execute.Process

namespace Rlirsh.Execute.Server

open Rlirsh.Protocol
open Rlirsh.Net
open Rlirsh.Terminal (PtyMaster)
open Rlirsh.Lib
open Rlirsh.Lib.Machine
open Rlirsh.Stream
open Rlirsh.Execute.Client (receiverEnded sourceFailed)

/-- What the server keeps on every run, whatever the client sends. -/
structure Watched (v : State) : Prop where
  kept : v.Kept
  notified : v.notified = true ↔ ∃ b, v.side.receiver = .done b
  killError : v.killError = true ↔ v.side.receiver = .done false
  connecters : v.side.receiver.drained = true → v.side.connecterTxMap = []
  listeners : ∀ port, v.side.listeners.get port = none

theorem Watched.step {v w : State} {e : Event} (h : Watched v) (hstepped : Stepped v e w) :
    Watched w := by
  have hkept := (hstepped.kept h.kept).1
  obtain ⟨-, hnotified, hkill, hconnecters, hlisteners⟩ := h
  cases hstepped with
  | side step =>
      obtain ⟨hdone, -⟩ := Side.receiver_ended_step step
      obtain ⟨hmap, hlisteners'⟩ := Side.connecters_step step
      refine ⟨hkept, ?_, ?_, ?_, hlisteners' hlisteners⟩
      · simpa [hdone] using hnotified
      · simpa [hdone] using hkill
      · intro hdrained
        rcases hmap with ⟨heq, himp⟩ | hnil
        · exact heq.trans (hconnecters (himp hdrained))
        · exact hnil
  | @take action pc =>
      refine ⟨hkept, ?_, ?_, ?_, hlisteners⟩
      · rw [hnotified, pc]
        simp only [Side.take]
        split <;> simp
      · rw [hkill, pc]
        simp only [Side.take]
        split <;> simp
      · simp only [Side.take]
        split <;> simp [ReceiverPc.drained]
  | finished pc =>
      refine ⟨hkept, by simp, ?_, by simp [ReceiverPc.drained], hlisteners⟩
      rw [hkill, pc]
      simp
  | leave pc =>
      exact ⟨hkept, by simp, by simp, fun _ => hconnecters (by simp [pc, ReceiverPc.drained]),
        hlisteners⟩
  | _ => exact ⟨hkept, hnotified, hkill, hconnecters, hlisteners⟩

theorem watched_new (pty : Option PtyMaster) (addrs : List (SocketAddrs SocketAddr)) :
    Watched (new pty addrs) where
  kept := kept_new pty addrs
  notified := by simp [new]
  killError := by simp [new]
  connecters := by simp [new, ReceiverPc.drained]
  listeners _ := rfl

theorem watched_of_reach {ok : State → Event → Prop} {pty : Option PtyMaster}
    {addrs : List (SocketAddrs SocketAddr)} {v : State}
    (h : Reach step ok (new pty addrs) v) : Watched v :=
  h.invariant (watched_new pty addrs) fun _ _ _ _ hwatched _ hstep =>
    hwatched.step (step_spec hstep)

/-- Every stream action that is taken names a registered handler, and is dispatched while
that handler is there. -/
def routable (v : State) : Event → Bool
  | .receive (.stream action) => v.side.found action
  | .side (.receiver .dispatch) =>
      match v.side.receiver with
      | .dispatch action => v.side.listening action
      | _ => true
  | _ => true

def Routable (v : State) (e : Event) : Prop := routable v e = true

instance (v : State) (e : Event) : Decidable (Routable v e) :=
  inferInstanceAs (Decidable (_ = true))

theorem not_failed_step {v w : State} {e : Event} (h : ∀ u, v.side.receiver ≠ .failed u)
    (hok : Routable v e) (hstep : step v e = some w) : ∀ u, w.side.receiver ≠ .failed u := by
  cases step_spec hstep with
  | @side e side hside =>
      intro u hu
      rcases (Side.receiver_ended_step hside).2 u hu with hfailed | ⟨rfl, action, pc, -⟩
      · exact h u hfailed
      · have hdispatch : v.side.dispatch action = some side := by
          simpa [Side.step, Side.stepReceiver, pc] using hside
        have hlistening : v.side.listening action = true := by
          simpa [Routable, routable, pc] using hok
        rw [Side.dispatch_of_listening hlistening hdispatch] at hu
        simp at hu
  | take pc =>
      have hfound : v.side.found _ = true := hok
      simp [Side.take, hfound]
  | finished | leave => simp
  | _ => exact h

/-- `RecvRouter::shutdown` has been run on all that was registered: what is in a map now
came later, and an inbox without a sender is closed. -/
structure ShutDown (v : State) : Prop where
  sinks : ∀ id t, v.side.sinks.get id = some t → id ∈ v.side.sinkTxMap ∨ Side.SinkClosing t
  sources : ∀ id t, v.side.sources.get id = some t →
    id ∈ v.side.sourceTxMap ∨ Side.SourceClosing t ∨ v.side.orphaned id = true
  connecters : v.side.connecterTxMap = []

theorem Watched.shutDown {v : State} (h : Watched v) (hpc : v.side.receiver = .done false) :
    ShutDown v where
  sinks id t ht := by
    have := h.kept.swept.sinks id t ht
    simpa [hpc, ReceiverPc.leftSinks] using this
  sources id t ht := by
    by_cases horphaned : v.side.orphaned id = true
    · exact Or.inr (Or.inr horphaned)
    · have := h.kept.swept.sources id t ht (Bool.eq_false_iff.mpr horphaned)
      simp only [hpc, ReceiverPc.leftSources, List.not_mem_nil, false_or] at this
      exact this.imp_right Or.inl
  connecters := h.connecters (by simp [hpc, ReceiverPc.drained])

/-- The session is released: the sender can leave its wait, and unless the client has
finished the handlers are shut down and the child is killed. -/
structure Released (v : State) : Prop where
  notified : v.notified = true
  sender : v.side.sender = .notified → (step v (.side (.sender .notified))).isSome = true
  finished_or_shut : v.side.receiver = .done true ∨
    ShutDown v ∧ v.killError = true ∧
      (v.main = .select → (step v .killReceived).isSome = true)

theorem Watched.released {v : State} (h : Watched v) {finished : Bool}
    (hpc : v.side.receiver = .done finished) : Released v where
  notified := h.notified.mpr ⟨finished, hpc⟩
  sender hsender := by
    have hpermit := h.notified.mpr ⟨finished, hpc⟩
    simp [Server.step, Side.step, Side.stepSender, hsender, State.env, hpermit]
  finished_or_shut := by
    cases finished with
    | true => exact Or.inl hpc
    | false =>
        have hkill := h.killError.mpr hpc
        exact Or.inr ⟨h.shutDown hpc, hkill, fun hmain => by simp [Server.step, hmain, hkill]⟩

/-- In every run in which no dispatch fails, the server's receiver ends only having
released the session. -/
theorem released_of_ended (pty : Option PtyMaster) (addrs : List (SocketAddrs SocketAddr))
    (v : State) (h : Reach step Routable (new pty addrs) v)
    (hended : receiverEnded v.side.receiver = true) : Released v := by
  have hnot : ∀ u, v.side.receiver ≠ .failed u :=
    h.invariant (P := fun v => ∀ u, v.side.receiver ≠ .failed u) (by simp [new])
      fun _ _ _ _ hnot hok hstep => not_failed_step hnot hok hstep
  cases hpc : v.side.receiver with
  | done finished => exact (watched_of_reach h).released hpc
  | failed u => exact absurd hpc (hnot u)
  | _ => simp [hpc, receiverEnded] at hended

/-- A packet for the child is still in the inbox of its sink when the connection fails. -/
def cutOffWhileWriting : List Event :=
  [.receive (.stream (.source .stdin (.data [104, 105]))), .side (.receiver .dispatch),
    .side (.receiver (.abort false [.stdin] [.stdout, .stderr])), .side (.sink .stdin .recv),
    .side (.receiver .shutdownSink), .side (.receiver .shutdownSource),
    .side (.receiver .shutdownSource), .leave]

theorem released_of_ended_cutOffWhileWriting :
    ∃ v, run step (new none []) cutOffWhileWriting = some v ∧
      v.side.receiver = .done false ∧ Released v := by
  obtain ⟨v, hrun⟩ : ∃ v, run (guarded step Routable) (new none []) cutOffWhileWriting =
      some v := ⟨_, rfl⟩
  obtain ⟨hrun', hreach⟩ := reach_of_guarded hrun
  have hreleased := released_of_ended none [] v hreach
  obtain rfl := Option.some.inj hrun
  exact ⟨_, hrun', rfl, hreleased rfl⟩

theorem failed_stays {v w : State} {e : Event} {u : Option StreamAction}
    (h : v.side.receiver = .failed u) (hstep : step v e = some w) :
    w.side.receiver = .failed u := by
  cases step_spec hstep with
  | @side e side hside =>
      by_cases hreceiver : ∃ e', e = .receiver e'
      · obtain ⟨e', rfl⟩ := hreceiver
        cases Side.stepReceiver_spec hside with
        | dispatch pc | abort pc | shutdownSink pc | shutdownSource pc | shutdownOrphan pc =>
            simp [h] at pc
      · exact (Side.receiver_step (fun e' he => hreceiver ⟨e', he⟩) hside).1.trans h
  | take pc | finished pc | leave pc => simp [h] at pc
  | _ => exact h

/-- A stream action for an identifier that was never registered ends the receiver, and
the sender waits for ever. -/
theorem unreleased_by_unknown_id :
    ∃ v, run step (new none []) [.receive (.stream (.sink (.forward ⟨0⟩ ⟨0⟩) .ack))] = some v ∧
      receiverEnded v.side.receiver = true ∧
      ∀ w, Reach step Any v w →
        w.notified = false ∧ w.killError = false ∧ w.side.receiver ≠ .done true := by
  obtain ⟨v, hrun⟩ : ∃ v, run step (new none [])
      [.receive (.stream (.sink (.forward ⟨0⟩ ⟨0⟩) .ack))] = some v := ⟨_, rfl⟩
  have hreach := reach_of_run hrun
  have hpc : v.side.receiver = .failed (some (.sink (.forward ⟨0⟩ ⟨0⟩) .ack)) := by
    obtain rfl := Option.some.inj hrun
    rfl
  refine ⟨v, hrun, by rw [hpc]; rfl, fun w hw => ?_⟩
  have hfailed := hw.invariant hpc fun _ _ _ _ hfailed _ hstep => failed_stays hfailed hstep
  have hwatched := watched_of_reach (hreach.trans hw)
  refine ⟨?_, ?_, by simp [hfailed]⟩
  · rw [Bool.eq_false_iff, ne_eq, hwatched.notified, hfailed]
    simp
  · rw [Bool.eq_false_iff, ne_eq, hwatched.killError, hfailed]
    simp

/-- No connect task registers its stream once the maps of the router are drained. -/
def prompt (v : State) : Event → Bool
  | .side (.connect i .sent) =>
      !v.side.receiver.drained || (v.side.connects[i]?).all fun t => t.pc ≠ .sendResponse .ok
  | _ => true

def Prompt (v : State) (e : Event) : Prop := prompt v e = true

instance (v : State) (e : Event) : Decidable (Prompt v e) :=
  inferInstanceAs (Decidable (_ = true))

/-- The maps of a drained router stay empty. -/
def Drained (v : State) : Prop :=
  v.side.receiver.drained = true → v.side.sinkTxMap = [] ∧ v.side.sourceTxMap = []

theorem Drained.step {v w : State} {e : Event} (h : Drained v) (hwatched : Watched v)
    (hok : Prompt v e) (hstep : step v e = some w) : Drained w := by
  cases step_spec hstep with
  | @side e side hside =>
      intro hdrained
      by_cases hreceiver : ∃ e', e = .receiver e'
      · obtain ⟨e', rfl⟩ := hreceiver
        cases Side.stepReceiver_spec hside with
        | dispatch pc dispatched =>
            cases dispatched <;>
              simp [Side.handed, Side.unhanded, Side.setSink, Side.setSource,
                Side.setConnecter, Side.setListener, ReceiverPc.drained] at hdrained
        | abort => exact ⟨rfl, rfl⟩
        | shutdownSink pc | shutdownSource pc | shutdownOrphan pc =>
            exact h (by simp [pc, ReceiverPc.drained])
      · have hne : ∀ e', e ≠ .receiver e' := fun e' he => hreceiver ⟨e', he⟩
        have hpc := (Side.receiver_step hne hside).1
        have hdrained' : v.side.receiver.drained = true := hpc ▸ hdrained
        have hmaps : side.sinkTxMap = v.side.sinkTxMap ∧
            side.sourceTxMap = v.side.sourceTxMap := by
          refine Side.maps_eq_step hne ?_ ?_ hside
          · rintro port rfl
            obtain ⟨a, ha, -⟩ := Side.stepListener_spec hside
            simp [hwatched.listeners port] at ha
          · rintro i a rfl ha
            simpa [Prompt, prompt, hdrained', ha] using hok
        rw [hmaps.1, hmaps.2]
        exact h hdrained'
  | @take action pc =>
      intro hdrained
      simp only [Side.take] at hdrained
      split at hdrained <;> simp [ReceiverPc.drained] at hdrained
  | finished pc => simp [Drained, ReceiverPc.drained]
  | leave pc => exact fun _ => h (by simp [pc, ReceiverPc.drained])
  | sinkClosedSent | exitSent => exact h
  | _ => exact h

/-- The shutdown has reached every handler there ever was: each has its closing message
or has ended, or its inbox is closed; none waits on an empty inbox unless it is closed; and
`serve` and the sender can end. -/
structure Reached (v : State) : Prop where
  sinks : ∀ id t, v.side.sinks.get id = some t →
    Side.SinkClosing t ∧ (t.pc = .recv → t.rx ≠ [])
  sources : ∀ id t, v.side.sources.get id = some t →
    Side.SourceClosing t ∧ (t.pc = .select ∨ t.pc = .recvAnswer → t.rx ≠ []) ∨
      v.side.orphaned id = true ∧ (t.pc = .select ∨ t.pc = .recvAnswer → t.rx = [] →
        (step v (.side (.source id .recvNone))).isSome = true)
  connecters : ∀ port t, v.side.connecters.get port = some t → t.pc = .recv → t.rx = [] →
    (step v (.side (.connecter port .recvNone))).isSome = true
  killed : v.main = .select → (step v .killReceived).isSome = true
  closing : v.released = true → v.side.quiet = true → v.side.queue = [] →
    v.side.sender = .recv → (step v (.side (.sender .recvNone))).isSome = true
  notified : v.side.sender = .notified → (step v (.side (.sender .notified))).isSome = true
  joined : v.main = .join → v.side.sender = .done →
    (step v .joined).isSome = true ∨ (step v .joinFailed).isSome = true

theorem joinable {v : State} (hquiet : Side.Quiet v.side) :
    v.handlersOk = true ∨ v.handlerFailed = true := by
  by_cases hfailed : v.handlerFailed = true
  · exact Or.inr hfailed
  · left
    simp only [State.handlerFailed, Bool.or_eq_true, decide_eq_true_eq, not_or, not_exists,
      not_and] at hfailed
    simp only [State.handlersOk, Bool.and_eq_true, decide_eq_true_eq]
    have hsink (id : StreamId) (t : Sink.Task) (ht : t ∈ v.side.sinks.get id)
        (hnot : t.pc ≠ .failed) : t.pc = .done := by
      have := hquiet.sinks id t ht
      simp only [Sink.Task.ended] at this
      grind
    have hsource (id : StreamId) (t : Source.Task) (ht : t ∈ v.side.sources.get id)
        (hnot : ¬ sourceFailed t = true) : t.pc = .done := by
      have := hquiet.sources id t ht
      simp only [Source.Task.ended, sourceFailed] at this hnot
      grind
    exact ⟨⟨fun t ht => hsink _ t ht (hfailed.1.1 t ht),
      fun t ht => hsource _ t ht (hfailed.1.2 t ht)⟩,
      fun t ht => hsource _ t ht (hfailed.2 t ht)⟩

theorem recvNone_of_orphaned {v : State} {id : StreamId} {t : Source.Task}
    (ht : v.side.sources.get id = some t) (horphaned : v.side.orphaned id = true)
    (hpc : t.pc = .select ∨ t.pc = .recvAnswer) (hrx : t.rx = []) :
    (step v (.side (.source id .recvNone))).isSome = true := by
  rcases hpc with hpc | hpc <;>
    simp [step, Side.step, Side.stepSource, ht, horphaned, Source.Task.onRecvNone, hpc, hrx,
      Side.steppedSource]

/-- In every run in which no connect task comes late, a shutdown that is through has
reached every handler. -/
theorem shutdown_reaches (pty : Option PtyMaster) (addrs : List (SocketAddrs SocketAddr))
    (v : State) (h : Reach step Prompt (new pty addrs) v) (hdone : v.side.receiver = .done false) :
    Reached v := by
  have hwatched := watched_of_reach h
  have hdrained : Watched v ∧ Drained v :=
    h.invariant (P := fun v => Watched v ∧ Drained v)
      ⟨watched_new pty addrs, by simp [Drained, new, ReceiverPc.drained]⟩
      fun _ _ _ _ ⟨hwatched, hdrained⟩ hok hstep =>
        ⟨hwatched.step (step_spec hstep), hdrained.step hwatched hok hstep⟩
  obtain ⟨hsinkMap, hsourceMap⟩ := hdrained.2 (by simp [hdone, ReceiverPc.drained])
  have hshut := hwatched.shutDown hdone
  have hreleased := hwatched.released hdone
  refine ⟨fun id t ht => ?_, fun id t ht => ?_, fun port t ht hpc hrx => ?_, fun hmain => ?_,
    fun hmain hquiet hqueue hsender => ?_, hreleased.sender, fun hmain hsender => ?_⟩
  · have hclosing : Side.SinkClosing t := by simpa [hsinkMap] using hshut.sinks id t ht
    have hheard := hwatched.kept.sink_heard id
    rw [Side.view_sink ht] at hheard
    exact ⟨hclosing, hclosing.rx_ne_nil hheard⟩
  · have hclosing : Side.SourceClosing t ∨ v.side.orphaned id = true := by
      simpa [hsourceMap] using hshut.sources id t ht
    have hheard := hwatched.kept.source_heard id
    rw [Side.view_source ht] at hheard
    exact hclosing.imp (fun hclosing => ⟨hclosing, hclosing.rx_ne_nil hheard⟩)
      fun horphaned => ⟨horphaned, recvNone_of_orphaned ht horphaned⟩
  · obtain ⟨addr, pc, rx⟩ := t
    obtain rfl : pc = .recv := hpc
    obtain rfl : rx = [] := hrx
    simp [step, Side.step, Side.stepConnecter, ht, hshut.connecters, hdone,
      ReceiverPc.holdsConnecter]
  · rcases hreleased.finished_or_shut with hfinished | ⟨-, -, hkill⟩
    · simp [hdone] at hfinished
    · exact hkill hmain
  · simp [step, Side.step, Side.stepSender, hsender, hqueue, hquiet, State.env, hmain,
      Message.waitsForNotify]
  · have hquiet := (hwatched.kept.sender.closed (by simp [Side.closing, hsender])).1
    rcases joinable hquiet with hok | hfailed
    · left
      simp [step, hmain, hdone, hsender, hok]
    · right
      simp [step, hmain, hdone, hfailed]

/-- A connection is requested; its connect task is under way. -/
def requested : List Event :=
  [.receive (.stream (.listener ⟨0⟩ (.connect ⟨0⟩))), .side (.receiver .dispatch),
    .side (.connecter ⟨0⟩ .recv), .side (.connect 0 (.connected (.ok (.localhost 80))))]

/-- The connection is registered before the router is shut down. -/
def connectedInTime : List Event :=
  requested ++ [.side (.connect 0 .sent),
    .side (.receiver (.abort false [.stdin, .forward ⟨0⟩ ⟨0⟩]
      [.stdout, .stderr, .forward ⟨0⟩ ⟨0⟩])),
    .side (.receiver .shutdownSink), .side (.receiver .shutdownSink),
    .side (.receiver .shutdownSource), .side (.receiver .shutdownSource),
    .side (.receiver .shutdownSource), .leave]

theorem shutdown_reaches_connectedInTime :
    ∃ v, run step (new none [⟨"localhost:80", [.localhost 80]⟩]) connectedInTime = some v ∧
      (v.side.sinks.get (.forward ⟨0⟩ ⟨0⟩)).isSome = true ∧ Reached v := by
  obtain ⟨v, hrun⟩ : ∃ v, run (guarded step Prompt) (new none [⟨"localhost:80", [.localhost 80]⟩])
      connectedInTime = some v := ⟨_, rfl⟩
  obtain ⟨hrun', hreach⟩ := reach_of_guarded hrun
  have hreached := shutdown_reaches none [⟨"localhost:80", [.localhost 80]⟩] v hreach
  obtain rfl := Option.some.inj hrun
  exact ⟨_, hrun', rfl, hreached rfl⟩

/-- The router is shut down while the connect task is under way. -/
def connectedLate : List Event :=
  requested ++ [.side (.receiver (.abort false [.stdin] [.stdout, .stderr])),
    .side (.receiver .shutdownSink), .side (.receiver .shutdownSource),
    .side (.receiver .shutdownSource), .leave, .side (.connect 0 .sent)]

/-- The sink of a connection that comes late is in the map of a router that is not shut
down again, and waits on an empty inbox. -/
theorem missed_by_shutdown :
    ∃ v, run step (new none [⟨"localhost:80", [.localhost 80]⟩]) connectedLate = some v ∧
      v.side.receiver = .done false ∧ .forward ⟨0⟩ ⟨0⟩ ∈ v.side.sinkTxMap ∧
      v.side.sinks.get (.forward ⟨0⟩ ⟨0⟩) = some (.new .socket) ∧ ¬ Reached v := by
  obtain ⟨v, hrun⟩ : ∃ v,
      run step (new none [⟨"localhost:80", [.localhost 80]⟩]) connectedLate = some v := ⟨_, rfl⟩
  have hsink : v.side.sinks.get (.forward ⟨0⟩ ⟨0⟩) = some (.new .socket) := by
    obtain rfl := Option.some.inj hrun
    rfl
  refine ⟨v, hrun, ?_, ?_, hsink, fun hreached => ?_⟩
  · obtain rfl := Option.some.inj hrun
    rfl
  · obtain rfl := Option.some.inj hrun
    decide
  · exact (hreached.sinks _ _ hsink).2 rfl rfl

end Rlirsh.Execute.Server
