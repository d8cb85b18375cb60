import Rlirsh.Session.Ports
import Rlirsh.Stream.Window

namespace Rlirsh.Session

open Rlirsh.Protocol
open Rlirsh.Terminal (PtyMaster)
open Rlirsh.Lib
open Rlirsh.Lib.Machine
open Rlirsh.Stream
open Rlirsh.Execute

/-- The stream of `id` from the server to the client. -/
def State.outward (s : State) (id : StreamId) : Pair.State :=
  Channel.channel s.server.side.view s.client.side.view id 0

/-- The stream of `id` from the client to the server. -/
def State.inward (s : State) (id : StreamId) : Pair.State :=
  Channel.channel s.client.side.view s.server.side.view id
    (if id = .stdin then s.server.injected else 0)

/-- The event of the outward stream of `id` an event of the session is. -/
def State.outwardEvent (s : State) (id : StreamId) : Event → Option Pair.Event
  | .client e => Channel.far id (s.client.effect e)
  | .server e => Channel.near id (s.server.effect e)

/-- The event of the inward stream of `id` an event of the session is. -/
def State.inwardEvent (s : State) (id : StreamId) : Event → Option Pair.Event
  | .client e => Channel.near id (s.client.effect e)
  | .server e => Channel.far id (s.server.effect e)

theorem client_not_shut {c : Client.State} (h : Side.Shutting c.side) (e : Client.Event)
    (id : StreamId) :
    (c.effect e = .shutdownSource id → (c.side.view.source id).shut = false) ∧
      (c.effect e = .shutdownSink id → (c.side.view.sink id).shut = false) ∧
      ∀ a, c.effect e = .deliver (.source id a) → (c.side.view.sink id).shut = false := by
  cases e with
  | side e => exact h.not_shut id
  | _ => simp [Client.State.effect]

theorem server_not_shut {v : Server.State} (h : Side.Shutting v.side) (e : Server.Event)
    (id : StreamId) :
    (v.effect e = .shutdownSource id → (v.side.view.source id).shut = false) ∧
      (v.effect e = .shutdownSink id → (v.side.view.sink id).shut = false) ∧
      ∀ a, v.effect e = .deliver (.source id a) → (v.side.view.sink id).shut = false := by
  cases e with
  | side e => exact h.not_shut id
  | mainSent =>
      simp only [Server.State.effect]
      split <;> simp
  | _ => simp [Server.State.effect]

theorem client_not_discard {c : Client.State} (h : c.side.Unreplaced) (e : Client.Event)
    (action : StreamAction) : c.effect e ≠ .discard action := by
  cases e with
  | side e => exact h.effect_ne e action
  | _ => simp [Client.State.effect]

theorem server_not_discard {v : Server.State} (h : v.side.Unreplaced) (e : Server.Event)
    (action : StreamAction) : v.effect e ≠ .discard action := by
  cases e with
  | side e => exact h.effect_ne e action
  | mainSent =>
      simp only [Server.State.effect]
      split <;> simp
  | _ => simp [Server.State.effect]

theorem client_injects (c : Client.State) (e : Client.Event) (id : StreamId) :
    Channel.injects id (c.effect e) = 0 := by
  cases e with
  | side e =>
      simp only [Client.State.effect]
      cases e <;> simp only [Side.effect] <;> grind [Channel.injects]
  | _ => rfl

theorem server_injects {v w : Server.State} {e : Server.Event} (h : Server.Stepped v e w)
    (id : StreamId) :
    (if id = .stdin then w.injected else 0) =
      (if id = .stdin then v.injected else 0) + Channel.injects id (v.effect e) := by
  cases h with
  | @side e side step =>
      simp only [Server.State.effect]
      cases e <;> simp only [Side.effect] <;> grind [Channel.injects]
  | sinkClosedSent pc =>
      simp only [Server.State.effect, pc, Channel.injects]
      by_cases hid : id = .stdin
      · simp [hid]
      · simp [hid, Ne.symm hid]
  | exitSent pc => simp [Server.State.effect, pc, Channel.injects]
  | _ => rfl

/-- A step of the session is a step of the outward stream, or leaves it alone. -/
theorem outward_step {capacity : Nat} {s t : State} {e : Event} (h : Transit s)
    (hkept : Unreplaced s) (hstep : step capacity s e = some t) (id : StreamId) :
    t.outward id = s.outward id ∨ ∃ pe, s.outwardEvent id e = some pe ∧
      Pair.step (s.outward id) pe = some (t.outward id) := by
  have hfifo := h.fifo
  have hfifo' := (h.step hstep).fifo
  cases e with
  | client e =>
      obtain ⟨hstepped, -, -, -, hserver⟩ := client_spec hstep
      obtain ⟨-, hshut, hopen⟩ := client_not_shut h.client.shutting e id
      rw [hserver] at hfifo'
      have hfar := Channel.far_step id 0 ⟨hfifo.2, hfifo.1⟩ ⟨hfifo'.2, hfifo'.1⟩
        hstepped.holds (client_not_discard hkept.client e) hshut hopen
      rw [client_injects] at hfar
      simpa [State.outward, State.outwardEvent, hserver] using hfar
  | server e =>
      obtain ⟨hstepped, -, -, hclient⟩ := server_spec hstep
      obtain ⟨hshut, -, -⟩ := server_not_shut h.server.shutting e id
      rw [hclient] at hfifo'
      have hnear := Channel.near_step id 0 ⟨hfifo.2, hfifo.1⟩ ⟨hfifo'.2, hfifo'.1⟩
        hstepped.holds (server_not_discard hkept.server e) hshut
      simpa [State.outward, State.outwardEvent, hclient] using hnear

theorem inward_step {capacity : Nat} {s t : State} {e : Event} (h : Transit s)
    (hkept : Unreplaced s) (hstep : step capacity s e = some t) (id : StreamId) :
    t.inward id = s.inward id ∨ ∃ pe, s.inwardEvent id e = some pe ∧
      Pair.step (s.inward id) pe = some (t.inward id) := by
  have hfifo := h.fifo
  have hfifo' := (h.step hstep).fifo
  cases e with
  | client e =>
      obtain ⟨hstepped, -, -, -, hserver⟩ := client_spec hstep
      obtain ⟨hshut, -, -⟩ := client_not_shut h.client.shutting e id
      rw [hserver] at hfifo'
      have hnear := Channel.near_step id (if id = .stdin then s.server.injected else 0)
        hfifo hfifo' hstepped.holds (client_not_discard hkept.client e) hshut
      simpa [State.inward, State.inwardEvent, hserver] using hnear
  | server e =>
      obtain ⟨hstepped, -, -, hclient⟩ := server_spec hstep
      obtain ⟨-, hshut, hopen⟩ := server_not_shut h.server.shutting e id
      rw [hclient] at hfifo'
      have hfar := Channel.far_step id (if id = .stdin then s.server.injected else 0)
        hfifo hfifo' hstepped.holds (server_not_discard hkept.server e) hshut hopen
      rw [← server_injects hstepped id] at hfar
      simpa [State.inward, State.inwardEvent, hclient] using hfar

theorem inward_new (pty : Option PtyMaster) (ports : List Port) (id : StreamId) :
    (new pty ports).inward id = Pair.new (Server.writer pty id) := by
  simp only [State.inward, Channel.channel, new, Client.source_new, Server.sink_new]
  cases pty <;> simp [Pair.new, Side.view, Client.new, Server.new, Source.Task.new,
    Channel.sinkOf, Message.toStream]

theorem outward_new (pty : Option PtyMaster) (ports : List Port) (id : StreamId)
    (h : ¬ (pty.isSome = true ∧ id = .stderr)) :
    (new pty ports).outward id = Pair.new (Client.writer id) := by
  simp only [State.outward, Channel.channel, new, Client.sink_new, Server.source_new, h]
  cases pty <;> simp_all [Pair.new, Side.view, Client.new, Server.new, Source.Task.new,
    Channel.sourceOf, Message.toStream, eq_comm]

/-- The standard error of a child with a pty is a stream whose source has found its end
before the session begins. -/
theorem outward_closed (pty : PtyMaster) (ports : List Port) :
    Pair.step (Pair.new .file) (.source (.read (.ok []))) = some
        { Pair.new .file with
          source := { Source.Task.new with pc := .sendClosed, stop := some .eof } } ∧
      Pair.step { Pair.new .file with
          source := { Source.Task.new with pc := .sendClosed, stop := some .eof } }
        (.source .sent) = some ((new (some pty) ports).outward .stderr) :=
  ⟨rfl, rfl⟩

/-- What is proved of the pairs holds of the outward streams. -/
theorem outward_reach {capacity : Nat} {ok : State → Event → Prop}
    {pok : Pair.State → Pair.Event → Prop} {pty : Option PtyMaster} {ports : List Port} {s : State}
    (id : StreamId) (h : Reach (step capacity) ok (new pty ports) s)
    (hread : ∀ p, pok p (.source (.read (.ok [])))) (hsent : ∀ p, pok p (.source .sent))
    (hok : ∀ a e b pe, Reach (step capacity) ok (new pty ports) a → ok a e →
      step capacity a e = some b → a.outwardEvent id e = some pe → pok (a.outward id) pe) :
    Reach Pair.step pok (Pair.new (Client.writer id)) (s.outward id) := by
  have hinit : Reach Pair.step pok (Pair.new (Client.writer id)) ((new pty ports).outward id) := by
    by_cases hclosed : pty.isSome = true ∧ id = .stderr
    · obtain ⟨hsome, rfl⟩ := hclosed
      obtain ⟨ptyMaster, rfl⟩ := Option.isSome_iff_exists.mp hsome
      obtain ⟨hfirst, hsecond⟩ := outward_closed ptyMaster ports
      exact ((Reach.refl _).snoc (hread _) hfirst).snoc (hsent _) hsecond
    · rw [outward_new pty ports id hclosed]
      exact Reach.refl _
  refine hinit.trans (h.simulate (fun a => a.outward id)
    (P := Reach (step capacity) ok (new pty ports)) (.refl _) fun a e b ha hadm hstep => ?_)
  refine ⟨ha.snoc hadm hstep, ?_⟩
  rcases outward_step (transit_of_reach ha) (unreplaced_of_reach ha) hstep id with
    heq | ⟨pe, hpe, hpstep⟩
  · exact Or.inl heq
  · exact Or.inr ⟨pe, hok a e b pe ha hadm hstep hpe, hpstep⟩

theorem inward_reach {capacity : Nat} {ok : State → Event → Prop}
    {pok : Pair.State → Pair.Event → Prop} {pty : Option PtyMaster} {ports : List Port} {s : State}
    (id : StreamId) (h : Reach (step capacity) ok (new pty ports) s)
    (hok : ∀ a e b pe, Reach (step capacity) ok (new pty ports) a → ok a e →
      step capacity a e = some b → a.inwardEvent id e = some pe → pok (a.inward id) pe) :
    Reach Pair.step pok (Pair.new (Server.writer pty id)) (s.inward id) := by
  rw [← inward_new pty ports id]
  apply h.simulate (fun a => a.inward id) (P := Reach (step capacity) ok (new pty ports))
    (.refl _)
  intro a e b ha hadm hstep
  refine ⟨ha.snoc hadm hstep, ?_⟩
  rcases inward_step (transit_of_reach ha) (unreplaced_of_reach ha) hstep id with
    heq | ⟨pe, hpe, hpstep⟩
  · exact Or.inl heq
  · exact Or.inr ⟨pe, hok a e b pe ha hadm hstep hpe, hpstep⟩

end Rlirsh.Session
