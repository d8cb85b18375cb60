import Rlirsh.Session
import Rlirsh.Execute.Process
import Rlirsh.Stream.Channel

namespace Rlirsh.Session

open Rlirsh.Protocol
open Rlirsh.Terminal (PtyMaster)
open Rlirsh.Lib
open Rlirsh.Lib.Machine
open Rlirsh.Stream
open Rlirsh.Execute

theorem push_spec {T : Type} {capacity : Nat} {wire wire' : List T} {out : Option T}
    (h : push capacity wire out = some wire') : wire' = wire ++ out.toList := by
  unfold push at h
  grind

theorem pull_spec {T : Type} [DecidableEq T] {wire wire' : List T} {input : Option T}
    (h : pull wire input = some wire') : wire = input.toList ++ wire' := by
  unfold pull at h
  grind

/-- What a step of the client is in a session. -/
structure ClientStep (s : State) (e : Client.Event) (t : State) : Prop where
  stepped : Client.Stepped s.client e t.client
  alive : s.client.returned = false
  up : t.up = s.up ++ (s.client.output e).toList
  down : s.down = e.input.toList ++ t.down
  server : t.server = s.server

/-- What a step of the server is in a session. -/
structure ServerStep (s : State) (e : Server.Event) (t : State) : Prop where
  stepped : Server.Stepped s.server e t.server
  down : t.down = s.down ++ (s.server.output e).toList
  up : s.up = e.input.toList ++ t.up
  client : t.client = s.client

theorem client_spec {capacity : Nat} {s t : State} {e : Client.Event}
    (h : step capacity s (.client e) = some t) : ClientStep s e t := by
  simp only [step, Option.bind_eq_bind, Option.bind_eq_some_iff] at h
  obtain ⟨client, hclient, up, hup, down, hdown, ht⟩ := h
  obtain rfl := Option.some.inj ht
  obtain ⟨halive, hstepped⟩ := Client.step_spec hclient
  exact ⟨hstepped, halive, push_spec hup, pull_spec hdown, rfl⟩

theorem server_spec {capacity : Nat} {s t : State} {e : Server.Event}
    (h : step capacity s (.server e) = some t) : ServerStep s e t := by
  simp only [step, Option.bind_eq_bind, Option.bind_eq_some_iff] at h
  obtain ⟨server, hserver, down, hdown, up, hup, ht⟩ := h
  obtain rfl := Option.some.inj ht
  exact ⟨Server.step_spec hserver, push_spec hdown, pull_spec hup, rfl⟩

theorem client_side_step {capacity : Nat} {s : State} {e : Side.Event}
    {side : Side ClientAction} (halive : s.client.returned = false)
    (hside : s.client.side.step s.client.env e = some side) (hne : e ≠ .sender .sent) :
    step capacity s (.client (.side e)) = some { s with client := { s.client with side } } := by
  have hout : s.client.output (.side e) = none := by
    unfold Client.State.output
    split
    · rename_i heq
      exact absurd (Client.Event.side.inj heq) hne
    · rfl
  simp [step, Client.step, halive, hside, hout, push, pull, Client.Event.input]

theorem server_side_step {capacity : Nat} {s : State} {e : Side.Event}
    {side : Side ServerAction} (hside : s.server.side.step s.server.env e = some side)
    (hne : e ≠ .sender .sent) :
    step capacity s (.server (.side e)) = some { s with server := { s.server with side } } := by
  have hout : s.server.output (.side e) = none := by
    unfold Server.State.output
    split
    · rename_i heq
      exact absurd (Server.Event.side.inj heq) hne
    · rfl
  simp [step, Server.step, hside, hout, push, pull, Server.Event.input]

/-- What one process enqueues the other one receives, in order. -/
structure Transit (s : State) : Prop where
  client : s.client.Kept
  server : s.server.Kept
  up : s.client.side.log = s.server.received ++ s.up ++ s.client.side.unsent
  down : s.server.side.log = s.client.received ++ s.down ++ s.server.side.unsent

theorem transit_new (pty : Option PtyMaster) (ports : List Port) : Transit (new pty ports) where
  client := Client.kept_new _ _
  server := Server.kept_new _ _
  up := rfl
  down := by cases pty <;> rfl

theorem Transit.step {capacity : Nat} {s t : State} {e : Event} (h : Transit s)
    (hstep : step capacity s e = some t) : Transit t := by
  cases e with
  | client e =>
      obtain ⟨hstepped, -, hup, hdown, hserver⟩ := client_spec hstep
      obtain ⟨hkept, ⟨ms, hlog, hunsent⟩, hreceived⟩ := hstepped.kept h.client
      refine ⟨hkept, hserver ▸ h.server, ?_, ?_⟩
      · rw [hlog, h.up, hserver, hup]
        simp [hunsent]
      · rw [hserver, h.down, hreceived, hdown]
        simp
  | server e =>
      obtain ⟨hstepped, hdown, hup, hclient⟩ := server_spec hstep
      obtain ⟨hkept, ⟨ms, hlog, hunsent⟩, hreceived⟩ := hstepped.kept h.server
      refine ⟨hclient ▸ h.client, hkept, ?_, ?_⟩
      · rw [hclient, h.up, hreceived, hup]
        simp
      · rw [hlog, h.down, hclient, hdown]
        simp [hunsent]

theorem transit_of_reach {capacity : Nat} {ok : State → Event → Prop} {pty : Option PtyMaster}
    {ports : List Port} {s : State} (h : Reach (step capacity) ok (new pty ports) s) :
    Transit s :=
  h.invariant (transit_new pty ports) fun _ _ _ _ htransit _ hstep => htransit.step hstep

theorem Transit.up_log {s : State} (h : Transit s) : s.client.side.view.log =
    (s.server.side.delivered ++ s.server.side.receiver.hand) ++
      (s.up ++ s.client.side.unsent).filterMap Message.toStream := by
  simp only [Side.view]
  rw [← h.server.received_eq, h.up]
  simp only [List.filterMap_append, List.append_assoc]

theorem Transit.down_log {s : State} (h : Transit s) : s.server.side.view.log =
    (s.client.side.delivered ++ s.client.side.receiver.hand) ++
      (s.down ++ s.server.side.unsent).filterMap Message.toStream := by
  simp only [Side.view]
  rw [← h.client.received_eq, h.down]
  simp only [List.filterMap_append, List.append_assoc]

/-- What the receivers put into the inboxes is what the peer has enqueued, in order. -/
theorem Transit.fifo {s : State} (h : Transit s) :
    Channel.Fifo s.client.side.view s.server.side.view := by
  constructor
  · rw [h.up_log, List.append_assoc]
    exact List.prefix_append _ _
  · rw [h.down_log, List.append_assoc]
    exact List.prefix_append _ _

end Rlirsh.Session
