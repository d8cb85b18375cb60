import Rlirsh.Session.Reliable

namespace Rlirsh.Session

open Rlirsh.Protocol
open Rlirsh.Terminal (PtyMaster)
open Rlirsh.Lib.Machine
open Rlirsh.Stream
open Rlirsh.Stream.Ports (Held)
open Rlirsh.Execute

variable {capacity : Nat} {pty : Option PtyMaster} {ports : List Port} {s t : State} {id : StreamId}
  {action : StreamAction}

theorem uses_of_found {T : Type} [Message T] {side : Side T} (hid : streamOf action = some id)
    (hfound : side.found action = true) : side.ports.uses id := by
  cases action with
  | source id' a =>
      obtain rfl := Option.some.inj hid
      exact Or.inl (of_decide_eq_true hfound)
  | sink id' a =>
      obtain rfl := Option.some.inj hid
      exact Or.inr (Or.inl (of_decide_eq_true hfound))
  | listener | connecter => cases hid

theorem Sound.awake_of_found (h : Sound pty ports s) (hid : streamOf action = some id)
    (hforward : id.isForward = true) (hfound : s.client.side.found action = true) :
    awake s (.client (.receive (.stream action))) = true := by
  obtain ⟨port, conn, rfl⟩ := exists_forward hforward
  have hnot : ¬ Held s.client.side.ports port conn := fun hheld =>
    h.forwarding.client.not_uses_of_held hheld (uses_of_found hid hfound)
  simpa [awake, hid] using hnot

theorem receiving_of_step {m : ServerAction}
    (hstep : step capacity s (.client (.receive m)) = some t) :
    s.client.side.receiver = .recv := by
  have hstepped := (client_spec hstep).stepped
  generalize t.client = d at hstepped
  cases hstepped <;> assumption

theorem server_receiving_of_step {m : ClientAction}
    (hstep : step capacity s (.server (.receive m)) = some t) :
    s.server.side.receiver = .recv := by
  have hstepped := (server_spec hstep).stepped
  generalize t.server = w at hstepped
  cases hstepped <;> assumption

/-- While the client takes no action of a forwarded connection before its listener has woken
up, no receiver fails; and in every such session it is found on the client exactly if the
listener has, and on the server anyway. -/
theorem registered_iff_awake (capacity : Nat) (pty : Option PtyMaster) (ports : List Port)
    (s : State) (h : Reach (step capacity) Attended (new pty ports) s) :
    (∀ undelivered, s.client.side.receiver ≠ .failed undelivered ∧
      s.server.side.receiver ≠ .failed undelivered) ∧
    ∀ action id t, streamOf action = some id → id.isForward = true →
      (step capacity s (.client (.receive (.stream action))) = some t →
        (s.client.side.found action = true ↔
          awake s (.client (.receive (.stream action))) = true)) ∧
      (step capacity s (.server (.receive (.stream action))) = some t →
        s.server.side.found action = true) := by
  have hsound := sound_of_reach h
  refine ⟨fun undelivered => ⟨?_, ?_⟩,
    fun action id t hid hforward => ⟨fun hstep => ?_, fun hstep => ?_⟩⟩
  · exact (ReceiverPc.attending_iff.mp hsound.client).2 undelivered
  · exact (ReceiverPc.attending_iff.mp hsound.server).2 undelivered
  · exact ⟨hsound.awake_of_found hid hforward,
      fun hawake => hsound.client_found (receiving_of_step hstep) hawake hstep⟩
  · exact hsound.server_found (server_receiving_of_step hstep) hstep

/-- The server speaks first: its packet is sent behind the response. -/
def speaking : List Event :=
  connecting 0 ++ returning 0 ++
  [.client (.side (.receiver .dispatch)),
    .server (.side (.source (.forward ⟨0⟩ ⟨0⟩) (.read (.ok [104, 105])))),
    .server (.side (.source (.forward ⟨0⟩ ⟨0⟩) .sent)),
    .server (.side (.sender .recv)), .server (.side (.sender .sent))]

/-- The packet of the server. -/
def greeting : StreamAction := .source (.forward ⟨0⟩ ⟨0⟩) (.data [104, 105])

theorem registered_iff_awake_speaking :
    ∃ s t, run (step 1) (new none [webPort])
        (speaking ++ [.client (.side (.listener ⟨0⟩ .response))]) = some s ∧
      step 1 s (.client (.receive (.stream greeting))) = some t ∧
      s.client.side.found greeting = true := by
  have hwoken : (run (guarded (step 1) Attended) (new none [webPort])
      (speaking ++ [.client (.side (.listener ⟨0⟩ .response))])).map
        (fun s => (awake s (.client (.receive (.stream greeting))),
          (step 1 s (.client (.receive (.stream greeting)))).isSome)) = some (true, true) := by
    decide +kernel
  obtain ⟨s, hs, hfacts⟩ := Option.map_eq_some_iff.mp hwoken
  obtain ⟨hawake, htaken⟩ := Prod.mk.inj hfacts
  obtain ⟨t, ht⟩ := Option.isSome_iff_exists.mp htaken
  obtain ⟨hs', hreach⟩ := reach_of_guarded hs
  have hfound := (registered_iff_awake 1 none [webPort] s hreach).2 greeting _ t rfl rfl
  exact ⟨s, t, hs', ht, (hfound.1 ht).mpr hawake⟩

/-- Without the listener having woken up, the receiver of the client takes the packet and
fails. -/
theorem failed_by_speaking :
    ∃ s, run (guarded (step 1) Reliable) (new none [webPort])
        (speaking ++ [.client (.receive (.stream greeting))]) = some s ∧
      s.client.side.receiver = .failed (some greeting) := by
  have hfailed : (run (guarded (step 1) Reliable) (new none [webPort])
      (speaking ++ [.client (.receive (.stream greeting))])).map
        (fun s => s.client.side.receiver) = some (.failed (some greeting)) := by decide +kernel
  exact Option.map_eq_some_iff.mp hfailed

end Rlirsh.Session
