import Rlirsh.Session.Registration

namespace Rlirsh.Session

open Rlirsh.Protocol
open Rlirsh.Terminal (PtyMaster)
open Rlirsh.Lib.Machine
open Rlirsh.Stream
open Rlirsh.Stream.Ports (Held)
open Rlirsh.Execute

/-- Neither router has been shut down or left by its receiver with an error. -/
structure RoutersKept (s : State) : Prop where
  client : s.client.side.receiver.attending = true
  server : s.server.side.receiver.attending = true

/-- What is late for a source is found in the router, and the receiver drops it and goes
on. -/
structure Discarding (capacity : Nat) (s : State) : Prop where
  client_found : ∀ id action t, (s.client.side.view.source id).ended = true →
    step capacity s (.client (.receive (.stream (.sink id action)))) = some t →
    t.client.side.receiver = .dispatch (.sink id action)
  client_dropped : s.client.returned = false → ∀ id action,
    (s.client.side.view.source id).ended = true →
    s.client.side.receiver = .dispatch (.sink id action) →
    ∃ t, step capacity s (.client (.side (.receiver .dispatch))) = some t ∧
      t.client.side.receiver = .recv ∧
      t.client.side.view.source id = s.client.side.view.source id
  server_found : ∀ id action t, (s.server.side.view.source id).ended = true →
    step capacity s (.server (.receive (.stream (.sink id action)))) = some t →
    t.server.side.receiver = .dispatch (.sink id action)
  server_dropped : ∀ id action, (s.server.side.view.source id).ended = true →
    s.server.side.receiver = .dispatch (.sink id action) →
    ∃ t, step capacity s (.server (.side (.receiver .dispatch))) = some t ∧
      t.server.side.receiver = .recv ∧
      t.server.side.view.source id = s.server.side.view.source id

section

variable {T : Type} [Message T] {side side' : Side T} {env : Env} {id : StreamId}

theorem sources_of_ended (h : (side.view.source id).ended = true) :
    ∃ a, side.sources.get id = some a ∧ a.ended = true := by
  cases hget : side.sources.get id with
  | none =>
      simp only [Side.view, hget] at h
      cases h
  | some a =>
      rw [Side.view_source hget] at h
      exact ⟨a, rfl, h⟩

theorem dispatch_of_ended (env : Env) {action : SinkAction} (h : (side.view.source id).ended = true)
    (hpc : side.receiver = .dispatch (.sink id action)) :
    ∃ side', side.step env (.receiver .dispatch) = some side' ∧ side'.receiver = .recv ∧
      side'.view.source id = side.view.source id := by
  obtain ⟨a, hget, hended⟩ := sources_of_ended h
  by_cases horphaned : side.orphaned id = true
  · refine ⟨side.handed (.sink id action), ?_, rfl, rfl⟩
    simp only [Side.step, Side.stepReceiver, hpc, Side.dispatch, Side.discards_sink, horphaned,
      if_true]
  refine ⟨((side.handed (.sink id action)).dropSender id).setSource id a, ?_, rfl, ?_⟩
  · simp only [Side.step, Side.stepReceiver, hpc, Side.dispatch, Side.discards_sink, horphaned,
      hget, Source.Task.deliver, hended, if_true, Side.steppedSource, if_false, Bool.false_eq_true]
  · rw [Side.view_source hget]
    exact Side.view_source (Lib.Table.get_set_self _ _ _)

theorem attending_of_step {e : Side.Event} (hstep : side.step env e = some side')
    (h : side'.receiver.attending = true) : side.receiver.attending = true := by
  by_cases hreceiver : ∃ e', e = .receiver e'
  · obtain ⟨e', rfl⟩ := hreceiver
    cases Side.stepReceiver_spec hstep with
    | dispatch pc => rw [pc]; rfl
    | abort pc => rw [pc]; rfl
    | shutdownSink pc => cases h
    | shutdownSource pc | shutdownOrphan pc => cases h
  · rw [← (Side.receiver_step (fun e' he => hreceiver ⟨e', he⟩) hstep).1]
    exact h

end

theorem client_attending_of_stepped {c d : Client.State} {e : Client.Event}
    (hstep : Client.Stepped c e d) (h : d.side.receiver.attending = true) :
    c.side.receiver.attending = true := by
  cases hstep with
  | side step => exact attending_of_step step h
  | take pc | exit pc | exitTwice pc | finished pc => rw [pc]; rfl
  | leave => cases h
  | _ => exact h

theorem server_attending_of_stepped {v w : Server.State} {e : Server.Event}
    (hstep : Server.Stepped v e w) (h : w.side.receiver.attending = true) :
    v.side.receiver.attending = true := by
  cases hstep with
  | side step => exact attending_of_step step h
  | take pc | windowSizeChange pc | finished pc => rw [pc]; rfl
  | leave => cases h
  | _ => exact h

variable {capacity : Nat} {pty : Option PtyMaster} {ports : List Port} {s t : State}

theorem RoutersKept.of_step {e : Event} (hstep : step capacity s e = some t)
    (h : RoutersKept t) : RoutersKept s := by
  cases e with
  | client e =>
      obtain ⟨hstepped, -, -, -, hserver⟩ := client_spec hstep
      exact ⟨client_attending_of_stepped hstepped h.client, hserver ▸ h.server⟩
  | server e =>
      obtain ⟨hstepped, -, -, hclient⟩ := server_spec hstep
      exact ⟨hclient ▸ h.client, server_attending_of_stepped hstepped h.server⟩

theorem receiver_of_take {action : StreamAction}
    (hstep : step capacity s (.client (.receive (.stream action))) = some t) :
    t.client.side.receiver =
      if s.client.side.found action then .dispatch action else .failed (some action) := by
  have hstepped := (client_spec hstep).stepped
  generalize t.client = d at hstepped
  cases hstepped
  rfl

theorem server_receiver_of_take {action : StreamAction}
    (hstep : step capacity s (.server (.receive (.stream action))) = some t) :
    t.server.side.receiver =
      if s.server.side.found action then .dispatch action else .failed (some action) := by
  have hstepped := (server_spec hstep).stepped
  generalize t.server = w at hstepped
  cases hstepped
  rfl

theorem Sound.awake_of_kept {e : Event} (h : Sound pty ports s)
    (hstep : Session.step capacity s e = some t) (hkept : RoutersKept t) :
    awake s e = true := by
  unfold awake
  split
  · rename_i action
    split
    · rename_i port conn hid
      by_contra hnot
      have hheld : Held s.client.side.ports port conn := by simpa using hnot
      have hfound : s.client.side.found action = false := Bool.eq_false_iff.mpr fun hfound =>
        h.forwarding.client.not_uses_of_held hheld (uses_of_found hid hfound)
      have hattending := hkept.client
      rw [receiver_of_take hstep, hfound] at hattending
      cases hattending
    · rfl
  · rfl

theorem attended_of_kept (h : Reach (step capacity) Reliable (new pty ports) s)
    (hkept : RoutersKept s) : Reach (step capacity) Attended (new pty ports) s := by
  induction h with
  | refl => exact .refl _
  | tail _ hlast ih =>
      obtain ⟨e, hok, hstep⟩ := hlast
      have hreach := ih (hkept.of_step hstep)
      exact hreach.snoc ⟨hok, (sound_of_reach hreach).awake_of_kept hstep hkept⟩ hstep

theorem Sound.discarding (h : Sound pty ports s) : Discarding capacity s where
  client_found id action t hended hstep := by
    have hawake : awake s (.client (.receive (.stream (.sink id action)))) = true := by
      by_contra hasleep
      obtain ⟨a, hget, -⟩ := sources_of_ended hended
      cases id with
      | forward port conn =>
          have hheld : Held s.client.side.ports port conn := by
            simpa [awake, streamOf] using hasleep
          exact h.forwarding.client.not_uses_of_held hheld
            (Or.inr (Or.inr (Or.inl (Side.sources_of_get hget))))
      | _ => exact hasleep rfl
    rw [receiver_of_take hstep, h.client_found (receiving_of_step hstep) hawake hstep, if_pos rfl]
  client_dropped halive id action hended hpc := by
    obtain ⟨side, hside, hfacts⟩ := dispatch_of_ended s.client.env hended hpc
    exact ⟨_, client_side_step halive hside (fun heq => by cases heq), hfacts⟩
  server_found id action t hended hstep := by
    rw [server_receiver_of_take hstep, h.server_found (server_receiving_of_step hstep) hstep,
      if_pos rfl]
  server_dropped id action hended hpc := by
    obtain ⟨side, hside, hfacts⟩ := dispatch_of_ended s.server.env hended hpc
    exact ⟨_, server_side_step hside (fun heq => by cases heq), hfacts⟩

/-- Each direction of a stream runs in order: neither its source nor its sink fails. -/
structure Ordered (pty : Option PtyMaster) (s : State) : Prop where
  outward : ∀ id, Reach Pair.step Window.Orderly (Pair.new (Client.writer id)) (s.outward id)
  inward : ∀ id, Reach Pair.step Window.Orderly (Pair.new (Server.writer pty id)) (s.inward id)

theorem ordered_of_reach (h : Reach (step capacity) Attended (new pty ports) s) :
    Ordered pty s where
  outward id := by
    refine outward_reach id h (fun _ => trivial) (fun _ => trivial) ?_
    exact fun a e b pe ha hok hstep hpe => (sound_of_reach ha).outward_orderly hok.1 hstep hpe
  inward id := by
    refine inward_reach id h ?_
    exact fun a e b pe ha hok hstep hpe => (sound_of_reach ha).inward_orderly hok.1 hstep hpe

/-- Every stream is closed in order, from whichever end; and in the sessions whose streams
these are, as long as the routers are kept, what is late for a source is found in the router
and dropped. -/
theorem closed_in_order :
    (∀ writer p, Reach Pair.step Window.Orderly (Pair.new writer) p → Closure.InOrder p) ∧
    (∀ writer es p, run (guarded Pair.step Window.Orderly) (Pair.new writer) es = some p →
      es.count (.sink .shutdownDone) + (if p.sink.pc = .shutdown then 1 else 0) =
        if p.sink.tookClosed then 1 else 0) ∧
    ∀ capacity pty ports s, Reach (step capacity) Reliable (new pty ports) s → RoutersKept s →
      Ordered pty s ∧ Discarding capacity s := by
  refine ⟨fun writer p => Closure.inOrder_of_reach,
    fun writer es p => Closure.shutdownDone_once, fun capacity pty ports s h hkept => ?_⟩
  have hattended := attended_of_kept h hkept
  exact ⟨ordered_of_reach hattended, (sound_of_reach hattended).discarding⟩

/-- The standard input comes to its end, and then the child exits. -/
def endsThenExits : List Event :=
  [.client (.side (.source .stdin (.read (.ok [])))), .client (.side (.source .stdin .sent)),
    .server (.childExited (.code 0)), .server .mainSent, .server (.side (.sender .recv)),
    .server (.side (.sender .sent))]

theorem closed_in_order_endsThenExits :
    (∃ p, run Pair.step (Pair.new .file) Closure.allAtOnce = some p ∧ Closure.InOrder p ∧
      p.source.ended = true) ∧
    ∃ s t, run (step 1) (new none []) endsThenExits = some s ∧
      step 1 s (.client (.receive (.stream (.sink .stdin .sinkClosed)))) = some t ∧
      t.client.side.receiver = .dispatch (.sink .stdin .sinkClosed) := by
  constructor
  · obtain ⟨p, hrun⟩ : ∃ p, run (guarded Pair.step Window.Orderly) (Pair.new .file)
        Closure.allAtOnce = some p := ⟨_, rfl⟩
    obtain ⟨hrun', hreach⟩ := reach_of_guarded hrun
    refine ⟨p, hrun', closed_in_order.1 .file p hreach, ?_⟩
    obtain rfl := Option.some.inj hrun
    rfl
  · have hfacts : (run (guarded (step 1) Reliable) (new none []) endsThenExits).map (fun s =>
        (s.client.side.receiver.attending, s.server.side.receiver.attending,
          (s.client.side.view.source .stdin).ended,
          (step 1 s (.client (.receive (.stream (.sink .stdin .sinkClosed))))).isSome)) =
        some (true, true, true, true) := by decide +kernel
    obtain ⟨s, hrun, hs⟩ := Option.map_eq_some_iff.mp hfacts
    simp only [Prod.mk.injEq] at hs
    obtain ⟨hclient, hserver, hended, htaken⟩ := hs
    obtain ⟨hrun', hreach⟩ := reach_of_guarded hrun
    obtain ⟨t, ht⟩ := Option.isSome_iff_exists.mp htaken
    obtain ⟨-, hdiscarding⟩ := closed_in_order.2.2 1 none [] s hreach ⟨hclient, hserver⟩
    exact ⟨s, t, hrun', ht, hdiscarding.client_found .stdin .sinkClosed t hended ht⟩

end Rlirsh.Session
