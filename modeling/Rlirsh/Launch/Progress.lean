import Rlirsh.Launch.Transport
import Rlirsh.Session.Progress

namespace Rlirsh.Stream.Side

theorem sending_of_sent {T : Type} [Message T] {env : Env} {s t : Side T}
    (hstep : s.step env (.sender .sent) = some t) : ∃ m, s.sending.head? = some m := by
  cases stepSender_spec hstep with
  | sent pc => exact ⟨_, by rw [sending, pc]; rfl⟩
  | finished pc => exact ⟨_, by rw [sending, pc]; rfl⟩

end Rlirsh.Stream.Side

namespace Rlirsh.Launch

open Rlirsh.Protocol
open Rlirsh.Lib
open Rlirsh.Lib.Machine
open Rlirsh.Lib.Framed (Serves Answers)
open Rlirsh.Execute

/-- The network has to fail for the step, or it is one of the environment of the session. -/
def ClientEvent.external : ClientEvent → Bool
  | .sendFailed _ | .recvFailed _ => true
  | .setUp _ => false
  | .serve e => Session.external (.client e)

def ServerEvent.external : ServerEvent → Bool
  | .recvFailed _ | .sendFailed _ => true
  | .handle _ => false
  | .serve e => Session.external (.server e)

/-- A step of the conversation that the two processes can take by themselves. -/
inductive Own : Event → Prop
  | client {e : ClientEvent} (h : e.external = false) : Own (.left (.own e))
  | clientSent : Own (.left .sent)
  | clientReceive : Own (.left .receive)
  | server {e : ServerEvent} (h : e.external = false) : Own (.right (.own e))
  | serverSent : Own (.right .sent)
  | serverReceive : Own (.right .receive)

def external : Framed.Event ClientEvent (ServerEvent) → Bool
  | .left (.own e) => e.external
  | .right (.own e) => e.external
  | .left (.write _) | .left (.read _) | .right (.write _) | .right (.read _) => false

/-- Neither process can take a step, nor write or read a byte. -/
def Codecs.Stuck (codecs : Codecs) (s : Wires) : Prop :=
  ∀ e, external e = false → codecs.step s e = none

/-- What is being sent can be sent: it has a form, within the limit. -/
abbrev Codecs.Sendable (codecs : Codecs) (s : Wires) : Prop :=
  Framed.Sendable codecs.client codecs.server s

/-- Neither the network fails with the step nor a call of the set-up. -/
def unfailing : Event → Bool
  | .left (.own (.sendFailed _)) | .left (.own (.recvFailed _))
  | .left (.own (.setUp (.error _))) => false
  | .right (.own (.recvFailed _)) | .right (.own (.sendFailed _)) => false
  | _ => true

variable {codecs : Codecs} {prep : Prepared} {req : ExecuteRequest} {up down : ℕ+} {s : Wires}
  {r : Conversation}

theorem Own.answered {e : Event} (h : Own e)
    {e' : Framed.Event ClientEvent (ServerEvent)} (hanswers : Answers e e') :
    external e' = false := by
  cases h with
  | client hown =>
      cases hanswers with
      | left hserves =>
          cases hserves
          exact hown
  | server hown =>
      cases hanswers with
      | right hserves =>
          cases hserves
          exact hown
  | clientSent =>
      cases hanswers with
      | forth n => rfl
      | left hserves =>
          cases hserves
          rfl
  | clientReceive =>
      cases hanswers with
      | left hserves =>
          cases hserves
          rfl
  | serverSent =>
      cases hanswers with
      | back n => rfl
      | right hserves =>
          cases hserves
          rfl
  | serverReceive =>
      cases hanswers with
      | right hserves =>
          cases hserves
          rfl

theorem client_reads {c d : ClientMain} {m : Down} (h : c.receive m = some d) :
    c.reads = true := by
  obtain ⟨pc, allocatePty, localListeners⟩ := c
  cases ClientMain.receive_spec h with
  | accepted hpc | rejected hpc =>
      obtain rfl : pc = _ := hpc
      rfl
  | action hpc hserve =>
      obtain rfl : pc = _ := hpc
      obtain ⟨halive, hstepped⟩ := Client.step_spec hserve
      cases hstepped with
      | take hrecv | exit hrecv | exitTwice hrecv | finished hrecv =>
          simp [ClientMain.reads, halive, hrecv]

theorem server_reads {v w : ServerMain} {m : Up} (h : v.receive m = some w) :
    v.reads = true := by
  obtain ⟨pc, system, processes⟩ := v
  cases ServerMain.receive_spec h with
  | request hpc =>
      obtain rfl : pc = _ := hpc
      rfl
  | action hpc hserve =>
      obtain rfl : pc = _ := hpc
      cases Server.step_spec hserve with
      | take hrecv | windowSizeChange hrecv | finished hrecv => simp [ServerMain.reads, hrecv]

/-- Where nothing is done over the streams, nothing is in the conversation. -/
theorem conversation_stuck
    (h : Reach codecs.step Any (Wires.new prep up down) s) (hsendable : codecs.Sendable s)
    (hstuck : codecs.Stuck s) {e : Event} (hown : Own e)
    (hheard : Framed.Heard codecs.client codecs.server s.conversation e) (capacity : Nat) :
    step capacity s.conversation e = none := by
  rw [Option.eq_none_iff_forall_not_mem]
  intro r hstep
  obtain ⟨⟨room, hreach⟩, hflows⟩ := conversation_of_bytes h
  have hlaunched := launched_of_reach hreach
  obtain ⟨e', t, hanswers, henabled⟩ := Framed.enabled_of_step hflows client_fits server_fits
    (agreed_client hlaunched) (agreed_server hlaunched) hsendable (fun _ _ => client_reads)
    (fun _ _ => server_reads) hheard hstep
  have hnone := hstuck e' (hown.answered hanswers)
  rw [Codecs.step, henabled] at hnone
  cases hnone

theorem own_of_session {e' : Event} {e : Session.Event} (h : sessionEvent r e' = some e)
    (hexternal : Session.external e = false) : Own e' := by
  unfold sessionEvent at h
  split at h
  · obtain rfl := Option.some.inj h
    exact .client hexternal
  · exact .clientSent
  · exact .clientReceive
  · obtain rfl := Option.some.inj h
    exact .server hexternal
  · exact .serverSent
  · exact .serverReceive
  · cases h

theorem heard_of_session {client : Client.State} {server : Server.State} {e' : Event}
    {e : Session.Event} (hleft : r.left.pc = .serve client) (hright : r.right.pc = .serve server)
    (hevent : sessionEvent r e' = some e) (hheard : Session.heard (session req r) e = true) :
    Framed.Heard codecs.client codecs.server r e' := by
  have hclient : (session req r).client = client := by rw [session, ClientMain.session, hleft]
  have hserver : (session req r).server = server := by rw [session, ServerMain.session, hright]
  cases e' with
  | left m =>
      cases m with
      | own | receive => trivial
      | sent =>
          simp only [sessionEvent, hleft] at hevent
          obtain rfl := Option.some.inj hevent
          rw [Session.heard, hserver] at hheard
          simpa [Framed.Heard, Codecs.server, Launch.server, ServerMain.reads, hright] using hheard
  | right m =>
      cases m with
      | own | receive => trivial
      | sent =>
          simp only [sessionEvent, hright] at hevent
          obtain rfl := Option.some.inj hevent
          rw [Session.heard, hclient] at hheard
          simpa [Framed.Heard, Codecs.client, Launch.client, ClientMain.reads, hleft] using hheard

theorem client_enabled {client : Client.State} {bs : List ServerAction} {capacity : Nat}
    {e : Client.Event} {t : Session.State} (hpc : r.left.pc = .serve client)
    (hback : r.back = bs.map .action)
    (hstep : Session.step capacity (session req r) (.client e) = some t) :
    ∃ e' capacity', sessionEvent r e' = some (.client e) ∧
      (Launch.step capacity' r e').isSome = true := by
  have hdown := (Session.client_spec hstep).down
  have hsession : (session req r).client = client := by rw [session, ClientMain.session, hpc]
  simp only [Session.step, hsession, Option.bind_eq_bind, Option.bind_eq_some_iff] at hstep
  obtain ⟨client', hclient, -⟩ := hstep
  obtain ⟨halive, hstepped⟩ := Client.step_spec hclient
  by_cases hsent : e = .side (.sender .sent)
  · subst hsent
    obtain ⟨a, hsending⟩ : ∃ a, client.side.sending.head? = some a := by
      cases hstepped with
      | side hside => exact Stream.Side.sending_of_sent hside
    refine ⟨.left .sent, r.forth.length + 1, by simp only [sessionEvent, hpc], ?_⟩
    simp [step, Parties.step, Parties.move, Launch.client, ClientMain.offer, ClientMain.sent, hpc,
      halive, hsending, hclient]
  · by_cases hreceive : ∃ m, e = .receive m
    · obtain ⟨m, rfl⟩ := hreceive
      have hbs : (session req r).down = bs := by
        simp [session, hback, Down.action?, List.filterMap_map, Function.comp_def]
      rw [hbs] at hdown
      subst hdown
      refine ⟨.left .receive, 0, ?_, ?_⟩
      · simp [sessionEvent, hpc, hback, Client.Event.input]
      · simp [step, Parties.step, Parties.move, Launch.client, hback, Client.Event.input,
          ClientMain.receive, hpc, hclient]
    · refine ⟨.left (.own (.serve e)), 0, rfl, ?_⟩
      have hserve : (r.left.step (.serve e)).isSome = true := by
        have hne : ∀ m, e ≠ .receive m := fun m hm => hreceive ⟨m, hm⟩
        simp only [ClientMain.step, hpc, hclient, Option.map_some, Option.isSome_some]
      simpa [step, Parties.step, Parties.move, Launch.client] using hserve

theorem server_enabled {server : Server.State} {as : List ClientAction} {capacity : Nat}
    {e : Server.Event} {t : Session.State} (hpc : r.right.pc = .serve server)
    (hforth : r.forth = as.map .action)
    (hstep : Session.step capacity (session req r) (.server e) = some t) :
    ∃ e' capacity', sessionEvent r e' = some (.server e) ∧
      (Launch.step capacity' r e').isSome = true := by
  have hup := (Session.server_spec hstep).up
  have hsession : (session req r).server = server := by rw [session, ServerMain.session, hpc]
  simp only [Session.step, hsession, Option.bind_eq_bind, Option.bind_eq_some_iff] at hstep
  obtain ⟨server', hserver, -⟩ := hstep
  by_cases hsent : e = .side (.sender .sent)
  · subst hsent
    obtain ⟨a, hsending⟩ : ∃ a, server.side.sending.head? = some a := by
      cases Server.step_spec hserver with
      | side hside => exact Stream.Side.sending_of_sent hside
    refine ⟨.right .sent, r.back.length + 1, by simp only [sessionEvent, hpc], ?_⟩
    simp [step, Parties.step, Parties.move, Launch.server, Parties.Joint.swap, ServerMain.offer,
      ServerMain.sent, hpc, hsending, hserver]
  · by_cases hreceive : ∃ m, e = .receive m
    · obtain ⟨m, rfl⟩ := hreceive
      have has : (session req r).up = as := by
        simp [session, hforth, Up.action?, List.filterMap_map, Function.comp_def]
      rw [has] at hup
      subst hup
      refine ⟨.right .receive, 0, ?_, ?_⟩
      · simp [sessionEvent, hpc, hforth, Server.Event.input]
      · simp [step, Parties.step, Parties.move, Launch.server, Parties.Joint.swap, hforth,
          Server.Event.input, ServerMain.receive, hpc, hserver]
    · refine ⟨.right (.own (.serve e)), 0, rfl, ?_⟩
      have hserve : (r.right.step (.serve e)).isSome = true := by
        have hne : ∀ m, e ≠ .receive m := fun m hm => hreceive ⟨m, hm⟩
        simp only [ServerMain.step, hpc, hserver, Option.map_some, Option.isSome_some]
      simpa [step, Parties.step, Parties.move, Launch.server, Parties.Joint.swap] using hserve

theorem session_enabled {client : Client.State} {server : Server.State} {capacity : Nat}
    {e : Session.Event} {t : Session.State} (h : Launched prep r)
    (hleft : r.left.pc = .serve client) (hright : r.right.pc = .serve server)
    (hstep : Session.step capacity (session req r) e = some t) :
    ∃ e' capacity', sessionEvent r e' = some e ∧ (Launch.step capacity' r e').isSome = true := by
  have hserves : r.left.pc.apart = false := by
    rw [hleft]
    rfl
  obtain ⟨-, as, bs, -, hforth, hback⟩ := h.phase.serving hserves
  cases e with
  | client e => exact client_enabled hleft hback hstep
  | server e => exact server_enabled hright hforth hstep

/-- No system call succeeds. -/
def deadSystem : System :=
  { lookup := fun _ => .error [], passwd := none, shell := none, openPty := .error []
    spawn := .error [], tryClone := .error [] }

/-- Unless a side has failed or the session has begun on both, one of them can go on with the
handshake. -/
theorem handshake_enabled (codecs : Codecs) (h : Launched prep r) :
    (∃ chain, r.left.pc = .err chain) ∨ (∃ chain, r.right.pc = .err chain) ∨
      (∃ client server, r.left.pc = .serve client ∧ r.right.pc = .serve server) ∨
      ∃ e capacity, (Own e ∧ unfailing e = true ∧ sessionEvent r e = none) ∧
        Framed.Heard codecs.client codecs.server r e ∧
        (Launch.step capacity r e).isSome = true := by
  have hphase := h.phase
  obtain ⟨⟨pc, allocatePty, localListeners⟩, ⟨vpc, system, processes⟩, forth, back⟩ := r
  cases vpc with
  | recvRequest =>
      obtain ⟨-, ⟨hpc, rfl⟩ | ⟨-, hforth | ⟨-, chain, hpc⟩⟩⟩ := hphase
      · obtain rfl : pc = _ := hpc
        exact Or.inr (Or.inr (Or.inr ⟨.left .sent, 1, ⟨.clientSent, rfl, rfl⟩, rfl, rfl⟩))
      · obtain rfl : forth = _ := hforth
        exact Or.inr (Or.inr (Or.inr
          ⟨.right .receive, 0, ⟨.serverReceive, rfl, rfl⟩, trivial, rfl⟩))
      · exact Or.inl ⟨chain, hpc⟩
  | handle req' =>
      exact Or.inr (Or.inr (Or.inr
        ⟨.right (.own (.handle deadSystem)), 0, ⟨.server rfl, rfl, rfl⟩, trivial, rfl⟩))
  | sendResponse res =>
      obtain ⟨hwaiting, -, rfl⟩ := hphase
      cases pc with
      | err chain => exact Or.inl ⟨chain, rfl⟩
      | recvResponse =>
          refine Or.inr (Or.inr (Or.inr ⟨.right .sent, 1, ⟨.serverSent, rfl, rfl⟩, rfl, ?_⟩))
          cases res <;> rfl
      | sendRequest | setUp | serve => cases hwaiting
  | serve server =>
      cases pc with
      | err chain => exact Or.inl ⟨chain, rfl⟩
      | serve client => exact Or.inr (Or.inr (Or.inl ⟨client, server, rfl, rfl⟩))
      | setUp =>
          exact Or.inr (Or.inr (Or.inr
            ⟨.left (.own (.setUp (.ok ()))), 0, ⟨.client rfl, rfl, rfl⟩, trivial, rfl⟩))
      | recvResponse =>
          obtain ⟨-, -, bs, rfl⟩ | ⟨hbegun, -⟩ := hphase
          · exact Or.inr (Or.inr (Or.inr
              ⟨.left .receive, 0, ⟨.clientReceive, rfl, rfl⟩, trivial, rfl⟩))
          · cases hbegun
      | sendRequest =>
          obtain ⟨hwaiting, -⟩ | ⟨hbegun, -⟩ := hphase
          · cases hwaiting
          · cases hbegun
  | err chain => exact Or.inr (Or.inl ⟨chain, rfl⟩)

/-- A connection over the streams, however few bytes they have room for, stands still only
where a side has failed, or both serve and the session stands still, but for messages that the
other side does not read.  So the handshake never does, nor does the framing block a message
that the other side waits for. -/
theorem stuck_of_bytes (codecs : Codecs) (prep : Prepared) (up down : ℕ+) (s : Wires)
    (h : Reach codecs.step Any (Wires.new prep up down) s) (hsendable : codecs.Sendable s)
    (hstuck : codecs.Stuck s) :
    (∃ chain, s.left.pc = .err chain) ∨ (∃ chain, s.right.pc = .err chain) ∨
      ∃ client server, s.left.pc = .serve client ∧ s.right.pc = .serve server ∧
        ∀ capacity, Session.Jammed capacity (session prep.req s.conversation) := by
  obtain ⟨⟨room, hreach⟩, -⟩ := conversation_of_bytes h
  have hlaunched := launched_of_reach hreach
  have hstill {e : Event} {capacity : Nat} (hown : Own e)
      (hheard : Framed.Heard codecs.client codecs.server s.conversation e) :
      (Launch.step capacity s.conversation e).isSome = false := by
    rw [conversation_stuck h hsendable hstuck hown hheard capacity]
    rfl
  rcases handshake_enabled codecs hlaunched with hleft | hright |
    ⟨client, server, hclient, hserver⟩ | ⟨e, capacity, ⟨hown, -, -⟩, hheard, henabled⟩
  · exact Or.inl hleft
  · exact Or.inr (Or.inl hright)
  · refine Or.inr (Or.inr ⟨client, server, hclient, hserver,
      fun capacity e hexternal hheard => ?_⟩)
    rw [Option.eq_none_iff_forall_not_mem]
    intro t hstep
    obtain ⟨e', capacity', hevent, henabled⟩ := session_enabled hlaunched hclient hserver hstep
    rw [hstill (own_of_session hevent hexternal)
      (heard_of_session hclient hserver hevent hheard)] at henabled
    cases henabled
  · rw [hstill hown hheard] at henabled
    cases henabled

/-- Both processes have finished. -/
structure Finished (r : Session.State) : Prop where
  returned : r.client.returned = true
  main : r.server.main = .ok
  receiver : r.server.side.receiver = .done true
  sender : r.server.side.sender = .done
  quiet : r.server.side.quiet = true

instance (r : Session.State) : Decidable (Finished r) :=
  decidable_of_iff (r.client.returned = true ∧ r.server.main = .ok ∧
      r.server.side.receiver = .done true ∧ r.server.side.sender = .done ∧
      r.server.side.quiet = true)
    ⟨fun ⟨h₁, h₂, h₃, h₄, h₅⟩ => ⟨h₁, h₂, h₃, h₄, h₅⟩,
      fun ⟨h₁, h₂, h₃, h₄, h₅⟩ => ⟨h₁, h₂, h₃, h₄, h₅⟩⟩

theorem Finished.serving (h : Finished (session req r)) :
    r.left.pc = .serve (session req r).client ∧ r.right.pc = .serve (session req r).server := by
  obtain ⟨⟨pc, allocatePty, localListeners⟩, ⟨vpc, system, processes⟩, forth, back⟩ := r
  constructor
  · cases pc with
    | serve client => rfl
    | sendRequest | recvResponse | setUp | err => cases h.returned
  · cases vpc with
    | serve server => rfl
    | recvRequest | handle | sendResponse | err => cases h.main

theorem Finished.offers (h : Finished (session req r)) :
    r.left.offer = none ∧ r.right.offer = none := by
  obtain ⟨hclient, hserver⟩ := h.serving
  constructor
  · rw [ClientMain.offer, hclient]
    simp [h.returned]
  · rw [ServerMain.offer, hserver]
    simp [Stream.Side.sending, h.sender]

theorem Finished.stuck (h : Finished (session req s.conversation)) : codecs.Stuck s := by
  obtain ⟨hleft, hright⟩ := h.serving
  have hclient : s.left.pc = .serve (session req s.conversation).client := hleft
  have hserver : s.right.pc = .serve (session req s.conversation).server := hright
  have hstill : Session.Stuck 0 (session req s.conversation) :=
    Session.stuck_of_returned h.returned h.main h.receiver h.sender
      (Stream.Side.quiet_iff.mp h.quiet)
  obtain ⟨hclientOffer, hserverOffer⟩ := h.offers
  have hclientOffer : s.left.offer = none := hclientOffer
  have hserverOffer : s.right.offer = none := hserverOffer
  obtain ⟨hreturned, -, hreceiver, -, -⟩ := h
  generalize session req s.conversation = r at *
  have hclientStep (e : ClientEvent) : s.left.step e = none := by
    cases e with
    | serve e =>
        have hnone : Client.step r.client e = none := by
          unfold Client.step
          rw [if_pos hreturned]
        simp only [ClientMain.step, hclient]
        split
        · rfl
        · rfl
        · rename_i client heq hsent hreceive
          obtain rfl := ClientPc.serve.inj heq
          rw [hnone]
          rfl
        · rfl
    | sendFailed | recvFailed | setUp => simp [ClientMain.step, hclient]
  have hserve (e : Server.Event) (hexternal : Session.external (.server e) = false)
      (hsent : e ≠ .side (.sender .sent)) (hreceive : ∀ m, e ≠ .receive m) :
      Server.step r.server e = none := by
    rw [Option.eq_none_iff_forall_not_mem]
    intro server' hstep
    have hnone := hstill (.server e) hexternal
    simp [Session.step, Option.mem_def.mp hstep, server_output_eq_none hsent,
      server_input_eq_none hreceive, Session.push, Session.pull] at hnone
  have hserverStep (e : ServerEvent) (hexternal : e.external = false) :
      s.right.step e = none := by
    cases e with
    | serve e =>
        simp only [ServerMain.step, hserver]
        split
        · rfl
        · rfl
        · rename_i server heq hsent hreceive
          obtain rfl := ServerPc.serve.inj heq
          rw [hserve _ hexternal hsent hreceive]
          rfl
        · rfl
    | recvFailed | handle | sendFailed => simp [ServerMain.step, hserver]
  have hclientReads : s.left.reads = false := by simp [ClientMain.reads, hclient, hreturned]
  have hserverReads : s.right.reads = false := by simp [ServerMain.reads, hserver, hreceiver]
  intro e hexternal
  cases e with
  | left a =>
      cases a with
      | own e => simp [Codecs.step, Framed.step, Framed.act, Codecs.client, client, hclientStep]
      | write n => simp [Codecs.step, Framed.step, Framed.act, Codecs.client, client, hclientOffer]
      | read n => simp [Codecs.step, Framed.step, Framed.act, Codecs.client, client, hclientReads]
  | right a =>
      cases a with
      | own e =>
          simp [Codecs.step, Framed.step, Framed.act, Framed.Wired.swap, Codecs.server, server,
            hserverStep e hexternal]
      | write n =>
          simp [Codecs.step, Framed.step, Framed.act, Framed.Wired.swap, Codecs.server, server,
            hserverOffer]
      | read n =>
          simp [Codecs.step, Framed.step, Framed.act, Framed.Wired.swap, Codecs.server, server,
            hserverReads]

/-- The child exits, both sides finish, and all tasks return. -/
def exited : List Session.Event := Session.exiting ++ Session.finishing ++ Session.joining

theorem stuck_of_bytes_exited :
    ∃ s, run someCodecs.step (Wires.new hello 5 5) (launched ++ exited.flatMap carry) = some s ∧
      someCodecs.Stuck s ∧
      ∀ capacity, Session.Jammed capacity (session hello.req s.conversation) := by
  have hrun : (run someCodecs.step (Wires.new hello 5 5)
      (launched ++ exited.flatMap carry)).any (fun s =>
        decide (Finished (session hello.req s.conversation))) = true := by decide +kernel
  obtain ⟨s, hs, hfacts⟩ := (Option.any_eq_true _ _).mp hrun
  have hfinished := of_decide_eq_true hfacts
  obtain ⟨hclientOffer, hserverOffer⟩ := hfinished.offers
  have hsendable : someCodecs.Sendable s := by
    constructor
    · intro m hoffer
      rw [show someCodecs.client.offer s.left = none from hclientOffer] at hoffer
      cases hoffer
    · intro m hoffer
      rw [show someCodecs.server.offer s.right = none from hserverOffer] at hoffer
      cases hoffer
  refine ⟨s, hs, hfinished.stuck, ?_⟩
  obtain ⟨hclient, hserver⟩ := hfinished.serving
  rcases stuck_of_bytes someCodecs hello 5 5 s (reach_of_run hs) hsendable hfinished.stuck with
    ⟨chain, hpc⟩ | ⟨chain, hpc⟩ | ⟨client, server, -, -, hstuck⟩
  · rw [show s.left.pc = _ from hclient] at hpc
    cases hpc
  · rw [show s.right.pc = _ from hserver] at hpc
    cases hpc
  · exact hstuck

end Rlirsh.Launch
