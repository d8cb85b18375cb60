import Rlirsh.Launch.Progress
import Rlirsh.Lib.Exhaustion
import Rlirsh.Session.Termination

namespace Rlirsh.Launch

open Rlirsh.Protocol
open Rlirsh.Lib
open Rlirsh.Lib.Machine
open Rlirsh.Lib.Parties (Joint Move Moved move_spec)
open Rlirsh.Execute

/-- Nothing fails on the way to the session, and the session admits the step. -/
def Smooth (req : ExecuteRequest) (ok : Session.State → Session.Event → Prop)
    (r : Conversation) (e : Event) : Prop :=
  unfailing e = true ∧ Admits req ok r e

/-- The connection has come to its end: the child has exited, or none is left to run. -/
inductive Ended (req : ExecuteRequest) (r : Conversation) : Prop
  | served {status : ExitStatus} (exit : r.left.exit = some (exitCode status))
      (final : Session.Final status (session req r))
  | refused {causes : Report} (client : r.left.pc = .err (refusal :: causes))
      (server : r.right.pc = .err causes) (killed : ∀ p ∈ r.right.processes, p.killed = true)

def ClientPc.rank : ClientPc → Nat
  | .sendRequest _ => 3
  | .recvResponse => 2
  | .setUp => 1
  | .serve _ | .err _ => 0

def ServerPc.rank : ServerPc → Nat
  | .recvRequest => 3
  | .handle _ => 2
  | .sendResponse _ => 1
  | .serve _ | .err _ => 0

/-- The steps the session can still take, or is going to have when it begins. -/
def cost (prep : Prepared) (r : Conversation) : Nat :=
  match r.right.pc with
  | .serve _ => (session prep.req r).potential
  | _ => 67 + 8 * prep.req.connectAddrs.length

/-- How many steps a conversation can still take, if nothing comes in from outside. -/
def rank (prep : Prepared) (r : Conversation) : Nat :=
  r.left.pc.rank + r.right.pc.rank + cost prep r

variable {prep : Prepared} {req : ExecuteRequest} {ok : Session.State → Session.Event → Prop}
  {capacity : Nat} {up down : ℕ+} {r t : Conversation}

theorem handshake_lt {e : Event} (hstep : step capacity r e = some t) :
    t.left.pc.rank + t.right.pc.rank < r.left.pc.rank + r.right.pc.rank ∨
      t.left.pc.rank + t.right.pc.rank = r.left.pc.rank + r.right.pc.rank ∧
        (sessionEvent r e).isSome = true ∧
        ((∃ client, r.left.pc = .serve client) ∨ ∃ server, r.right.pc = .serve server) := by
  obtain ⟨⟨pc, allocatePty, localListeners⟩, ⟨vpc, system, processes⟩, forth, back⟩ := r
  cases e with
  | left m =>
      cases move_spec (show Parties.move client capacity _ m = some t from hstep) with
      | own hown =>
          cases ClientMain.step_spec hown with
          | serve hpc =>
              obtain rfl : pc = _ := hpc
              exact Or.inr ⟨rfl, rfl, Or.inl ⟨_, rfl⟩⟩
          | sendFailed hpc | recvFailed hpc | setUp hpc | notSetUp hpc =>
              obtain rfl : pc = _ := hpc
              left
              simp only [ClientPc.rank]
              omega
      | sent hoffer hsent =>
          cases ClientMain.sent_spec hoffer hsent with
          | request hpc =>
              obtain rfl : pc = _ := hpc
              left
              simp only [ClientPc.rank]
              omega
          | action hpc =>
              obtain rfl : pc = _ := hpc
              exact Or.inr ⟨rfl, rfl, Or.inl ⟨_, rfl⟩⟩
      | receive hback hreceive =>
          obtain rfl : back = _ := hback
          cases ClientMain.receive_spec hreceive with
          | accepted hpc | rejected hpc =>
              obtain rfl : pc = _ := hpc
              left
              simp only [ClientPc.rank]
              omega
          | action hpc =>
              obtain rfl : pc = _ := hpc
              exact Or.inr ⟨rfl, rfl, Or.inl ⟨_, rfl⟩⟩
  | right m =>
      obtain ⟨u, hmove, rfl⟩ := Option.map_eq_some_iff.mp hstep
      cases move_spec hmove with
      | own hown =>
          cases ServerMain.step_spec hown with
          | serve hpc =>
              obtain rfl : vpc = _ := hpc
              exact Or.inr ⟨rfl, rfl, Or.inr ⟨_, rfl⟩⟩
          | recvFailed hpc | handle hpc | sendFailed hpc =>
              obtain rfl : vpc = _ := hpc
              left
              simp only [Joint.swap, ServerPc.rank]
              omega
      | sent hoffer hsent =>
          cases ServerMain.sent_spec hoffer hsent with
          | accepted hpc | rejected hpc =>
              obtain rfl : vpc = _ := hpc
              left
              simp only [Joint.swap, ServerPc.rank]
              omega
          | action hpc =>
              obtain rfl : vpc = _ := hpc
              exact Or.inr ⟨rfl, rfl, Or.inr ⟨_, rfl⟩⟩
      | receive hforth hreceive =>
          obtain rfl : forth = _ := hforth
          cases ServerMain.receive_spec hreceive with
          | request hpc =>
              obtain rfl : vpc = _ := hpc
              left
              simp only [Joint.swap, ServerPc.rank]
              omega
          | action hpc =>
              obtain rfl : vpc = _ := hpc
              exact Or.inr ⟨rfl, rfl, Or.inr ⟨_, rfl⟩⟩

theorem cost_of_serve {server : Server.State} (hserve : r.right.pc = .serve server) :
    cost prep r = (session prep.req r).potential := by
  rw [cost, hserve]

theorem cost_of_unserved (hnot : ∀ server, r.right.pc ≠ .serve server) :
    cost prep r = 67 + 8 * prep.req.connectAddrs.length := by
  unfold cost
  split
  · rename_i server hserve
    exact absurd hserve (hnot server)
  · rfl

theorem unfailing_of_session {e' : Event} {e : Session.Event}
    (h : sessionEvent r e' = some e) : unfailing e' = true := by
  unfold sessionEvent at h
  split at h <;> first | rfl | cases h

/-- A step that brings nothing in leaves the session no more steps, and fewer if it is one of
the session. -/
theorem cost_step {eof : Bool} {e : Event} (h : Launched prep r)
    (hok : Admits prep.req (Session.Draining eof) r e) (hstep : step capacity r e = some t) :
    cost prep t ≤ cost prep r ∧ ((∃ server, r.right.pc = .serve server) →
      (sessionEvent r e).isSome = true → cost prep t < cost prep r) := by
  by_cases hserves : ∃ server, r.right.pc = .serve server
  · have hcarried := carried_step prep.req hserves hstep
    obtain ⟨server', hserve'⟩ := (serves_step hstep hserves).2
    obtain ⟨server, hserve⟩ := hserves
    rw [cost_of_serve hserve, cost_of_serve hserve']
    cases hevent : sessionEvent r e with
    | none =>
        rw [hevent] at hcarried
        rw [show session prep.req t = session prep.req r from hcarried]
        exact ⟨Nat.le_refl _, fun _ hsome => by cases hsome⟩
    | some e' =>
        rw [hevent] at hcarried
        have hpaid := Session.paid _ _ _ hcarried
        rw [(hok e' hevent).2.1] at hpaid
        have hlt : (session prep.req t).potential < (session prep.req r).potential := by omega
        exact ⟨Nat.le_of_lt hlt, fun _ _ => hlt⟩
  · have hnot (server : Server.State) : r.right.pc ≠ .serve server :=
      fun hserve => hserves ⟨server, hserve⟩
    refine ⟨?_, fun hserves' => absurd hserves' hserves⟩
    rw [cost_of_unserved hnot]
    by_cases hserves' : ∃ server, t.right.pc = .serve server
    · obtain ⟨server', hserve'⟩ := hserves'
      obtain ⟨ptyMaster, ports, hgranted, hsession⟩ := begins_session h hnot hstep hserve'
      rw [cost_of_serve hserve', hsession, ← hgranted.length_eq]
      exact Session.potential_new ptyMaster ports
    · exact (cost_of_unserved fun server hserve => hserves' ⟨server, hserve⟩).le

/-- Every step that brings nothing in is one of finitely many. -/
theorem rank_lt {eof : Bool} {e : Event} (h : Launched prep r)
    (hok : Admits prep.req (Session.Draining eof) r e) (hstep : step capacity r e = some t) :
    rank prep t < rank prep r := by
  obtain ⟨hle, hlt⟩ := cost_step h hok hstep
  unfold rank
  rcases handshake_lt hstep with hhandshake | ⟨heq, hsome, hserves⟩
  · omega
  · have hserver : ∃ server, r.right.pc = .serve server := by
      rcases hserves with ⟨client, hclient⟩ | hserver
      · have hphase := h.phase
        rw [hclient] at hphase
        obtain ⟨server, -, -, hserve, -⟩ := hphase.serving rfl
        exact ⟨server, hserve⟩
      · exact hserver
    have hcost := hlt hserver hsome
    omega

/-- A side has failed only with the refusal of the request, of which the client knows or is
going to know. -/
structure Unbroken (r : Conversation) : Prop where
  clientFailed : ∀ chain, r.left.pc = .err chain → ∃ causes, chain = refusal :: causes
  serverFailed : ∀ chain, r.right.pc = .err chain →
    r.left.pc = .recvResponse ∧ r.back ≠ [] ∨ ∃ chain', r.left.pc = .err chain'

theorem Unbroken.serving (h : Unbroken r) (hapart : r.left.pc.apart = false) (chain : Report) :
    r.right.pc ≠ .err chain := by
  intro hpc
  rcases h.serverFailed chain hpc with ⟨hrecv, -⟩ | ⟨chain', herr⟩
  · rw [hrecv] at hapart
    cases hapart
  · rw [herr] at hapart
    cases hapart

theorem Unbroken.left {m : Move ClientEvent} (hlaunched : Launched prep r) (h : Unbroken r)
    (hunfailing : unfailing (.left m : Event) = true) (hmoved : Moved client r m t) :
    Unbroken t := by
  obtain ⟨⟨pc, allocatePty, localListeners⟩, v, forth, back⟩ := r
  have hphase := hlaunched.phase
  cases hmoved with
  | own hstep =>
      cases ClientMain.step_spec hstep with
      | sendFailed | recvFailed | notSetUp => cases hunfailing
      | setUp hpc | serve hpc =>
          obtain rfl : pc = _ := hpc
          exact ⟨nofun, fun chain hchain => absurd hchain (h.serving rfl chain)⟩
  | sent hoffer hsent =>
      cases ClientMain.sent_spec hoffer hsent with
      | request hpc =>
          obtain rfl : pc = _ := hpc
          refine ⟨nofun, fun chain hchain => ?_⟩
          rcases h.serverFailed chain hchain with ⟨hrecv, -⟩ | ⟨chain', herr⟩
          · cases hrecv
          · cases herr
      | action hpc =>
          obtain rfl : pc = _ := hpc
          exact ⟨nofun, fun chain hchain => absurd hchain (h.serving rfl chain)⟩
  | @receive m back' c' hback hreceive =>
      obtain rfl : back = _ := hback
      cases ClientMain.receive_spec hreceive with
      | accepted hpc =>
          obtain rfl : pc = _ := hpc
          obtain ⟨vpc, system, processes⟩ := v
          refine ⟨nofun, fun chain hchain => ?_⟩
          obtain rfl : vpc = _ := hchain
          obtain ⟨-, -, hnil | ⟨hresponse, -⟩⟩ := hphase
          · cases hnil
          · cases (List.cons.inj hresponse).1
      | rejected hpc =>
          refine ⟨fun chain hchain => ⟨_, (ClientPc.err.inj hchain).symm⟩, fun _ _ => Or.inr ?_⟩
          exact ⟨_, rfl⟩
      | action hpc =>
          obtain rfl : pc = _ := hpc
          exact ⟨nofun, fun chain hchain => absurd hchain (h.serving rfl chain)⟩

theorem Unbroken.right {m : Move ServerEvent}
    {u : Joint ServerMain ClientMain Down Up} (hlaunched : Launched prep r)
    (h : Unbroken r) (hunfailing : unfailing (.right m) = true)
    (hmoved : Moved server r.swap m u) : Unbroken u.swap := by
  obtain ⟨⟨pc, allocatePty, localListeners⟩, ⟨vpc, system, processes⟩, forth, back⟩ := r
  have hphase := hlaunched.phase
  cases hmoved with
  | own hstep =>
      cases ServerMain.step_spec hstep with
      | recvFailed | sendFailed => cases hunfailing
      | handle | serve => exact ⟨h.clientFailed, nofun⟩
  | sent hoffer hsent =>
      cases ServerMain.sent_spec hoffer hsent with
      | accepted | action => exact ⟨h.clientFailed, nofun⟩
      | @rejected chain hpc =>
          obtain rfl : vpc = _ := hpc
          obtain ⟨hwaiting, -⟩ := hphase
          refine ⟨h.clientFailed, fun _ _ => ?_⟩
          cases pc with
          | recvResponse => exact Or.inl ⟨rfl, List.append_ne_nil_of_right_ne_nil _ nofun⟩
          | err chain' => exact Or.inr ⟨chain', rfl⟩
          | sendRequest | setUp | serve => cases hwaiting
  | receive hforth hreceive =>
      cases ServerMain.receive_spec hreceive with
      | request | action => exact ⟨h.clientFailed, nofun⟩

theorem Unbroken.step {e : Event} (hlaunched : Launched prep r) (h : Unbroken r)
    (hunfailing : unfailing e = true) (hstep : step capacity r e = some t) : Unbroken t := by
  cases e with
  | left m => exact h.left hlaunched hunfailing (move_spec hstep)
  | right m =>
      obtain ⟨u, hmove, rfl⟩ := Option.map_eq_some_iff.mp hstep
      exact h.right hlaunched hunfailing (move_spec hmove)

theorem unbroken_of_reach
    (h : Reach (step capacity) (Smooth prep.req ok) (new prep) r) : Unbroken r := by
  refine h.invariant ⟨nofun, nofun⟩ ?_
  intro a e b ha hunbroken hok hstep
  exact hunbroken.step (launched_of_reach ha) hok.1 hstep

theorem ended_of_final {status : ExitStatus} (h : Session.Final status (session req r)) :
    Ended req r := by
  refine .served ?_ h
  obtain ⟨⟨pc, allocatePty, localListeners⟩, v, forth, back⟩ := r
  cases pc with
  | serve client =>
      have hmain : client.main = .ok status := h.clientMain
      simp only [ClientMain.exit, hmain]
  | sendRequest | recvResponse | setUp | err => cases h.clientMain

theorem ended_of_refused {causes : Report} (h : Launched prep r)
    (hleft : r.left.pc = .err (refusal :: causes)) : Ended prep.req r := by
  obtain ⟨hright, -⟩ := h.refused causes hleft
  have hstarted := h.started
  unfold Started at hstarted
  rw [hright] at hstarted
  exact .refused hleft hright hstarted

/-- The conversations the rank is about. -/
def Underway (prep : Prepared) (r : Conversation) : Prop :=
  ∃ capacity, Reach (step capacity) (Smooth prep.req Session.Steady) (new prep) r

theorem Underway.enabled (codecs : Codecs) (eof : Bool) (hports : prep.req.connectAddrs = [])
    (h : Underway prep r) :
    Ended prep.req r ∨ ∃ e capacity t, Smooth prep.req (Session.Draining eof) r e ∧
      Framed.Heard codecs.client codecs.server r e ∧ step capacity r e = some t := by
  obtain ⟨capacity, hreach⟩ := h
  have hlaunched := launched_of_reach hreach
  have hunbroken := unbroken_of_reach hreach
  rcases handshake_enabled codecs hlaunched with ⟨chain, hleft⟩ | ⟨chain, hright⟩ |
    ⟨client, server, hclient, hserver⟩ |
    ⟨e, capacity', ⟨-, hunfailing, hevent⟩, hheard, henabled⟩
  · obtain ⟨causes, rfl⟩ := hunbroken.clientFailed chain hleft
    exact Or.inl (ended_of_refused hlaunched hleft)
  · rcases hunbroken.serverFailed chain hright with ⟨hrecv, hback⟩ | ⟨chain', hleft⟩
    · right
      have hphase := hlaunched.phase
      rw [hright] at hphase
      obtain ⟨-, -, hnil | ⟨hresponse, -⟩⟩ := hphase
      · exact absurd hnil hback
      · have hsome : (Launch.step 0 r (.left .receive)).isSome = true := by
          simp [step, Parties.step, Parties.move, hresponse, Launch.client, ClientMain.receive,
            hrecv, Errors.toResult]
        obtain ⟨t, ht⟩ := Option.isSome_iff_exists.mp hsome
        refine ⟨.left .receive, 0, t, ⟨rfl, fun e' he' => ?_⟩, trivial, ht⟩
        simp [sessionEvent, hrecv] at he'
    · obtain ⟨causes, rfl⟩ := hunbroken.clientFailed chain' hleft
      exact Or.inl (ended_of_refused hlaunched hleft)
  · obtain ⟨ptyMaster, ports, hgranted, hsession⟩ := session_of_reach
      ((Parties.reach_mono (Nat.le_succ capacity) hreach).mono fun _ _ hok => hok.2)
    obtain rfl : ports = [] := by
      rw [← List.length_eq_zero_iff, hgranted.length_eq, hports]
      rfl
    rcases Session.draining_enabled eof (Nat.succ_pos capacity) hsession with
      ⟨status, hfinal⟩ | ⟨e, t, hdraining, hheard, hstep⟩
    · exact Or.inl (ended_of_final hfinal)
    · obtain ⟨e', capacity', hevent, henabled⟩ := session_enabled hlaunched hclient hserver hstep
      obtain ⟨t', ht'⟩ := Option.isSome_iff_exists.mp henabled
      refine Or.inr ⟨e', capacity', t', ⟨unfailing_of_session hevent, fun e'' he'' => ?_⟩,
        heard_of_session hclient hserver hevent hheard, ht'⟩
      rw [hevent] at he''
      obtain rfl := Option.some.inj he''
      exact hdraining
  · obtain ⟨t, ht⟩ := Option.isSome_iff_exists.mp henabled
    refine Or.inr ⟨e, capacity', t, ⟨hunfailing, fun e' he' => ?_⟩, hheard, ht⟩
    rw [hevent] at he'
    cases he'

theorem Underway.step {eof : Bool} {e : Event} (h : Underway prep r)
    (hok : Smooth prep.req (Session.Draining eof) r e) (hstep : step capacity r e = some t) :
    Underway prep t ∧ rank prep t < rank prep r := by
  obtain ⟨capacity', hreach⟩ := h
  refine ⟨⟨max capacity' capacity, ?_⟩, rank_lt (launched_of_reach hreach) hok.2 hstep⟩
  refine (Parties.reach_mono (Nat.le_max_left ..) hreach).snoc ?_
    (Parties.step_mono (Nat.le_max_right ..) hstep)
  exact ⟨hok.1, fun e' he' => (hok.2 e' he').1⟩

theorem smooth_receive (eof : Bool) (r : Conversation) :
    Smooth req (Session.Draining eof) r (.left .receive) ∧
      Smooth req (Session.Draining eof) r (.right .receive) := by
  constructor
  · refine ⟨rfl, fun e he => ?_⟩
    simp only [sessionEvent] at he
    split at he
    · obtain rfl := Option.some.inj he
      exact Session.draining_of_internal rfl rfl
    · cases he
  · refine ⟨rfl, fun e he => ?_⟩
    simp only [sessionEvent] at he
    split at he
    · obtain rfl := Option.some.inj he
      exact Session.draining_of_internal rfl rfl
    · cases he

/-- The steps over the streams in which nothing fails and which the session admits. -/
def Codecs.Smooth (codecs : Codecs) (req : ExecuteRequest)
    (ok : Session.State → Session.Event → Prop) :
    Wires → Framed.Event ClientEvent ServerEvent → Prop :=
  Framed.Admitted codecs.client codecs.server (Launch.Smooth req ok)

/-- Without forwarded ports every connection on which nothing has failed, whatever has been
done over it so far, comes to its end when nothing more comes in and nothing fails, in
whatever pieces its messages are written and read, however few bytes the streams have room
for, and whichever side goes first; unless a message turns out to be too long. -/
theorem ends_of_bytes (codecs : Codecs) (prep : Prepared) (up down : ℕ+)
    (hports : prep.req.connectAddrs = []) (eof : Bool) (s : Wires)
    (h : Reach codecs.step (codecs.Smooth prep.req Session.Steady) (Wires.new prep up down) s) :
    Inevitable codecs.step (codecs.Smooth prep.req (Session.Draining eof))
      (fun t => Ended prep.req t.conversation ∨ ¬ codecs.Sendable t) s := by
  obtain ⟨hunderway, hflows⟩ := conversation_of_admitted h
  refine hflows.inevitable (I := Underway prep) (rank prep) hunderway client_fits server_fits
    (fun _ _ _ => client_reads) (fun _ _ _ => server_reads) ?_ ?_ ?_ ?_
  · rintro a ⟨capacity, ha⟩
    exact ⟨agreed_client (launched_of_reach ha), agreed_server (launched_of_reach ha)⟩
  · exact fun a _ => smooth_receive eof a
  · intro a ha
    exact ha.enabled codecs eof hports
  · intro capacity a e b ha hok hb
    exact ha.step hok hb

theorem ends_of_bytes_exited :
    (∃ s, run someCodecs.step (Wires.new hello 5 5) (launched ++ exited.flatMap carry) = some s ∧
      Ended hello.req s.conversation) ∧
    Inevitable someCodecs.step (someCodecs.Smooth hello.req (Session.Draining false))
      (fun t => Ended hello.req t.conversation ∨ ¬ someCodecs.Sendable t)
      (Wires.new hello 1 1) := by
  refine ⟨?_, ends_of_bytes someCodecs hello 1 1 rfl false (Wires.new hello 1 1) (Reach.refl _)⟩
  have hrun : (run someCodecs.step (Wires.new hello 5 5)
      (launched ++ exited.flatMap carry)).any (fun s =>
        let t := session hello.req s.conversation
        decide ((t.client.main = .ok (.code 0) ∧ t.client.exitStatus = some (some (.code 0)) ∧
          t.client.windowEnded = true ∧ t.client.side.sender = .done ∧
          .finished ∈ t.client.side.log ∧ t.client.side.receiver = .done true ∧
          t.client.side.quiet = true) ∧
        t.server.main = .ok ∧ t.server.exited = some (.code 0) ∧ t.server.side.sender = .done ∧
          .finished ∈ t.server.side.log ∧ t.server.side.receiver = .done true ∧
          t.server.side.quiet = true)) = true := by decide +kernel
  obtain ⟨s, hs, hfacts⟩ := (Option.any_eq_true _ _).mp hrun
  obtain ⟨⟨hmain, hstatus, hwindow, hsender, hlog, hreceiver, hquiet⟩,
    hmain', hexited, hsender', hlog', hreceiver', hquiet'⟩ := of_decide_eq_true hfacts
  exact ⟨s, hs, ended_of_final
    { clientMain := hmain, serverMain := hmain', exitStatus := hstatus, exited := hexited
      clientSender := ⟨hsender, hlog⟩, serverSender := ⟨hsender', hlog'⟩
      clientReceiver := hreceiver, serverReceiver := hreceiver'
      clientQuiet := Stream.Side.quiet_iff.mp hquiet
      serverQuiet := Stream.Side.quiet_iff.mp hquiet', windowEnded := hwindow }⟩

end Rlirsh.Launch
