import Rlirsh.Launch.Connection

namespace Rlirsh.Launch

open Rlirsh.Protocol
open Rlirsh.Net
open Rlirsh.Lib
open Rlirsh.Lib.Machine
open Rlirsh.Lib.Parties (Party Joint Move Moved move_spec)
open Rlirsh.Execute

/-- The client has sent its request and not seen the response. -/
def ClientPc.waiting : ClientPc → Bool
  | .recvResponse | .err _ => true
  | .sendRequest _ | .setUp | .serve _ => false

/-- The client has seen that its request is accepted. -/
def ClientPc.begun : ClientPc → Bool
  | .setUp | .serve _ | .err _ => true
  | .sendRequest _ | .recvResponse => false

/-- The client has not seen that. -/
def ClientPc.apart : ClientPc → Bool
  | .sendRequest _ | .recvResponse | .err _ => true
  | .setUp | .serve _ => false

/-- The errors of `handle_request`. -/
def Rejected (chain : Report) : Prop := ∃ msg ∈ rejections, ∃ causes, chain = msg :: causes

/-- How far the two sides have come, and what is under way between them. -/
def Phase (req : ExecuteRequest) (c : ClientPc) (v : ServerPc) (forth : List Up)
    (back : List Down) : Prop :=
  match v with
  | .recvRequest =>
      back = [] ∧ (c = .sendRequest req ∧ forth = [] ∨
        c.waiting = true ∧ (forth = [.request (.execute req)] ∨
          forth = [] ∧ ∃ chain, c = .err chain))
  | .handle req' => req' = req ∧ c.waiting = true ∧ forth = [] ∧ back = []
  | .sendResponse _ => c.waiting = true ∧ forth = [] ∧ back = []
  | .serve _ =>
      (c.waiting = true ∧ forth = [] ∧
          ∃ bs : List ServerAction, back = .response .ok :: bs.map .action) ∨
        c.begun = true ∧ (∃ as : List ClientAction, forth = as.map .action) ∧
          ∃ bs : List ServerAction, back = bs.map .action
  | .err chain =>
      c.apart = true ∧ (∀ m ∈ forth, m.action? = none) ∧
        (back = [] ∨ back = [.response (.err ⟨chain⟩)] ∧ Rejected chain)

/-- Which processes the server has started. -/
def Started (req : ExecuteRequest) (v : ServerMain) : Prop :=
  match v.pc with
  | .recvRequest | .handle _ => v.processes = []
  | .sendResponse res => ∃ sys, v.system = some sys ∧ handleRequest sys req = (res, v.processes)
  | .serve _ => ∃ p, v.processes = [p] ∧ p.pty = winsizeOf req
  | .err _ => ∀ p ∈ v.processes, p.killed = true

/-- The first message of the error of a client whose request is rejected. -/
def refusal : String := "received error response from the server"

structure Launched (prep : Prepared) (s : Conversation) : Prop where
  allocatePty : s.left.allocatePty = prep.req.ptyParam.isSome
  localListeners : s.left.localListeners = prep.localListeners
  phase : Phase prep.req s.left.pc s.right.pc s.forth s.back
  started : Started prep.req s.right
  asked : s.right.processes = [] ∨
    ∃ sys, s.right.system = some sys ∧ Asked sys prep.req s.right.processes
  refused : ∀ causes, s.left.pc = .err (refusal :: causes) →
    s.right.pc = .err causes ∧ Rejected causes

variable {prep : Prepared} {req : ExecuteRequest} {s t : Conversation}

theorem launched_new (prep : Prepared) : Launched prep (new prep) :=
  ⟨rfl, rfl, ⟨rfl, Or.inl ⟨rfl, rfl⟩⟩, rfl, Or.inl rfl, nofun⟩

theorem Launched.setClient {c : ClientMain} {forth : List Up} {back : List Down}
    (h : Launched prep s) (hpty : c.allocatePty = s.left.allocatePty)
    (hports : c.localListeners = s.left.localListeners)
    (hphase : Phase prep.req c.pc s.right.pc forth back)
    (hrefused : ∀ causes, c.pc = .err (refusal :: causes) →
      s.right.pc = .err causes ∧ Rejected causes) :
    Launched prep { s with left := c, forth, back } :=
  ⟨hpty.trans h.allocatePty, hports.trans h.localListeners, hphase, h.started, h.asked,
    hrefused⟩

theorem Phase.failed {c : ClientPc} {v : ServerPc} {forth : List Up} {back : List Down}
    {chain : Report} (h : Phase req c v forth back) : Phase req (.err chain) v forth back := by
  cases v with
  | recvRequest =>
      obtain ⟨rfl, hcase⟩ := h
      refine ⟨rfl, Or.inr ⟨rfl, ?_⟩⟩
      rcases hcase with ⟨-, rfl⟩ | ⟨-, hforth | ⟨hforth, -⟩⟩
      · exact Or.inr ⟨rfl, chain, rfl⟩
      · exact Or.inl hforth
      · exact Or.inr ⟨hforth, chain, rfl⟩
  | handle req' => exact ⟨h.1, rfl, h.2.2⟩
  | sendResponse res => exact ⟨rfl, h.2⟩
  | serve server =>
      rcases h with ⟨-, hrest⟩ | ⟨-, hrest⟩
      · exact Or.inl ⟨rfl, hrest⟩
      · exact Or.inr ⟨rfl, hrest⟩
  | err chain' => exact ⟨rfl, h.2⟩

theorem Phase.serving {c : ClientPc} {v : ServerPc} {forth : List Up} {back : List Down}
    (h : Phase req c v forth back) (hnot : c.apart = false) :
    ∃ (server : Server.State) (as : List ClientAction) (bs : List ServerAction),
      v = .serve server ∧ forth = as.map .action ∧ back = bs.map .action := by
  cases c with
  | sendRequest | recvResponse | err => cases hnot
  | setUp | serve client =>
      cases v with
      | recvRequest =>
          obtain ⟨-, ⟨heq, -⟩ | ⟨hwaiting, -⟩⟩ := h
          · cases heq
          · cases hwaiting
      | handle req' => cases h.2.1
      | sendResponse res => cases h.1
      | serve server =>
          obtain ⟨hwaiting, -⟩ | ⟨-, ⟨as, hforth⟩, bs, hback⟩ := h
          · cases hwaiting
          · exact ⟨server, as, bs, rfl, hforth, hback⟩
      | err chain => cases h.1

theorem Phase.begun {c : ClientPc} {v : ServerPc} {forth : List Up} {back : List Down}
    (h : Phase req c v forth back) (hnot : c.apart = false) :
    ∃ (as : List ClientAction) (bs : List ServerAction),
      forth = as.map .action ∧ back = bs.map .action ∧
        ∀ (c' : ClientPc) (as' : List ClientAction) (bs' : List ServerAction),
          c'.begun = true → Phase req c' v (as'.map .action) (bs'.map .action) := by
  obtain ⟨server, as, bs, rfl, hforth, hback⟩ := h.serving hnot
  exact ⟨as, bs, hforth, hback,
    fun c' as' bs' hbegun => Or.inr ⟨hbegun, ⟨as', rfl⟩, bs', rfl⟩⟩

theorem Phase.requested {req' : ExecuteRequest} {v : ServerPc} {forth : List Up}
    {back : List Down} (h : Phase req (.sendRequest req') v forth back) :
    Phase req .recvResponse v (forth ++ [.request (.execute req')]) back := by
  cases v with
  | recvRequest =>
      obtain ⟨rfl, ⟨hreq, rfl⟩ | ⟨hwaiting, -⟩⟩ := h
      · obtain rfl := ClientPc.sendRequest.inj hreq
        exact ⟨rfl, Or.inr ⟨rfl, Or.inl rfl⟩⟩
      · cases hwaiting
  | handle => cases h.2.1
  | sendResponse => cases h.1
  | serve =>
      obtain ⟨hwaiting, -⟩ | ⟨hbegun, -⟩ := h
      · cases hwaiting
      · cases hbegun
  | err =>
      refine ⟨rfl, fun m hm => ?_, h.2.2⟩
      rcases List.mem_append.mp hm with hm | hm
      · exact h.2.1 m hm
      · rw [List.mem_singleton.mp hm]
        rfl

theorem Phase.accepted {v : ServerPc} {forth : List Up} {back : List Down}
    (h : Phase req .recvResponse v forth (.response .ok :: back)) :
    Phase req .setUp v forth back := by
  cases v with
  | recvRequest => cases h.1
  | handle => cases h.2.2.2
  | sendResponse => cases h.2.2
  | serve =>
      obtain ⟨-, rfl, bs, hbs⟩ | ⟨hbegun, -⟩ := h
      · obtain ⟨-, rfl⟩ := List.cons.inj hbs
        exact Or.inr ⟨rfl, ⟨[], rfl⟩, bs, rfl⟩
      · cases hbegun
  | err =>
      obtain ⟨-, -, hnil | ⟨hresponse, -⟩⟩ := h
      · cases hnil
      · cases (List.cons.inj hresponse).1

theorem Phase.rejected {error : SerialError} {v : ServerPc} {forth : List Up}
    {back : List Down} (h : Phase req .recvResponse v forth (.response (.err error) :: back)) :
    v = .err error.chain ∧ Rejected error.chain ∧
      ∀ chain, Phase req (.err chain) v forth back := by
  cases v with
  | recvRequest => cases h.1
  | handle => cases h.2.2.2
  | sendResponse => cases h.2.2
  | serve =>
      obtain ⟨-, rfl, bs, hbs⟩ | ⟨hbegun, -⟩ := h
      · cases (List.cons.inj hbs).1
      · cases hbegun
  | err chain =>
      obtain ⟨-, hforth, hnil | ⟨hresponse, hrejected⟩⟩ := h
      · cases hnil
      · obtain ⟨hm, rfl⟩ := List.cons.inj hresponse
        obtain rfl := Response.err.inj (Down.response.inj hm)
        exact ⟨rfl, hrejected, fun _ => ⟨rfl, hforth, Or.inl rfl⟩⟩

theorem Rejected.chain_toError {chain : Report} (h : Rejected chain) :
    Errors.Eyre.chain (Errors.toError ⟨chain⟩ : Errors.Report) = chain := by
  obtain ⟨msg, -, causes, rfl⟩ := h
  exact Errors.chain_toError (List.cons_ne_nil _ _)

theorem Launched.left {m : Move ClientEvent} (h : Launched prep s) (hmoved : Moved client s m t) :
    Launched prep t := by
  obtain ⟨c, v, forth, back⟩ := s
  obtain ⟨pc, allocatePty, localListeners⟩ := c
  have hphase := h.phase
  cases hmoved with
  | own hstep =>
      cases ClientMain.step_spec hstep with
      | sendFailed hpc | recvFailed hpc | notSetUp hpc =>
          obtain rfl : pc = _ := hpc
          exact h.setClient rfl rfl hphase.failed (by simp [refusal])
      | setUp hpc | serve hpc =>
          obtain rfl : pc = _ := hpc
          obtain ⟨as, bs, rfl, rfl, hserving⟩ := hphase.begun rfl
          exact h.setClient rfl rfl (hserving _ as bs rfl) nofun
  | sent hoffer hsent =>
      cases ClientMain.sent_spec hoffer hsent with
      | request hpc =>
          obtain rfl : pc = _ := hpc
          exact h.setClient rfl rfl hphase.requested nofun
      | @action a client client' hpc =>
          obtain rfl : pc = _ := hpc
          obtain ⟨as, bs, rfl, rfl, hserving⟩ := hphase.begun rfl
          exact h.setClient rfl rfl (by simpa using hserving _ (as ++ [a]) bs rfl) nofun
  | receive hback hreceive =>
      obtain rfl : back = _ := hback
      cases ClientMain.receive_spec hreceive with
      | accepted hpc =>
          obtain rfl : pc = _ := hpc
          exact h.setClient rfl rfl hphase.accepted nofun
      | rejected hpc =>
          obtain rfl : pc = _ := hpc
          obtain ⟨herr, hrejected, hfailed⟩ := hphase.rejected
          refine h.setClient rfl rfl (hfailed _) fun causes hcauses => ?_
          obtain ⟨-, rfl⟩ := List.cons.inj (ClientPc.err.inj hcauses)
          rw [hrejected.chain_toError]
          exact ⟨herr, hrejected⟩
      | action hpc =>
          obtain rfl : pc = _ := hpc
          obtain ⟨as, bs, rfl, hbs, hserving⟩ := hphase.begun rfl
          cases bs with
          | nil => cases hbs
          | cons b bs =>
              obtain ⟨-, rfl⟩ := List.cons.inj hbs
              exact h.setClient rfl rfl (hserving _ as bs rfl) nofun

theorem Launched.setServer {v : ServerMain} {forth : List Up} {back : List Down}
    (h : Launched prep s) (hrunning : ∀ chain, s.right.pc ≠ .err chain)
    (hphase : Phase prep.req s.left.pc v.pc forth back) (hstarted : Started prep.req v)
    (hasked : v.processes = [] ∨ ∃ sys, v.system = some sys ∧ Asked sys prep.req v.processes) :
    Launched prep { s with right := v, forth, back } := by
  refine ⟨h.allocatePty, h.localListeners, hphase, hstarted, hasked, fun causes hcauses => ?_⟩
  exact absurd (h.refused causes hcauses).1 (hrunning causes)

theorem ClientPc.apart_of_waiting {c : ClientPc} (h : c.waiting = true) : c.apart = true := by
  cases c <;> first | rfl | cases h

theorem Launched.asked_map (h : Launched prep s) {f : Process → Process}
    (hf : ∀ p, (f p).command = p.command) :
    s.right.processes.map f = [] ∨
      ∃ sys, s.right.system = some sys ∧ Asked sys prep.req (s.right.processes.map f) := by
  rcases h.asked with hnil | ⟨sys, hsys, hasked⟩
  · exact Or.inl (by rw [hnil]; rfl)
  · exact Or.inr ⟨sys, hsys, hasked.map hf⟩

theorem Process.served_spec (e : Server.Event) (server : Server.State) (p : Process) :
    (p.served e server).command = p.command ∧ (p.served e server).pty = p.pty := by
  unfold Process.served
  split
  · exact ⟨rfl, rfl⟩
  · exact ⟨rfl, rfl⟩
  · split <;> exact ⟨rfl, rfl⟩

theorem Launched.right {m : Move ServerEvent}
    {r : Joint ServerMain ClientMain Down Up} (h : Launched prep s)
    (hmoved : Moved server s.swap m r) : Launched prep r.swap := by
  obtain ⟨c, v, forth, back⟩ := s
  obtain ⟨pc, system, processes⟩ := v
  have hphase := h.phase
  have hstarted := h.started
  cases hmoved with
  | own hstep =>
      cases ServerMain.step_spec hstep with
      | recvFailed hpc =>
          obtain rfl : pc = _ := hpc
          obtain rfl : processes = [] := hstarted
          obtain ⟨rfl, hcase⟩ := hphase
          refine h.setServer nofun ?_ nofun h.asked
          rcases hcase with ⟨hc, rfl⟩ | ⟨hwaiting, hforth⟩
          · exact ⟨by rw [hc]; rfl, nofun, Or.inl rfl⟩
          · refine ⟨ClientPc.apart_of_waiting hwaiting, fun m hm => ?_, Or.inl rfl⟩
            rcases hforth with rfl | ⟨rfl, -⟩
            · rw [List.mem_singleton.mp hm]
              rfl
            · cases hm
      | @handle req' sys hpc =>
          obtain rfl : pc = _ := hpc
          obtain ⟨rfl, hwaiting, rfl, rfl⟩ := hphase
          exact h.setServer nofun ⟨hwaiting, rfl, rfl⟩ ⟨sys, rfl, rfl⟩
            (Or.inr ⟨sys, rfl, asked_handleRequest sys prep.req⟩)
      | sendFailed hpc =>
          obtain rfl : pc = _ := hpc
          obtain ⟨hwaiting, rfl, rfl⟩ := hphase
          refine h.setServer nofun ⟨ClientPc.apart_of_waiting hwaiting, nofun, Or.inl rfl⟩ ?_
            (h.asked_map fun _ => rfl)
          intro p hp
          obtain ⟨q, -, rfl⟩ := List.mem_map.mp hp
          rfl
      | @serve e server server' hpc _ _ hstep =>
          obtain rfl : pc = _ := hpc
          obtain ⟨p, rfl, hpty⟩ := hstarted
          exact h.setServer nofun hphase
            ⟨p.served e server', rfl, (p.served_spec e server').2.trans hpty⟩
            (h.asked_map fun q => (q.served_spec e server').1)
  | sent hoffer hsent =>
      cases ServerMain.sent_spec hoffer hsent with
      | @accepted param hpc =>
          obtain rfl : pc = _ := hpc
          obtain ⟨hwaiting, rfl, rfl⟩ := hphase
          obtain ⟨sys, -, hhandle⟩ := hstarted
          obtain ⟨⟨⟨shell, -, hchild⟩, -⟩, hprocesses⟩ := handleRequest_ok hhandle
          refine h.setServer nofun (Or.inl ⟨hwaiting, rfl, [], rfl⟩)
            ⟨param.child, hprocesses, ?_⟩ h.asked
          rw [hchild]
          rfl
      | @rejected chain hpc =>
          obtain rfl : pc = _ := hpc
          obtain ⟨hwaiting, rfl, rfl⟩ := hphase
          obtain ⟨sys, -, hhandle⟩ := hstarted
          obtain ⟨hkilled, hrejected⟩ := handleRequest_error hhandle
          have hserial : Errors.serialError (report chain) = ⟨chain⟩ := by
            obtain ⟨msg, -, causes, rfl⟩ := hrejected
            exact Errors.serialError_toError (List.cons_ne_nil _ _)
          refine h.setServer nofun
            ⟨ClientPc.apart_of_waiting hwaiting, nofun, Or.inr ⟨?_, hrejected⟩⟩ hkilled h.asked
          rw [Errors.response, hserial]
          rfl
      | @action a server server' hpc hsending hstep =>
          obtain rfl : pc = _ := hpc
          refine h.setServer nofun ?_ hstarted h.asked
          rcases hphase with ⟨hwaiting, rfl, bs, rfl⟩ | ⟨hbegun, hforth, bs, rfl⟩
          · exact Or.inl ⟨hwaiting, rfl, bs ++ [a], by simp [Joint.swap]⟩
          · exact Or.inr ⟨hbegun, hforth, bs ++ [a], by simp [Joint.swap]⟩
  | @receive m forth' v' hforth hreceive =>
      obtain rfl : forth = _ := hforth
      cases ServerMain.receive_spec hreceive with
      | @request req' hpc =>
          obtain rfl : pc = _ := hpc
          obtain ⟨rfl, ⟨-, hnil⟩ | ⟨hwaiting, hrequest | ⟨hnil, -⟩⟩⟩ := hphase
          · cases hnil
          · obtain ⟨hm, rfl⟩ := List.cons.inj hrequest
            obtain rfl := Request.execute.inj (Up.request.inj hm)
            exact h.setServer nofun ⟨rfl, hwaiting, rfl, rfl⟩ hstarted h.asked
          · cases hnil
      | @action a server server' hpc hstep =>
          obtain rfl : pc = _ := hpc
          refine h.setServer nofun ?_ hstarted h.asked
          rcases hphase with ⟨-, hnil, -⟩ | ⟨hbegun, ⟨as, has⟩, hback⟩
          · cases hnil
          · cases as with
            | nil => cases has
            | cons a' as =>
                obtain ⟨-, rfl⟩ := List.cons.inj has
                exact Or.inr ⟨hbegun, ⟨as, rfl⟩, hback⟩

theorem Launched.step {capacity : Nat} {e : Event} (h : Launched prep s)
    (hstep : step capacity s e = some t) : Launched prep t :=
  Parties.step_invariant (J := fun r => Launched prep r.swap) (fun _ => Iff.rfl)
    (fun _ _ _ h hmoved => h.left hmoved) (fun _ _ _ h hmoved => h.right hmoved) h hstep

theorem launched_of_reach {capacity : Nat} {ok : Conversation → Event → Prop}
    (h : Reach (step capacity) ok (new prep) s) : Launched prep s :=
  h.invariant (launched_new prep) fun _ _ _ _ hlaunched _ hstep => hlaunched.step hstep

/-- A process that has not been killed has the window that was asked for, and so has one that
has been served. -/
theorem Launched.pty (h : Launched prep s) {p : Process} (hp : p ∈ s.right.processes)
    (hkept : p.killed = false ∨ ∃ server, s.right.pc = .serve server) :
    p.pty = winsizeOf prep.req := by
  have hstarted := h.started
  unfold Started at hstarted
  split at hstarted
  · rw [hstarted] at hp
    cases hp
  · rw [hstarted] at hp
    cases hp
  · rename_i res hpc
    obtain ⟨sys, -, hhandle⟩ := hstarted
    cases res with
    | ok param =>
        obtain ⟨⟨⟨shell, -, hchild⟩, -⟩, hprocesses⟩ := handleRequest_ok hhandle
        rw [hprocesses, List.mem_singleton] at hp
        rw [hp, hchild]
        rfl
    | error chain =>
        rcases hkept with halive | ⟨server, hserve⟩
        · rw [(handleRequest_error hhandle).1 p hp] at halive
          cases halive
        · rw [hserve] at hpc
          cases hpc
  · obtain ⟨q, hprocesses, hpty⟩ := hstarted
    rw [hprocesses, List.mem_singleton] at hp
    rw [hp, hpty]
  · rename_i chain hpc
    rcases hkept with halive | ⟨server, hserve⟩
    · rw [hstarted p hp] at halive
      cases halive
    · rw [hserve] at hpc
      cases hpc

/-- A server that serves has one process. -/
theorem Launched.process (h : Launched prep s) {server : Server.State}
    (hpc : s.right.pc = .serve server) : ∃ p, s.right.processes = [p] := by
  have hstarted := h.started
  unfold Started at hstarted
  rw [hpc] at hstarted
  obtain ⟨p, hprocesses, -⟩ := hstarted
  exact ⟨p, hprocesses⟩

end Rlirsh.Launch
