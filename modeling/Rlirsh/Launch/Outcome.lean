import Rlirsh.Launch.Request
import Rlirsh.Launch.Transport

namespace Rlirsh.Launch

open Rlirsh.Protocol
open Rlirsh.Net
open Rlirsh.Lib
open Rlirsh.Lib.Machine
open Rlirsh.Lib.Framed (Wired)
open Rlirsh.Execute
open Rlirsh.Terminal (Winsize setWindowSize)

universe u

variable {Addr : Type} {World : Type u}

/-- `main` of the client up to `connect`; `none` is the panic of `create_request`. -/
def prepare (listen : Addr → World → Except Report TcpListener × World) (env : Environment)
    (args : Args Addr) (world : World) :
    Option (Except Report (SocketAddrs Addr × ClientMain)) × World :=
  match Client.prepareLocalForwarding listen args.localPortForwardSpecifier world with
  | (.error chain, world) => (some (.error chain), world)
  | (.ok (listeners, remotes), world) =>
      match createRequest env args remotes with
      | none => (none, world)
      | some (host, req) => (some (.ok (host, .new req listeners)), world)

/-- The size of the pty that is asked for, if one is. -/
def Args.winsize (args : Args Addr) (env : Environment) : Option Winsize :=
  if args.allocates env then some (setWindowSize env.windowSize.width env.windowSize.height)
  else none

/-- What the command line asks for, in the login shell of the system of the server. -/
structure Process.Runs (sys : System) (env : Environment) (args : Args Addr) (p : Process) :
    Prop where
  command : ∃ shell, sys.loginShell = .ok shell ∧ p.command =
    { program := shell, arg0 := "-" ++ shell
      args := if args.command.isEmpty then [] else ["-c", " ".intercalate args.command]
      envs := if args.allocates env then env.term.toList.map fun term => ("TERM", term) else [] }
  pty : p.killed = false → p.pty = args.winsize env

variable {listen : Addr → World → Except Report TcpListener × World} {env : Environment}
  {args : Args Addr} {world world' : World} {host : SocketAddrs Addr} {c : ClientMain}
  {codecs : Codecs} {prep : Prepared} {req : ExecuteRequest} {remotes : List String}

theorem prepare_spec (h : prepare listen env args world = (some (.ok (host, c)), world')) :
    host = args.addrs ∧ ∃ (prep : Prepared) (remotes : List String),
      Requests env args remotes prep.req ∧ c = .new prep.req prep.localListeners := by
  unfold prepare at h
  split at h
  · cases h
  · rename_i listeners remotes world'' hlisten
    obtain ⟨rfl, hbound⟩ := Client.prepareLocalForwarding_spec hlisten
    split at h
    · cases h
    · rename_i host' req hcreate
      obtain ⟨hsome, -⟩ := Prod.mk.inj h
      obtain ⟨rfl, rfl⟩ := Prod.mk.inj (Except.ok.inj (Option.some.inj hsome))
      obtain ⟨rfl, hreq⟩ := createRequest_spec hcreate
      have hlength : listeners.length = req.connectAddrs.length := by
        rw [hreq.connectAddrs, List.length_map, hbound.length_eq]
      exact ⟨rfl, ⟨req, listeners, hlength⟩, _, hreq, rfl⟩

theorem commandOf_eq (h : Requests env args remotes req) (shell : String) :
    commandOf shell req =
      { program := shell, arg0 := "-" ++ shell
        args := if args.command.isEmpty then [] else ["-c", " ".intercalate args.command]
        envs := if args.allocates env then env.term.toList.map fun term => ("TERM", term)
          else [] } := by
  unfold commandOf
  rw [h.command, h.envs]
  cases args.command.isEmpty with
  | true => rfl
  | false => rfl

theorem winsize_eq (h : Requests env args remotes req) : winsizeOf req = args.winsize env := by
  rw [winsizeOf, h.ptyParam, Args.winsize]
  cases args.allocates env with
  | true => rfl
  | false => rfl

theorem Launched.runs {r : Conversation} (h : Launched prep r)
    (hreq : Requests env args remotes prep.req) {p : Process} (hp : p ∈ r.right.processes) :
    ∃ sys, r.right.system = some sys ∧ p.Runs sys env args := by
  rcases h.asked with hnil | ⟨sys, hsys, -, hasked⟩
  · rw [hnil] at hp
    cases hp
  · obtain ⟨shell, hshell, hcommand⟩ := hasked p hp
    refine ⟨sys, hsys, ⟨shell, hshell, ?_⟩, fun halive => ?_⟩
    · rw [hcommand]
      exact commandOf_eq hreq shell
    · rw [h.pty hp (Or.inl halive)]
      exact winsize_eq hreq

/-- Whatever happens on the way, the server starts no process but the one the command line
asks for, in the login shell it has found, in the window of the client if it asks for a pty,
and starts it once at most. -/
theorem executed_as_asked (codecs : Codecs)
    (listen : Addr → World → Except Report TcpListener × World) (env : Environment)
    (args : Args Addr) (world world' : World) (host : SocketAddrs Addr) (c : ClientMain)
    (up down : ℕ+) (s : Wires)
    (hprepare : prepare listen env args world = (some (.ok (host, c)), world'))
    (h : Reach codecs.step Any (Wired.start framer c .new up down) s) :
    host = args.addrs ∧ s.right.processes.length ≤ 1 ∧
      ∀ p ∈ s.right.processes,
        (∃ sys, s.right.system = some sys ∧ p.Runs sys env args) ∧
          ((∃ server, s.right.pc = .serve server) → p.pty = args.winsize env) := by
  obtain ⟨hhost, prep, remotes, hreq, rfl⟩ := prepare_spec hprepare
  obtain ⟨⟨capacity, hreach⟩, -⟩ := conversation_of_bytes h
  have hlaunched := launched_of_reach hreach
  refine ⟨hhost, ?_, fun p hp => ⟨hlaunched.runs hreq hp, fun hserves => ?_⟩⟩
  · rcases hlaunched.asked with hnil | ⟨sys, -, hle, -⟩
    · exact (congrArg List.length hnil).trans_le (Nat.zero_le 1)
    · exact hle
  · rw [← winsize_eq hreq]
    exact hlaunched.pty hp (Or.inr hserves)

/-- `rlirsh execute` with a command, or with none. -/
def someArgs (command : List String) : Args Unit :=
  { disablePty := false, forceEnablePty := 0, localPortForwardSpecifier := []
    addrs := ⟨"host:40000", [()]⟩, command }

/-- A terminal of 80 columns. -/
def someEnvironment : Environment :=
  { hasTty := true, winsize := .ok (setWindowSize 80 24), term := some "xterm" }

def noPorts (_ : Unit) (world : Unit) : Except Report TcpListener × Unit :=
  (.error ["EADDRINUSE"], world)

theorem executed_as_asked_login :
    ∃ s, run someCodecs.step (Wires.new login 5 5) (requested someSystem) = some s ∧
      ∃ p, s.right.processes = [p] ∧ p.pty = some (setWindowSize 80 24) ∧
        p.command = ⟨"/bin/sh", "-/bin/sh", [], [("TERM", "xterm")]⟩ := by
  have hrun : (run someCodecs.step (Wires.new login 5 5) (requested someSystem)).any (fun s =>
      decide (s.right.processes.map (fun p => (p.killed, p.command.program)) =
        [(false, "/bin/sh")])) = true := by decide +kernel
  obtain ⟨s, hs, hfacts⟩ := (Option.any_eq_true _ _).mp hrun
  obtain ⟨p, hprocesses, hp⟩ := List.map_eq_singleton_iff.mp (of_decide_eq_true hfacts)
  obtain ⟨halive, hprogram⟩ := Prod.mk.inj hp
  obtain ⟨-, -, hruns⟩ := executed_as_asked someCodecs noPorts someEnvironment (someArgs []) () ()
    ⟨"host:40000", [()]⟩ (.new login.req []) 5 5 s rfl (reach_of_run hs)
  rw [hprocesses] at hruns
  obtain ⟨⟨sys, -, ⟨shell, -, hcommand⟩, hpty⟩, -⟩ := hruns p (List.mem_singleton_self p)
  obtain rfl : shell = "/bin/sh" := by
    rw [hcommand] at hprogram
    exact hprogram
  exact ⟨s, hs, p, hprocesses, hpty halive, hcommand⟩

/-- Where the client exits with anything but 255, the process it has asked for was started
and has ended by itself, and the exit code is what that process ended with. -/
theorem exits_as_executed (codecs : Codecs)
    (listen : Addr → World → Except Report TcpListener × World) (env : Environment)
    (args : Args Addr) (world world' : World) (host : SocketAddrs Addr) (c : ClientMain)
    (up down : ℕ+) (s : Wires) (code : Int)
    (hprepare : prepare listen env args world = (some (.ok (host, c)), world'))
    (h : Reach codecs.step Any (Wired.start framer c .new up down) s)
    (hexit : s.left.exit = some code) (hcode : code ≠ 255) :
    ∃ p server sys status, s.right.processes = [p] ∧ s.right.pc = .serve server ∧
      s.right.system = some sys ∧ p.Runs sys env args ∧ p.killed = false ∧
      p.exited = some status ∧ server.exited = some status ∧ code = exitCode status := by
  obtain ⟨-, prep, remotes, hreq, rfl⟩ := prepare_spec hprepare
  obtain ⟨⟨capacity, hreach⟩, -⟩ := conversation_of_bytes h
  have hlaunched := launched_of_reach hreach
  obtain ⟨server, status, hpc, hexited, hstatus⟩ := exit_of_reach hreach hexit hcode
  obtain ⟨p, hprocesses, hfollowed⟩ := followed_of_reach hreach hpc
  have hp : p ∈ s.conversation.right.processes := by
    rw [hprocesses]
    exact List.mem_singleton_self p
  obtain ⟨sys, hsys, hruns⟩ := hlaunched.runs hreq hp
  refine ⟨p, server, sys, status, hprocesses, hpc, hsys, hruns, ?_, hfollowed.exited.trans hexited,
    hexited, hstatus⟩
  apply Bool.eq_false_iff.mpr
  rw [ne_eq, hfollowed.killed, hexited]
  exact fun hkilled => by cases hkilled.2

theorem exits_as_executed_heardOut :
    ∃ s, run someCodecs.step (Wires.new hello 5 5)
        (launched ++ Session.heardOut.flatMap carry) = some s ∧
      ∃ p status, s.right.processes = [p] ∧ p.command.args = ["-c", "echo hi"] ∧
        p.killed = false ∧ p.exited = some status ∧ exitCode status = 0 := by
  have hrun : (run someCodecs.step (Wires.new hello 5 5)
      (launched ++ Session.heardOut.flatMap carry)).any (fun s =>
        decide (s.left.exit = some 0)) = true := by decide +kernel
  obtain ⟨s, hs, hfacts⟩ := (Option.any_eq_true _ _).mp hrun
  obtain ⟨p, server, sys, status, hprocesses, -, -, ⟨⟨shell, -, hcommand⟩, -⟩, halive, hexited, -,
    hstatus⟩ :=
    exits_as_executed someCodecs noPorts someEnvironment (someArgs ["echo", "hi"]) () ()
      ⟨"host:40000", [()]⟩ (.new hello.req []) 5 5 s 0 rfl (reach_of_run hs)
      (of_decide_eq_true hfacts) (by decide)
  refine ⟨s, hs, p, status, hprocesses, ?_, halive, hexited, hstatus.symm⟩
  rw [hcommand]
  rfl

/-- Whatever fails, what a sink has written begins what the source on the other side has
read; and a client that exits with anything but 255 has written all that was read of either
output of the child to every writer that took it, unless its receiver was cut off between the
status and the end of the output. -/
theorem output_as_executed (codecs : Codecs) (prep : Prepared) (up down : ℕ+) (s : Wires)
    (h : Reach codecs.step Any (Wires.new prep up down) s) :
    let r := session prep.req s.conversation
    (∀ id, (r.client.side.view.sink id).written <+: (r.server.side.view.source id).read ∧
      (r.server.side.view.sink id).written <+: (r.client.side.view.source id).read) ∧
    (Reach codecs.step (codecs.Admits prep.req Session.Attentive) (Wires.new prep up down) s →
      ∀ code, s.left.exit = some code → code ≠ 255 → ∀ id, id = .stdout ∨ id = .stderr →
        ¬ (r.client.side.view.sink id).broken →
        (r.server.side.view.source id).pc = .done ∧
          (r.client.side.view.sink id).written = (r.server.side.view.source id).read) := by
  intro r
  obtain ⟨⟨capacity, hreach⟩, -⟩ := conversation_of_bytes h
  have hsettled : Session.Settled r := settled_of_reach hreach
  constructor
  · intro id
    exact ⟨(hsettled.outward id).1.written_initial, (hsettled.inward id).1.written_initial⟩
  · intro hattentive code hexit hcode id hid hnot
    obtain ⟨⟨capacity', hreach'⟩, -⟩ := conversation_of_admitted hattentive
    obtain ⟨client, status, hpc, hmain, -⟩ := ClientMain.ok_of_exit hexit hcode
    have hok : r.client.main = .ok status := by
      change s.left.session.main = .ok status
      rw [ClientMain.session, hpc]
      exact hmain
    obtain ⟨ptyMaster, ports, -, hsession⟩ := session_of_reach hreach'
    have hclosed := Session.closed_of_ok hsession hok hid
    have hjoined := hsettled.client.joined status (Or.inr hok)
    have hdone : (r.client.side.view.sink id).pc = .done := by
      rcases hid with rfl | rfl
      · exact hjoined.1
      · exact hjoined.2
    exact hsettled.written_eq hclosed hdone hnot

theorem output_as_executed_heardOut :
    ∃ s, run someCodecs.step (Wires.new hello 5 5)
        (launched ++ Session.heardOut.flatMap carry) = some s ∧ s.left.exit = some 0 ∧
      ((session hello.req s.conversation).client.side.view.sink .stdout).written =
        [104, 105] := by
  have hrun : (run (guarded someCodecs.step (someCodecs.Admits hello.req Session.Attentive))
      (Wires.new hello 5 5) (launched ++ Session.heardOut.flatMap carry)).any (fun s =>
        let r := session hello.req s.conversation
        decide (s.left.exit = some 0 ∧ (r.client.side.view.sink .stdout).isClosed = false ∧
          (r.client.side.view.sink .stdout).pc = .done ∧
          (r.server.side.view.source .stdout).read = [104, 105])) = true := by decide +kernel
  obtain ⟨s, hs, hfacts⟩ := (Option.any_eq_true _ _).mp hrun
  obtain ⟨hexit, hopen, hdone, hread⟩ := of_decide_eq_true hfacts
  obtain ⟨hs', hreach⟩ := reach_of_guarded hs
  obtain ⟨-, hwhole⟩ :=
    output_as_executed someCodecs hello 5 5 s (hreach.mono fun _ _ _ => trivial)
  refine ⟨s, hs', hexit, ?_⟩
  rw [← hread]
  refine (hwhole hreach 0 hexit (by decide) .stdout (Or.inl rfl) fun hbroken => ?_).2
  obtain ⟨⟨capacity, hconversation⟩, -⟩ := conversation_of_admitted hreach
  have hvalid := ((settled_of_reach hconversation).outward .stdout).1.tasks.2
  rcases hvalid.closed_of_broken hbroken with hclosed | hfailed
  · exact absurd (hopen.symm.trans hclosed) (by decide)
  · exact absurd (hdone.symm.trans hfailed) (by decide)

/-- The error `main` of the client has returned before a session. -/
def ClientMain.error (c : ClientMain) : Option Report :=
  match c.pc with
  | .err chain => some chain
  | _ => none

theorem ClientMain.pc_of_error {c : ClientMain} {chain : Report} (h : c.error = some chain) :
    c.pc = .err chain := by
  unfold ClientMain.error at h
  split at h
  · rename_i hpc
    rw [hpc, Option.some.inj h]
  · cases h

/-- The error the client shows for a request that is refused is the one of the server; where
the server has failed before `serve` no session begins and no process lives on; and a session
of the client is one of the server, with one process, which is killed where `serve` gives it
up before it has exited, and nowhere else. -/
theorem refused_cleanly (codecs : Codecs) (prep : Prepared) (up down : ℕ+) (s : Wires)
    (h : Reach codecs.step Any (Wires.new prep up down) s) :
    (∀ causes, s.left.error = some (refusal :: causes) →
      s.right.pc = .err causes ∧ Rejected causes) ∧
    (∀ chain, s.right.pc = .err chain → (∀ client, s.left.pc ≠ .serve client) ∧
      ∀ p ∈ s.right.processes, p.killed = true) ∧
    (∀ client, s.left.pc = .serve client → ∃ server, s.right.pc = .serve server) ∧
    ∀ server, s.right.pc = .serve server → ∃ p, s.right.processes = [p] ∧
      p.exited = server.exited ∧
      (p.killed = true ↔ server.released = true ∧ server.exited = none) := by
  obtain ⟨⟨capacity, hreach⟩, -⟩ := conversation_of_bytes h
  have hlaunched := launched_of_reach hreach
  refine ⟨fun causes hcauses => hlaunched.refused causes (ClientMain.pc_of_error hcauses), ?_, ?_,
    ?_⟩
  · intro chain hpc
    have hphase := hlaunched.phase
    have hstarted := hlaunched.started
    simp only [Wired.conversation, Phase, Started, hpc] at hphase hstarted
    refine ⟨?_, hstarted⟩
    intro client hclient
    rw [hclient] at hphase
    cases hphase.1
  · intro client hclient
    have happart : s.conversation.left.pc.apart = false := by
      rw [show s.conversation.left.pc = .serve client from hclient]
      rfl
    obtain ⟨server, -, -, hpc, -⟩ := hlaunched.phase.serving happart
    exact ⟨server, hpc⟩
  · intro server hserve
    obtain ⟨p, hprocesses, hfollowed⟩ := followed_of_reach hreach hserve
    exact ⟨p, hprocesses, hfollowed.exited, hfollowed.killed⟩

/-- The size of the window cannot be set. -/
def windowless : System :=
  { someSystem with openPty := .ok ⟨⟨0, 0, 0, 0⟩, fun _ => .error ["EIO"]⟩ }

theorem refused_cleanly_windowless :
    ∃ s, run someCodecs.step (Wires.new login 5 5)
        (requested windowless ++ written.map .right ++ readBack.map .left) = some s ∧
      Rejected ["failed to start process", "failed to set window size", "EIO"] ∧
      ∃ p, s.right.processes = [p] ∧ p.killed = true := by
  have hrun : (run someCodecs.step (Wires.new login 5 5)
      (requested windowless ++ written.map .right ++ readBack.map .left)).any (fun s =>
        decide (s.left.error = some (refusal :: ["failed to start process",
          "failed to set window size", "EIO"]) ∧ s.right.processes.length = 1)) = true := by
    decide +kernel
  obtain ⟨s, hs, hfacts⟩ := (Option.any_eq_true _ _).mp hrun
  obtain ⟨herror, hlength⟩ := of_decide_eq_true hfacts
  obtain ⟨hrefused, hfailed, -⟩ := refused_cleanly someCodecs login 5 5 s (reach_of_run hs)
  obtain ⟨hpc, hrejected⟩ := hrefused _ herror
  obtain ⟨p, hprocesses⟩ := List.length_eq_one_iff.mp hlength
  have hkilled := (hfailed _ hpc).2
  rw [hprocesses] at hkilled
  exact ⟨s, hs, hrejected, p, hprocesses, hkilled p (List.mem_singleton_self p)⟩

end Rlirsh.Launch
