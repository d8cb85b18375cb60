import Rlirsh.Errors
import Rlirsh.Execute.Specifiers
import Rlirsh.Terminal

namespace Rlirsh.Launch

open Rlirsh.Protocol
open Rlirsh.Net
open Rlirsh.Lib
open Rlirsh.Execute
open Rlirsh.Terminal (PtyMaster Winsize setWindowSize)

/-- A command as `spawn_process` has built it, with an environment of its own. -/
structure Command where
  program : String
  arg0 : String
  args : List String
  envs : List (String × String)
deriving DecidableEq, Repr

/-- A process that has been started.  Its pty has the size it is handed over with; it is
killed by the server, and never after the server has seen it exit. -/
structure Process where
  command : Command
  pty : Option Winsize
  exited : Option ExitStatus
  killed : Bool
deriving DecidableEq, Repr

def Process.new (command : Command) (pty : Option Winsize) : Process :=
  { command, pty, exited := none, killed := false }

/-- `kill`, or the drop of a `Child` that has not been waited for. -/
def Process.kill (p : Process) : Process := { p with killed := true }

/-- What the calls of the system that `handle_request` makes come to; `passwd` is the entry
of the current user with what `to_str` makes of its shell, and `shell` the variable `SHELL`. -/
structure System where
  lookup : String → Except Report (List SocketAddr)
  passwd : Option (Except Report String)
  shell : Option String
  openPty : Except Report PtyMaster
  spawn : Except Report Unit
  tryClone : Except Report Unit

/-- `Context` of an error. -/
def wrap {α : Type} (msg : String) : Except Report α → Except Report α
  | .ok a => .ok a
  | .error chain => .error (msg :: chain)

/-- The shell `spawn_process` starts. -/
def System.loginShell (sys : System) : Except Report String :=
  match sys.passwd with
  | some (.ok shell) => .ok shell
  | some (.error chain) => .error chain
  | none =>
      match sys.shell with
      | some shell => .ok shell
      | none => .error ["cannot get login shell for the user"]

/-- The command `spawn_process` builds for a request. -/
def commandOf (shell : String) (req : ExecuteRequest) : Command :=
  { program := shell
    arg0 := "-" ++ shell
    args :=
      match req.command with
      | .loginShell => []
      | .program command => ["-c", " ".intercalate command]
    envs := req.envs }

/-- `spawn_process`, with the process it leaves behind.  On the errors after `spawn` the
`Child` is dropped, and with it the process is killed. -/
def spawnProcess (sys : System) (req : ExecuteRequest) :
    Except Report (Process × Option PtyMaster) × List Process :=
  match sys.loginShell with
  | .error chain => (.error chain, [])
  | .ok shell =>
      let command := commandOf shell req
      match req.ptyParam with
      | some param =>
          match wrap "failed to open pty master" sys.openPty with
          | .error chain => (.error chain, [])
          | .ok pty =>
              match wrap "failed to spawn process" sys.spawn with
              | .error chain => (.error chain, [])
              | .ok _ =>
                  let ws := param.windowSize
                  let (res, pty) := pty.setWindowSize ws.width ws.height
                  let child := Process.new command (some pty.winsz)
                  match wrap "failed to set window size" res with
                  | .error chain => (.error chain, [child.kill])
                  | .ok _ => (.ok (child, some pty), [child])
      | none =>
          match wrap "failed to spawn process" sys.spawn with
          | .error chain => (.error chain, [])
          | .ok _ =>
              let child := Process.new command none
              (.ok (child, none), [child])

/-- The standard streams of a process the server has got hold of. -/
structure Stdio where
  stdin : Bool
  stdout : Bool
  stderr : Bool
deriving DecidableEq, Repr

/-- `bind_stdio`. -/
def bindStdio (sys : System) (ptyMaster : Option PtyMaster) : Except Report Stdio :=
  match ptyMaster with
  | some _ =>
      match wrap "failed to duplicate PTY master fd" sys.tryClone with
      | .error chain => .error chain
      | .ok _ => .ok { stdin := true, stdout := true, stderr := false }
  | none => .ok { stdin := true, stdout := true, stderr := true }

/-- `ServeParam` of the server. -/
structure ServeParam where
  child : Process
  ptyMaster : Option PtyMaster
  stdio : Stdio
  connectAddrs : List (SocketAddrs SocketAddr)

/-- `handle_request`, with the processes it leaves behind. -/
def handleRequest (sys : System) (req : ExecuteRequest) :
    Except Report ServeParam × List Process :=
  match wrap "failed to prepare for local port forwarding"
      (Server.prepareLocalForwarding sys.lookup req.connectAddrs) with
  | .error chain => (.error chain, [])
  | .ok connectAddrs =>
      match spawnProcess sys req with
      | (.error chain, left) => (.error ("failed to start process" :: chain), left)
      | (.ok (child, ptyMaster), left) =>
          match wrap "failed to start process" (bindStdio sys ptyMaster) with
          | .error chain => (.error chain, left.map Process.kill)
          | .ok stdio => (.ok { child, ptyMaster, stdio, connectAddrs }, left)

/-- `serve` with its tasks just spawned.  A stream the server has not got hold of is closed
at once. -/
def serving (param : ServeParam) : Server.State :=
  let pty := param.ptyMaster.isSome
  let closed : List ServerAction :=
    (if param.stdio.stdin then [] else [.stream (.sink .stdin .sinkClosed)]) ++
      (if param.stdio.stdout then [] else [.stream (.source .stdout .sourceClosed)]) ++
      if param.stdio.stderr then [] else [.stream (.source .stderr .sourceClosed)]
  { main := .select, notified := false, killError := false, exited := none, injected := 0
    ptyMaster := param.ptyMaster, warnings := [], received := []
    side :=
      { sources := Table.ofList [.stdout, .stderr] fun id =>
          if (id = .stdout ∧ param.stdio.stdout = true) ∨ (id = .stderr ∧ param.stdio.stderr = true)
          then .new else Server.closedSource
        sinks :=
          if param.stdio.stdin then
            Table.ofList [.stdin] fun _ => .new (if pty then .ptyMaster else .childStdin)
          else Table.empty
        listeners := Table.empty
        connecters := perPort Stream.Connecter.Task.new param.connectAddrs
        connects := []
        sinkTxMap := if param.stdio.stdin then [.stdin] else []
        sourceTxMap := (if param.stdio.stdout then [.stdout] else []) ++
          if param.stdio.stderr then [.stderr] else []
        connecterTxMap := (numbered param.connectAddrs).map Prod.fst, listenerTxMap := []
        replaced := Table.empty
        queue := closed, sender := .recv, isFailed := false, errors := 0, receiver := .recv
        log := closed, lost := [], delivered := [] } }

/-- What is wrong with a request, at the top of the chain. -/
def rejections : List String :=
  ["failed to prepare for local port forwarding", "failed to start process"]

/-- The size of the window that is asked for. -/
def winsizeOf (req : ExecuteRequest) : Option Winsize :=
  req.ptyParam.map fun param => setWindowSize param.windowSize.width param.windowSize.height

/-- What `handle_request` comes to for a request it accepts. -/
structure Accepted (sys : System) (req : ExecuteRequest) (param : ServeParam) : Prop where
  child : ∃ shell, sys.loginShell = .ok shell ∧
    param.child = .new (commandOf shell req) (winsizeOf req)
  winsz : param.ptyMaster.map PtyMaster.winsz = winsizeOf req
  stdio : param.stdio = { stdin := true, stdout := true, stderr := req.ptyParam.isNone }
  resolved : List.Forall₂ (fun addr a => SocketAddrs.new sys.lookup addr = .ok a)
    req.connectAddrs param.connectAddrs

variable {sys : System} {req : ExecuteRequest} {left : List Process}

theorem wrap_ok {α : Type} {msg : String} {res : Except Report α} {a : α}
    (h : wrap msg res = .ok a) : res = .ok a := by
  cases res with
  | ok b => exact h
  | error chain => cases h

theorem wrap_error {α : Type} {msg : String} {res : Except Report α} {chain : Report}
    (h : wrap msg res = .error chain) : ∃ causes, chain = msg :: causes := by
  cases res with
  | ok b => cases h
  | error causes => exact ⟨causes, (Except.error.inj h).symm⟩

theorem winsz_of_ok {pty : PtyMaster} {w h : UInt16}
    (hok : (pty.setWindowSize w h).1 = .ok ()) :
    (pty.setWindowSize w h).2.winsz = setWindowSize w h := by
  have hres : pty.tiocswinsz 0 = .ok () := hok
  simp only [PtyMaster.setWindowSize, hres]

theorem spawnProcess_ok {child : Process} {ptyMaster : Option PtyMaster}
    (h : spawnProcess sys req = (.ok (child, ptyMaster), left)) :
    left = [child] ∧ ptyMaster.map PtyMaster.winsz = winsizeOf req ∧
      ∃ shell, sys.loginShell = .ok shell ∧
        child = .new (commandOf shell req) (winsizeOf req) := by
  unfold spawnProcess at h
  split at h
  · cases h
  · rename_i shell hshell
    split at h
    · rename_i param hparam
      split at h
      · cases h
      · rename_i pty hpty
        split at h
        · cases h
        · simp only at h
          split at h
          · cases h
          · rename_i hset
            obtain ⟨hchild, rfl⟩ := Prod.mk.inj h
            obtain ⟨rfl, rfl⟩ := Prod.mk.inj (Except.ok.inj hchild)
            have hwinsz := winsz_of_ok (wrap_ok hset)
            have hasked : winsizeOf req =
                some (setWindowSize param.windowSize.width param.windowSize.height) := by
              rw [winsizeOf, hparam]
              rfl
            rw [hasked, hwinsz, Option.map_some, hwinsz]
            exact ⟨rfl, rfl, shell, hshell, rfl⟩
    · rename_i hparam
      split at h
      · cases h
      · obtain ⟨hchild, rfl⟩ := Prod.mk.inj h
        obtain ⟨rfl, rfl⟩ := Prod.mk.inj (Except.ok.inj hchild)
        have hasked : winsizeOf req = none := by
          rw [winsizeOf, hparam]
          rfl
        rw [hasked]
        exact ⟨rfl, rfl, shell, hshell, rfl⟩

theorem spawnProcess_error {chain : Report} (h : spawnProcess sys req = (.error chain, left)) :
    ∀ p ∈ left, p.killed = true := by
  have hnone (hleft : [] = left) : ∀ p ∈ left, p.killed = true := by
    rw [← hleft]
    exact fun p hp => by cases hp
  unfold spawnProcess at h
  split at h
  · exact hnone (Prod.mk.inj h).2
  · split at h
    · split at h
      · exact hnone (Prod.mk.inj h).2
      · split at h
        · exact hnone (Prod.mk.inj h).2
        · simp only at h
          split at h
          · rw [← (Prod.mk.inj h).2]
            intro p hp
            rw [List.mem_singleton.mp hp]
            rfl
          · cases h
    · split at h
      · exact hnone (Prod.mk.inj h).2
      · cases h

theorem handleRequest_ok {param : ServeParam} (h : handleRequest sys req = (.ok param, left)) :
    Accepted sys req param ∧ left = [param.child] := by
  unfold handleRequest at h
  split at h
  · cases h
  · rename_i connectAddrs hresolved
    split at h
    · cases h
    · rename_i child ptyMaster left' hspawn
      obtain ⟨rfl, hwinsz, hchild⟩ := spawnProcess_ok hspawn
      split at h
      · cases h
      · rename_i stdio hstdio
        obtain ⟨hparam, rfl⟩ := Prod.mk.inj h
        obtain rfl := Except.ok.inj hparam
        refine ⟨⟨hchild, hwinsz, ?_, Server.prepareLocalForwarding_resolved (wrap_ok hresolved)⟩,
          rfl⟩
        have hbound := wrap_ok hstdio
        have hsome : ptyMaster.isSome = req.ptyParam.isSome := by
          have hmap := congrArg Option.isSome hwinsz
          simpa only [winsizeOf, Option.isSome_map] using hmap
        unfold bindStdio at hbound
        cases hptyParam : req.ptyParam with
        | none =>
            rw [hptyParam] at hsome
            obtain rfl := Option.not_isSome_iff_eq_none.mp (Bool.eq_false_iff.mp hsome)
            exact (Except.ok.inj hbound).symm
        | some p =>
            rw [hptyParam] at hsome
            obtain ⟨pty, rfl⟩ := Option.isSome_iff_exists.mp hsome
            simp only at hbound
            split at hbound
            · cases hbound
            · exact (Except.ok.inj hbound).symm

/-- A request that is rejected leaves no process behind. -/
theorem handleRequest_error {chain : Report} (h : handleRequest sys req = (.error chain, left)) :
    (∀ p ∈ left, p.killed = true) ∧ ∃ msg ∈ rejections, ∃ causes, chain = msg :: causes := by
  unfold handleRequest at h
  split at h
  · rename_i chain' hresolved
    obtain ⟨hchain, rfl⟩ := Prod.mk.inj h
    obtain rfl := Except.error.inj hchain
    obtain ⟨causes, rfl⟩ := wrap_error hresolved
    exact ⟨fun p hp => (by cases hp), _, List.mem_cons_self .., causes, rfl⟩
  · split at h
    · rename_i causes left' hspawn
      obtain ⟨hchain, rfl⟩ := Prod.mk.inj h
      obtain rfl := Except.error.inj hchain
      exact ⟨spawnProcess_error hspawn, _, List.mem_cons_of_mem _ (List.mem_cons_self ..),
        causes, rfl⟩
    · split at h
      · rename_i chain' hstdio
        obtain ⟨hchain, rfl⟩ := Prod.mk.inj h
        obtain rfl := Except.error.inj hchain
        obtain ⟨causes, rfl⟩ := wrap_error hstdio
        refine ⟨?_, _, List.mem_cons_of_mem _ (List.mem_cons_self ..), causes, rfl⟩
        intro p hp
        obtain ⟨q, -, rfl⟩ := List.mem_map.mp hp
        rfl
      · cases h

/-- There is at most one process, and it has the command of the request, in the login shell
of the system. -/
def Asked (sys : System) (req : ExecuteRequest) (processes : List Process) : Prop :=
  processes.length ≤ 1 ∧
    ∀ p ∈ processes, ∃ shell, sys.loginShell = .ok shell ∧ p.command = commandOf shell req

theorem asked_nil : Asked sys req [] := ⟨Nat.zero_le 1, nofun⟩

theorem asked_single {p : Process} {shell : String} (hshell : sys.loginShell = .ok shell)
    (hcommand : p.command = commandOf shell req) : Asked sys req [p] := by
  refine ⟨Nat.le_refl 1, fun q hq => ⟨shell, hshell, ?_⟩⟩
  rw [List.mem_singleton.mp hq]
  exact hcommand

theorem Asked.map {processes : List Process} {f : Process → Process} (h : Asked sys req processes)
    (hf : ∀ p, (f p).command = p.command) : Asked sys req (processes.map f) := by
  refine ⟨by simpa using h.1, fun p hp => ?_⟩
  obtain ⟨q, hq, rfl⟩ := List.mem_map.mp hp
  rw [hf q]
  exact h.2 q hq

theorem asked_spawnProcess (sys : System) (req : ExecuteRequest) :
    Asked sys req (spawnProcess sys req).2 := by
  unfold spawnProcess
  split
  · exact asked_nil
  · rename_i shell hshell
    split
    · split
      · exact asked_nil
      · split
        · exact asked_nil
        · simp only
          split
          · exact asked_single hshell rfl
          · exact asked_single hshell rfl
    · split
      · exact asked_nil
      · exact asked_single hshell rfl

theorem asked_handleRequest (sys : System) (req : ExecuteRequest) :
    Asked sys req (handleRequest sys req).2 := by
  have hspawned := asked_spawnProcess sys req
  unfold handleRequest
  split
  · exact asked_nil
  · split
    · rename_i hspawn
      rw [hspawn] at hspawned
      exact hspawned
    · rename_i hspawn
      rw [hspawn] at hspawned
      split
      · exact hspawned.map fun _ => rfl
      · exact hspawned

theorem Accepted.isSome {param : ServeParam} (h : Accepted sys req param) :
    param.ptyMaster.isSome = req.ptyParam.isSome := by
  have hmap := congrArg Option.isSome h.winsz
  simpa only [winsizeOf, Option.isSome_map] using hmap

/-- The session that is served is the one that was asked for. -/
theorem Accepted.serving_eq {param : ServeParam} (h : Accepted sys req param) :
    serving param = Server.new param.ptyMaster param.connectAddrs := by
  have hsome := h.isSome
  unfold serving Server.new
  rw [h.stdio, hsome]
  cases req.ptyParam with
  | none => simp [Table.ofList]
  | some p => rfl

end Rlirsh.Launch
