import Rlirsh.Execute.Specifiers
import Rlirsh.Terminal

namespace Rlirsh.Launch

open Rlirsh.Protocol
open Rlirsh.Net
open Rlirsh.Execute
open Rlirsh.Terminal (Errno Winsize getWindowSize)

universe u v

variable {Addr : Type} {Listener : Type u} {World : Type v}

/-- `s.split(':')`. -/
def split (s : String) : List String := (s.toList.splitOn ':').map String.ofList

/-- `local_port_forward_specifier`; `debug` is how `{:?}` shows the parts. -/
def localPortForwardSpecifier (lookup : String → Except Report (List Addr))
    (debug : List String → String) (s : String) : Except Report (SocketAddrs Addr × String) := do
  let (localAddr, remoteAddr) ←
    match split s with
    | [ba, p, h, hp] => .ok (ba ++ ":" ++ p, h ++ ":" ++ hp)
    | [p, h, hp] => .ok ("0.0.0.0:" ++ p, h ++ ":" ++ hp)
    | parts => .error ["invalid port forwarding specifier: " ++ debug parts]
  let localAddrs ← SocketAddrs.new lookup localAddr
  .ok (localAddrs, remoteAddr)

/-- The `-L` options of a command line, as they are parsed one after the other. -/
def localPortForwardSpecifiers (lookup : String → Except Report (List Addr))
    (debug : List String → String) :
    List String → Except Report (List (SocketAddrs Addr × String))
  | [] => .ok []
  | s :: ss => do
      let specifier ← localPortForwardSpecifier lookup debug s
      let specifiers ← localPortForwardSpecifiers lookup debug ss
      .ok (specifier :: specifiers)

/-- `Args` of the client. -/
structure Args (Addr : Type) where
  disablePty : Bool
  forceEnablePty : Nat
  localPortForwardSpecifier : List (SocketAddrs Addr × String)
  addrs : SocketAddrs Addr
  command : List String

inductive PtyMode
  | auto
  | disable
  | enable
deriving DecidableEq, Repr

/-- What `create_request` asks the system for. -/
structure Environment where
  hasTty : Bool
  -- what `tiocgwinsz` makes of the standard input
  winsize : Except Errno Winsize
  term : Option String

/-- The size the window of the child starts with. -/
def Environment.windowSize (env : Environment) : WindowSize :=
  match env.winsize with
  | .ok winsz => ⟨(getWindowSize winsz).1, (getWindowSize winsz).2⟩
  | .error _ => ⟨80, 60⟩

/-- `pty_mode` of `create_request`, with its assertion. -/
def Args.ptyMode (args : Args Addr) : Option PtyMode :=
  if args.disablePty then
    if args.forceEnablePty = 0 then some .disable else none
  else if args.forceEnablePty > 0 then some .enable
  else some .auto

/-- `allocate_pty` of `create_request`, before it looks for a terminal. -/
def Args.wantsPty (args : Args Addr) : PtyMode → Bool
  | .auto => args.command.isEmpty
  | .disable => false
  | .enable => true

/-- `create_request`; `none` is the panic of its assertion. -/
def createRequest (env : Environment) (args : Args Addr) (connectAddrs : List String) :
    Option (SocketAddrs Addr × ExecuteRequest) :=
  match args.ptyMode with
  | none => none
  | some ptyMode =>
      let command :=
        if args.command.isEmpty then ExecuteCommand.loginShell else .program args.command
      let allocatePty :=
        if args.forceEnablePty < 2 ∧ args.wantsPty ptyMode = true ∧ env.hasTty = false then false
        else args.wantsPty ptyMode
      let ptyParam := if allocatePty then some ⟨env.windowSize⟩ else none
      let envs := if allocatePty then env.term.toList.map fun term => ("TERM", term) else []
      some (args.addrs, { command, envs, ptyParam, connectAddrs })

/-- A pty is asked for. -/
def Args.allocates (args : Args Addr) (env : Environment) : Bool :=
  !args.disablePty && (args.command.isEmpty || decide (0 < args.forceEnablePty)) &&
    (env.hasTty || decide (2 ≤ args.forceEnablePty))

/-- What `create_request` asks the server for. -/
structure Requests (env : Environment) (args : Args Addr) (connectAddrs : List String)
    (req : ExecuteRequest) : Prop where
  command : req.command = if args.command.isEmpty then .loginShell else .program args.command
  ptyParam : req.ptyParam = if args.allocates env then some ⟨env.windowSize⟩ else none
  envs : req.envs =
    if args.allocates env then env.term.toList.map fun term => ("TERM", term) else []
  connectAddrs : req.connectAddrs = connectAddrs

theorem allocates_eq {env : Environment} {args : Args Addr} {ptyMode : PtyMode}
    (hmode : args.ptyMode = some ptyMode) :
    (if args.forceEnablePty < 2 ∧ args.wantsPty ptyMode = true ∧ env.hasTty = false then false
      else args.wantsPty ptyMode) = args.allocates env := by
  unfold Args.ptyMode at hmode
  unfold Args.allocates
  split at hmode
  · rename_i hdisable
    split at hmode
    · obtain rfl := Option.some.inj hmode
      simp [Args.wantsPty, hdisable]
    · cases hmode
  · rename_i hdisable
    split at hmode
    · rename_i hforce
      obtain rfl := Option.some.inj hmode
      by_cases htwo : 2 ≤ args.forceEnablePty
      · simp [Args.wantsPty, hdisable, hforce, htwo, Nat.not_lt.mpr htwo]
      · have hlt := Nat.lt_of_not_le htwo
        cases henv : env.hasTty <;> simp [Args.wantsPty, hdisable, hforce, htwo, hlt]
    · rename_i hforce
      obtain rfl := Option.some.inj hmode
      have hzero : args.forceEnablePty = 0 := Nat.eq_zero_of_not_pos hforce
      cases henv : env.hasTty <;> simp [Args.wantsPty, hdisable, hzero]

theorem createRequest_spec {env : Environment} {args : Args Addr} {connectAddrs : List String}
    {host : SocketAddrs Addr} {req : ExecuteRequest}
    (h : createRequest env args connectAddrs = some (host, req)) :
    host = args.addrs ∧ Requests env args connectAddrs req := by
  unfold createRequest at h
  split at h
  · cases h
  · rename_i ptyMode hmode
    simp only [allocates_eq hmode] at h
    obtain ⟨rfl, rfl⟩ := Prod.mk.inj (Option.some.inj h)
    exact ⟨rfl, rfl, rfl, rfl, rfl⟩

/-- What a specifier stands for: the address to listen on and the one to connect to. -/
inductive Specifies : String → String → String → Prop
  | full {ba p h hp : String} (hno : ∀ part ∈ [ba, p, h, hp], ':' ∉ part.toList) :
      Specifies (":".intercalate [ba, p, h, hp]) (ba ++ ":" ++ p) (h ++ ":" ++ hp)
  | short {p h hp : String} (hno : ∀ part ∈ [p, h, hp], ':' ∉ part.toList) :
      Specifies (":".intercalate [p, h, hp]) ("0.0.0.0:" ++ p) (h ++ ":" ++ hp)

theorem not_mem_of_mem_splitOn {α : Type u} [DecidableEq α] {a : α} {xs ys : List α}
    (hmem : ys ∈ xs.splitOn a) : a ∉ ys := by
  induction xs generalizing ys with
  | nil =>
      obtain rfl : ys = [] := by simpa using hmem
      exact List.not_mem_nil
  | cons x xs ih =>
      rw [List.splitOn_cons_eq_if_modifyHead] at hmem
      split at hmem
      · rcases List.mem_cons.mp hmem with rfl | hmem
        · exact List.not_mem_nil
        · exact ih hmem
      · rename_i hne
        obtain ⟨zs, zss, hsplit⟩ := List.exists_cons_of_ne_nil (List.splitOn_ne_nil a xs)
        rw [hsplit, List.modifyHead_cons] at hmem
        rcases List.mem_cons.mp hmem with rfl | hmem
        · intro ha
          rcases List.mem_cons.mp ha with rfl | ha
          · simp at hne
          · exact ih (by rw [hsplit]; exact List.mem_cons_self ..) ha
        · exact ih (by rw [hsplit]; exact List.mem_cons_of_mem _ hmem)

theorem split_eq_iff {s : String} {parts : List String} (hne : parts ≠ []) :
    split s = parts ↔
      (∀ part ∈ parts, ':' ∉ part.toList) ∧ s = ":".intercalate parts := by
  constructor
  · rintro rfl
    constructor
    · intro part hpart
      obtain ⟨chars, hchars, rfl⟩ := List.mem_map.mp hpart
      rw [String.toList_ofList]
      exact not_mem_of_mem_splitOn hchars
    · apply String.toList_inj.mp
      have hmap : (split s).map String.toList = s.toList.splitOn ':' := by
        rw [split, List.map_map]
        simp [Function.comp_def]
      rw [String.toList_intercalate, hmap]
      exact (List.intercalate_splitOn ':').symm
  · rintro ⟨hno, rfl⟩
    rw [split, String.toList_intercalate]
    have hfree : ∀ l ∈ parts.map String.toList, ':' ∉ l := by
      intro l hl
      obtain ⟨part, hpart, rfl⟩ := List.mem_map.mp hl
      exact hno part hpart
    have hsplit := List.splitOn_intercalate ':' hfree (by simpa using hne)
    have hcolon : (":" : String).toList = [':'] := rfl
    rw [hcolon, hsplit, List.map_map]
    simp [Function.comp_def]

theorem Specifies.split_eq {s localAddr remoteAddr : String}
    (h : Specifies s localAddr remoteAddr) :
    (∃ ba p h hp, split s = [ba, p, h, hp] ∧ localAddr = ba ++ ":" ++ p ∧
        remoteAddr = h ++ ":" ++ hp) ∨
      ∃ p h hp, split s = [p, h, hp] ∧ localAddr = "0.0.0.0:" ++ p ∧
        remoteAddr = h ++ ":" ++ hp := by
  cases h with
  | full hno =>
      exact Or.inl ⟨_, _, _, _, (split_eq_iff (List.cons_ne_nil _ _)).mpr ⟨hno, rfl⟩, rfl, rfl⟩
  | short hno =>
      exact Or.inr ⟨_, _, _, (split_eq_iff (List.cons_ne_nil _ _)).mpr ⟨hno, rfl⟩, rfl, rfl⟩

/-- A specifier stands for one thing only. -/
theorem Specifies.unique {s localAddr remoteAddr localAddr' remoteAddr' : String}
    (h : Specifies s localAddr remoteAddr) (h' : Specifies s localAddr' remoteAddr') :
    localAddr' = localAddr ∧ remoteAddr' = remoteAddr := by
  rcases h.split_eq with ⟨ba, p, host, hp, hsplit, rfl, rfl⟩ | ⟨p, host, hp, hsplit, rfl, rfl⟩ <;>
    rcases h'.split_eq with ⟨_, _, _, _, hsplit', rfl, rfl⟩ | ⟨_, _, _, hsplit', rfl, rfl⟩ <;>
    rw [hsplit] at hsplit' <;>
    cases hsplit'
  · exact ⟨rfl, rfl⟩
  · exact ⟨rfl, rfl⟩

/-- The specifiers that are accepted, and what they are taken for. -/
theorem localPortForwardSpecifier_iff {lookup : String → Except Report (List Addr)}
    {debug : List String → String} {s remote : String} {a : SocketAddrs Addr} :
    localPortForwardSpecifier lookup debug s = .ok (a, remote) ↔
      ∃ localAddr, Specifies s localAddr remote ∧ SocketAddrs.new lookup localAddr = .ok a := by
  constructor
  · intro h
    simp only [localPortForwardSpecifier, bind, Except.bind] at h
    split at h
    · rename_i ba p h' hp hsplit
      split at h
      · cases h
      · rename_i a' hlookup
        obtain ⟨rfl, rfl⟩ := Prod.mk.inj (Except.ok.inj h)
        obtain ⟨hno, rfl⟩ := (split_eq_iff (List.cons_ne_nil _ _)).mp hsplit
        exact ⟨_, .full hno, hlookup⟩
    · rename_i p h' hp hsplit
      split at h
      · cases h
      · rename_i a' hlookup
        obtain ⟨rfl, rfl⟩ := Prod.mk.inj (Except.ok.inj h)
        obtain ⟨hno, rfl⟩ := (split_eq_iff (List.cons_ne_nil _ _)).mp hsplit
        exact ⟨_, .short hno, hlookup⟩
    · cases h
  · rintro ⟨localAddr, hspecifies, hlookup⟩
    cases hspecifies with
    | full hno =>
        have hsplit := (split_eq_iff (List.cons_ne_nil _ _)).mpr ⟨hno, rfl⟩
        simp only [localPortForwardSpecifier, hsplit, bind, Except.bind, hlookup]
    | short hno =>
        have hsplit := (split_eq_iff (List.cons_ne_nil _ _)).mpr ⟨hno, rfl⟩
        simp only [localPortForwardSpecifier, hsplit, bind, Except.bind, hlookup]

theorem localPortForwardSpecifiers_spec {lookup : String → Except Report (List Addr)}
    {debug : List String → String} {texts : List String}
    {specifiers : List (SocketAddrs Addr × String)}
    (h : localPortForwardSpecifiers lookup debug texts = .ok specifiers) :
    List.Forall₂ (fun s specifier => localPortForwardSpecifier lookup debug s = .ok specifier)
      texts specifiers := by
  induction texts generalizing specifiers with
  | nil =>
      obtain rfl := Except.ok.inj h
      exact .nil
  | cons s ss ih =>
      simp only [localPortForwardSpecifiers, bind, Except.bind] at h
      split at h
      · cases h
      · rename_i specifier hspecifier
        split at h
        · cases h
        · rename_i rest hrest
          obtain rfl := Except.ok.inj h
          exact .cons hspecifier (ih hrest)

theorem exists_getElem?_of_forall₂ {α β : Type*} {r : α → β → Prop} {xs : List α} {ys : List β}
    (h : List.Forall₂ r xs ys) {i : Nat} {x : α} (hx : xs[i]? = some x) :
    ∃ y, ys[i]? = some y ∧ r x y := by
  obtain ⟨hlt, rfl⟩ := List.getElem?_eq_some_iff.mp hx
  have hlt' : i < ys.length := h.length_eq ▸ hlt
  exact ⟨ys[i], List.getElem?_eq_getElem hlt', h.get hlt hlt'⟩

/-- The option `-L` with the number of a port names what the client listens on and what the
server connects to for that port, and can be read in one way only. -/
theorem ports_as_named (lookup lookup' : String → Except Report (List Addr))
    (debug : List String → String) (listen : Addr → World → Except Report Listener × World)
    (texts : List String) (specifiers : List (SocketAddrs Addr × String)) (world world' : World)
    (listeners : List Listener) (remotes : List String) (addrs : List (SocketAddrs Addr))
    (hparse : localPortForwardSpecifiers lookup debug texts = .ok specifiers)
    (hlisten : Client.prepareLocalForwarding listen specifiers world =
      (.ok (listeners, remotes), world'))
    (hconnect : Server.prepareLocalForwarding lookup' remotes = .ok addrs) :
    listeners.length = texts.length ∧ addrs.length = texts.length ∧
      ∀ port text, texts[port.id]? = some text → ∃ localAddr remoteAddr,
        (∀ localAddr' remoteAddr', Specifies text localAddr' remoteAddr' ↔
          localAddr' = localAddr ∧ remoteAddr' = remoteAddr) ∧
        (∃ a listener, SocketAddrs.new lookup localAddr = .ok a ∧
          (port, listener) ∈ numbered listeners ∧ Bound listen a listener) ∧
        ∃ a, SocketAddrs.new lookup' remoteAddr = .ok a ∧ (port, a) ∈ numbered addrs := by
  have hparsed := localPortForwardSpecifiers_spec hparse
  obtain ⟨rfl, hbound⟩ := Client.prepareLocalForwarding_spec hlisten
  have hresolved := Server.prepareLocalForwarding_resolved hconnect
  refine ⟨?_, ?_, ?_⟩
  · rw [← hbound.length_eq, hparsed.length_eq]
  · rw [← hresolved.length_eq, List.length_map, hparsed.length_eq]
  · intro port text htext
    obtain ⟨⟨a, remoteAddr⟩, hspecifier, htaken⟩ := exists_getElem?_of_forall₂ hparsed htext
    obtain ⟨localAddr, hspecifies, hlookup⟩ := localPortForwardSpecifier_iff.mp htaken
    obtain ⟨listener, hlistener, hlistens⟩ := exists_getElem?_of_forall₂ hbound hspecifier
    have hremote : (specifiers.map Prod.snd)[port.id]? = some remoteAddr := by
      rw [List.getElem?_map, hspecifier]
      rfl
    obtain ⟨a', ha', hresolves⟩ := exists_getElem?_of_forall₂ hresolved hremote
    refine ⟨localAddr, remoteAddr, fun _ _ => ⟨hspecifies.unique, ?_⟩,
      ⟨a, listener, hlookup, ?_, hlistens⟩, a', hresolves, ?_⟩
    · rintro ⟨rfl, rfl⟩
      exact hspecifies
    · exact mem_numbered.mpr hlistener
    · exact mem_numbered.mpr ha'

theorem ports_as_named_two :
    ∃ localAddr remoteAddr, Specifies "127.0.0.1:53:ns:53" localAddr remoteAddr ∧
      (∃ a listener, SocketAddrs.new (fun s => .ok [s]) localAddr = .ok a ∧
        (⟨1⟩, listener) ∈ numbered ["0.0.0.0:8080", "127.0.0.1:53"] ∧
        Bound (fun addr (world : List String) => (.ok addr, addr :: world)) a listener) ∧
      ∃ a : SocketAddrs String, SocketAddrs.new (fun s => .ok [s]) remoteAddr = .ok a ∧
        (⟨1⟩, a) ∈ numbered [⟨"host:80", ["host:80"]⟩, ⟨"ns:53", ["ns:53"]⟩] := by
  have hports := ports_as_named (fun s => .ok [s]) (fun s => .ok [s]) (fun _ => "")
    (fun addr (world : List String) => (.ok addr, addr :: world))
    ["8080:host:80", "127.0.0.1:53:ns:53"]
    [(⟨"0.0.0.0:8080", ["0.0.0.0:8080"]⟩, "host:80"), (⟨"127.0.0.1:53", ["127.0.0.1:53"]⟩, "ns:53")]
    [] ["127.0.0.1:53", "0.0.0.0:8080"] ["0.0.0.0:8080", "127.0.0.1:53"] ["host:80", "ns:53"]
    [⟨"host:80", ["host:80"]⟩, ⟨"ns:53", ["ns:53"]⟩] rfl rfl rfl
  obtain ⟨localAddr, remoteAddr, hspecifies, hrest⟩ := hports.2.2 ⟨1⟩ "127.0.0.1:53:ns:53" rfl
  exact ⟨localAddr, remoteAddr, (hspecifies _ _).mpr ⟨rfl, rfl⟩, hrest⟩

end Rlirsh.Launch
