import Rlirsh.Stream.Requests

namespace Rlirsh.Stream

open Rlirsh.Protocol
open Rlirsh.Net
open Rlirsh.Lib
open Rlirsh.Lib.History

/-- An action for the connecter of the port. -/
def listenerOf (port : PortId) : StreamAction → Option ListenerAction
  | .listener port' a => if port' = port then some a else none
  | _ => none

theorem count_listenerOf (port : PortId) (conn : ConnId) (actions : List StreamAction) :
    (actions.filterMap (listenerOf port)).count (.connect conn) = requests port conn actions := by
  induction actions with
  | nil => rfl
  | cons action actions ih =>
      rw [requests, List.count_cons, List.filterMap_cons, ← requests, ← ih]
      cases action with
      | listener port' a =>
          by_cases hport : port' = port
          · simp [listenerOf, hport, List.count_cons]
          · simp [listenerOf, hport]
      | _ => simp [listenerOf]

theorem mem_listenerOf {port : PortId} {a : ListenerAction} {actions : List StreamAction} :
    a ∈ actions.filterMap (listenerOf port) ↔ .listener port a ∈ actions := by
  simp only [List.mem_filterMap]
  constructor
  · rintro ⟨action, hmem, haction⟩
    cases action with
    | listener port' a' =>
        simp only [listenerOf, Option.ite_none_right_eq_some, Option.some.injEq] at haction
        obtain ⟨rfl, rfl⟩ := haction
        exact hmem
    | _ => cases haction
  · intro hmem
    exact ⟨_, hmem, by simp [listenerOf]⟩

namespace Ports

/-- The connect tasks of a connection. -/
def attempts (port : PortId) (conn : ConnId) (connects : List Connecter.Connect) : Nat :=
  connects.countP fun c => decide (c.id = .forward port conn)

/-- Those that have ended. -/
def attempted (port : PortId) (conn : ConnId) (connects : List Connecter.Connect) : Nat :=
  connects.countP fun c => decide (c.id = .forward port conn) && c.ended

/-- What has been delivered to a connecter is spawned or in its inbox. -/
def Hearing (d : Ports) (port : PortId) (a : Connecter.Task) : Prop :=
  ∃ taken, d.delivered.filterMap (listenerOf port) = taken ++ a.rx ∧
    ∀ conn, attempts port conn d.connects = taken.count (.connect conn)

/-- The end of the ports that connects. -/
structure Responding (ports : List PortId) (addr : PortId → SocketAddrs SocketAddr) (d : Ports) :
    Prop where
  listeners : ∀ port, d.listeners.get port = none
  listenerTxMap : d.listenerTxMap = []
  present : ∀ port, (d.connecters.get port).isSome = true ↔ port ∈ ports
  addrs : ∀ port a, d.connecters.get port = some a → a.addr = addr port
  connects : ∀ c ∈ d.connects, ∃ port conn, c.id = .forward port conn ∧ c.addr = addr port ∧
    port ∈ ports
  delivered : ∀ port action, .listener port action ∈ d.delivered → port ∈ ports
  hearing : ∀ port a, d.connecters.get port = some a → Hearing d port a
  answered : ∀ port conn, responses port conn d.log = attempted port conn d.connects
  not_panicked : ∀ c ∈ d.connects, c.pc ≠ .panicked
  not_listener : ∀ port action, .listener port action ∉ d.log
  numbered : ∀ id action, .connecter id action ∈ d.log →
    ∃ port conn, id = .forward port conn ∧ port ∈ ports
  used : ∀ port conn, d.uses (.forward port conn) → accepted (.forward port conn) ∈ d.log
  -- a forwarded stream is not used before it is accepted
  announced : Each (fun before action => ∀ id, id.isForward = true → streamOf action = some id →
    accepted id ∈ before) d.log

/-- What the router of an end that connects knows until it is shut down. -/
structure RespondingOpen (ports : List PortId) (sourceIds sinkIds : List StreamId) (d : Ports) :
    Prop where
  connecterTxMap : d.connecterTxMap = ports
  sources : sourceIds ⊆ d.sourceTxMap
  sinks : sinkIds ⊆ d.sinkTxMap
  registered : ∀ port conn, accepted (.forward port conn) ∈ d.log →
    .forward port conn ∈ d.sinkTxMap ∧ .forward port conn ∈ d.sourceTxMap
  closed : ∀ port a, d.connecters.get port = some a → a.pc = .done →
    .listener port .listenerClosed ∈ d.delivered

/-- What becomes of an end that connects: no assertion of its router fires. -/
inductive Answers (d : Ports) : Ports → Prop
  | quiet : d.Answers d
  | stream {action : StreamAction} (known : d.knows action = true) : d.Answers (d.logged action)
  | hand {action : StreamAction} (stream : isStream action = true) : d.Answers (d.handed action)
  | spawn {port : PortId} {a : Connecter.Task} {conn : ConnId} {rx : List ListenerAction}
      (get : d.connecters.get port = some a) (inbox : a.rx = .connect conn :: rx) :
      d.Answers { d.setConnecter port { a with rx } with
        connects := d.connects ++ [.new (.forward port conn) a.addr] }
  | closed {port : PortId} {a : Connecter.Task} {rx : List ListenerAction}
      (get : d.connecters.get port = some a) (inbox : a.rx = .listenerClosed :: rx) :
      d.Answers (d.setConnecter port { a with pc := .done, rx })
  | deserted {port : PortId} {a : Connecter.Task} (get : d.connecters.get port = some a)
      (not_mem : port ∉ d.connecterTxMap) :
      d.Answers (d.setConnecter port { a with pc := .done })
  | tried {i : Nat} {a : Connecter.Connect} (get : d.connects[i]? = some a)
      (res : Except SerialError SocketAddr) (pc : a.pc = .connecting)
      (reaches : a.reaches res = true) : d.Answers (d.setConnect i (a.connected res))
  | refuse {i : Nat} {a : Connecter.Connect} {error : SerialError}
      (get : d.connects[i]? = some a) (pc : a.pc = .sendResponse (.err error)) :
      d.Answers ((d.logged (.connecter a.id (.connectResponse (.err error)))).setConnect i
        { a with pc := .done })
  | accept {i : Nat} {a : Connecter.Connect} (get : d.connects[i]? = some a)
      (pc : a.pc = .sendResponse .ok) (registrable : d.registrable a.id = true) :
      d.Answers ((((d.logged (accepted a.id)).registerSource a.id).registerSink a.id).setConnect i
        { a with pc := .done })
  | toConnecter {port : PortId} {action : ListenerAction} {a : Connecter.Task}
      (get : d.connecters.get port = some a) (alive : a.pc ≠ .done) :
      d.Answers ((d.handed (.listener port action)).setConnecter port
        { a with rx := a.rx ++ [action] })

theorem Answers.grown {d e : Ports} (hmove : d.Answers e) :
    d.sourceTxMap <+: e.sourceTxMap ∧ d.sinkTxMap <+: e.sinkTxMap := by
  cases hmove with
  | accept => exact ⟨List.prefix_append _ _, List.prefix_append _ _⟩
  | _ => exact ⟨List.prefix_rfl, List.prefix_rfl⟩

theorem attempted_lt {port : PortId} {conn : ConnId} {connects : List Connecter.Connect} {i : Nat}
    {a : Connecter.Connect} (get : connects[i]? = some a) (hid : a.id = .forward port conn)
    (hlive : a.ended = false) :
    attempted port conn connects < attempts port conn connects := by
  induction connects generalizing i with
  | nil => cases get
  | cons c connects ih =>
      have hle : attempted port conn connects ≤ attempts port conn connects := by
        apply List.countP_mono_left
        intro c _ hc
        exact (Bool.and_eq_true _ _ ▸ hc).1
      rcases i with _ | i
      · obtain rfl : c = a := by simpa using get
        simp only [attempted, attempts, List.countP_cons] at hle ⊢
        simp [hid, hlive]
        omega
      · have hlt := ih (i := i) (by simpa using get)
        simp only [attempted, attempts, List.countP_cons] at hlt ⊢
        by_cases hc : c.id = .forward port conn <;> cases c.ended <;> simp [hc] <;> omega

theorem attempts_le {ports : List PortId} {addr : PortId → SocketAddrs SocketAddr} {d : Ports}
    (h : Responding ports addr d) (port : PortId) (conn : ConnId) :
    attempts port conn d.connects ≤ requests port conn d.delivered := by
  by_cases hport : port ∈ ports
  · obtain ⟨a, ha⟩ := Option.isSome_iff_exists.mp ((h.present port).mpr hport)
    obtain ⟨taken, hdelivered, hattempts⟩ := h.hearing port a ha
    rw [← count_listenerOf, hdelivered, hattempts conn, List.count_append]
    exact Nat.le_add_right _ _
  · have hzero : attempts port conn d.connects = 0 := by
      apply List.countP_eq_zero.mpr
      intro c hc heq
      obtain ⟨port', conn', hid, -, hmem⟩ := h.connects c hc
      rw [hid] at heq
      obtain ⟨rfl, -⟩ := StreamId.forward.inj (of_decide_eq_true heq)
      exact hport hmem
    rw [hzero]
    exact Nat.zero_le _

theorem responses_pos {port : PortId} {conn : ConnId} {actions : List StreamAction}
    (h : accepted (.forward port conn) ∈ actions) : 0 < responses port conn actions :=
  List.countP_pos_iff.mpr ⟨_, h, by simp [accepted, isResponse]⟩

theorem Responding.not_uses {ports : List PortId} {addr : PortId → SocketAddrs SocketAddr}
    {d : Ports} (h : Responding ports addr d)
    (hunique : ∀ port conn, requests port conn d.delivered ≤ 1) {i : Nat} {a : Connecter.Connect}
    (get : d.connects[i]? = some a) (hlive : a.ended = false) : ¬ d.uses a.id := by
  obtain ⟨port, conn, hid, -, -⟩ := h.connects a (List.mem_of_getElem? get)
  rw [hid]
  intro huses
  have hpos := responses_pos (h.used port conn huses)
  have hlt := attempted_lt get hid hlive
  have hle := attempts_le h port conn
  have hone := hunique port conn
  have := h.answered port conn
  omega

theorem Responding.answers {ports : List PortId} {addr : PortId → SocketAddrs SocketAddr}
    {d e : Ports} (h : Responding ports addr d)
    (hunique : ∀ port conn, requests port conn d.delivered ≤ 1) (hmove : d.Move e) :
    d.Answers e := by
  have hlistener {port : PortId} {a : Listener.Task} (get : d.listeners.get port = some a) :
      False := by
    rw [h.listeners port] at get
    cases get
  cases hmove with
  | quiet => exact .quiet
  | stream known => exact .stream known
  | hand stream => exact .hand stream
  | spawn get inbox => exact .spawn get inbox
  | closed get inbox => exact .closed get inbox
  | deserted get not_mem => exact .deserted get not_mem
  | tried get res pc reaches => exact .tried get res pc reaches
  | refuse get pc => exact .refuse get pc
  | @accept i a get pc =>
      have hreg := registrable_of_not_uses
        (h.not_uses hunique get (by rw [Connecter.Connect.ended, pc]))
      rw [if_pos hreg, register_of_registrable
        (d := d.logged (.connecter a.id (.connectResponse .ok))) hreg]
      exact .accept get pc hreg
  | toConnecter get alive => exact .toConnecter get alive
  | accepted get | inUse get | acceptFailed get | taskEnd get | request get | close get
    | refused get | connected get | removed get | toListener get => exact (hlistener get).elim

theorem countP_set {connects : List Connecter.Connect} {i : Nat} {a b : Connecter.Connect}
    (p : Connecter.Connect → Bool) (get : connects[i]? = some a) :
    (connects.set i b).countP p + (if p a then 1 else 0) =
      connects.countP p + if p b then 1 else 0 := by
  induction connects generalizing i with
  | nil => cases get
  | cons c connects ih =>
      rcases i with _ | i
      · obtain rfl : c = a := by simpa using get
        simp only [List.set_cons_zero, List.countP_cons]
        omega
      · have hset := ih (i := i) (by simpa using get)
        simp only [List.set_cons_succ, List.countP_cons]
        omega

theorem attempts_set {connects : List Connecter.Connect} {i : Nat} {a b : Connecter.Connect}
    (get : connects[i]? = some a) (hid : b.id = a.id) (port : PortId) (conn : ConnId) :
    attempts port conn (connects.set i b) = attempts port conn connects := by
  have hset := countP_set (b := b) (fun c => decide (c.id = .forward port conn)) get
  rw [hid] at hset
  exact Nat.add_right_cancel hset

theorem attempted_set {connects : List Connecter.Connect} {i : Nat} {a b : Connecter.Connect}
    (get : connects[i]? = some a) (hid : b.id = a.id) (hlive : a.ended = false) (port : PortId)
    (conn : ConnId) : attempted port conn (connects.set i b) = attempted port conn connects +
      if a.id = .forward port conn ∧ b.ended = true then 1 else 0 := by
  have hset := countP_set (b := b) (fun c => decide (c.id = .forward port conn) && c.ended) get
  rw [hid, hlive] at hset
  unfold attempted
  simpa using hset

theorem mem_set {connects : List Connecter.Connect} {i : Nat} {b c : Connecter.Connect}
    (h : c ∈ connects.set i b) : c ∈ connects ∨ c = b :=
  List.mem_or_eq_of_mem_set h

section

variable {ports : List PortId} {addr : PortId → SocketAddrs SocketAddr} {d e : Ports}

theorem Responding.present_set (h : Responding ports addr d) {port : PortId}
    {a b : Connecter.Task} (get : d.connecters.get port = some a)
    (hset : e.connecters = d.connecters.set port b) (port' : PortId) :
    (e.connecters.get port').isSome = true ↔ port' ∈ ports := by
  rw [← h.present port', hset, Table.get_set]
  split
  · rename_i heq
    rw [heq, get]
    exact Iff.rfl
  · exact Iff.rfl

theorem Responding.addrs_set (h : Responding ports addr d) {port : PortId} {a b : Connecter.Task}
    (get : d.connecters.get port = some a) (hset : e.connecters = d.connecters.set port b)
    (haddr : b.addr = a.addr) (port' : PortId) (c : Connecter.Task)
    (hc : e.connecters.get port' = some c) : c.addr = addr port' := by
  rw [hset, Table.get_set] at hc
  split at hc
  · rename_i heq
    obtain rfl := Option.some.inj hc
    rw [haddr, h.addrs port a get, heq]
  · exact h.addrs port' c hc

theorem Responding.hearing_set (h : Responding ports addr d) {port : PortId}
    {b : Connecter.Task} (hset : e.connecters = d.connecters.set port b) (hown : Hearing e port b)
    (hother : ∀ port' a, port' ≠ port → Hearing d port' a → Hearing e port' a) :
    ∀ port' a, e.connecters.get port' = some a → Hearing e port' a := by
  intro port' a hget
  rw [hset, Table.get_set] at hget
  split at hget
  · rename_i heq
    obtain rfl := Option.some.inj hget
    rw [heq]
    exact hown
  · rename_i hne
    exact hother port' a hne (h.hearing port' a hget)

theorem Hearing.same {port : PortId} {a : Connecter.Task} (h : Hearing d port a)
    (hdelivered : e.delivered.filterMap (listenerOf port) = d.delivered.filterMap (listenerOf port))
    (hattempts : ∀ conn, attempts port conn e.connects = attempts port conn d.connects) :
    Hearing e port a := by
  obtain ⟨taken, htaken, hcount⟩ := h
  exact ⟨taken, hdelivered.trans htaken, fun conn => (hattempts conn).trans (hcount conn)⟩

theorem Responding.hearing_step (h : Responding ports addr d) (hmove : d.Answers e) :
    ∀ port a, e.connecters.get port = some a → Hearing e port a := by
  cases hmove with
  | quiet | stream => exact h.hearing
  | @hand action stream =>
      refine fun port a get => (h.hearing port a get).same ?_ fun _ => rfl
      rw [Ports.handed, List.filterMap_append]
      cases action with
      | source id a | sink id a => exact List.append_nil _
      | listener port' a | connecter id a => cases stream
  | @spawn port a conn rx get inbox =>
      refine h.hearing_set rfl ?_ fun port' b hne hb => hb.same rfl fun conn' => ?_
      · obtain ⟨taken, htaken, hcount⟩ := h.hearing port a get
        refine ⟨taken ++ [.connect conn], ?_, fun conn' => ?_⟩
        · rw [List.append_assoc]
          exact htaken.trans (by rw [inbox]; rfl)
        · rw [attempts, List.countP_append, ← attempts, hcount conn', List.count_append]
          simp [List.countP_cons, List.count_cons]
      · rw [attempts, List.countP_append, ← attempts]
        simp [hne.symm]
  | @closed port a rx get inbox =>
      refine h.hearing_set rfl ?_ fun port' b hne hb => hb.same rfl fun _ => rfl
      obtain ⟨taken, htaken, hcount⟩ := h.hearing port a get
      refine ⟨taken ++ [.listenerClosed], ?_, fun conn => ?_⟩
      · rw [List.append_assoc]
        exact htaken.trans (by rw [inbox]; rfl)
      · rw [List.count_append]
        exact hcount conn
  | @deserted port a get not_mem =>
      refine h.hearing_set rfl ?_ fun port' b hne hb => hb.same rfl fun _ => rfl
      exact h.hearing port a get
  | tried get | refuse get | accept get =>
      exact fun port a hget => (h.hearing port a hget).same rfl
        fun conn => attempts_set get (by rfl) port conn
  | @toConnecter port action a get alive =>
      refine h.hearing_set rfl ?_ fun port' b hne hb => hb.same ?_ fun _ => rfl
      · obtain ⟨taken, htaken, hcount⟩ := h.hearing port a get
        refine ⟨taken, ?_, hcount⟩
        show (d.delivered ++ [StreamAction.listener port action]).filterMap (listenerOf port) = _
        rw [List.filterMap_append, htaken]
        simp [listenerOf]
      · show (d.delivered ++ [StreamAction.listener port action]).filterMap (listenerOf port') = _
        rw [List.filterMap_append]
        simp [listenerOf, hne.symm]

theorem Responding.connects_step (h : Responding ports addr d) (hmove : d.Answers e) :
    (∀ c ∈ e.connects, ∃ port conn, c.id = .forward port conn ∧ c.addr = addr port ∧
      port ∈ ports) ∧ ∀ c ∈ e.connects, c.pc ≠ .panicked := by
  have hset {i : Nat} {a b : Connecter.Connect} (get : d.connects[i]? = some a)
      (hid : b.id = a.id) (haddr : b.addr = a.addr) (hpc : b.pc ≠ .panicked) :
      (∀ c ∈ d.connects.set i b, ∃ port conn, c.id = .forward port conn ∧ c.addr = addr port ∧
        port ∈ ports) ∧ ∀ c ∈ d.connects.set i b, c.pc ≠ .panicked := by
    refine ⟨fun c hc => ?_, fun c hc => ?_⟩
    · rcases mem_set hc with hc | rfl
      · exact h.connects c hc
      · rw [hid, haddr]
        exact h.connects a (List.mem_of_getElem? get)
    · rcases mem_set hc with hc | rfl
      · exact h.not_panicked c hc
      · exact hpc
  cases hmove with
  | quiet | stream | hand | closed | deserted | toConnecter => exact ⟨h.connects, h.not_panicked⟩
  | @spawn port a conn rx get inbox =>
      refine ⟨fun c hc => ?_, fun c hc => ?_⟩
      · rcases List.mem_append.mp hc with hc | hc
        · exact h.connects c hc
        · obtain rfl := List.mem_singleton.mp hc
          exact ⟨port, conn, rfl, h.addrs port a get, (h.present port).mp (by rw [get]; rfl)⟩
      · rcases List.mem_append.mp hc with hc | hc
        · exact h.not_panicked c hc
        · obtain rfl := List.mem_singleton.mp hc
          exact fun hpc => by cases hpc
  | tried get | refuse get | accept get => exact hset get rfl rfl fun hpc => by cases hpc

/-- What the connect tasks are connected to: an address of their port, as far as they have
announced a connection. -/
structure Peered (d : Ports) : Prop where
  reached : ∀ c ∈ d.connects, ∀ peer, c.peer = some peer → peer ∈ c.addr.addrs
  connected : ∀ c ∈ d.connects, c.pc = .sendResponse .ok → c.peer.isSome = true
  announced : ∀ id, accepted id ∈ d.log → ∃ c ∈ d.connects, c.id = id ∧ c.pc = .done ∧
    c.peer.isSome = true

theorem mem_set_of_ne {connects : List Connecter.Connect} {i : Nat} {a b c : Connecter.Connect}
    (get : connects[i]? = some a) (hne : c ≠ a) (h : c ∈ connects) : c ∈ connects.set i b := by
  obtain ⟨j, hj⟩ := List.mem_iff_getElem?.mp h
  have hij : i ≠ j := by
    rintro rfl
    exact hne (Option.some.inj (hj.symm.trans get))
  exact List.mem_iff_getElem?.mpr ⟨j, by rw [List.getElem?_set_ne hij, hj]⟩

theorem Peered.set {i : Nat} {a b : Connecter.Connect} (h : Peered d)
    (get : d.connects[i]? = some a) (hconnects : e.connects = d.connects.set i b)
    (hlive : a.pc ≠ .done) (hreached : ∀ peer, b.peer = some peer → peer ∈ b.addr.addrs)
    (hconnected : b.pc = .sendResponse .ok → b.peer.isSome = true)
    (hlog : ∀ id, accepted id ∈ e.log → accepted id ∈ d.log ∨
      b.id = id ∧ b.pc = .done ∧ b.peer.isSome = true) : Peered e := by
  constructor
  · intro c hc
    rw [hconnects] at hc
    rcases mem_set hc with hc | rfl
    · exact h.reached c hc
    · exact hreached
  · intro c hc
    rw [hconnects] at hc
    rcases mem_set hc with hc | rfl
    · exact h.connected c hc
    · exact hconnected
  · intro id hacc
    rw [hconnects]
    rcases hlog id hacc with hacc | hown
    · obtain ⟨c, hc, hid, hdone, hpeer⟩ := h.announced id hacc
      refine ⟨c, mem_set_of_ne get ?_ hc, hid, hdone, hpeer⟩
      rintro rfl
      exact hlive hdone
    · exact ⟨b, List.mem_set (List.getElem?_eq_some_iff.mp get).1 b, hown⟩

theorem Peered.step (h : Peered d) (hmove : d.Answers e) : Peered e := by
  cases hmove with
  | quiet | hand | closed | deserted | toConnecter => exact ⟨h.reached, h.connected, h.announced⟩
  | @stream action known =>
      refine ⟨h.reached, h.connected, fun id hacc => h.announced id ?_⟩
      refine (List.mem_append.mp hacc).resolve_right fun hmem => ?_
      rw [← List.mem_singleton.mp hmem] at known
      cases known
  | @spawn port a conn rx get inbox =>
      have hcases {c : Connecter.Connect}
          (hc : c ∈ d.connects ++ [.new (.forward port conn) a.addr]) :
          c ∈ d.connects ∨ c = .new (.forward port conn) a.addr :=
        (List.mem_append.mp hc).imp_right List.mem_singleton.mp
      refine ⟨fun c hc => ?_, fun c hc => ?_, fun id hacc => ?_⟩
      · rcases hcases hc with hc | rfl
        · exact h.reached c hc
        · exact fun peer hpeer => by cases hpeer
      · rcases hcases hc with hc | rfl
        · exact h.connected c hc
        · exact fun hpc => by cases hpc
      · obtain ⟨c, hc, hfacts⟩ := h.announced id hacc
        exact ⟨c, List.mem_append_left _ hc, hfacts⟩
  | @tried i a get res pc reaches =>
      refine h.set get rfl (by rw [pc]; exact fun hpc => by cases hpc) ?_ ?_ fun _ => Or.inl
      · intro peer hpeer
        cases res with
        | error error => cases hpeer
        | ok peer' =>
            obtain rfl := Option.some.inj hpeer
            exact of_decide_eq_true reaches
      · intro hpc
        cases res with
        | error error => cases hpc
        | ok peer => rfl
  | @refuse i a error get pc =>
      refine h.set get rfl (by rw [pc]; exact fun hpc => by cases hpc)
        (h.reached a (List.mem_of_getElem? get)) (fun hpc => by cases hpc) fun id hacc => ?_
      refine Or.inl ((List.mem_append.mp hacc).resolve_right fun hmem => ?_)
      cases (StreamAction.connecter.inj (List.mem_singleton.mp hmem)).2
  | @accept i a get pc registrable =>
      have hmem := List.mem_of_getElem? get
      refine h.set get rfl (by rw [pc]; exact fun hpc => by cases hpc) (h.reached a hmem)
        (fun hpc => by cases hpc) fun id hacc => ?_
      rcases List.mem_append.mp hacc with hacc | hacc
      · exact Or.inl hacc
      · have hid : id = a.id := (StreamAction.connecter.inj (List.mem_singleton.mp hacc)).1
        exact Or.inr ⟨hid.symm, rfl, h.connected a hmem pc⟩

theorem Peered.drained (h : Peered d) : Peered d.drained :=
  ⟨h.reached, h.connected, h.announced⟩

theorem Responding.answered_step (h : Responding ports addr d) (hmove : d.Answers e)
    (port : PortId) (conn : ConnId) :
    responses port conn e.log = attempted port conn e.connects := by
  have hanswered := h.answered port conn
  cases hmove with
  | quiet | hand | closed | deserted | toConnecter => exact hanswered
  | @stream action known =>
      rw [Ports.logged, responses_snoc, hanswered, if_neg]
      · rfl
      · cases action <;> first | cases known | simp [isResponse]
  | @spawn port' a conn' rx get inbox =>
      show responses port conn d.log = _
      rw [attempted, List.countP_append, ← attempted, hanswered]
      simp [Connecter.Connect.new, Connecter.Connect.ended]
  | @tried i a get res pc reaches =>
      show responses port conn d.log = attempted port conn (d.connects.set i _)
      rw [attempted_set get (by rfl) (by rw [Connecter.Connect.ended, pc]), hanswered]
      simp [Connecter.Connect.connected, Connecter.Connect.ended]
  | @refuse i a error get pc =>
      show responses port conn (d.log ++ [_]) = attempted port conn (d.connects.set i _)
      rw [responses_snoc, hanswered,
        attempted_set get (by rfl) (by rw [Connecter.Connect.ended, pc])]
      simp [isResponse, Connecter.Connect.ended]
  | @accept i a get pc registrable =>
      show responses port conn (d.log ++ [_]) = attempted port conn (d.connects.set i _)
      rw [responses_snoc, hanswered,
        attempted_set get (by rfl) (by rw [Connecter.Connect.ended, pc])]
      simp [accepted, isResponse, Connecter.Connect.ended]

theorem Responding.log_step (h : Responding ports addr d) (hmove : d.Answers e) :
    (∀ port action, .listener port action ∉ e.log) ∧
      (∀ id action, .connecter id action ∈ e.log →
        ∃ port conn, id = .forward port conn ∧ port ∈ ports) ∧
      (∀ port conn, e.uses (.forward port conn) → accepted (.forward port conn) ∈ e.log) ∧
      Each (fun before action => ∀ id, id.isForward = true → streamOf action = some id →
        accepted id ∈ before) e.log := by
  have hown {i : Nat} {a : Connecter.Connect} {action : ConnecterAction}
      (get : d.connects[i]? = some a) (id : StreamId) (action' : ConnecterAction)
      (heq : StreamAction.connecter a.id action = .connecter id action') :
      ∃ port conn, id = .forward port conn ∧ port ∈ ports := by
    obtain ⟨port, conn, hid, -, hmem⟩ := h.connects a (List.mem_of_getElem? get)
    exact ⟨port, conn, (StreamAction.connecter.inj heq).1.symm.trans hid, hmem⟩
  have hlogged {action : StreamAction} (hlistener : ∀ port a, action ≠ .listener port a)
      (hconnecter : ∀ id a, action = .connecter id a →
        ∃ port conn, id = .forward port conn ∧ port ∈ ports)
      (hused : ∀ port conn, e.uses (.forward port conn) →
        d.uses (.forward port conn) ∨ accepted (.forward port conn) = action)
      (hannounced : ∀ id, id.isForward = true → streamOf action = some id → accepted id ∈ d.log)
      (hlog : e.log = d.log ++ [action]) :
      (∀ port action, .listener port action ∉ e.log) ∧
        (∀ id action, .connecter id action ∈ e.log →
          ∃ port conn, id = .forward port conn ∧ port ∈ ports) ∧
        (∀ port conn, e.uses (.forward port conn) → accepted (.forward port conn) ∈ e.log) ∧
        Each (fun before action => ∀ id, id.isForward = true → streamOf action = some id →
          accepted id ∈ before) e.log := by
    rw [hlog]
    refine ⟨fun port a hmem => ?_, fun id a hmem => ?_, fun port conn huses => ?_,
      each_snoc.mpr ⟨h.announced, hannounced⟩⟩
    · rcases List.mem_append.mp hmem with hmem | hmem
      · exact h.not_listener port a hmem
      · exact hlistener port a (List.mem_singleton.mp hmem).symm
    · rcases List.mem_append.mp hmem with hmem | hmem
      · exact h.numbered id a hmem
      · exact hconnecter id a (List.mem_singleton.mp hmem).symm
    · rcases hused port conn huses with huses | heq
      · exact List.mem_append_left _ (h.used port conn huses)
      · exact List.mem_append_right _ (List.mem_singleton.mpr heq)
  cases hmove with
  | quiet | hand | spawn | closed | deserted | tried | toConnecter =>
      exact ⟨h.not_listener, h.numbered, h.used, h.announced⟩
  | @stream action known =>
      refine hlogged ?_ ?_ (fun _ _ => Or.inl) (fun id hid hstream => ?_) rfl
      · rintro port a rfl
        cases known
      · rintro id a rfl
        cases known
      · obtain ⟨port, conn, rfl⟩ : ∃ port conn, id = .forward port conn := by
          cases id <;> simp_all [StreamId.isForward]
        apply h.used port conn
        cases action with
        | source id' a =>
            obtain rfl := Option.some.inj hstream
            exact Or.inr (Or.inr (Or.inl known))
        | sink id' a =>
            obtain rfl := Option.some.inj hstream
            exact Or.inr (Or.inr (Or.inr known))
        | listener port' a | connecter id' a => cases known
  | @refuse i a error get pc =>
      refine hlogged (fun _ _ heq => ?_) (hown get) (fun _ _ => Or.inl) (fun _ _ heq => ?_) rfl
      · cases heq
      · cases heq
  | @accept i a get pc registrable =>
      refine hlogged (fun _ _ heq => by cases heq) (hown get) (fun port conn huses => ?_)
        (fun _ _ heq => by cases heq) rfl
      by_cases hid : StreamId.forward port conn = a.id
      · exact Or.inr (congrArg accepted hid)
      · exact Or.inl (by simpa [uses, setConnect, Ports.registerSink, Ports.registerSource,
          Ports.logged, hid] using huses)

theorem Responding.step (h : Responding ports addr d)
    (hunique : ∀ port conn, requests port conn d.delivered ≤ 1) (hmove : d.Move e) :
    Responding ports addr e := by
  have hanswers := h.answers hunique hmove
  obtain ⟨hlistener, hnumbered, hused, hannounced⟩ := h.log_step hanswers
  have hconnects := h.connects_step hanswers
  have hstatic : (∀ port, e.listeners.get port = none) ∧ e.listenerTxMap = [] ∧
      (∀ port, (e.connecters.get port).isSome = true ↔ port ∈ ports) ∧
      (∀ port a, e.connecters.get port = some a → a.addr = addr port) ∧
      ∀ port action, .listener port action ∈ e.delivered → port ∈ ports := by
    cases hanswers with
    | quiet | stream | tried | refuse | accept =>
        exact ⟨h.listeners, h.listenerTxMap, h.present, h.addrs, h.delivered⟩
    | @hand action stream =>
        refine ⟨h.listeners, h.listenerTxMap, h.present, h.addrs, fun port a hmem => ?_⟩
        refine h.delivered port a ((List.mem_append.mp hmem).resolve_right fun hmem => ?_)
        rw [← List.mem_singleton.mp hmem] at stream
        cases stream
    | spawn get | closed get | deserted get =>
        exact ⟨h.listeners, h.listenerTxMap, h.present_set get rfl, h.addrs_set get rfl rfl,
          h.delivered⟩
    | @toConnecter port action a get alive =>
        refine ⟨h.listeners, h.listenerTxMap, h.present_set get rfl, h.addrs_set get rfl rfl,
          fun port' a' hmem => ?_⟩
        rcases List.mem_append.mp hmem with hmem | hmem
        · exact h.delivered port' a' hmem
        · obtain ⟨rfl, -⟩ := StreamAction.listener.inj (List.mem_singleton.mp hmem)
          exact (h.present port').mp (by rw [get]; rfl)
  obtain ⟨hlisteners, hempty, hpresent, haddrs, hdelivered⟩ := hstatic
  exact ⟨hlisteners, hempty, hpresent, haddrs, hconnects.1, hdelivered,
    h.hearing_step hanswers, h.answered_step hanswers, hconnects.2, hlistener, hnumbered,
    hused, hannounced⟩

theorem Responding.drained (h : Responding ports addr d) : Responding ports addr d.drained :=
  ⟨h.listeners, h.listenerTxMap, h.present, h.addrs, h.connects, h.delivered, h.hearing,
    h.answered, h.not_panicked, h.not_listener, h.numbered,
    fun port conn huses => h.used port conn (uses_of_drained huses), h.announced⟩

theorem RespondingOpen.registered_step {sourceIds sinkIds : List StreamId}
    (hopen : RespondingOpen ports sourceIds sinkIds d) (hmove : d.Answers e) (port : PortId)
    (conn : ConnId) (hacc : accepted (.forward port conn) ∈ e.log) :
    .forward port conn ∈ e.sinkTxMap ∧ .forward port conn ∈ e.sourceTxMap := by
  obtain ⟨hsources, hsinks⟩ := hmove.grown
  have hbefore (hacc : accepted (.forward port conn) ∈ d.log) :
      .forward port conn ∈ e.sinkTxMap ∧ .forward port conn ∈ e.sourceTxMap := by
    obtain ⟨hsink, hsource⟩ := hopen.registered port conn hacc
    exact ⟨hsinks.subset hsink, hsources.subset hsource⟩
  cases hmove with
  | @stream action known =>
      refine hbefore ((List.mem_append.mp hacc).resolve_right fun hmem => ?_)
      rw [← List.mem_singleton.mp hmem] at known
      cases known
  | refuse =>
      refine hbefore ((List.mem_append.mp hacc).resolve_right fun hmem => ?_)
      cases (StreamAction.connecter.inj (List.mem_singleton.mp hmem)).2
  | @accept i a get pc registrable =>
      rcases List.mem_append.mp hacc with hacc | hmem
      · exact hbefore hacc
      · have hid : StreamId.forward port conn = a.id :=
          (StreamAction.connecter.inj (List.mem_singleton.mp hmem)).1
        exact ⟨List.mem_append_right _ (List.mem_singleton.mpr hid),
          List.mem_append_right _ (List.mem_singleton.mpr hid)⟩
  | _ => exact hbefore hacc

theorem RespondingOpen.closed_set {sourceIds sinkIds : List StreamId}
    (hopen : RespondingOpen ports sourceIds sinkIds d) {port : PortId} {b : Connecter.Task}
    (hset : e.connecters = d.connecters.set port b) (hdelivered : d.delivered ⊆ e.delivered)
    (hown : b.pc = .done → .listener port .listenerClosed ∈ e.delivered) (port' : PortId)
    (c : Connecter.Task) (hc : e.connecters.get port' = some c) (hdone : c.pc = .done) :
    .listener port' .listenerClosed ∈ e.delivered := by
  rw [hset, Table.get_set] at hc
  split at hc
  · rename_i heq
    obtain rfl := Option.some.inj hc
    rw [heq]
    exact hown hdone
  · exact hdelivered (hopen.closed port' c hc hdone)

theorem RespondingOpen.step {sourceIds sinkIds : List StreamId}
    (hopen : RespondingOpen ports sourceIds sinkIds d) (h : Responding ports addr d)
    (hmove : d.Answers e) : RespondingOpen ports sourceIds sinkIds e := by
  obtain ⟨hsources, hsinks⟩ := hmove.grown
  refine ⟨by cases hmove <;> exact hopen.connecterTxMap,
    List.Subset.trans hopen.sources hsources.subset,
    List.Subset.trans hopen.sinks hsinks.subset, hopen.registered_step hmove, ?_⟩
  cases hmove with
  | quiet | stream | tried | refuse | accept => exact hopen.closed
  | hand =>
      exact fun port a get hdone => List.mem_append_left _ (hopen.closed port a get hdone)
  | @spawn port a conn rx get inbox =>
      exact hopen.closed_set rfl (fun _ => id) fun hdone => hopen.closed port a get hdone
  | @closed port a rx get inbox =>
      refine hopen.closed_set rfl (fun _ => id) fun _ => ?_
      obtain ⟨taken, htaken, -⟩ := h.hearing port a get
      apply mem_listenerOf.mp
      show .listenerClosed ∈ d.delivered.filterMap (listenerOf port)
      rw [htaken, inbox]
      exact List.mem_append_right _ (List.mem_cons_self ..)
  | @deserted port a get not_mem =>
      rw [hopen.connecterTxMap, ← h.present port, get] at not_mem
      exact absurd rfl not_mem
  | @toConnecter port action a get alive =>
      exact hopen.closed_set rfl (List.subset_append_left _ _) fun hdone => absurd hdone alive

end

end Ports

end Rlirsh.Stream
