import Rlirsh.Session.Progress
import Rlirsh.Stream.Potential

namespace Rlirsh.Execute.Client

open Rlirsh.Stream

def WindowPc.potential : WindowPc → Nat
  | .select => 1
  | .send _ => 5
  | .done | .failed => 0

def MainPc.potential : MainPc → Nat
  | .awaitStatus => 3
  | .joinHandlers _ => 2
  | .joinTasks _ => 1
  | .ok _ | .err => 0

def State.potential (c : State) : Nat :=
  c.side.potential + c.window.elim 0 WindowPc.potential + c.main.potential

/-- What comes from outside: packets of the standard input, connections to the forwarded
ports, and changes of the window. -/
def Event.credit : Event → Nat
  | .side e => Side.credit e
  | .windowSignal none => 1
  | .windowSignal (some _) => 5
  | _ => 0

end Rlirsh.Execute.Client

namespace Rlirsh.Execute.Server

open Rlirsh.Stream

def MainPc.potential : MainPc → Nat
  | .select => 12
  | .sendSinkClosed _ => 11
  | .sendExit _ => 5
  | .kill => 2
  | .join => 1
  | .ok | .err => 0

def State.potential (v : State) : Nat := v.side.potential + v.main.potential

/-- What comes from outside: packets of the child's output and of the connections. -/
def Event.credit : Event → Nat
  | .side e => Side.credit e
  | _ => 0

end Rlirsh.Execute.Server

namespace Rlirsh.Session

open Rlirsh.Protocol
open Rlirsh.Net
open Rlirsh.Terminal (PtyMaster)
open Rlirsh.Lib
open Rlirsh.Lib.Machine
open Rlirsh.Stream
open Rlirsh.Execute

/-- What the messages on a connection are worth. -/
def wireCosts {T : Type} [Message T] (ms : List T) : Nat := (ms.map wireCost).sum

@[simp] theorem wireCosts_append {T : Type} [Message T] (ms ns : List T) :
    wireCosts (ms ++ ns) = wireCosts ms + wireCosts ns := by
  simp [wireCosts]

/-- How many steps a session can take by itself. -/
def State.potential (s : State) : Nat :=
  s.client.potential + s.server.potential + wireCosts s.up + wireCosts s.down

def credit : Event → Nat
  | .client e => e.credit
  | .server e => e.credit

variable {capacity : Nat} {pty : Option PtyMaster} {s t : State}

theorem potential_take {T : Type} [Message T] {s : Side T} (hpc : s.receiver = .recv)
    (action : StreamAction) :
    (s.take action).potential + 1 ≤ s.potential + (actionCost action + 2) := by
  simp only [Side.take]
  split <;> simp only [Side.potential, Side.receiverCost, hpc] <;> omega

theorem potential_receiver {T : Type} [Message T] {s : Side T} (pc : ReceiverPc) :
    ({ s with receiver := pc } : Side T).potential + Side.receiverCost s.receiver =
      s.potential + Side.receiverCost pc := by
  simp only [Side.potential]
  omega

theorem outputCost_eq {T : Type} [Message T] (s : Side T) :
    s.outputCost (.sender .sent) = wireCosts s.sending.head?.toList := by
  simp only [Side.outputCost, Side.sending, wireCosts]
  cases s.sender <;> rfl

theorem client_paid_of {c d : Client.State} {e : Client.Event} (hout : c.output e = none)
    (h : d.potential + 1 ≤ c.potential + wireCosts e.input.toList + e.credit) :
    d.potential + wireCosts (c.output e).toList + 1 ≤
      c.potential + wireCosts e.input.toList + e.credit := by
  rw [hout]
  exact h

theorem client_paid {c d : Client.State} {e : Client.Event} (h : Client.Stepped c e d) :
    d.potential + wireCosts (c.output e).toList + 1 ≤
      c.potential + wireCosts e.input.toList + e.credit := by
  cases h with
  | @side e side step =>
      have hpaid := Side.paid step
      have hout : wireCosts (c.output (.side e)).toList = c.side.outputCost e := by
        unfold Client.State.output
        split
        · rename_i heq
          cases heq
          exact (outputCost_eq c.side).symm
        · rename_i hne
          unfold Side.outputCost
          split
          · exact absurd rfl hne
          · rfl
      rw [hout]
      simp only [Client.State.potential, Client.Event.credit]
      omega
  | @take action pc =>
      have htake := potential_take pc action
      apply client_paid_of rfl
      show _ ≤ c.potential + (actionCost action + 2) + 0
      simp only [Client.State.potential]
      omega
  | exit _ _ =>
      apply client_paid_of rfl
      exact Nat.le_refl (c.potential + 1)
  | exitTwice pc _ =>
      have hreceiver := potential_receiver (s := c.side) (.failed none)
      apply client_paid_of rfl
      show _ ≤ c.potential + 1 + 0
      simp only [Client.State.potential, pc, Side.receiverCost] at hreceiver ⊢
      omega
  | finished pc =>
      have hreceiver := potential_receiver (s := c.side) (.done true)
      apply client_paid_of rfl
      show _ ≤ c.potential + 1 + 0
      simp only [Client.State.potential, pc, Side.receiverCost] at hreceiver ⊢
      omega
  | leave pc =>
      have hreceiver := potential_receiver (s := c.side) (.done false)
      apply client_paid_of rfl
      show _ ≤ c.potential + 0 + 0
      simp only [Client.State.potential, pc, Side.receiverCost, List.length_nil] at hreceiver ⊢
      omega
  | @windowSent size pc _ _ =>
      have hqueued := Side.potential_enqueued (s := c.side) [.windowSizeChange size]
      have hcost : (([.windowSizeChange size] : List ClientAction).map queueCost).sum = 3 := rfl
      apply client_paid_of rfl
      show _ ≤ c.potential + 0 + 0
      simp only [Client.State.potential, pc, hqueued, hcost, Option.elim_some,
        Client.WindowPc.potential]
      omega
  | noSize pc =>
      apply client_paid_of rfl
      exact Nat.le_refl (c.potential + 1)
  | signal pc =>
      apply client_paid_of rfl
      show _ ≤ c.potential + 0 + 5
      simp only [Client.State.potential, pc, Option.elim_some, Client.WindowPc.potential]
      omega
  | windowSendFailed pc _ | windowEnd pc _ =>
      apply client_paid_of rfl
      show _ ≤ c.potential + 0 + 0
      simp only [Client.State.potential, pc, Option.elim_some, Client.WindowPc.potential]
      omega
  | status pc _ | noStatus pc _ | joined pc _ | notLeft pc _ | handlersFailed pc _
  | tasksJoined pc _ _ | tasksFailed pc _ =>
      apply client_paid_of rfl
      show _ ≤ c.potential + 0 + 0
      simp only [Client.State.potential, pc, Client.MainPc.potential]
      omega

theorem server_paid_of {v w : Server.State} {e : Server.Event} (hout : v.output e = none)
    (h : w.potential + 1 ≤ v.potential + wireCosts e.input.toList + e.credit) :
    w.potential + wireCosts (v.output e).toList + 1 ≤
      v.potential + wireCosts e.input.toList + e.credit := by
  rw [hout]
  exact h

theorem server_paid {v w : Server.State} {e : Server.Event} (h : Server.Stepped v e w) :
    w.potential + wireCosts (v.output e).toList + 1 ≤
      v.potential + wireCosts e.input.toList + e.credit := by
  cases h with
  | @side e side step =>
      have hpaid := Side.paid step
      have hout : wireCosts (v.output (.side e)).toList = v.side.outputCost e := by
        unfold Server.State.output
        split
        · rename_i heq
          cases heq
          exact (outputCost_eq v.side).symm
        · rename_i hne
          unfold Side.outputCost
          split
          · exact absurd rfl hne
          · rfl
      rw [hout]
      simp only [Server.State.potential, Server.Event.credit]
      omega
  | @take action pc =>
      have htake := potential_take pc action
      apply server_paid_of rfl
      show _ ≤ v.potential + (actionCost action + 2) + 0
      simp only [Server.State.potential]
      omega
  | windowSizeChange _ =>
      apply server_paid_of rfl
      exact Nat.le_refl (v.potential + 1)
  | finished pc =>
      have hreceiver := potential_receiver (s := v.side) (.done true)
      apply server_paid_of rfl
      show _ ≤ v.potential + 1 + 0
      simp only [Server.State.potential, pc, Side.receiverCost] at hreceiver ⊢
      omega
  | leave pc =>
      have hreceiver := potential_receiver (s := v.side) (.done false)
      apply server_paid_of rfl
      show _ ≤ v.potential + 0 + 0
      simp only [Server.State.potential, pc, Side.receiverCost, List.length_nil] at hreceiver ⊢
      omega
  | sinkClosedSent pc _ _ =>
      have hqueued := Side.potential_enqueued (s := v.side) [.stream (.sink .stdin .sinkClosed)]
      have hcost : (([.stream (.sink .stdin .sinkClosed)] : List ServerAction).map
        queueCost).sum = 5 := rfl
      apply server_paid_of rfl
      show _ ≤ v.potential + 0 + 0
      simp only [Server.State.potential, pc, hqueued, hcost, Server.MainPc.potential]
      omega
  | @exitSent status pc _ _ =>
      have hqueued := Side.potential_enqueued (s := v.side) [.exit status]
      have hcost : (([.exit status] : List ServerAction).map queueCost).sum = 3 := rfl
      apply server_paid_of rfl
      show _ ≤ v.potential + 0 + 0
      simp only [Server.State.potential, pc, hqueued, hcost, Server.MainPc.potential]
      omega
  | mainSendFailed pc _ =>
      apply server_paid_of rfl
      show _ ≤ v.potential + 0 + 0
      rcases pc with pc | pc <;>
        simp only [Server.State.potential, pc, Server.MainPc.potential] <;> omega
  | childExited pc | waitFailed pc | killReceived pc _ | killed pc | joined pc _ _ _
  | receiverFailed pc _ | handlerFailed pc _ =>
      apply server_paid_of rfl
      show _ ≤ v.potential + 0 + 0
      simp only [Server.State.potential, pc, Server.MainPc.potential]
      omega

/-- Every step of a session is paid for. -/
theorem paid : Paid (step capacity) State.potential credit := by
  intro s e t hstep
  cases e with
  | client e =>
      obtain ⟨hstepped, -, hup, hdown, hserver⟩ := client_spec hstep
      have hpaid := client_paid hstepped
      simp only [State.potential, credit, hup, hserver]
      rw [hdown]
      simp only [wireCosts_append]
      omega
  | server e =>
      obtain ⟨hstepped, hdown, hup, hclient⟩ := server_spec hstep
      have hpaid := server_paid hstepped
      simp only [State.potential, credit, hdown, hclient]
      rw [hup]
      simp only [wireCosts_append]
      omega

theorem client_potential_new (pty : Bool) (listeners : List TcpListener) :
    (Client.new pty listeners).potential ≤ 27 + 7 * listeners.length := by
  have hlisteners : (perPort Listener.Task.new listeners).sum Listener.Task.potential ≤
      listeners.length * 7 := sum_perPort_le listeners _ fun _ => Nat.le_refl 7
  have hsources : (Table.ofList [StreamId.stdin] fun _ => Source.Task.new).sum
      Source.Task.potential = 7 := by decide
  have hsinks : (Table.ofList [StreamId.stdout, StreamId.stderr] fun _ => Sink.Task.new .file).sum
      Sink.Task.potential = 4 := by decide
  have hwindow : (if pty then some Client.WindowPc.select else none).elim 0
      Client.WindowPc.potential ≤ 1 := by cases pty <;> decide
  simp only [Client.State.potential, Client.new, Side.potential, hsources, hsinks,
    Table.sum_empty, Side.senderCost, Side.receiverCost, Client.MainPc.potential,
    List.map_nil, List.sum_nil, List.length_cons, List.length_nil]
  omega

theorem server_potential_new (pty : Option PtyMaster)
    (connectAddrs : List (SocketAddrs SocketAddr)) :
    (Server.new pty connectAddrs).potential ≤ 40 + connectAddrs.length := by
  have hconnecters : (perPort Connecter.Task.new connectAddrs).sum Connecter.Task.potential ≤
      connectAddrs.length * 1 := sum_perPort_le connectAddrs _ fun _ => Nat.le_refl 1
  have hsources (b : Bool) : (Table.ofList [StreamId.stdout, StreamId.stderr] fun id =>
      if b = true ∧ id = .stderr then Server.closedSource else Source.Task.new).sum
        Source.Task.potential = if b then 7 else 14 := by cases b <;> decide
  have hsinks (b : Bool) : (Table.ofList [StreamId.stdin] fun _ =>
      Sink.Task.new (if b then .ptyMaster else .childStdin)).sum Sink.Task.potential = 2 := by
    cases b <;> decide
  have hmap (b : Bool) : (if b then [StreamId.stdout] else [.stdout, .stderr]).length =
      if b then 1 else 2 := by cases b <;> rfl
  have hqueue (b : Bool) : ((if b then [ServerAction.stream (.source .stderr .sourceClosed)]
      else []).map queueCost).sum = if b then 5 else 0 := by cases b <;> rfl
  simp only [Server.State.potential, Server.new, Side.potential, hsources, hsinks,
    Table.sum_empty, Side.senderCost, Side.receiverCost, Server.MainPc.potential,
    List.map_nil, List.sum_nil, List.length_cons, List.length_nil, hmap, hqueue]
  cases pty.isSome with
  | false =>
      simp only [Bool.false_eq_true, if_false]
      omega
  | true =>
      simp only [if_true]
      omega

/-- A read returns a packet. -/
def packet : Event → Bool
  | .client (.side e) | .server (.side e) => Side.packet e
  | _ => false

/-- A connection to a forwarded port is accepted. -/
def connection : Event → Bool
  | .client (.side e) | .server (.side e) => Side.accepts e
  | _ => false

/-- The window changes, or a connection cannot be accepted. -/
def notice : Event → Bool
  | .client (.windowSignal _) => true
  | .client (.side e) | .server (.side e) => Side.unaccepted e
  | _ => false

theorem credit_le (e : Event) :
    credit e ≤ 21 * (packet e).toNat + 40 * (connection e).toNat + 5 * (notice e).toNat := by
  cases e with
  | client e =>
      cases e with
      | side e => exact Side.credit_le e
      | windowSignal size => cases size <;> simp [credit, Client.Event.credit, notice]
      | _ => exact Nat.zero_le _
  | server e =>
      cases e with
      | side e => exact Side.credit_le e
      | _ => exact Nat.zero_le _

theorem sum_toNat (p : Event → Bool) (es : List Event) :
    (es.map fun e => (p e).toNat).sum = es.countP p := by
  induction es with
  | nil => rfl
  | cons e es ih =>
      rw [List.map_cons, List.sum_cons, ih, List.countP_cons]
      cases p e <;> simp [Nat.add_comm]

theorem potential_new (pty : Option PtyMaster) (ports : List Port) :
    (new pty ports).potential ≤ 67 + 8 * ports.length := by
  have hclient := client_potential_new pty.isSome (ports.map Port.listener)
  have hserver := server_potential_new pty (ports.map Port.connectAddrs)
  rw [List.length_map] at hclient hserver
  simp only [State.potential, new, wireCosts, List.map_nil, List.sum_nil]
  omega

/-- The number of steps of a session, whatever happens to its connection, is linear in what
comes in from outside. -/
theorem steps_le (capacity : Nat) (pty : Option PtyMaster) (ports : List Port)
    (es : List Event) (s : State) (hrun : run (step capacity) (new pty ports) es = some s) :
    es.length ≤ 67 + 8 * ports.length + 21 * es.countP packet + 40 * es.countP connection +
      5 * es.countP notice := by
  have hlength := paid.length_le hrun
  have hnew := potential_new pty ports
  have hcredits : (es.map credit).sum ≤ 21 * es.countP packet + 40 * es.countP connection +
      5 * es.countP notice := by
    rw [← sum_toNat packet, ← sum_toNat connection, ← sum_toNat notice]
    clear hrun hlength
    induction es with
    | nil => exact Nat.zero_le _
    | cons e es ih =>
        have he := credit_le e
        simp only [List.map_cons, List.sum_cons]
        omega
  omega

theorem steps_le_exiting :
    (run (step 1) (new none []) (exiting ++ finishing ++ joining)).isSome = true ∧
      (exiting ++ finishing ++ joining).length ≤ 67 := by
  have hsome : (run (step 1) (new none []) (exiting ++ finishing ++ joining)).isSome = true := by
    decide +kernel
  obtain ⟨s, hs⟩ := Option.isSome_iff_exists.mp hsome
  have hlength := steps_le 1 none [] (exiting ++ finishing ++ joining) s hs
  have hcounts : (exiting ++ finishing ++ joining).countP packet = 0 ∧
      (exiting ++ finishing ++ joining).countP connection = 0 ∧
      (exiting ++ finishing ++ joining).countP notice = 0 := by decide
  rw [hcounts.1, hcounts.2.1, hcounts.2.2] at hlength
  exact ⟨hsome, hlength⟩

end Rlirsh.Session
