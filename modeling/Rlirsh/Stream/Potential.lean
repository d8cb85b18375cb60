import Rlirsh.Lib.Potential
import Rlirsh.Stream.Router

namespace Rlirsh.Stream

open Rlirsh.Protocol
open Rlirsh.Lib

/-- What an action is worth in the inbox of its handler.  A packet is written, flushed and
answered, perhaps twice; a connection is tried, answered and registered on both sides. -/
def actionCost : StreamAction → Nat
  | .source _ (.data _) => 15
  | .source _ .sourceClosed => 1
  | .sink _ _ => 1
  | .listener _ (.connect _) => 34
  | .listener _ .listenerClosed => 1
  | .connecter _ _ => 14

/-- What a message is worth on the connection. -/
def wireCost {T : Type} [Message T] (m : T) : Nat :=
  match Message.toStream m with
  | some action => actionCost action + 2
  | none => 1

/-- What a message is worth in the send queue. -/
def queueCost {T : Type} [Message T] (m : T) : Nat := wireCost m + 2

@[simp] theorem queueCost_stream {T : Type} [Message T] (action : StreamAction) :
    queueCost (Message.stream action : T) = actionCost action + 4 := by
  simp [queueCost, wireCost]

@[simp] theorem wireCost_finished {T : Type} [Message T] :
    wireCost (Message.finished : T) = 1 := by
  simp [wireCost]

namespace Source

/-- A source that reads nothing more closes its stream. -/
def Pc.potential : Pc → Nat
  | .select | .recvAnswer => 7
  | .sendData _ => 27
  | .sendClosed => 6
  | .done | .failed _ | .panicked => 0

def Task.potential (t : Task) : Nat := t.pc.potential + t.rx.length

/-- A read that returns a packet comes from outside. -/
def Event.credit : Event → Nat
  | .read (.ok (_ :: _)) => 21
  | _ => 0

theorem onSendFailed_spec {t u : Task} (h : t.onSendFailed = some u) :
    t.pending.isSome = true ∧ u = { t with pc := .failed t.unsent } := by
  rw [Task.onSendFailed, Option.ite_none_right_eq_some] at h
  exact ⟨h.1, (Option.some.inj h.2).symm⟩

theorem paid {t u : Task} {e : Event} (hdeliver : ∀ action, e ≠ .deliver action)
    (hshutdown : e ≠ .shutdown) (hstep : t.step e = some u) (id : StreamId) :
    u.potential + ((t.emitted e).map fun action => actionCost (.source id action) + 4).sum + 1 ≤
      t.potential + e.credit := by
  cases e with
  | deliver action => exact absurd rfl (hdeliver action)
  | shutdown => exact absurd rfl hshutdown
  | read res =>
      simp only [Task.step, Task.onRead] at hstep
      split at hstep
      · rename_i bytes hpc
        rw [Option.ite_none_right_eq_some] at hstep
        obtain ⟨-, hstep⟩ := hstep
        rcases bytes with _ | ⟨b, bytes⟩ <;> cases hstep <;>
          simp only [Task.potential, Pc.potential, Task.emitted, Event.credit, hpc, List.map_nil,
            List.sum_nil] <;> omega
      · rename_i hpc
        cases hstep
        simp only [Task.potential, Pc.potential, Task.emitted, Event.credit, hpc, List.map_nil,
          List.sum_nil]
        omega
      · cases hstep
  | recv =>
      simp only [Task.step, Task.onRecv] at hstep
      split at hstep <;> cases hstep
      all_goals
        rename_i hpc hrx
        simp only [Task.potential, Pc.potential, Task.emitted, Event.credit, hpc, hrx,
          List.length_cons, List.map_nil, List.sum_nil]
        omega
  | recvNone =>
      obtain ⟨hpc | hpc, hrx, rfl⟩ := recvNone_spec hstep
      all_goals
        simp only [Task.potential, Pc.potential, Task.emitted, Event.credit, hpc, hrx,
          List.length_nil, List.map_nil, List.sum_nil]
        omega
  | sent =>
      simp only [Task.step, Task.onSent] at hstep
      split at hstep <;> cases hstep
      all_goals
        rename_i hpc
        simp only [Task.potential, Pc.potential, Task.emitted, Event.credit, Task.pending, hpc,
          actionCost, Option.toList_some, List.map_cons, List.map_nil, List.sum_cons, List.sum_nil]
        omega
  | sendFailed =>
      obtain ⟨hpending, rfl⟩ := onSendFailed_spec hstep
      cases hpc : t.pc with
      | sendData | sendClosed =>
          simp only [Task.potential, Pc.potential, Task.emitted, Event.credit, hpc, List.map_nil,
            List.sum_nil]
          omega
      | _ => simp [Task.pending, hpc] at hpending

theorem potential_handed {t u : Task} {e : Event}
    (he : (∃ action, e = .deliver action) ∨ e = .shutdown) (hstep : t.step e = some u) :
    u.potential ≤ t.potential + 1 := by
  have hdeliver {action : SinkAction} {u : Task} (h : t.deliver action = some u) :
      u.potential ≤ t.potential + 1 := by
    unfold Task.deliver at h
    split at h
    · cases h
      exact Nat.le_succ _
    · rw [Option.ite_none_right_eq_some] at h
      obtain ⟨-, h⟩ := h
      cases h
      simp [Task.potential, Nat.add_assoc]
  rcases he with ⟨action, rfl⟩ | rfl
  · exact hdeliver hstep
  · obtain ⟨v, hv, rfl⟩ := Option.map_eq_some_iff.mp hstep
    have hle : v.potential ≤ t.potential + 1 := hdeliver hv
    exact hle

end Source

namespace Sink

/-- A sink that gets nothing more shuts its writer down. -/
def Pc.potential : Pc → Nat
  | .recv => 2
  | .write => 16
  | .sendAck => 15
  | .flush => 9
  | .sendClosed => 8
  | .shutdown => 1
  | .done | .failed => 0

/-- What the messages in the inbox are worth does not depend on the stream. -/
def inboxCost (rx : List SourceAction) : Nat :=
  (rx.map fun action => actionCost (.source .stdin action)).sum

def Task.potential (t : Task) : Nat := t.pc.potential + inboxCost t.rx

theorem actionCost_eq (id : StreamId) (action : SourceAction) :
    actionCost (.source id action) = actionCost (.source .stdin action) := by
  cases action <;> rfl

theorem onSendFailed_spec {t u : Task} (h : t.onSendFailed = some u) :
    t.pending.isSome = true ∧ u = { t with pc := .failed } := by
  rw [Task.onSendFailed, Option.ite_none_right_eq_some] at h
  exact ⟨h.1, (Option.some.inj h.2).symm⟩

theorem paid {t u : Task} {e : Event} (hdeliver : ∀ action, e ≠ .deliver action)
    (hshutdown : e ≠ .shutdown) (hstep : t.step e = some u) (id : StreamId) :
    u.potential + ((t.emitted e).map fun action => actionCost (.sink id action) + 4).sum + 1 ≤
      t.potential := by
  cases e with
  | deliver action => exact absurd rfl (hdeliver action)
  | shutdown => exact absurd rfl hshutdown
  | recv =>
      simp only [Task.step, Task.onRecv] at hstep
      split at hstep
      · rename_i hpc hrx
        split at hstep <;> cases hstep <;>
          simp only [Task.potential, Pc.potential, Task.emitted, inboxCost, actionCost, hpc, hrx,
            List.map_cons, List.map_nil, List.sum_cons, List.sum_nil] <;>
          omega
      · rename_i hpc hrx
        cases hstep
        simp only [Task.potential, Pc.potential, Task.emitted, inboxCost, actionCost, hpc, hrx,
          List.map_cons, List.map_nil, List.sum_cons, List.sum_nil]
        omega
      · cases hstep
  | recvNone =>
      obtain ⟨hpc, -, rfl⟩ := recvNone_spec hstep
      simp only [Task.potential, Pc.potential, Task.emitted, hpc, List.map_nil, List.sum_nil]
      omega
  | written res =>
      simp only [Task.step, Task.onWritten] at hstep
      split at hstep
      · rename_i hpc _
        split at hstep <;> cases hstep <;>
          simp only [Task.potential, Pc.potential, Task.emitted, hpc, List.map_nil,
            List.sum_nil] <;> omega
      · cases hstep
  | flushed res =>
      simp only [Task.step, Task.onFlushed] at hstep
      split at hstep
      · rename_i hpc _
        split at hstep <;> cases hstep <;>
          simp only [Task.potential, Pc.potential, Task.emitted, Task.finish, hpc, List.map_nil,
            List.sum_nil] <;> omega
      · cases hstep
  | sent =>
      simp only [Task.step, Task.onSent] at hstep
      split at hstep
      · rename_i hpc _
        split at hstep <;> cases hstep <;>
          simp only [Task.potential, Pc.potential, Task.emitted, Task.finish, Task.pending, hpc,
            actionCost, Option.toList_some, List.map_cons, List.map_nil, List.sum_cons,
            List.sum_nil] <;> omega
      · rename_i hpc _
        cases hstep
        simp only [Task.potential, Pc.potential, Task.emitted, Task.finish, Task.pending, hpc,
          actionCost, Option.toList_some, List.map_cons, List.map_nil, List.sum_cons, List.sum_nil]
        omega
      · cases hstep
  | sendFailed =>
      obtain ⟨hpending, rfl⟩ := onSendFailed_spec hstep
      cases hpc : t.pc with
      | sendAck | sendClosed =>
          simp only [Task.potential, Pc.potential, Task.emitted, hpc, List.map_nil, List.sum_nil]
          omega
      | _ => simp [Task.pending, hpc] at hpending
  | shutdownDone =>
      simp only [Task.step, Task.onShutdown] at hstep
      split at hstep <;> cases hstep
      rename_i hpc
      simp only [Task.potential, Pc.potential, Task.emitted, hpc, List.map_nil, List.sum_nil]
      omega

theorem potential_deliver {t u : Task} {action : SourceAction}
    (hstep : t.deliver action = some u) (id : StreamId) :
    u.potential ≤ t.potential + actionCost (.source id action) := by
  unfold Task.deliver at hstep
  rw [Option.ite_none_left_eq_some, Option.ite_none_right_eq_some] at hstep
  obtain ⟨-, -, hstep⟩ := hstep
  cases hstep
  simp [Task.potential, inboxCost, actionCost_eq id action, Nat.add_assoc]

theorem potential_shutdown {t u : Task} (hstep : t.step .shutdown = some u) :
    u.potential ≤ t.potential + 1 := by
  simp only [Task.step, Task.shutdown] at hstep
  split at hstep
  · cases hstep
    exact Nat.le_succ _
  · obtain ⟨v, hv, rfl⟩ := Option.map_eq_some_iff.mp hstep
    exact potential_deliver hv .stdin

end Sink

namespace Listener

/-- A listener that accepts nothing more closes its port. -/
def Pc.potential : Pc → Nat
  | .accept | .awaitResponse => 7
  | .sendConnect => 46
  | .sendClosed => 6
  | .done | .panicked => 0

def Task.potential (t : Task) : Nat := t.pc.potential + 14 * t.rx.length

/-- Connections come from outside, as does the failure to accept one. -/
def Event.credit : Event → Nat
  | .accepted => 40
  | .acceptFailed => 1
  | _ => 0

theorem potential_next (t : Task) : t.next.potential ≤ 7 := by
  unfold Task.next
  split <;> simp [Task.potential, Pc.potential]

end Listener

namespace Connecter

def Task.potential (t : Task) : Nat :=
  (match t.pc with
    | .recv => 1
    | .done => 0) + (t.rx.map fun action => actionCost (.listener ⟨0⟩ action)).sum

/-- A connection that is made is registered, with two tasks. -/
def Connect.potential (t : Connect) : Nat :=
  match t.pc with
  | .connecting => 33
  | .sendResponse _ => 32
  | .done | .panicked => 0

theorem actionCost_eq (port : PortId) (action : ListenerAction) :
    actionCost (.listener port action) = actionCost (.listener ⟨0⟩ action) := by
  cases action <;> rfl

end Connecter

namespace Side

variable {T : Type} [Message T] {env : Env} {s t : Side T}

/-- The sender sends `Finished` in the end. -/
def senderCost : SenderPc T → Nat
  | .recv => 4
  | .send m => 5 + wireCost m
  | .notified => 3
  | .finish => 2
  | .done => 0

/-- A receiver whose connection fails shuts the handlers down. -/
def receiverCost : ReceiverPc → Nat
  | .recv => 2
  | .dispatch action => 3 + actionCost action
  | .shutdown sinks sources => 1 + 2 * (sinks.length + sources.length)
  | .done _ | .failed _ => 0

def potential (s : Side T) : Nat :=
  s.sources.sum Source.Task.potential + s.sinks.sum Sink.Task.potential +
    s.listeners.sum Listener.Task.potential + s.connecters.sum Connecter.Task.potential +
    (s.connects.map Connecter.Connect.potential).sum +
    2 * (s.sinkTxMap.length + s.sourceTxMap.length) +
    (s.queue.map queueCost).sum + senderCost s.sender + receiverCost s.receiver

/-- What comes from outside with an event, which is worth so many steps. -/
def credit : Event → Nat
  | .source _ e => e.credit
  | .listener _ e => e.credit
  | _ => 0

/-- A read returns a packet. -/
def packet : Event → Bool
  | .source _ (.read (.ok (_ :: _))) => true
  | _ => false

/-- A connection to a forwarded port is accepted. -/
def accepts : Event → Bool
  | .listener _ .accepted => true
  | _ => false

/-- A connection cannot be accepted. -/
def unaccepted : Event → Bool
  | .listener _ .acceptFailed => true
  | _ => false

theorem credit_le (e : Event) :
    credit e ≤ 21 * (packet e).toNat + 40 * (accepts e).toNat + 5 * (unaccepted e).toNat := by
  unfold credit
  split
  · unfold Source.Event.credit
    split
    · exact Nat.le_refl 21
    · exact Nat.zero_le _
  · rename_i e
    cases e <;> simp [Listener.Event.credit, packet, accepts, unaccepted]
  · exact Nat.zero_le _

/-- What an event puts on the connection. -/
def outputCost (s : Side T) : Event → Nat
  | .sender .sent => (s.sending.map wireCost).sum
  | _ => 0

omit [Message T] in
theorem sum_set_of_getElem? {α : Type} {l : List α} {i : Nat} {a b : α} (f : α → Nat)
    (h : l[i]? = some a) : ((l.set i b).map f).sum + f a = (l.map f).sum + f b := by
  induction l generalizing i with
  | nil => cases h
  | cons c l ih =>
      cases i with
      | zero =>
          obtain rfl := Option.some.inj h
          simp only [List.set_cons_zero, List.map_cons, List.sum_cons]
          omega
      | succ i =>
          have hsum := ih h
          simp only [List.set_cons_succ, List.map_cons, List.sum_cons]
          omega

theorem potential_setSource {id : StreamId} {a u : Source.Task}
    (get : s.sources.get id = some a) :
    (s.setSource id u).potential + a.potential = s.potential + u.potential := by
  have hsum := Table.sum_set_of_get (a := u) Source.Task.potential get
  simp only [potential, setSource]
  omega

theorem potential_setSink {id : StreamId} {a u : Sink.Task} (get : s.sinks.get id = some a) :
    (s.setSink id u).potential + a.potential = s.potential + u.potential := by
  have hsum := Table.sum_set_of_get (a := u) Sink.Task.potential get
  simp only [potential, setSink]
  omega

theorem potential_setListener {port : PortId} {a u : Listener.Task}
    (get : s.listeners.get port = some a) :
    (s.setListener port u).potential + a.potential = s.potential + u.potential := by
  have hsum := Table.sum_set_of_get (a := u) Listener.Task.potential get
  simp only [potential, setListener]
  omega

theorem potential_setConnecter {port : PortId} {a u : Connecter.Task}
    (get : s.connecters.get port = some a) :
    (s.setConnecter port u).potential + a.potential = s.potential + u.potential := by
  have hsum := Table.sum_set_of_get (a := u) Connecter.Task.potential get
  simp only [potential, setConnecter]
  omega

theorem potential_setConnect {i : Nat} {a u : Connecter.Connect}
    (get : s.connects[i]? = some a) :
    (s.setConnect i u).potential + a.potential = s.potential + u.potential := by
  have hsum := sum_set_of_getElem? (b := u) Connecter.Connect.potential get
  simp only [potential, setConnect]
  omega

theorem potential_enqueued (ms : List T) :
    (s.enqueued ms).potential = s.potential + (ms.map queueCost).sum := by
  simp only [potential, enqueued, List.map_append, List.sum_append]
  omega

theorem potential_handed (action : StreamAction) :
    (s.handed action).potential + receiverCost s.receiver = s.potential + 2 := by
  simp only [potential, handed, receiverCost]
  omega

theorem potential_register_le (id : StreamId) : (s.register id).potential ≤ s.potential + 13 := by
  have hsource : (s.registerSource id).potential ≤ s.potential + 9 := by
    have hsum := Table.sum_set_le s.sources id .new Source.Task.potential
    have hnew : Source.Task.new.potential = 7 := rfl
    simp only [potential, registerSource, List.length_append, List.length_singleton]
    omega
  have hsink (r : Side T) : (r.registerSink id).potential ≤ r.potential + 4 := by
    have hsum := Table.sum_set_le r.sinks id (.new .socket) Sink.Task.potential
    have hnew : (Sink.Task.new .socket).potential = 2 := rfl
    simp only [potential, registerSink, List.length_append, List.length_singleton]
    omega
  have hboth := hsink (s.registerSource id)
  have hreplaced : (s.replaceSource id).potential = s.potential := rfl
  unfold register
  split
  · omega
  · split <;> omega

omit [Message T] in
theorem register_listeners (s : Side T) (id : StreamId) :
    (s.register id).listeners = s.listeners := by
  unfold register
  split
  · rfl
  · split <;> rfl

theorem paid_source {id : StreamId} {e : Source.Event} (h : s.stepSource env id e = some t) :
    t.potential + 1 ≤ s.potential + e.credit := by
  obtain ⟨a, u, hstep⟩ := stepSource_spec h
  have hpaid := Source.paid hstep.not_deliver hstep.not_shutdown hstep.step id
  have hout : ((sourceOutput T a id e).map queueCost).sum =
      ((a.emitted e).map fun action => actionCost (.source id action) + 4).sum := by
    simp only [sourceOutput, List.map_map, Function.comp_def, queueCost_stream]
  have hset := potential_setSource (u := u)
    (show (s.enqueued (sourceOutput T a id e)).sources.get id = some a from hstep.get)
  rw [hstep.eq]
  rw [potential_enqueued, hout] at hset
  omega

theorem paid_sink {id : StreamId} {e : Sink.Event} (h : s.stepSink env id e = some t) :
    t.potential + 1 ≤ s.potential := by
  obtain ⟨a, u, hstep⟩ := stepSink_spec h
  have hpaid := Sink.paid hstep.not_deliver hstep.not_shutdown hstep.step id
  have hout : ((sinkOutput T a id e).map queueCost).sum =
      ((a.emitted e).map fun action => actionCost (.sink id action) + 4).sum := by
    simp only [sinkOutput, List.map_map, Function.comp_def, queueCost_stream]
  have hset := potential_setSink (u := u)
    (show (s.enqueued (sinkOutput T a id e)).sinks.get id = some a from hstep.get)
  rw [hstep.eq]
  rw [potential_enqueued, hout] at hset
  omega

theorem paid_listener {port : PortId} {e : Listener.Event}
    (h : s.stepListener env port e = some t) : t.potential + 1 ≤ s.potential + e.credit := by
  obtain ⟨a, get, hstep⟩ := stepListener_spec h
  have hnext := Listener.potential_next a
  have hset {r : Side T} (u : Listener.Task) (hr : r.listeners.get port = some a) :=
    potential_setListener (u := u) hr
  have ha : a.potential = a.pc.potential + 14 * a.rx.length := rfl
  cases hstep with
  | accepted pc _ =>
      have hset := hset (r := s.insertListenerTx (a.id port)) { a with pc := .sendConnect } get
      have hsame : (s.insertListenerTx (a.id port)).potential = s.potential := rfl
      rw [hsame] at hset
      simp only [Listener.Task.potential, pc, Listener.Pc.potential,
        Listener.Event.credit] at hset ⊢
      omega
  | inUse pc _ =>
      have hset := hset (r := s) { a with pc := .panicked } get
      simp only [Listener.Task.potential, pc, Listener.Pc.potential,
        Listener.Event.credit] at hset ⊢
      omega
  | acceptFailed pc =>
      have hset := hset (r := s) a.next get
      rw [ha, pc] at hset
      simp only [Listener.Pc.potential, Listener.Event.credit] at hset ⊢
      omega
  | taskEnd pc _ =>
      have hset := hset (r := s) { a with pc := .sendClosed } get
      simp only [Listener.Task.potential, pc, Listener.Pc.potential,
        Listener.Event.credit] at hset ⊢
      omega
  | request pc _ _ =>
      have hset := hset (r := s.enqueued [Message.stream (.listener port (.connect ⟨a.conn⟩))])
        { a with pc := .awaitResponse } get
      rw [potential_enqueued] at hset
      simp only [Listener.Task.potential, pc, List.map_cons, List.map_nil, List.sum_cons,
        List.sum_nil, queueCost_stream, actionCost, Listener.Pc.potential,
        Listener.Event.credit] at hset ⊢
      omega
  | close pc _ _ =>
      have hset := hset (r := s.enqueued [Message.stream (.listener port .listenerClosed)])
        { a with pc := .done } get
      rw [potential_enqueued] at hset
      simp only [Listener.Task.potential, pc, List.map_cons, List.map_nil, List.sum_cons,
        List.sum_nil, queueCost_stream, actionCost, Listener.Pc.potential,
        Listener.Event.credit] at hset ⊢
      omega
  | unrequested pc _ =>
      have hset := hset (r := s.removeListenerTx (a.id port)) a.next get
      have hsame : (s.removeListenerTx (a.id port)).potential = s.potential := rfl
      rw [hsame, ha, pc] at hset
      simp only [Listener.Pc.potential, Listener.Event.credit] at hset ⊢
      omega
  | unclosed pc _ =>
      have hset := hset (r := s) { a with pc := .done } get
      simp only [Listener.Task.potential, pc, Listener.Pc.potential,
        Listener.Event.credit] at hset ⊢
      omega
  | refused pc inbox _ =>
      have hset := hset (r := s.removeListenerTx (a.id port)) a.next get
      have hsame : (s.removeListenerTx (a.id port)).potential = s.potential := rfl
      rw [hsame, ha, pc, inbox] at hset
      simp only [List.length_cons, Listener.Pc.potential, Listener.Event.credit] at hset ⊢
      omega
  | connected pc inbox _ _ =>
      have hregister := potential_register_le (s := s.removeListenerTx (a.id port)) (a.id port)
      have hsame : (s.removeListenerTx (a.id port)).potential = s.potential := rfl
      have hle : (if s.registrable (a.id port) then a.next
          else { a with pc := .panicked, rx := [] }).potential ≤ 7 := by
        split
        · exact hnext
        · exact Nat.zero_le _
      have hset := hset (r := (s.removeListenerTx (a.id port)).register (a.id port))
        (if s.registrable (a.id port) then a.next else { a with pc := .panicked, rx := [] })
        ((congrArg (fun l : Table PortId Listener.Task => l.get port)
          (register_listeners _ _)).trans get)
      rw [ha, pc, inbox] at hset
      simp only [List.length_cons, Listener.Pc.potential, Listener.Event.credit] at hset ⊢
      omega
  | removed pc inbox _ =>
      have hset := hset (r := s) { a with pc := .panicked, rx := [] } get
      simp only [Listener.Task.potential, pc, inbox, List.length_cons, List.length_nil,
        Listener.Pc.potential, Listener.Event.credit] at hset ⊢
      omega

theorem paid_connecter {port : PortId} {e : Connecter.Event}
    (h : s.stepConnecter port e = some t) : t.potential + 1 ≤ s.potential := by
  obtain ⟨a, get, hstep⟩ := stepConnecter_spec h
  cases hstep with
  | @connect conn rx pc inbox =>
      have hset := potential_setConnecter (u := { a with rx }) get
      have ha : a.potential = ({ a with rx } : Connecter.Task).potential + 34 := by
        simp only [Connecter.Task.potential, pc, inbox, List.map_cons, List.sum_cons, actionCost]
        omega
      have hspawned : ({ s with
          connecters := s.connecters.set port { a with rx }
          connects := s.connects ++ [.new (.forward port conn) a.addr] } :
            Side T).potential = (s.setConnecter port { a with rx }).potential + 33 := by
        simp only [potential, setConnecter, List.map_append, List.sum_append, List.map_cons,
          List.map_nil, List.sum_cons, List.sum_nil, Connecter.Connect.new,
          Connecter.Connect.potential]
        omega
      rw [hspawned]
      omega
  | @close rx pc inbox =>
      have hset := potential_setConnecter (u := { a with pc := .done, rx }) get
      have ha : a.potential = ({ a with pc := .done, rx } : Connecter.Task).potential + 2 := by
        simp only [Connecter.Task.potential, pc, inbox, List.map_cons, List.sum_cons, actionCost]
        omega
      omega
  | recvNone pc inbox _ _ =>
      have hset := potential_setConnecter (u := { a with pc := .done }) get
      have ha : a.potential = ({ a with pc := .done } : Connecter.Task).potential + 1 := by
        simp only [Connecter.Task.potential, pc]
        omega
      omega

theorem paid_connect {i : Nat} {e : Connecter.ConnectEvent} (h : s.stepConnect i e = some t) :
    t.potential + 1 ≤ s.potential := by
  obtain ⟨a, get, hstep⟩ := stepConnect_spec h
  cases hstep with
  | connected res pc =>
      have hset := potential_setConnect (u := a.connected res) get
      have ha : a.potential = 33 := by rw [Connecter.Connect.potential, pc]
      have hu : (a.connected res).potential = 32 := rfl
      omega
  | @refuse error pc _ _ =>
      have hset := potential_setConnect (s := s.enqueued
        [Message.stream (.connecter a.id (.connectResponse (.err error)))])
        (u := { a with pc := .done }) get
      have ha : a.potential = 32 := by rw [Connecter.Connect.potential, pc]
      have hu : ({ a with pc := .done } : Connecter.Connect).potential = 0 := rfl
      rw [potential_enqueued] at hset
      simp only [List.map_cons, List.map_nil, List.sum_cons, List.sum_nil, queueCost_stream,
        actionCost] at hset
      omega
  | accept pc _ _ _ =>
      have hregister := potential_register_le (s := s.enqueued
        [Message.stream (.connecter a.id (.connectResponse .ok))]) a.id
      have hset := potential_setConnect (s := (s.enqueued
        [Message.stream (.connecter a.id (.connectResponse .ok))]).register a.id)
        (u := { a with pc := if s.registrable a.id then .done else .panicked })
        ((congrArg (fun l : List Connecter.Connect => l[i]?) (register_connects _ _)).trans get)
      have ha : a.potential = 32 := by rw [Connecter.Connect.potential, pc]
      have hu : ({ a with pc := if s.registrable a.id then .done else .panicked } :
          Connecter.Connect).potential = 0 := by
        cases s.registrable a.id <;> rfl
      rw [potential_enqueued] at hregister
      simp only [List.map_cons, List.map_nil, List.sum_cons, List.sum_nil, queueCost_stream,
        actionCost] at hregister
      omega
  | sendFailed pc _ =>
      have hset := potential_setConnect (u := { a with pc := .done }) get
      have ha : a.potential = 32 := by rw [Connecter.Connect.potential, pc]
      have hu : ({ a with pc := .done } : Connecter.Connect).potential = 0 := rfl
      omega

theorem paid_sender {e : SenderEvent} (h : s.stepSender env e = some t) :
    t.potential + s.outputCost (.sender e) + 1 ≤ s.potential := by
  have hsent := stepSender_spec h
  cases hsent with
  | recv pc head _ | drop pc head _ =>
      simp only [potential, outputCost, pc, head, List.map_cons, List.sum_cons, senderCost,
        queueCost]
      omega
  | wait pc _ _ _ _ =>
      simp only [potential, outputCost, pc, senderCost]
      omega
  | close pc _ _ _ _ | notified pc _ =>
      unfold finish
      split <;> simp only [potential, outputCost, pc, senderCost] <;> omega
  | sent pc =>
      simp only [potential, outputCost, sending, pc, senderCost, List.map_cons, List.map_nil,
        List.sum_cons, List.sum_nil]
      omega
  | finished pc =>
      simp only [potential, outputCost, sending, pc, senderCost, List.map_cons, List.map_nil,
        List.sum_cons, List.sum_nil, wireCost_finished]
      omega
  | failed pc | unfinished pc =>
      simp only [potential, outputCost, pc, senderCost]
      omega

theorem paid_receiver {e : ReceiverEvent} (h : s.stepReceiver e = some t) :
    t.potential + 1 ≤ s.potential := by
  have hreceived := stepReceiver_spec h
  cases hreceived with
  | dispatch pc dispatched =>
      have hreceiver : receiverCost s.receiver = 3 + actionCost _ := congrArg receiverCost pc
      cases dispatched with
      | @sink id action a u get step =>
          have hhanded := potential_handed (s := s) (.source id action)
          have hset := potential_setSink (s := s.handed (.source id action)) (u := u) get
          have hle := Sink.potential_deliver step id
          omega
      | @source id action a u kept get step =>
          have hhanded := potential_handed (s := s) (.sink id action)
          have hdropped : ((s.handed (.sink id action)).dropSender id).potential =
              (s.handed (.sink id action)).potential := rfl
          have hset := potential_setSource
            (s := (s.handed (.sink id action)).dropSender id) (u := u) get
          have hle := Source.potential_handed (Or.inl ⟨action, rfl⟩) step
          simp only [actionCost] at hreceiver
          omega
      | @connecter port action a get _ _ =>
          have hhanded := potential_handed (s := s) (.listener port action)
          have hset := potential_setConnecter (s := s.handed (.listener port action))
            (u := { a with rx := a.rx ++ [action] }) get
          have hu : ({ a with rx := a.rx ++ [action] } : Connecter.Task).potential =
              a.potential + actionCost (.listener port action) := by
            simp only [Connecter.Task.potential, List.map_append, List.sum_append, List.map_cons,
              List.map_nil, List.sum_cons, List.sum_nil, Connecter.actionCost_eq port]
            omega
          omega
      | @listener port conn res a get _ _ _ =>
          have hhanded := potential_handed (s := s)
            (.connecter (.forward port conn) (.connectResponse res))
          have hset := potential_setListener
            (s := s.handed (.connecter (.forward port conn) (.connectResponse res)))
            (u := { a with rx := a.rx ++ [res] }) get
          have hu : ({ a with rx := a.rx ++ [res] } : Listener.Task).potential =
              a.potential + 14 := by
            simp only [Listener.Task.potential, List.length_append, List.length_singleton]
            omega
          simp only [actionCost] at hreceiver
          omega
      | @discarded id action =>
          have hhanded := potential_handed (s := s) (.sink id action)
          omega
      | gone =>
          have hzero (undelivered : Option StreamAction) :
              receiverCost (.failed undelivered) = 0 := rfl
          simp only [potential, unhanded, hzero]
          omega
  | @abort reported sinks sources pc hsinks hsources _ =>
      simp only [potential, pc, receiverCost, hsinks.length_eq, hsources.length_eq,
        List.length_nil]
      omega
  | @shutdownSink id sinks sources a u pc get step =>
      have hset := potential_setSink (s := { s with receiver := .shutdown sinks sources })
        (u := u) get
      have hle := Sink.potential_shutdown step
      have hreceiver : ({ s with receiver := .shutdown sinks sources } : Side T).potential + 2 =
          s.potential := by
        simp only [potential, pc, receiverCost, List.length_cons]
        omega
      omega
  | @shutdownSource id sources a u pc kept get step =>
      have hset := potential_setSource (s := { s with receiver := .shutdown [] sources })
        (u := u) get
      have hle := Source.potential_handed (Or.inr rfl) step
      have hreceiver : ({ s with receiver := .shutdown [] sources } : Side T).potential + 2 =
          s.potential := by
        simp only [potential, pc, receiverCost, List.length_cons]
        omega
      omega
  | @shutdownOrphan id sources pc =>
      simp only [potential, pc, receiverCost, List.length_cons]
      omega

/-- Every step of a side is paid for, with what it puts on the connection. -/
theorem paid {e : Event} (h : s.step env e = some t) :
    t.potential + s.outputCost e + 1 ≤ s.potential + credit e := by
  cases e with
  | source id e =>
      have hpaid := paid_source h
      simp only [outputCost, credit]
      omega
  | listener port e =>
      have hpaid := paid_listener h
      simp only [outputCost, credit]
      omega
  | sink id e =>
      have hpaid := paid_sink h
      simp only [outputCost, credit]
      omega
  | connecter port e =>
      have hpaid := paid_connecter h
      simp only [outputCost, credit]
      omega
  | connect i e =>
      have hpaid := paid_connect h
      simp only [outputCost, credit]
      omega
  | sender e =>
      have hpaid := paid_sender h
      simp only [credit]
      omega
  | receiver e =>
      have hpaid := paid_receiver h
      simp only [outputCost, credit]
      omega

end Side

end Rlirsh.Stream
