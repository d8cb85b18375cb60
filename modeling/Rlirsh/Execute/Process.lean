import Rlirsh.Stream.Handlers
import Rlirsh.Execute.Steps

namespace Rlirsh.Execute

open Rlirsh.Protocol
open Rlirsh.Lib
open Rlirsh.Stream

variable {T U : Type} [Message T] [Message U]

/-- What a process keeps of its side, having received the messages `received`. -/
structure Kept (held : Bool) (received : List U) (s : Side T) : Prop where
  sender : Side.SenderInv held s
  shutting : Side.Shutting s
  received_eq : received.filterMap Message.toStream = s.delivered ++ s.receiver.hand
  finished : s.receiver = .done true ↔ Message.finished ∈ received
  swept : Side.Swept s
  forwarded : Side.Forwarded s
  abandoned : Side.Abandoned s
  deserted : Side.Deserted s
  source_heard : ∀ id, Source.Heard (s.view.source id)
  sink_heard : ∀ id, Sink.Heard (s.view.sink id)

/-- What a step does to the messages of a side: `out` is handed to the connection. -/
structure Sends (out : Option T) (s t : Side T) : Prop where
  sent : ∃ ms, t.log = s.log ++ ms ∧ s.unsent ++ ms = out.toList ++ t.unsent

theorem Sends.quiet {s t : Side T} (hlog : t.log = s.log) (hunsent : t.unsent = s.unsent) :
    Sends none s t :=
  ⟨[], by simp [hlog], by simp [hunsent]⟩

theorem Kept.side {env : Env} {received : List U} {s t : Side T} {e : Side.Event}
    (h : Kept env.held received s) (hgone : env.routerGone = true → s.receiver.left = true)
    (hstep : s.step env e = some t) :
    Kept env.held received t ∧ Sends (s.output e) s t := by
  obtain ⟨hsender, hsent⟩ := h.sender.step hstep
  have hholds := Side.holds_step hstep
  refine ⟨⟨hsender, h.shutting.step hstep, h.received_eq.trans (Side.hand_step hstep).symm,
    ((Side.receiver_ended_step hstep).1 true).trans h.finished, h.swept.step hstep,
    h.forwarded.step hstep, h.abandoned.step h.swept h.shutting hgone hstep,
    h.deserted.step h.swept h.forwarded h.sender h.source_heard hgone hstep,
    fun id => ?_, fun id => ?_⟩, ⟨hsent⟩⟩
  · rcases hholds.source id with heq | ⟨e', -, hstep'⟩
    · exact heq ▸ h.source_heard id
    · exact (h.source_heard id).step hstep'
  · rcases hholds.sink id with heq | ⟨e', -, hstep'⟩
    · exact heq ▸ h.sink_heard id
    · exact (h.sink_heard id).step hstep'

theorem Kept.release {held held' : Bool} {received : List U} {s : Side T}
    (h : Kept held received s) (himp : held' = true → held = true) : Kept held' received s :=
  { h with sender := h.sender.release himp }

theorem Kept.enqueued {held : Bool} {received : List U} {s : Side T} {m : T}
    (h : Kept held received s) (hheld : held = true) (hm : m ≠ Message.finished) :
    Kept held received (s.enqueued [m]) ∧ Sends none s (s.enqueued [m]) := by
  refine ⟨⟨?_, h.shutting.enqueued [m], h.received_eq, h.finished, ⟨h.swept.sinks, h.swept.sources⟩,
    ⟨h.forwarded.connects, h.forwarded.sinks, h.forwarded.sources⟩, h.abandoned, h.deserted,
    h.source_heard, h.sink_heard⟩, [m], rfl, ?_⟩
  · refine h.sender.append [m] rfl rfl rfl rfl (by simpa using hm.symm) fun hclosing => ?_
    exact absurd (h.sender.closed hclosing).2.2 (by simp [hheld])
  · simpa using (Side.unsent_append (s := s) (t := s.enqueued [m]) rfl rfl rfl).symm

theorem Kept.setReceiver {held : Bool} {received : List U} {s : Side T} (pc : ReceiverPc)
    (ms : List U) (h : Kept held received s)
    (hbefore : s.receiver.leftSinks = [] ∧ s.receiver.leftSources = [] ∧ s.receiver.hand = [])
    (hafter : pc.leftSinks = [] ∧ pc.leftSources = [])
    (hdrained : s.receiver.drained = pc.drained) (hleft : s.receiver.left = true → pc.left = true)
    (hms : ms.filterMap Message.toStream = pc.hand) (hopen : s.receiver ≠ .done true)
    (hfinished : pc = .done true ↔ Message.finished ∈ ms) :
    Kept held (received ++ ms) { s with receiver := pc } where
  sender := h.sender.append [] (by simp) rfl rfl rfl (by simp) fun hclosing =>
    ⟨rfl, (h.sender.closed hclosing).1.of_sender rfl rfl rfl rfl rfl,
      (h.sender.closed hclosing).2.1⟩
  shutting := h.shutting.setReceiver hafter.1 hafter.2 (by simp [hdrained])
  received_eq := by simp [h.received_eq, hbefore.2.2, hms]
  finished := by
    have hnot : Message.finished ∉ received := fun hmem => hopen (h.finished.mpr hmem)
    simp [hnot, hfinished]
  swept := h.swept.setReceiver hbefore.1 hbefore.2.1
  forwarded := ⟨h.forwarded.connects, fun hpc => h.forwarded.sinks (hdrained ▸ hpc),
    fun hpc => h.forwarded.sources (hdrained ▸ hpc)⟩
  abandoned id hpc := (h.abandoned id hpc).imp_right fun ⟨hrx, habandoned, _⟩ =>
    ⟨hrx, hleft habandoned, by simp [hafter.1]⟩
  deserted id b hb hkept :=
    (h.deserted id b hb hkept).imp hleft fun himp hpc => himp (hdrained ▸ hpc)
  source_heard := h.source_heard
  sink_heard := h.sink_heard

theorem Kept.receive {held : Bool} {received : List U} {s : Side T} (pc : ReceiverPc) (m : U)
    (h : Kept held received s) (hpc : s.receiver = .recv)
    (hafter : pc.leftSinks = [] ∧ pc.leftSources = []) (hdrained : pc.drained = false)
    (hms : (Message.toStream m).toList = pc.hand)
    (hfinished : pc = .done true ↔ m = Message.finished) :
    Kept held (received ++ [m]) { s with receiver := pc } :=
  h.setReceiver pc [m]
    (by simp [hpc, ReceiverPc.leftSinks, ReceiverPc.leftSources, ReceiverPc.hand]) hafter
    (by rw [hpc, hdrained]; rfl) (by simp [hpc, ReceiverPc.left])
    (by rw [← hms]; cases hm : Message.toStream m <;> simp [hm]) (by simp [hpc])
    (by rw [hfinished, List.mem_singleton, eq_comm])

theorem Kept.take {held : Bool} {received : List U} {s : Side T}
    (h : Kept held received s) (hpc : s.receiver = .recv) {m : U} {action : StreamAction}
    (hm : Message.toStream m = some action) : Kept held (received ++ [m]) (s.take action) := by
  refine h.receive _ m hpc ?_ ?_ ?_ ?_
  · split <;> exact ⟨rfl, rfl⟩
  · split <;> rfl
  · rw [hm]
    exact (Side.hand_take s action).symm
  · constructor
    · split <;> simp
    · rintro rfl
      simp at hm

theorem Kept.leave {held : Bool} {received : List U} {s : Side T} (h : Kept held received s)
    (hpc : s.receiver = .shutdown [] []) :
    Kept held received { s with receiver := .done false } := by
  have hleave := h.setReceiver (.done false) []
    (by simp [hpc, ReceiverPc.leftSinks, ReceiverPc.leftSources, ReceiverPc.hand]) ⟨rfl, rfl⟩
    (by simp [hpc, ReceiverPc.drained]) (fun _ => rfl) rfl (by simp [hpc]) (by simp)
  rwa [List.append_nil] at hleave

theorem kept_of_spawned {T U : Type} [Message T] [Message U] {held : Bool} {s : Side T}
    (hsender : s.sender = .recv) (hreceiver : s.receiver = .recv) (hlost : s.lost = [])
    (hlog : Message.finished ∉ s.log) (hdelivered : s.delivered = [])
    (hsinks : s.sinkTxMap.Nodup) (hsources : s.sourceTxMap.Nodup) (hconnects : s.connects = [])
    (hsweptSinks : ∀ id t, s.sinks.get id = some t → id ∈ s.sinkTxMap ∨ t.ended = true)
    (hsweptSources : ∀ id t, s.sources.get id = some t → id ∈ s.sourceTxMap ∨ t.ended = true)
    (hsink : ∀ id, ∃ writer, s.view.sink id = .new writer)
    (hsource : ∀ id, (s.view.source id).shut = false ∧ ∀ b, (s.view.source id).pc ≠ .failed b) :
    Kept held ([] : List U) s where
  sender :=
    { lost_nil := fun _ => hlost
      not_failed := by simp [Side.sending, hsender]
      closed := by simp [Side.closing, hsender]
      finished_last := fun hmem => absurd hmem hlog
      finished_mem := by simp [hsender] }
  shutting :=
    { sinks_nodup := hsinks
      sources_nodup := hsources
      leftSinks_nodup := by simp [hreceiver, ReceiverPc.leftSinks]
      leftSources_nodup := by simp [hreceiver, ReceiverPc.leftSources]
      sink_shut := fun id hshut => by
        obtain ⟨writer, hnew⟩ := hsink id
        simp [hnew, Sink.Task.new] at hshut
      source_shut := fun id hshut => by simp [(hsource id).1] at hshut }
  received_eq := by simp [hdelivered, hreceiver, ReceiverPc.hand]
  finished := by simp [hreceiver]
  swept := ⟨fun id t ht => (hsweptSinks id t ht).imp_right fun h => Or.inr (Or.inr h),
    fun id t ht _ => (hsweptSources id t ht).imp_right fun h => Or.inr (Or.inr h)⟩
  forwarded := ⟨by simp [hconnects], by simp [hreceiver, ReceiverPc.drained],
    by simp [hreceiver, ReceiverPc.drained]⟩
  abandoned id hpc := by
    obtain ⟨writer, hnew⟩ := hsink id
    simp [hnew, Sink.Task.new] at hpc
  deserted id b hb := absurd hb ((hsource id).2 b)
  source_heard id hshut := by simp [(hsource id).1] at hshut
  sink_heard id := by
    obtain ⟨writer, hnew⟩ := hsink id
    exact hnew ▸ Sink.heard_new writer

end Rlirsh.Execute

namespace Rlirsh.Execute.Client

open Rlirsh.Protocol
open Rlirsh.Net
open Rlirsh.Lib
open Rlirsh.Stream

/-- What an event of the client does to its streams. -/
def State.effect (c : State) : Event → Effect
  | .side e => c.side.effect e
  | _ => .quiet

theorem Stepped.of_side {c d : State} {e : Side.Event} (h : Stepped c (.side e) d) :
    c.side.step c.env e = some d.side := by
  cases h with
  | side step => exact step

theorem Stepped.holds {c d : State} {e : Event} (h : Stepped c e d) :
    (c.effect e).Holds c.side.view d.side.view := by
  cases h with
  | side step => exact Side.holds_step step
  | windowSent =>
      simp only [State.effect, Effect.Holds]
      rw [Side.view_enqueued]
      simp [Message.toStream]
  | _ => rfl

theorem left_of_ended {pc : ReceiverPc} (h : receiverEnded pc = true) : pc.left = true := by
  cases pc <;> simp_all [receiverEnded, ReceiverPc.left]

theorem State.left_of_gone {c : State} (h : c.env.routerGone = true) :
    c.side.receiver.left = true := by
  simp only [State.env, Bool.and_eq_true] at h
  exact left_of_ended h.1

abbrev State.Kept (c : State) : Prop := Execute.Kept (!c.windowEnded) c.received c.side

theorem Stepped.kept {c d : State} {e : Event} (hkept : c.Kept) (h : Stepped c e d) :
    d.Kept ∧ Sends (c.output e) c.side d.side ∧ d.received = c.received ++ e.input.toList := by
  cases h with
  | @side e side step =>
      obtain ⟨hkept', hsends⟩ := Execute.Kept.side hkept State.left_of_gone step
      refine ⟨hkept', ?_, by simp [Event.input]⟩
      cases e with
      | sender e => cases e <;> exact hsends
      | _ => exact hsends
  | take pc => exact ⟨hkept.take pc rfl, .quiet rfl rfl, rfl⟩
  | @exit status pc =>
      refine ⟨?_, .quiet rfl rfl, rfl⟩
      have hrecv := hkept.receive .recv (.exit status) pc ⟨rfl, rfl⟩ rfl rfl
        (by simp [Message.finished])
      rwa [← pc] at hrecv
  | exitTwice pc =>
      exact ⟨hkept.receive _ _ pc ⟨rfl, rfl⟩ rfl rfl (by simp [Message.finished]), .quiet rfl rfl,
        rfl⟩
  | finished pc =>
      exact ⟨hkept.receive _ _ pc ⟨rfl, rfl⟩ rfl rfl (by simp [Message.finished]), .quiet rfl rfl,
        rfl⟩
  | leave pc =>
      refine ⟨?_, .quiet rfl rfl, by simp [Event.input]⟩
      exact hkept.leave pc
  | noSize | status | noStatus | joined | notLeft | handlersFailed | tasksJoined | tasksFailed =>
      exact ⟨hkept, .quiet rfl rfl, by simp [Event.input]⟩
  | signal pc =>
      exact ⟨hkept.release (by simp [State.windowEnded, pc]), .quiet rfl rfl,
        by simp [Event.input]⟩
  | @windowSent size pc =>
      have hheld : (!c.windowEnded) = true := by simp [State.windowEnded, pc]
      obtain ⟨hkept', hsends⟩ := Execute.Kept.enqueued (m := .windowSizeChange size) hkept hheld
        (by simp [Message.finished])
      exact ⟨hkept'.release (by simp [hheld]), hsends, by simp [Event.input]⟩
  | windowSendFailed pc | windowEnd pc =>
      exact ⟨hkept.release (by simp [State.windowEnded]), .quiet rfl rfl, by simp [Event.input]⟩

theorem Stepped.left {c d : State} {e : Event} (h : Stepped c e d)
    (hleft : c.side.receiver.left = true) : d.side.receiver.left = true ∧
      (d.side.receiver = .done true ↔ c.side.receiver = .done true) := by
  cases h with
  | side step => exact ⟨(Side.left_step step hleft).1, (Side.receiver_ended_step step).1 true⟩
  | take pc | exit pc | exitTwice pc | finished pc => simp [pc, ReceiverPc.left] at hleft
  | leave pc => simp [pc, ReceiverPc.left]
  | _ => exact ⟨hleft, Iff.rfl⟩

/-- How the receiver comes to fail. -/
inductive Fails (c : State) : Event → Option StreamAction → Prop
  | unknown {action : StreamAction} (pc : c.side.receiver = .recv)
      (unknown : c.side.found action = false) : Fails c (.receive (.stream action)) (some action)
  | twice {status : ExitStatus} (second : c.exitStatus ≠ none) :
      Fails c (.receive (.exit status)) none
  | gone {action : StreamAction} {e : Side.Event} (pc : c.side.receiver = .dispatch action)
      (gone : c.side.dispatch action = some (c.side.unhanded action)) :
      Fails c (.side e) (some action)

theorem Stepped.failed {c d : State} {e : Event} {undelivered : Option StreamAction}
    (h : Stepped c e d) (hfailed : d.side.receiver = .failed undelivered) :
    c.side.receiver = .failed undelivered ∨ Fails c e undelivered := by
  cases h with
  | side step =>
      rcases Side.failed_step step hfailed with hfailed | ⟨action, rfl, pc, gone⟩
      · exact Or.inl hfailed
      · exact Or.inr (.gone pc gone)
  | @take action pc =>
      simp only [Side.take] at hfailed
      split at hfailed
      · cases hfailed
      · rename_i hnot
        cases hfailed
        exact Or.inr (.unknown pc (by simpa using hnot))
  | exitTwice pc second =>
      cases hfailed
      exact Or.inr (.twice second)
  | finished | leave => cases hfailed
  | _ => exact Or.inl hfailed

theorem Stepped.drained {c d : State} {e : Event} (h : Stepped c e d)
    (hdrained : d.side.receiver.drained = true) : c.side.receiver.drained = true ∨
      ∃ reported sinks sources, e = .side (.receiver (.abort reported sinks sources)) := by
  cases h with
  | side step =>
      apply (Side.drained_step step hdrained).imp_right
      rintro ⟨reported, sinks, sources, rfl⟩
      exact ⟨reported, sinks, sources, rfl⟩
  | take pc =>
      simp only [Side.take] at hdrained
      split at hdrained <;> cases hdrained
  | exitTwice | finished => cases hdrained
  | leave pc => exact Or.inl (by rw [pc]; rfl)
  | _ => exact Or.inl hdrained

/-- What the sinks of the client write to. -/
def writer (id : StreamId) : Sink.Writer :=
  if id = .stdout ∨ id = .stderr then .file else .socket

theorem sink_new (pty : Bool) (listeners : List TcpListener) (id : StreamId) :
    (new pty listeners).side.view.sink id = .new (writer id) := by
  simp only [Side.view, new, Table.get_ofList, writer]
  cases id <;> rfl

theorem source_new (pty : Bool) (listeners : List TcpListener) (id : StreamId) :
    (new pty listeners).side.view.source id = .new := by
  simp only [Side.view, new, Table.get_ofList]
  cases id <;> rfl

theorem kept_new (pty : Bool) (listeners : List TcpListener) : (new pty listeners).Kept :=
  kept_of_spawned rfl rfl rfl (by simp [new]) rfl (by simp [new]) (by simp [new]) rfl
    (fun id t ht => by simp only [new, Table.get_ofList] at ht ⊢; grind)
    (fun id t ht => by simp only [new, Table.get_ofList] at ht ⊢; grind)
    (fun id => ⟨_, sink_new pty listeners id⟩)
    (fun id => by rw [source_new]; simp [Source.Task.new])

end Rlirsh.Execute.Client

namespace Rlirsh.Execute.Server

open Rlirsh.Protocol
open Rlirsh.Net
open Rlirsh.Terminal (PtyMaster)
open Rlirsh.Lib
open Rlirsh.Stream

/-- What an event of the server does to its streams. -/
def State.effect (v : State) : Event → Effect
  | .side e => v.side.effect e
  | .mainSent =>
      match v.main with
      | .sendSinkClosed _ => .inject .stdin
      | _ => .quiet
  | _ => .quiet

theorem Stepped.of_side {v w : State} {e : Side.Event} (h : Stepped v (.side e) w) :
    v.side.step v.env e = some w.side := by
  cases h with
  | side step => exact step

theorem Stepped.holds {v w : State} {e : Event} (h : Stepped v e w) :
    (v.effect e).Holds v.side.view w.side.view := by
  cases h with
  | side step => exact Side.holds_step step
  | sinkClosedSent pc | exitSent pc =>
      simp only [State.effect, pc, Effect.Holds]
      rw [Side.view_enqueued]
      simp [Message.toStream]
  | _ => rfl

theorem State.left_of_gone {v : State} (h : v.env.routerGone = true) :
    v.side.receiver.left = true := by
  simp only [State.env, Bool.and_eq_true] at h
  exact Client.left_of_ended h.1.1.2

abbrev State.Kept (v : State) : Prop := Execute.Kept (!v.released) v.received v.side

theorem Stepped.kept {v w : State} {e : Event} (hkept : v.Kept) (h : Stepped v e w) :
    w.Kept ∧ Sends (v.output e) v.side w.side ∧ w.received = v.received ++ e.input.toList := by
  cases h with
  | @side e side step =>
      obtain ⟨hkept', hsends⟩ := Execute.Kept.side hkept State.left_of_gone step
      refine ⟨hkept', ?_, by simp [Event.input]⟩
      cases e with
      | sender e => cases e <;> exact hsends
      | _ => exact hsends
  | take pc => exact ⟨hkept.take pc rfl, .quiet rfl rfl, rfl⟩
  | @windowSizeChange size pc =>
      refine ⟨?_, .quiet rfl rfl, rfl⟩
      have hrecv := hkept.receive .recv (.windowSizeChange size) pc ⟨rfl, rfl⟩ rfl rfl
        (by simp [Message.finished])
      rwa [← pc] at hrecv
  | finished pc =>
      exact ⟨hkept.receive _ _ pc ⟨rfl, rfl⟩ rfl rfl (by simp [Message.finished]), .quiet rfl rfl,
        rfl⟩
  | leave pc =>
      refine ⟨?_, .quiet rfl rfl, by simp [Event.input]⟩
      exact hkept.leave pc
  | childExited pc | waitFailed pc | killReceived pc | killed pc | joined pc
  | receiverFailed pc | handlerFailed pc =>
      exact ⟨hkept.release (by simp [State.released, pc]), .quiet rfl rfl, by simp [Event.input]⟩
  | sinkClosedSent pc =>
      have hheld : (!v.released) = true := by simp [State.released, pc]
      obtain ⟨hkept', hsends⟩ := Execute.Kept.enqueued
        (m := .stream (.sink .stdin .sinkClosed)) hkept hheld (by simp [Message.finished])
      exact ⟨hkept'.release (by simp [hheld]), hsends, by simp [Event.input]⟩
  | @exitSent status pc =>
      have hheld : (!v.released) = true := by simp [State.released, pc]
      obtain ⟨hkept', hsends⟩ := Execute.Kept.enqueued (m := .exit status) hkept hheld
        (by simp [Message.finished])
      exact ⟨hkept'.release (by simp [hheld]), hsends, by simp [Event.input]⟩
  | mainSendFailed pc =>
      exact ⟨hkept.release (by simp [State.released]), .quiet rfl rfl, by simp [Event.input]⟩

theorem Stepped.left {v w : State} {e : Event} (h : Stepped v e w)
    (hleft : v.side.receiver.left = true) : w.side.receiver.left = true ∧
      (w.side.receiver = .done true ↔ v.side.receiver = .done true) := by
  cases h with
  | side step => exact ⟨(Side.left_step step hleft).1, (Side.receiver_ended_step step).1 true⟩
  | take pc | windowSizeChange pc | finished pc => simp [pc, ReceiverPc.left] at hleft
  | leave pc => simp [pc, ReceiverPc.left]
  | _ => exact ⟨hleft, Iff.rfl⟩

/-- How the receiver comes to fail. -/
inductive Fails (v : State) : Event → Option StreamAction → Prop
  | unknown {action : StreamAction} (pc : v.side.receiver = .recv)
      (unknown : v.side.found action = false) : Fails v (.receive (.stream action)) (some action)
  | gone {action : StreamAction} {e : Side.Event} (pc : v.side.receiver = .dispatch action)
      (gone : v.side.dispatch action = some (v.side.unhanded action)) :
      Fails v (.side e) (some action)

theorem Stepped.failed {v w : State} {e : Event} {undelivered : Option StreamAction}
    (h : Stepped v e w) (hfailed : w.side.receiver = .failed undelivered) :
    v.side.receiver = .failed undelivered ∨ Fails v e undelivered := by
  cases h with
  | side step =>
      rcases Side.failed_step step hfailed with hfailed | ⟨action, rfl, pc, gone⟩
      · exact Or.inl hfailed
      · exact Or.inr (.gone pc gone)
  | @take action pc =>
      simp only [Side.take] at hfailed
      split at hfailed
      · cases hfailed
      · rename_i hnot
        cases hfailed
        exact Or.inr (.unknown pc (by simpa using hnot))
  | finished | leave => cases hfailed
  | _ => exact Or.inl hfailed

theorem Stepped.drained {v w : State} {e : Event} (h : Stepped v e w)
    (hdrained : w.side.receiver.drained = true) : v.side.receiver.drained = true ∨
      ∃ reported sinks sources, e = .side (.receiver (.abort reported sinks sources)) := by
  cases h with
  | side step =>
      apply (Side.drained_step step hdrained).imp_right
      rintro ⟨reported, sinks, sources, rfl⟩
      exact ⟨reported, sinks, sources, rfl⟩
  | take pc =>
      simp only [Side.take] at hdrained
      split at hdrained <;> cases hdrained
  | finished => cases hdrained
  | leave pc => exact Or.inl (by rw [pc]; rfl)
  | _ => exact Or.inl hdrained

/-- What the sinks of the server write to. -/
def writer (pty : Option PtyMaster) (id : StreamId) : Sink.Writer :=
  if id = .stdin then (if pty.isSome then .ptyMaster else .childStdin) else .socket

theorem sink_new (pty : Option PtyMaster) (addrs : List (SocketAddrs SocketAddr)) (id : StreamId) :
    (new pty addrs).side.view.sink id = .new (writer pty id) := by
  simp only [Side.view, new, Table.get_ofList, writer]
  cases id <;> rfl

theorem source_new (pty : Option PtyMaster) (addrs : List (SocketAddrs SocketAddr))
    (id : StreamId) :
    (new pty addrs).side.view.source id =
      if pty.isSome = true ∧ id = .stderr then closedSource else .new := by
  simp only [Side.view, new, Table.get_ofList]
  cases id <;> cases pty <;> rfl

theorem kept_new (pty : Option PtyMaster) (addrs : List (SocketAddrs SocketAddr)) :
    (new pty addrs).Kept :=
  kept_of_spawned rfl rfl rfl (by cases pty <;> simp [new, Message.finished]) rfl
    (by simp [new]) (by cases pty <;> simp [new]) rfl
    (fun id t ht => by simp only [new, Table.get_ofList] at ht ⊢; grind)
    (fun id t ht => by
      simp only [new, Table.get_ofList] at ht ⊢
      grind [closedSource, Source.Task.ended])
    (fun id => ⟨_, sink_new pty addrs id⟩)
    (fun id => by rw [source_new]; split <;> simp [Source.Task.new, closedSource])

end Rlirsh.Execute.Server
