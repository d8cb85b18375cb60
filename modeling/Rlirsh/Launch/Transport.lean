import Rlirsh.Framing
import Rlirsh.Launch.Session
import Rlirsh.Lib.Framed

/-!
A connection over the two streams of a TCP connection, byte by byte.  The sender goes on with
the message it is writing or never writes again, and so does the receiver with what it reads;
hence the streams always fall into the messages that were sent.
-/

namespace Rlirsh.Stream.Side

variable {T : Type} [Message T] {env : Env} {s t : Side T} {e : Event}

/-- The sender has failed, and nothing is being written. -/
def Muted (s : Side T) : Prop := s.isFailed = true ∧ s.sending = []

theorem Muted.step (h : s.Muted) (hstep : s.step env e = some t) : t.Muted := by
  obtain ⟨hfailed, hsending⟩ := h
  by_cases hsender : ∃ e', e = .sender e'
  · obtain ⟨e', rfl⟩ := hsender
    cases stepSender_spec hstep with
    | recv _ _ ok => simp [hfailed] at ok
    | drop pc => exact ⟨hfailed, by simp [sending, pc]⟩
    | wait => exact ⟨hfailed, rfl⟩
    | close | notified => exact ⟨by simp [finish, hfailed], by simp [finish, hfailed, sending]⟩
    | sent pc | finished pc | failed pc | unfinished pc => simp [sending, pc] at hsending
  · obtain ⟨actions, henqueues⟩ := enqueues_step (fun e' he => hsender ⟨e', he⟩) hstep
    refine ⟨henqueues.isFailed.trans hfailed, ?_⟩
    rw [sending, henqueues.sender]
    exact hsending

theorem sending_step {m : T} (h : s.sending.head? = some m) (hsent : e ≠ .sender .sent)
    (hstep : s.step env e = some t) : t.sending.head? = some m ∨ t.Muted := by
  by_cases hsender : ∃ e', e = .sender e'
  · obtain ⟨e', rfl⟩ := hsender
    cases stepSender_spec hstep with
    | recv pc | drop pc | wait pc | close pc | notified pc => simp [sending, pc] at h
    | sent | finished => exact absurd rfl hsent
    | failed | unfinished => exact Or.inr ⟨rfl, rfl⟩
  · obtain ⟨actions, henqueues⟩ := enqueues_step (fun e' he => hsender ⟨e', he⟩) hstep
    left
    rw [sending, henqueues.sender]
    exact h

theorem reading_step (h : s.receiver = .recv) (hstep : s.step env e = some t) :
    t.receiver = .recv ∨ t.receiver.left = true := by
  by_cases hreceiver : ∃ e', e = .receiver e'
  · obtain ⟨e', rfl⟩ := hreceiver
    cases stepReceiver_spec hstep with
    | dispatch pc | shutdownSink pc | shutdownSource pc | shutdownOrphan pc => simp [h] at pc
    | abort => exact Or.inr rfl
  · rw [(receiver_step (fun e' he => hreceiver ⟨e', he⟩) hstep).1]
    exact Or.inl h

/-- What a step of a process leaves of what its side has begun; a message it is writing may
have been `sent` with it, and one it is reading `received`. -/
structure Ordered (s t : Side T) (sent received : Prop) : Prop where
  muted : s.Muted → t.Muted
  left : s.receiver.left = true → t.receiver.left = true
  sending {m : T} : ¬ sent → s.sending.head? = some m → t.sending.head? = some m ∨ t.Muted
  reading : ¬ received → s.receiver = .recv → t.receiver = .recv ∨ t.receiver.left = true

theorem ordered_step (hstep : s.step env e = some t) (received : Prop) :
    Ordered s t (e = .sender .sent) received where
  muted h := h.step hstep
  left h := (left_step hstep h).1
  sending hsent h := sending_step h hsent hstep
  reading _ h := reading_step h hstep

theorem Ordered.aside {sent received : Prop} (hsender : t.sender = s.sender)
    (hfailed : t.isFailed = s.isFailed) (hleft : s.receiver.left = true → t.receiver.left = true)
    (hreading : ¬ received → s.receiver = .recv →
      t.receiver = .recv ∨ t.receiver.left = true) : Ordered s t sent received := by
  have hsending : t.sending = s.sending := by
    rw [Side.sending, hsender]
    rfl
  refine ⟨fun h => ⟨hfailed.trans h.1, hsending.trans h.2⟩, hleft, fun _ h => Or.inl ?_, hreading⟩
  rw [hsending]
  exact h

end Rlirsh.Stream.Side

namespace Rlirsh.Execute

open Rlirsh.Stream (ReceiverPc)
open Rlirsh.Stream.Side (Ordered ordered_step)

theorem Client.Stepped.ordered {c d : Client.State} {e : Client.Event} (h : Stepped c e d) :
    Ordered c.side d.side (e = .side (.sender .sent)) (∃ m, e = .receive m) := by
  cases h with
  | @side e side hstep =>
      have hordered := ordered_step hstep (∃ m, Event.side e = .receive m)
      refine { hordered with sending := fun hsent => hordered.sending fun he => hsent ?_ }
      rw [he]
  | take pc | exit pc | exitTwice pc | finished pc =>
      exact .aside rfl rfl (by simp [pc, ReceiverPc.left]) fun hnot => absurd ⟨_, rfl⟩ hnot
  | leave => exact .aside rfl rfl (fun _ => rfl) fun _ _ => Or.inr rfl
  | _ => exact .aside rfl rfl id fun _ => Or.inl

theorem Server.Stepped.ordered {v w : Server.State} {e : Server.Event} (h : Stepped v e w) :
    Ordered v.side w.side (e = .side (.sender .sent)) (∃ m, e = .receive m) := by
  cases h with
  | @side e side hstep =>
      have hordered := ordered_step hstep (∃ m, Event.side e = .receive m)
      refine { hordered with sending := fun hsent => hordered.sending fun he => hsent ?_ }
      rw [he]
  | take pc | windowSizeChange pc | finished pc =>
      exact .aside rfl rfl (by simp [pc, ReceiverPc.left]) fun hnot => absurd ⟨_, rfl⟩ hnot
  | leave => exact .aside rfl rfl (fun _ => rfl) fun _ _ => Or.inr rfl
  | _ => exact .aside rfl rfl id fun _ => Or.inl

end Rlirsh.Execute

namespace Rlirsh.Launch

open Rlirsh.Protocol
open Rlirsh.Lib
open Rlirsh.Lib.Machine
open Rlirsh.Lib.Parties (Joint)
open Rlirsh.Lib.Framed (Fed Framer Coded Orderly Wired Agreed)
open Rlirsh.Framing
open Rlirsh.Execute
open Rlirsh.Stream (ReceiverPc)

theorem raw_deserialize {m b : Bytes} (h : some m = some b) : some b = some m := h.symm

/-- The bytes of a message as they are, which is what the two reads of `recv_message` are
about. -/
def raw : Codec Bytes :=
  { serialize := some, deserialize := some, deserialize_serialize := @raw_deserialize }

/-- What the two reads make of a chunk. -/
def feed (reading : Reading) (chunk : Bytes) : Fed Reading UInt8 :=
  match raw.receive reading chunk with
  | .more next => .more next
  | .message b => .body b
  | .error => .error

theorem raw_frames {bs : List Bytes} (hfits : ∀ b ∈ bs, b.length ≤ messageSizeLimit) :
    raw.frames bs = bs.flatMap frame := by
  induction bs with
  | nil => rfl
  | cons b bs ih =>
      have haccepted : raw.accepted b = some b :=
        Option.filter_eq_some_iff.mpr ⟨rfl, by simpa using hfits b (List.mem_cons_self ..)⟩
      rw [raw.frames_cons haccepted, List.flatMap_cons,
        ih fun b' hb' => hfits b' (List.mem_cons_of_mem _ hb')]

theorem feed_spec {reading : Reading} {chunk rest : Bytes} {bs : List Bytes}
    (hgood : reading.Good) (hne : chunk ≠ []) (hle : chunk.length ≤ reading.wanted)
    (hfits : ∀ b ∈ bs, b.length ≤ messageSizeLimit)
    (heq : reading.consumed ++ chunk ++ rest = bs.flatMap frame) :
    Received raw reading chunk bs (raw.receive reading chunk) := by
  refine receive_spec raw hgood hne hle (fun b hb => ?_) (heq.trans (raw_frames hfits).symm)
  have haccepted : raw.accepted b = some b :=
    Option.filter_eq_some_iff.mpr ⟨rfl, by simpa using hfits b hb⟩
  rw [haccepted]
  rfl

theorem decodeU32_of_le {n : Nat} (hle : n ≤ messageSizeLimit) : decodeU32 (encodeU32 n) = n :=
  decodeU32_encodeU32 (Nat.lt_of_le_of_lt hle (by decide))

theorem consumed_start : Reading.start.consumed = [] := rfl

theorem wanted_pos {reading : Reading} (hgood : reading.Good) : 0 < reading.wanted := by
  cases reading with
  | size got => exact Nat.sub_pos_of_lt hgood
  | body n got => exact Nat.sub_pos_of_lt hgood.1

theorem consumed_ne {reading : Reading} {b rest : Bytes} (hgood : reading.Good)
    (hfits : b.length ≤ messageSizeLimit) : reading.consumed ≠ frame b ++ rest := by
  intro heq
  have hlength := congrArg List.length heq
  cases reading with
  | size got =>
      simp only [Reading.Good, Reading.consumed, frame, List.length_append, length_encodeU32]
        at hgood hlength
      omega
  | body n got =>
      simp only [Reading.consumed, frame, List.append_assoc] at heq
      obtain ⟨hsize, hgot⟩ := List.append_inj heq rfl
      have hn : n = b.length := by
        rw [← decodeU32_of_le hfits, ← hsize, decodeU32_of_le hgood.2]
      have hle := congrArg List.length hgot
      rw [List.length_append] at hle
      have hlt := hgood.1
      omega

section

variable {reading next : Reading} {chunk rest b : Bytes} {bs : List Bytes}

theorem feed_ne_error (hgood : reading.Good) (hne : chunk ≠ [])
    (hle : chunk.length ≤ reading.wanted) (hfits : ∀ b ∈ bs, b.length ≤ messageSizeLimit)
    (heq : reading.consumed ++ chunk ++ rest = bs.flatMap frame) :
    feed reading chunk ≠ .error := by
  intro herror
  have hreceived := feed_spec hgood hne hle hfits heq
  unfold feed at herror
  split at herror
  · cases herror
  · cases herror
  · rename_i hreceive
    rw [hreceive] at hreceived
    exact hreceived

theorem feed_more (hgood : reading.Good) (hne : chunk ≠ [])
    (hle : chunk.length ≤ reading.wanted) (hfits : ∀ b ∈ bs, b.length ≤ messageSizeLimit)
    (heq : reading.consumed ++ chunk ++ rest = bs.flatMap frame)
    (hfeed : feed reading chunk = .more next) :
    next.Good ∧ next.consumed = reading.consumed ++ chunk := by
  have hreceived := feed_spec hgood hne hle hfits heq
  unfold feed at hfeed
  split at hfeed
  · rename_i hreceive
    obtain rfl := Fed.more.inj hfeed
    rw [hreceive] at hreceived
    exact hreceived
  · cases hfeed
  · cases hfeed

theorem feed_body (hgood : reading.Good) (hne : chunk ≠ [])
    (hle : chunk.length ≤ reading.wanted) (hfits : ∀ b ∈ bs, b.length ≤ messageSizeLimit)
    (heq : reading.consumed ++ chunk ++ rest = bs.flatMap frame)
    (hfeed : feed reading chunk = .body b) :
    ∃ bs', bs = b :: bs' ∧ rest = bs'.flatMap frame := by
  have hreceived := feed_spec hgood hne hle hfits heq
  unfold feed at hfeed
  split at hfeed
  · cases hfeed
  · rename_i hreceive
    obtain rfl := Fed.body.inj hfeed
    rw [hreceive] at hreceived
    obtain ⟨bs', rfl, hframes⟩ := hreceived
    have hfits' : ∀ b ∈ bs', b.length ≤ messageSizeLimit :=
      fun b hb => hfits b (List.mem_cons_of_mem _ hb)
    rw [raw_frames hfits, ← heq, raw_frames hfits'] at hframes
    exact ⟨bs', rfl, List.append_cancel_left hframes⟩
  · cases hfeed

end

/-- The frames of `send_message` and `recv_message`. -/
def framer : Framer UInt8 where
  frame := frame
  Reading := Reading
  start := .start
  wanted := Reading.wanted
  feed := feed
  consumed := Reading.consumed
  Good := Reading.Good
  Fits b := b.length ≤ messageSizeLimit
  good_start := Reading.good_start
  consumed_start := consumed_start
  wanted_pos := @wanted_pos
  consumed_ne := @consumed_ne
  feed_ne_error := @feed_ne_error
  feed_more := @feed_more
  feed_body := @feed_body

theorem receive_eq_feed {T : Type} (codec : Codec T) (reading : Reading) (chunk : Bytes) :
    codec.receive reading chunk =
      match framer.feed reading chunk with
      | .more next => .more next
      | .body b =>
          match codec.deserialize b with
          | some m => .message m
          | none => .error
      | .error => .error := by
  have hbody (n : Nat) (got : Bytes) : codec.receiveBody n got =
      match (match raw.receiveBody n got with
        | .more next => (.more next : Fed Reading UInt8)
        | .message b => .body b
        | .error => .error) with
      | .more next => .more next
      | .body b =>
          match codec.deserialize b with
          | some m => .message m
          | none => .error
      | .error => .error := by
    unfold Codec.receiveBody raw
    split
    · rfl
    · rfl
  cases reading with
  | body n got => exact hbody n (got ++ chunk)
  | size got =>
      simp only [framer, feed, Codec.receive]
      by_cases hlt : (got ++ chunk).length < sizeWidth
      · simp only [if_pos hlt]
      · simp only [if_neg hlt]
        by_cases hle : decodeU32 (got ++ chunk) ≤ messageSizeLimit
        · simp only [if_pos hle]
          exact hbody _ []
        · simp only [if_neg hle]

/-- `bincode` at the types of the messages. -/
structure Codecs where
  request : Codec Request
  response : Codec Response
  clientAction : Codec ClientAction
  serverAction : Codec ServerAction

variable (codecs : Codecs)

/-- The client with the bytes of its messages.  It takes what it reads for a response until
it has one. -/
def Codecs.client : Coded UInt8 ClientMain ClientEvent Up Down :=
  { Launch.client with
    encode
      | .request req => codecs.request.accepted req
      | .action a => codecs.clientAction.accepted a
    decode c b :=
      match c.pc with
      | .serve _ => (codecs.serverAction.deserialize b).map .action
      | _ => (codecs.response.deserialize b).map .response }

def Codecs.server : Coded UInt8 ServerMain ServerEvent Down Up :=
  { Launch.server with
    encode
      | .response res => codecs.response.accepted res
      | .action a => codecs.serverAction.accepted a
    decode v b :=
      match v.pc with
      | .serve _ => (codecs.clientAction.deserialize b).map .action
      | _ => (codecs.request.deserialize b).map .request }

/-- The client writes no more. -/
def ClientMain.Mute (c : ClientMain) : Prop :=
  match c.pc with
  | .err _ => True
  | .serve client => client.returned = true ∨ client.side.Muted
  | _ => False

/-- The client reads no more. -/
def ClientMain.Deaf (c : ClientMain) : Prop :=
  match c.pc with
  | .err _ => True
  | .serve client => client.returned = true ∨ client.side.receiver.left = true
  | _ => False

def ServerMain.Mute (v : ServerMain) : Prop :=
  match v.pc with
  | .err _ => True
  | .serve server => server.side.Muted
  | _ => False

def ServerMain.Deaf (v : ServerMain) : Prop :=
  match v.pc with
  | .err _ => True
  | .serve server => server.side.receiver.left = true
  | _ => False

namespace ClientMain

variable {c d : ClientMain}

theorem offer_eq_none (h : c.Mute) : c.offer = none := by
  obtain ⟨pc, allocatePty, localListeners⟩ := c
  cases pc with
  | err => rfl
  | serve client =>
      rcases h with hreturned | hmuted
      · simp [offer, hreturned]
      · simp [offer, hmuted.2]
  | sendRequest | recvResponse | setUp => cases h

theorem reads_eq_false (h : c.Deaf) : c.reads = false := by
  obtain ⟨pc, allocatePty, localListeners⟩ := c
  cases pc with
  | err => rfl
  | serve client =>
      rcases h with hreturned | hleft
      · simp [reads, hreturned]
      · have hnot : client.side.receiver ≠ .recv := by
          intro hrecv
          simp [hrecv, ReceiverPc.left] at hleft
        simp [reads, hnot]
  | sendRequest | recvResponse | setUp => cases h

theorem mute_of_serve {client client' : Client.State} {e : Client.Event}
    (hstep : Client.step client e = some client')
    (h : client.returned = true ∨ client.side.Muted) :
    client'.returned = true ∨ client'.side.Muted := by
  obtain ⟨halive, hstepped⟩ := Client.step_spec hstep
  rcases h with hreturned | hmuted
  · simp [halive] at hreturned
  · exact Or.inr (hstepped.ordered.muted hmuted)

theorem deaf_of_serve {client client' : Client.State} {e : Client.Event}
    (hstep : Client.step client e = some client')
    (h : client.returned = true ∨ client.side.receiver.left = true) :
    client'.returned = true ∨ client'.side.receiver.left = true := by
  obtain ⟨halive, hstepped⟩ := Client.step_spec hstep
  rcases h with hreturned | hleft
  · simp [halive] at hreturned
  · exact Or.inr (hstepped.ordered.left hleft)

theorem offer_of_serve {client client' : Client.State} {e : Client.Event} {m : Up}
    (hpc : c.pc = .serve client) (hpc' : d.pc = .serve client')
    (hstep : Client.step client e = some client') (hnot : e ≠ .side (.sender .sent))
    (h : c.offer = some m) : d.offer = some m ∨ d.Mute := by
  simp only [offer, hpc] at h
  split at h
  · cases h
  · obtain ⟨a, hsending, rfl⟩ := Option.map_eq_some_iff.mp h
    have hordered := (Client.step_spec hstep).2.ordered
    cases hreturned : client'.returned with
    | true => exact Or.inr (by simp [Mute, hpc', hreturned])
    | false =>
        rcases hordered.sending hnot hsending with hsending' | hmuted
        · exact Or.inl (by simp [offer, hpc', hreturned, hsending'])
        · exact Or.inr (by simp [Mute, hpc', hmuted])

theorem reads_of_serve {client client' : Client.State} {e : Client.Event}
    (hpc : c.pc = .serve client) (hpc' : d.pc = .serve client')
    (hstep : Client.step client e = some client') (hnot : ∀ m, e ≠ .receive m)
    (h : c.reads = true) : d.reads = true ∨ d.Deaf := by
  simp only [reads, hpc, Bool.and_eq_true, decide_eq_true_eq] at h
  have hordered := (Client.step_spec hstep).2.ordered
  cases hreturned : client'.returned with
  | true => exact Or.inr (by simp [Deaf, hpc', hreturned])
  | false =>
      rcases hordered.reading (fun ⟨m, hm⟩ => hnot m hm) h.2 with hreading | hleft
      · exact Or.inl (by simp [reads, hpc', hreturned, hreading])
      · exact Or.inr (by simp [Deaf, hpc', hleft])

end ClientMain

/-- What the client has begun to write or to read it goes on with, or it stops for good. -/
def orderlyClient : Orderly codecs.client where
  Mute := ClientMain.Mute
  Deaf := ClientMain.Deaf
  offer_mute := ClientMain.offer_eq_none
  reads_deaf := ClientMain.reads_eq_false
  mute_step {c d e} hstep hmute := by
    obtain ⟨pc, allocatePty, localListeners⟩ := c
    cases ClientMain.step_spec hstep with
    | serve hpc _ _ hserve =>
        obtain rfl : pc = _ := hpc
        exact ClientMain.mute_of_serve hserve hmute
    | sendFailed hpc | recvFailed hpc | setUp hpc | notSetUp hpc =>
        obtain rfl : pc = _ := hpc
        cases hmute
  mute_receive {c d m} hreceive hmute := by
    obtain ⟨pc, allocatePty, localListeners⟩ := c
    cases ClientMain.receive_spec hreceive with
    | action hpc hserve =>
        obtain rfl : pc = _ := hpc
        exact ClientMain.mute_of_serve hserve hmute
    | accepted hpc | rejected hpc =>
        obtain rfl : pc = _ := hpc
        cases hmute
  deaf_step {c d e} hstep hdeaf := by
    obtain ⟨pc, allocatePty, localListeners⟩ := c
    cases ClientMain.step_spec hstep with
    | serve hpc _ _ hserve =>
        obtain rfl : pc = _ := hpc
        exact ClientMain.deaf_of_serve hserve hdeaf
    | sendFailed hpc | recvFailed hpc | setUp hpc | notSetUp hpc =>
        obtain rfl : pc = _ := hpc
        cases hdeaf
  deaf_sent {c d} hsent hdeaf := by
    obtain ⟨pc, allocatePty, localListeners⟩ := c
    cases pc with
    | serve client =>
        obtain ⟨client', hserve, rfl⟩ := Option.map_eq_some_iff.mp hsent
        exact ClientMain.deaf_of_serve hserve hdeaf
    | err => cases hsent
    | sendRequest | recvResponse | setUp => cases hdeaf
  offer_step {c d e m} hstep hoffer := by
    obtain ⟨pc, allocatePty, localListeners⟩ := c
    cases ClientMain.step_spec hstep with
    | serve hpc hnot _ hserve =>
        obtain rfl : pc = _ := hpc
        exact ClientMain.offer_of_serve (c := ⟨.serve _, allocatePty, localListeners⟩)
          (d := ⟨.serve _, allocatePty, localListeners⟩) rfl rfl hserve hnot hoffer
    | sendFailed hpc | recvFailed hpc | notSetUp hpc => exact Or.inr trivial
    | setUp hpc =>
        obtain rfl : pc = _ := hpc
        cases hoffer
  offer_receive {c d m m'} hreceive hoffer := by
    obtain ⟨pc, allocatePty, localListeners⟩ := c
    cases ClientMain.receive_spec hreceive with
    | action hpc hserve =>
        obtain rfl : pc = _ := hpc
        exact ClientMain.offer_of_serve (c := ⟨.serve _, allocatePty, localListeners⟩)
          (d := ⟨.serve _, allocatePty, localListeners⟩) rfl rfl hserve nofun hoffer
    | accepted hpc | rejected hpc =>
        obtain rfl : pc = _ := hpc
        cases hoffer
  reads_step {c d e} hstep hreads := by
    obtain ⟨pc, allocatePty, localListeners⟩ := c
    cases ClientMain.step_spec hstep with
    | serve hpc _ hnot hserve =>
        obtain rfl : pc = _ := hpc
        exact ClientMain.reads_of_serve (c := ⟨.serve _, allocatePty, localListeners⟩)
          (d := ⟨.serve _, allocatePty, localListeners⟩) rfl rfl hserve hnot hreads
    | sendFailed hpc | recvFailed hpc | notSetUp hpc => exact Or.inr trivial
    | setUp hpc =>
        obtain rfl : pc = _ := hpc
        cases hreads
  reads_sent {c d} hsent hreads := by
    obtain ⟨pc, allocatePty, localListeners⟩ := c
    cases pc with
    | serve client =>
        obtain ⟨client', hserve, rfl⟩ := Option.map_eq_some_iff.mp hsent
        exact ClientMain.reads_of_serve (c := ⟨.serve _, allocatePty, localListeners⟩)
          (d := ⟨.serve _, allocatePty, localListeners⟩) rfl rfl hserve nofun hreads
    | sendRequest | setUp | err => cases hreads
    | recvResponse => cases hsent

namespace ServerMain

variable {v w : ServerMain} {server server' : Server.State}

theorem offer_eq_none (h : v.Mute) : v.offer = none := by
  obtain ⟨pc, system, processes⟩ := v
  cases pc with
  | err => rfl
  | serve server => simp [offer, h.2]
  | recvRequest | handle | sendResponse => cases h

theorem reads_eq_false (h : v.Deaf) : v.reads = false := by
  obtain ⟨pc, system, processes⟩ := v
  cases pc with
  | err => rfl
  | serve server =>
      have hnot : server.side.receiver ≠ .recv := by
        intro hrecv
        simp [Deaf, hrecv, ReceiverPc.left] at h
      simp [reads, hnot]
  | recvRequest | handle | sendResponse => cases h

theorem offer_of_serve {e : Server.Event} {m : Down} (hpc : v.pc = .serve server)
    (hpc' : w.pc = .serve server') (hstep : Server.step server e = some server')
    (hnot : e ≠ .side (.sender .sent)) (h : v.offer = some m) : w.offer = some m ∨ w.Mute := by
  simp only [offer, hpc] at h
  obtain ⟨a, hsending, rfl⟩ := Option.map_eq_some_iff.mp h
  rcases (Server.step_spec hstep).ordered.sending hnot hsending with hsending' | hmuted
  · exact Or.inl (by simp [offer, hpc', hsending'])
  · exact Or.inr (by simp [Mute, hpc', hmuted])

theorem reads_of_serve {e : Server.Event} (hpc : v.pc = .serve server)
    (hpc' : w.pc = .serve server') (hstep : Server.step server e = some server')
    (hnot : ∀ m, e ≠ .receive m) (h : v.reads = true) : w.reads = true ∨ w.Deaf := by
  simp only [reads, hpc, decide_eq_true_eq] at h
  rcases (Server.step_spec hstep).ordered.reading (fun ⟨m, hm⟩ => hnot m hm) h with hreading | hleft
  · exact Or.inl (by simp [reads, hpc', hreading])
  · exact Or.inr (by simp [Deaf, hpc', hleft])

end ServerMain

def orderlyServer : Orderly codecs.server where
  Mute := ServerMain.Mute
  Deaf := ServerMain.Deaf
  offer_mute := ServerMain.offer_eq_none
  reads_deaf := ServerMain.reads_eq_false
  mute_step {v w e} hstep hmute := by
    obtain ⟨pc, system, processes⟩ := v
    cases ServerMain.step_spec hstep with
    | serve hpc _ _ hserve =>
        obtain rfl : pc = _ := hpc
        exact (Server.step_spec hserve).ordered.muted hmute
    | recvFailed hpc | handle hpc | sendFailed hpc =>
        obtain rfl : pc = _ := hpc
        cases hmute
  mute_receive {v w m} hreceive hmute := by
    obtain ⟨pc, system, processes⟩ := v
    cases ServerMain.receive_spec hreceive with
    | action hpc hserve =>
        obtain rfl : pc = _ := hpc
        exact (Server.step_spec hserve).ordered.muted hmute
    | request hpc =>
        obtain rfl : pc = _ := hpc
        cases hmute
  deaf_step {v w e} hstep hdeaf := by
    obtain ⟨pc, system, processes⟩ := v
    cases ServerMain.step_spec hstep with
    | serve hpc _ _ hserve =>
        obtain rfl : pc = _ := hpc
        exact (Server.step_spec hserve).ordered.left hdeaf
    | recvFailed hpc | handle hpc | sendFailed hpc =>
        obtain rfl : pc = _ := hpc
        cases hdeaf
  deaf_sent {v w} hsent hdeaf := by
    obtain ⟨pc, system, processes⟩ := v
    cases pc with
    | serve server =>
        obtain ⟨server', hserve, rfl⟩ := Option.map_eq_some_iff.mp hsent
        exact (Server.step_spec hserve).ordered.left hdeaf
    | err => cases hsent
    | recvRequest | handle | sendResponse => cases hdeaf
  offer_step {v w e m} hstep hoffer := by
    obtain ⟨pc, system, processes⟩ := v
    cases ServerMain.step_spec hstep with
    | serve hpc hnot _ hserve =>
        obtain rfl : pc = _ := hpc
        exact ServerMain.offer_of_serve (v := ⟨.serve _, system, processes⟩)
          (w := ⟨.serve _, system, _⟩) rfl rfl hserve hnot hoffer
    | recvFailed hpc | sendFailed hpc => exact Or.inr trivial
    | handle hpc =>
        obtain rfl : pc = _ := hpc
        cases hoffer
  offer_receive {v w m m'} hreceive hoffer := by
    obtain ⟨pc, system, processes⟩ := v
    cases ServerMain.receive_spec hreceive with
    | action hpc hserve =>
        obtain rfl : pc = _ := hpc
        exact ServerMain.offer_of_serve (v := ⟨.serve _, system, processes⟩)
          (w := ⟨.serve _, system, _⟩) rfl rfl hserve nofun hoffer
    | request hpc =>
        obtain rfl : pc = _ := hpc
        cases hoffer
  reads_step {v w e} hstep hreads := by
    obtain ⟨pc, system, processes⟩ := v
    cases ServerMain.step_spec hstep with
    | serve hpc _ hnot hserve =>
        obtain rfl : pc = _ := hpc
        exact ServerMain.reads_of_serve (v := ⟨.serve _, system, processes⟩)
          (w := ⟨.serve _, system, _⟩) rfl rfl hserve hnot hreads
    | recvFailed hpc | sendFailed hpc => exact Or.inr trivial
    | handle hpc =>
        obtain rfl : pc = _ := hpc
        cases hreads
  reads_sent {v w} hsent hreads := by
    obtain ⟨pc, system, processes⟩ := v
    cases pc with
    | serve server =>
        obtain ⟨server', hserve, rfl⟩ := Option.map_eq_some_iff.mp hsent
        exact ServerMain.reads_of_serve (v := ⟨.serve _, system, processes⟩)
          (w := ⟨.serve _, system, _⟩) rfl rfl hserve nofun hreads
    | handle | sendResponse | err => cases hreads
    | recvRequest => cases hsent

variable {codecs} {prep : Prepared} {s : Conversation}

theorem agreed_client (h : Launched prep s) : Agreed codecs.client codecs.server s := by
  obtain ⟨⟨pc, allocatePty, localListeners⟩, ⟨vpc, system, processes⟩, forth, back⟩ := s
  intro m ms b hback hreads hencode
  obtain rfl : back = m :: ms := hback
  have hphase := h.phase
  cases pc with
  | sendRequest | setUp | err => cases hreads
  | recvResponse =>
      have hresponse : ∃ res, m = .response res := by
        cases vpc with
        | recvRequest => cases hphase.1
        | handle => cases hphase.2.2.2
        | sendResponse => cases hphase.2.2
        | serve =>
            obtain ⟨-, -, bs, hbs⟩ | ⟨hbegun, -⟩ := hphase
            · exact ⟨_, (List.cons.inj hbs).1⟩
            · cases hbegun
        | err =>
            obtain ⟨-, -, hnil | ⟨hresponse, -⟩⟩ := hphase
            · cases hnil
            · exact ⟨_, (List.cons.inj hresponse).1⟩
      obtain ⟨res, rfl⟩ := hresponse
      have hdeserialize := (codecs.response.accepted_spec hencode).1
      refine ⟨by simp only [Codecs.client, hdeserialize, Option.map_some], ?_⟩
      cases res <;> rfl
  | serve client =>
      obtain ⟨server, as, bs, -, -, hbs⟩ := hphase.serving rfl
      cases bs with
      | nil => cases hbs
      | cons a bs =>
          obtain ⟨rfl, -⟩ := List.cons.inj hbs
          have hdeserialize := (codecs.serverAction.accepted_spec hencode).1
          refine ⟨by simp only [Codecs.client, hdeserialize, Option.map_some], ?_⟩
          obtain ⟨halive, hpc⟩ : client.returned = false ∧ client.side.receiver = .recv := by
            simpa [Codecs.client, Launch.client, ClientMain.reads] using hreads
          obtain ⟨client', hstep⟩ :=
            Option.isSome_iff_exists.mp (Client.receive_enabled halive hpc a)
          simp [Codecs.client, Launch.client, ClientMain.receive, hstep]

theorem agreed_server (h : Launched prep s) : Agreed codecs.server codecs.client s.swap := by
  obtain ⟨⟨pc, allocatePty, localListeners⟩, ⟨vpc, system, processes⟩, forth, back⟩ := s
  intro m ms b hforth hreads hencode
  obtain rfl : forth = m :: ms := hforth
  have hphase := h.phase
  cases vpc with
  | handle | sendResponse | err => cases hreads
  | recvRequest =>
      obtain ⟨-, ⟨-, hnil⟩ | ⟨-, hrequest | ⟨hnil, -⟩⟩⟩ := hphase
      · cases hnil
      · obtain ⟨rfl, -⟩ := List.cons.inj hrequest
        have hdeserialize := (codecs.request.accepted_spec hencode).1
        exact ⟨by simp only [Codecs.server, Joint.swap, hdeserialize, Option.map_some], rfl⟩
      · cases hnil
  | serve server =>
      obtain ⟨-, hnil, -⟩ | ⟨-, ⟨as, has⟩, -⟩ := hphase
      · cases hnil
      · cases as with
        | nil => cases has
        | cons a as =>
            obtain ⟨rfl, -⟩ := List.cons.inj has
            have hdeserialize := (codecs.clientAction.accepted_spec hencode).1
            refine ⟨by simp only [Codecs.server, Joint.swap, hdeserialize, Option.map_some], ?_⟩
            have hpc : server.side.receiver = .recv := of_decide_eq_true hreads
            obtain ⟨server', hstep⟩ :=
              Option.isSome_iff_exists.mp (Server.receive_enabled hpc a)
            simp [Codecs.server, Launch.server, Joint.swap, ServerMain.receive, hstep]

/-- The two sides of a connection and the streams between them. -/
abbrev Wires := Wired framer ClientMain ServerMain Up Down

/-- The TCP connection has been made, with room for so many bytes in either direction. -/
def Wires.new (prep : Prepared) (up down : ℕ+) : Wires :=
  Wired.start framer (.new prep.req prep.localListeners) .new up down

/-- A step of a connection over the streams. -/
def Codecs.step (codecs : Codecs) :
    Wires → Framed.Event ClientEvent ServerEvent → Option Wires :=
  Framed.step codecs.client codecs.server

/-- The steps over the streams that the session admits. -/
def Codecs.Admits (codecs : Codecs) (req : ExecuteRequest)
    (ok : Session.State → Session.Event → Prop) :
    Wires → Framed.Event ClientEvent ServerEvent → Prop :=
  Framed.Admitted codecs.client codecs.server (Launch.Admits req ok)

instance {req : ExecuteRequest} {ok : Session.State → Session.Event → Prop}
    [∀ r e, Decidable (ok r e)] (s : Wires) (e : Framed.Event ClientEvent ServerEvent) :
    Decidable (codecs.Admits req ok s e) :=
  inferInstanceAs (Decidable (Framed.Admitted _ _ _ s e))

theorem client_fits (m : Up) (b : Bytes) (h : codecs.client.encode m = some b) :
    framer.Fits b := by
  cases m with
  | request req => exact (codecs.request.accepted_spec h).2
  | action a => exact (codecs.clientAction.accepted_spec h).2

theorem server_fits (m : Down) (b : Bytes) (h : codecs.server.encode m = some b) :
    framer.Fits b := by
  cases m with
  | response res => exact (codecs.response.accepted_spec h).2
  | action a => exact (codecs.serverAction.accepted_spec h).2

variable {up down : ℕ+}

/-- A run over the streams is a conversation. -/
theorem conversation_of_admitted {ok : Conversation → Event → Prop} {s : Wires}
    (h : Reach codecs.step (Framed.Admitted codecs.client codecs.server ok)
      (Wires.new prep up down) s) :
    (∃ capacity, Reach (Launch.step capacity) ok (Launch.new prep) s.conversation) ∧
      Framed.Flows (orderlyClient codecs) (orderlyServer codecs) s :=
  Framed.refines (orderlyClient codecs) (orderlyServer codecs) client_fits server_fits
    (.new prep.req prep.localListeners) .new up down
    (fun _ _ ha => ⟨agreed_client (launched_of_reach ha), agreed_server (launched_of_reach ha)⟩) h

theorem conversation_of_bytes {s : Wires} (h : Reach codecs.step Any (Wires.new prep up down) s) :
    (∃ capacity, Reach (Launch.step capacity) Any (Launch.new prep) s.conversation) ∧
      Framed.Flows (orderlyClient codecs) (orderlyServer codecs) s :=
  conversation_of_admitted (h.mono fun _ _ _ _ _ => trivial)

/-- However the bytes are cut on their way, and however few the streams have room for, neither
side ever misreads its stream, and what happens after the handshake is a run of the session
that was asked for: whatever holds of its runs holds over the streams. -/
theorem session_of_bytes (codecs : Codecs) (prep : Prepared) (up down : ℕ+)
    (ok : Session.State → Session.Event → Prop) (s : Wires)
    (h : Reach codecs.step (codecs.Admits prep.req ok) (Wires.new prep up down) s) :
    (s.forth.reading ≠ none ∧ s.back.reading ≠ none) ∧
      ∃ capacity ptyMaster ports, Granted prep s.right ptyMaster ports ∧
        Reach (Session.step capacity) ok (Session.new ptyMaster ports)
          (session prep.req s.conversation) := by
  obtain ⟨⟨capacity, hreach⟩, hflows⟩ := conversation_of_admitted h
  exact ⟨⟨hflows.forth.unfailed, hflows.back.unfailed⟩, capacity, session_of_reach hreach⟩

/-- A form for a few messages: the number of the message in the list, as one byte. -/
def listed {T : Type} [DecidableEq T] (ms : List T) : Codec T where
  serialize m := if m ∈ ms ∧ ms.idxOf m < 256 then some [UInt8.ofNat (ms.idxOf m)] else none
  deserialize
    | [b] => ms[b.toNat]?
    | _ => none
  deserialize_serialize {m b} h := by
    split at h
    · rename_i hmem
      obtain rfl := Option.some.inj h
      change ms[(UInt8.ofNat (ms.idxOf m)).toNat]? = some m
      rw [UInt8.toNat_ofNat', Nat.mod_eq_of_lt hmem.2]
      exact List.getElem?_idxOf hmem.1
    · cases h

/-- A request without forwarded ports. -/
def portless (req : ExecuteRequest) (h : req.connectAddrs = []) : Prepared :=
  { req, localListeners := [], length_eq := (congrArg List.length h).symm }

/-- A command on a machine without a terminal. -/
def hello : Prepared :=
  portless { command := .program ["echo", "hi"], envs := [], ptyParam := none
             connectAddrs := [] } rfl

/-- A shell on a terminal. -/
def login : Prepared :=
  portless { command := .loginShell, envs := [("TERM", "xterm")], ptyParam := some ⟨⟨80, 24⟩⟩
             connectAddrs := [] } rfl

def someCodecs : Codecs where
  request := listed [.execute hello.req, .execute login.req]
  response := listed [.ok, .err ⟨["failed to start process", "failed to set window size", "EIO"]⟩]
  clientAction := listed [.stream (.sink .stdout .ack), .stream (.source .stdin .sourceClosed),
    .finished]
  serverAction := listed [.stream (.source .stdout (.data [104, 105])),
    .stream (.sink .stdin .sinkClosed), .exit (.code 0),
    .stream (.source .stdout .sourceClosed), .stream (.source .stderr .sourceClosed), .finished]

/-- A message of five bytes is written in two pieces, and the first four are read in two. -/
def written {ε : Type} : List (Framed.Act ε) := [.write 2, .write 3]

def readBack {ε : Type} : List (Framed.Act ε) := [.read 1, .read 3, .read 1]

/-- What a step of the session is over the streams. -/
def carry : Session.Event → List (Framed.Event ClientEvent ServerEvent)
  | .client (.side (.sender .sent)) => written.map .left
  | .client (.receive _) => readBack.map .left
  | .client e => [.left (.own (.serve e))]
  | .server (.side (.sender .sent)) => written.map .right
  | .server (.receive _) => readBack.map .right
  | .server e => [.right (.own (.serve e))]

/-- A machine on which every call succeeds. -/
def someSystem : System :=
  { lookup := fun _ => .ok [], passwd := some (.ok "/bin/sh"), shell := none
    openPty := .ok (.accepting ⟨0, 0, 0, 0⟩), spawn := .ok (), tryClone := .ok () }

/-- The server has got the request, and has an answer to it. -/
def requested (sys : System) : List (Framed.Event ClientEvent ServerEvent) :=
  written.map .left ++ readBack.map .right ++ [.right (.own (.handle sys))]

def launched : List (Framed.Event ClientEvent ServerEvent) :=
  requested someSystem ++ written.map .right ++ readBack.map .left ++
    [.left (.own (.setUp (.ok ())))]

theorem session_of_bytes_heardOut :
    ∃ s, run someCodecs.step (Wires.new hello 5 5)
        (launched ++ Session.heardOut.flatMap carry) = some s ∧
      s.left.exit = some 0 ∧ s.back.bytes = [] ∧ s.back.reading ≠ none ∧
      ∃ capacity, Reach (Session.step capacity) Any (Session.new none [])
        (session hello.req s.conversation) := by
  have hrun : (run someCodecs.step (Wires.new hello 5 5)
      (launched ++ Session.heardOut.flatMap carry)).any (fun s =>
        decide (s.left.exit = some 0 ∧ s.back.bytes = [])) = true := by decide +kernel
  obtain ⟨s, hs, hfacts⟩ := (Option.any_eq_true _ _).mp hrun
  obtain ⟨hexit, hbytes⟩ := of_decide_eq_true hfacts
  have hreach : Reach someCodecs.step (someCodecs.Admits hello.req Any) (Wires.new hello 5 5) s :=
    (reach_of_run hs).mono fun _ _ _ _ _ _ _ => trivial
  obtain ⟨⟨-, hback⟩, capacity, ptyMaster, ports, hgranted, hsession⟩ :=
    session_of_bytes someCodecs hello 5 5 Any s hreach
  obtain rfl : ptyMaster = none := Option.map_eq_none_iff.mp hgranted.winsz
  obtain rfl : ports = [] := List.map_eq_nil_iff.mp hgranted.listeners
  exact ⟨s, hs, hexit, hbytes, hback, capacity, hsession⟩

end Rlirsh.Launch
