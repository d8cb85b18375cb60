import Rlirsh.Framing

/-!
A sequence of calls of `send_message` and `recv_message` on one connection, such as the
handshake and the actions that follow it: whole calls, with everything they can fail of.
-/

namespace Rlirsh.Exchange

open Rlirsh.Protocol
open Rlirsh.Framing

/-- What `send_message` uses of `bincode` besides. -/
structure Bincode (T : Type) extends Codec T where
  serializedSize : T → Except String Nat
  serializedSize_eq {m : T} {b : Bytes} (h : serialize m = some b) :
    serializedSize m = .ok b.length

/-- How the transport behaves in one call: how many bytes it takes before it fails, and
whether it can be flushed. -/
structure Writer where
  room : Option Nat
  flushes : Bool
deriving DecidableEq, Repr

/-- `AsyncWriteExt::write_all`: whether it succeeds, and the bytes it has written. -/
def Writer.writeAll (writer : Writer) (bytes : Bytes) : Bool × Bytes :=
  match writer.room with
  | none => (true, bytes)
  | some n => (decide (bytes.length ≤ n), bytes.take n)

/-- The transport has taken `n` bytes. -/
def Writer.advance (writer : Writer) (n : Nat) : Writer :=
  { writer with room := writer.room.map fun room => room - n }

/-- What a call of `send_message` comes to. -/
inductive Sent
  | ok
  | error (msg : String)
  | panic
deriving DecidableEq, Repr

/-- `u32::try_from`. -/
def tryFrom (n : Nat) : Option Nat := if n < 2 ^ 32 then some n else none

variable {T : Type}

/-- `send_message`, with the bytes it has written. -/
def sendMessage (bincode : Bincode T) (writer : Writer) (data : T) : Sent × Bytes :=
  match bincode.serializedSize data with
  | .error msg => (.error msg, [])
  | .ok size =>
      if size ≤ messageSizeLimit then
        match tryFrom size with
        | none => (.panic, [])
        | some size =>
            match writer.writeAll (encodeU32 size) with
            | (false, written) => (.error "failed to send message size", written)
            | (true, written) =>
                match bincode.serialize data with
                | none => (.error "failed to serialize message", written)
                | some bytes =>
                    match (writer.advance sizeWidth).writeAll bytes with
                    | (false, written') =>
                        (.error "failed to write message", written ++ written')
                    | (true, written') =>
                        if writer.flushes then (.ok, written ++ written')
                        else (.error "failed to flush stream", written ++ written')
      else (.error s!"serialized size is too large, size={size}", [])

/-- `read_exact`, and the loop of `read_u32`.  The transport delivers the chunks one after
the other; a read gets what is left of the first one, or as much of it as it asks for. -/
def readExact : Nat → List Bytes → Option (Bytes × List Bytes)
  | 0, chunks => some ([], chunks)
  | _ + 1, [] => none
  | n + 1, chunk :: chunks =>
      if chunk.length ≤ n + 1 then
        (readExact (n + 1 - chunk.length) chunks).map fun (bytes, rest) => (chunk ++ bytes, rest)
      else some (chunk.take (n + 1), chunk.drop (n + 1) :: chunks)

/-- `recv_message`, with the chunks that are left to read. -/
def recvMessage (codec : Codec T) (chunks : List Bytes) : Except String T × List Bytes :=
  match readExact sizeWidth chunks with
  | none => (.error "failed to receive message size", [])
  | some (size, chunks) =>
      let size := decodeU32 size
      if size ≤ messageSizeLimit then
        match readExact size chunks with
        | none => (.error "failed to receive message", [])
        | some (bytes, chunks) =>
            match codec.deserialize bytes with
            | none => (.error "failed to deserialize message", chunks)
            | some data => (.ok data, chunks)
      else (.error s!"message size is too large, size={size}", chunks)

theorem writeAll_ok {writer : Writer} {bytes written : Bytes}
    (h : writer.writeAll bytes = (true, written)) : written = bytes := by
  unfold Writer.writeAll at h
  split at h
  · exact (Prod.mk.inj h).2.symm
  · obtain ⟨hle, rfl⟩ := Prod.mk.inj h
    exact List.take_of_length_le (of_decide_eq_true hle)

theorem tryFrom_of_le {n : Nat} (hle : n ≤ messageSizeLimit) : tryFrom n = some n := by
  unfold messageSizeLimit at hle
  rw [tryFrom, if_pos (by omega)]

theorem sendMessage_ne_panic (bincode : Bincode T) (writer : Writer) (data : T) :
    (sendMessage bincode writer data).1 ≠ .panic := by
  intro h
  unfold sendMessage at h
  split at h
  · cases h
  · split at h
    · rename_i hle
      simp only [tryFrom_of_le hle] at h
      repeat' split at h
      all_goals cases h
    · cases h

theorem sendMessage_ok {bincode : Bincode T} {writer : Writer} {data : T}
    (h : (sendMessage bincode writer data).1 = .ok) :
    ∃ bytes, bincode.accepted data = some bytes ∧
      bincode.serializedSize data = .ok bytes.length ∧
      (sendMessage bincode writer data).2 = frame bytes := by
  generalize hsend : sendMessage bincode writer data = sent at h ⊢
  obtain ⟨res, written⟩ := sent
  obtain rfl : res = .ok := h
  unfold sendMessage at hsend
  split at hsend
  · cases hsend
  · rename_i size hsize
    split at hsend
    · rename_i hle
      simp only [tryFrom_of_le hle] at hsend
      split at hsend
      · cases hsend
      · rename_i head hhead
        split at hsend
        · cases hsend
        · rename_i bytes hserialize
          split at hsend
          · cases hsend
          · rename_i body hbody
            rw [Prod.ext_iff] at hsend
            have hlength : size = bytes.length := by
              rw [bincode.serializedSize_eq hserialize] at hsize
              exact (Except.ok.inj hsize).symm
            refine ⟨bytes, ?_, by rw [hsize, hlength], ?_⟩
            · rw [Codec.accepted, hserialize, Option.filter_some, if_pos]
              simpa [hlength] using hle
            · rw [frame, ← hlength, ← writeAll_ok hhead, ← writeAll_ok hbody]
              split at hsend
              · exact hsend.2.symm
              · cases hsend.1
    · cases hsend

theorem sendMessage_tooLarge {bincode : Bincode T} {data : T} {n : Nat}
    (hsize : bincode.serializedSize data = .ok n) (hlarge : messageSizeLimit < n)
    (writer : Writer) : sendMessage bincode writer data =
      (.error s!"serialized size is too large, size={n}", []) := by
  rw [sendMessage, hsize]
  exact if_neg (Nat.not_le.mpr hlarge)

theorem readExact_spec (n : Nat) (chunks : List Bytes) (hle : n ≤ chunks.flatten.length) :
    ∃ rest, readExact n chunks = some (chunks.flatten.take n, rest) ∧
      rest.flatten = chunks.flatten.drop n := by
  induction chunks generalizing n with
  | nil =>
      obtain rfl : n = 0 := Nat.le_zero.mp hle
      exact ⟨[], rfl, rfl⟩
  | cons chunk chunks ih =>
      rw [List.flatten_cons, List.length_append] at hle
      rcases n with _ | n
      · exact ⟨chunk :: chunks, rfl, rfl⟩
      · rw [readExact, List.flatten_cons, List.take_append, List.drop_append]
        by_cases hchunk : chunk.length ≤ n + 1
        · obtain ⟨rest, hread, hrest⟩ := ih (n + 1 - chunk.length) (by omega)
          refine ⟨rest, ?_, ?_⟩
          · rw [if_pos hchunk, hread, List.take_of_length_le hchunk]
            rfl
          · rw [hrest, List.drop_of_length_le hchunk, List.nil_append]
        · have hzero : n + 1 - chunk.length = 0 := by omega
          refine ⟨chunk.drop (n + 1) :: chunks, ?_, ?_⟩
          · rw [if_neg hchunk, hzero, List.take_zero, List.append_nil]
          · rw [List.flatten_cons, hzero, List.drop_zero]

theorem recvMessage_frame (codec : Codec T) {data : T} {bytes rest : Bytes} {chunks : List Bytes}
    (haccepted : codec.accepted data = some bytes)
    (hchunks : chunks.flatten = frame bytes ++ rest) :
    ∃ chunks', recvMessage codec chunks = (.ok data, chunks') ∧ chunks'.flatten = rest := by
  obtain ⟨hdeserialize, hle⟩ := codec.accepted_spec haccepted
  have hlength := length_encodeU32 bytes.length
  rw [frame, List.append_assoc] at hchunks
  obtain ⟨chunks₁, hread₁, hrest₁⟩ := readExact_spec sizeWidth chunks (by
    rw [hchunks, List.length_append, hlength]
    exact Nat.le_add_right _ _)
  rw [hchunks, List.take_left' hlength] at hread₁
  rw [hchunks, List.drop_left' hlength] at hrest₁
  obtain ⟨chunks₂, hread₂, hrest₂⟩ := readExact_spec bytes.length chunks₁ (by
    rw [hrest₁, List.length_append]
    exact Nat.le_add_right _ _)
  rw [hrest₁, List.take_left' rfl] at hread₂
  rw [hrest₁, List.drop_left' rfl] at hrest₂
  refine ⟨chunks₂, ?_, hrest₂⟩
  rw [recvMessage, hread₁]
  simp only [decodeU32_of_accepted hle]
  rw [if_pos hle, hread₂]
  simp only [hdeserialize]

theorem recvMessage_tooLarge (codec : Codec T) (chunks : List Bytes)
    (hread : sizeWidth ≤ chunks.flatten.length)
    (hlarge : messageSizeLimit < decodeU32 (chunks.flatten.take sizeWidth)) :
    ∃ msg, (recvMessage codec chunks).1 = .error msg ∧
      (recvMessage codec chunks).2.flatten = chunks.flatten.drop sizeWidth := by
  obtain ⟨rest, hsize, hrest⟩ := readExact_spec sizeWidth chunks hread
  rw [recvMessage, hsize]
  simp only [if_neg (Nat.not_le.mpr hlarge)]
  exact ⟨_, rfl, hrest⟩

theorem receive_append (codec : Codec T) {reading next : Reading} {chunk chunk' : Bytes}
    (hmore : codec.receive reading chunk = .more next) (hne : chunk' ≠ [])
    (hle : (chunk ++ chunk').length ≤ reading.wanted) :
    codec.receive next chunk' = codec.receive reading (chunk ++ chunk') := by
  have hpos := List.length_pos_of_ne_nil hne
  rw [List.length_append] at hle
  cases reading with
  | size got =>
      simp only [Reading.wanted] at hle
      simp only [Codec.receive] at hmore ⊢
      rw [if_pos (by rw [List.length_append]; omega)] at hmore
      obtain rfl := Outcome.more.inj hmore
      simp only [List.append_assoc]
  | body n got =>
      simp only [Codec.receive, Codec.receiveBody] at hmore ⊢
      simp only [Reading.wanted] at hle
      rw [if_pos (by rw [List.length_append]; omega)] at hmore
      obtain rfl := Outcome.more.inj hmore
      simp only [List.append_assoc]

/-- What the automaton makes of a size and the bytes of a message. -/
def receiveBoth (codec : Codec T) (size bytes : Bytes) : Outcome T :=
  match codec.receive .start size with
  | .more reading => codec.receive reading bytes
  | outcome => outcome

theorem receive_start (codec : Codec T) {size : Bytes} (hlength : size.length = sizeWidth) :
    codec.receive .start size =
      if decodeU32 size ≤ messageSizeLimit then codec.receiveBody (decodeU32 size) []
      else .error := by
  simp only [Codec.receive, Reading.start, List.nil_append, hlength, if_neg (Nat.lt_irrefl _)]

theorem receiveBoth_of_le (codec : Codec T) {size bytes : Bytes} (hlength : size.length = sizeWidth)
    (hle : decodeU32 size ≤ messageSizeLimit) (hlength' : bytes.length = decodeU32 size) :
    receiveBoth codec size bytes = codec.receiveBody (decodeU32 size) bytes := by
  rw [receiveBoth, receive_start codec hlength, if_pos hle]
  rcases bytes with _ | ⟨b, bytes⟩
  · rw [← hlength']
    simp only [Codec.receiveBody, List.length_nil, if_neg (Nat.lt_irrefl 0)]
    cases codec.deserialize [] <;> rfl
  · have hpos : ([] : Bytes).length < decodeU32 size := by
      rw [← hlength']
      exact Nat.succ_pos _
    conv_lhs => rw [Codec.receiveBody, if_pos hpos]
    rfl

theorem recvMessage_ok_iff (codec : Codec T) {chunks chunks₁ chunks₂ : List Bytes}
    {size bytes : Bytes} (hsize : readExact sizeWidth chunks = some (size, chunks₁))
    (hlength : size.length = sizeWidth)
    (hbytes : readExact (decodeU32 size) chunks₁ = some (bytes, chunks₂))
    (hlength' : bytes.length = decodeU32 size) (data : T) :
    recvMessage codec chunks = (.ok data, chunks₂) ↔
      receiveBoth codec size bytes = .message data := by
  rw [recvMessage, hsize]
  by_cases hle : decodeU32 size ≤ messageSizeLimit
  · rw [receiveBoth_of_le codec hlength hle hlength', Codec.receiveBody, if_neg (by omega)]
    simp only [if_pos hle, hbytes]
    cases codec.deserialize bytes with
    | none => simp
    | some data' => simp
  · rw [receiveBoth, receive_start codec hlength, if_neg hle]
    simp [hle]

section

variable {I : Type} {M : I → Type}

/-- A message, and how the transport behaves while it is sent. -/
structure Message (M : I → Type) where
  type : I
  data : M type
  writer : Writer

/-- Successive calls of `send_message`, with what they have come to and written. -/
def sendMessages (bincode : ∀ i, Bincode (M i)) : List (Message M) → List Sent × Bytes
  | [] => ([], [])
  | m :: ms =>
      let (res, written) := sendMessage (bincode m.type) m.writer m.data
      let (ress, written') := sendMessages bincode ms
      (res :: ress, written ++ written')

/-- Successive calls of `recv_message` at the given types. -/
def recvMessages (bincode : ∀ i, Bincode (M i)) :
    List I → List Bytes → List ((i : I) × Except String (M i)) × List Bytes
  | [], chunks => ([], chunks)
  | i :: is, chunks =>
      let (res, chunks) := recvMessage (bincode i).toCodec chunks
      let (ress, chunks) := recvMessages bincode is chunks
      (⟨i, res⟩ :: ress, chunks)

variable {bincode : ∀ i, Bincode (M i)}

theorem recvMessages_append (is js : List I) (chunks : List Bytes) :
    (recvMessages bincode (is ++ js) chunks).2 =
      (recvMessages bincode js (recvMessages bincode is chunks).2).2 := by
  induction is generalizing chunks with
  | nil => rfl
  | cons i is ih => exact ih _

theorem sendMessages_append (ms ns : List (Message M)) :
    sendMessages bincode (ms ++ ns) =
      ((sendMessages bincode ms).1 ++ (sendMessages bincode ns).1,
        (sendMessages bincode ms).2 ++ (sendMessages bincode ns).2) := by
  induction ms with
  | nil => rfl
  | cons m ms ih => simp only [List.cons_append, sendMessages, ih, List.append_assoc]

theorem recvMessages_sent {ms : List (Message M)} {rest : Bytes} {chunks : List Bytes}
    (hsent : ∀ res ∈ (sendMessages bincode ms).1, res = .ok)
    (hchunks : chunks.flatten = (sendMessages bincode ms).2 ++ rest) :
    (recvMessages bincode (ms.map Message.type) chunks).1 =
        ms.map (fun m => ⟨m.type, .ok m.data⟩) ∧
      (recvMessages bincode (ms.map Message.type) chunks).2.flatten = rest := by
  induction ms generalizing chunks with
  | nil => exact ⟨rfl, hchunks⟩
  | cons m ms ih =>
      simp only [sendMessages, List.mem_cons, forall_eq_or_imp] at hsent
      obtain ⟨hm, hms⟩ := hsent
      obtain ⟨bytes, haccepted, -, hframe⟩ := sendMessage_ok hm
      simp only [sendMessages, hframe, List.append_assoc] at hchunks
      obtain ⟨chunks', hrecv, hrest⟩ :=
        recvMessage_frame (bincode m.type).toCodec haccepted hchunks
      obtain ⟨hress, hleft⟩ := ih hms hrest
      simp only [List.map_cons, recvMessages, hrecv, hress]
      exact ⟨trivial, hleft⟩

/-- What is received is what was sent, each call taking its own frame; what is accepted is
within the limit of the other side, and what is not within it is rejected unwritten, or
unread. -/
theorem framing_exact (bincode : ∀ i, Bincode (M i)) :
    (∀ (ms : List (Message M)) (rest : Bytes) (chunks : List Bytes),
      (∀ res ∈ (sendMessages bincode ms).1, res = .ok) →
      chunks.flatten = (sendMessages bincode ms).2 ++ rest →
      (recvMessages bincode (ms.map Message.type) chunks).1 =
          ms.map (fun m => ⟨m.type, .ok m.data⟩) ∧
        (recvMessages bincode (ms.map Message.type) chunks).2.flatten = rest ∧
        ∀ before m after, ms = before ++ m :: after → ∃ size,
          (bincode m.type).serializedSize m.data = .ok size ∧
          (recvMessages bincode ((before ++ [m]).map Message.type) chunks).2.flatten =
            (recvMessages bincode (before.map Message.type) chunks).2.flatten.drop
              (sizeWidth + size)) ∧
    (∀ m : Message M, (sendMessage (bincode m.type) m.writer m.data).1 = .ok → ∃ size,
      (bincode m.type).serializedSize m.data = .ok size ∧
      (sendMessage (bincode m.type) m.writer m.data).2.length = sizeWidth + size ∧
      decodeU32 ((sendMessage (bincode m.type) m.writer m.data).2.take sizeWidth) = size ∧
      size ≤ messageSizeLimit) ∧
    (∀ m : Message M, (sendMessage (bincode m.type) m.writer m.data).1 ≠ .panic) ∧
    (∀ (m : Message M) (size : Nat), (bincode m.type).serializedSize m.data = .ok size →
      messageSizeLimit < size →
      sendMessage (bincode m.type) m.writer m.data =
        (.error s!"serialized size is too large, size={size}", [])) ∧
    ∀ (i : I) (chunks : List Bytes), sizeWidth ≤ chunks.flatten.length →
      messageSizeLimit < decodeU32 (chunks.flatten.take sizeWidth) →
      ∃ msg, (recvMessage (bincode i).toCodec chunks).1 = .error msg ∧
        (recvMessage (bincode i).toCodec chunks).2.flatten = chunks.flatten.drop sizeWidth := by
  refine ⟨?_, ?_, fun m => sendMessage_ne_panic _ _ _,
    fun m size hsize hlarge => sendMessage_tooLarge hsize hlarge _,
    fun i chunks hread hlarge => recvMessage_tooLarge _ chunks hread hlarge⟩
  · intro ms rest chunks hsent hchunks
    obtain ⟨hress, hrest⟩ := recvMessages_sent hsent hchunks
    refine ⟨hress, hrest, ?_⟩
    rintro before m after rfl
    simp only [sendMessages_append, sendMessages, List.mem_append, List.mem_cons] at hsent hchunks
    obtain ⟨bytes, -, hsize, hframe⟩ := sendMessage_ok (hsent _ (Or.inr (Or.inl rfl)))
    have hsentBefore : ∀ res ∈ (sendMessages bincode before).1, res = .ok :=
      fun res hres => hsent res (Or.inl hres)
    have hsentOne : ∀ res ∈ (sendMessages bincode [m]).1, res = .ok := by
      simpa [sendMessages] using hsent _ (Or.inr (Or.inl rfl))
    obtain ⟨-, hbefore⟩ :=
      recvMessages_sent hsentBefore (hchunks.trans (List.append_assoc _ _ _))
    obtain ⟨hm, hm'⟩ := recvMessages_sent hsentOne
      (hbefore.trans (by simp only [sendMessages, List.append_nil, List.append_assoc]; rfl))
    refine ⟨bytes.length, hsize, ?_⟩
    rw [List.map_append, recvMessages_append, hm', hbefore, hframe, List.append_assoc]
    refine (List.drop_left' ?_).symm
    rw [frame, List.length_append, length_encodeU32]
  · intro m hok
    obtain ⟨bytes, haccepted, hsize, hframe⟩ := sendMessage_ok hok
    have hle := ((bincode m.type).accepted_spec haccepted).2
    rw [hframe]
    refine ⟨bytes.length, hsize, ?_, ?_, hle⟩
    · rw [frame, List.length_append, length_encodeU32]
    · rw [frame, List.take_left' (length_encodeU32 _), decodeU32_of_accepted hle]

/-- The messages of the handshake are bytes here, those that follow it byte strings. -/
def Either : Bool → Type
  | true => UInt8
  | false => Bytes

def byte : Bincode UInt8 where
  serialize b := some [b]
  deserialize bytes := bytes.head?
  deserialize_serialize h := by
    obtain rfl := Option.some.inj h
    rfl
  serializedSize _ := .ok 1
  serializedSize_eq h := by
    obtain rfl := Option.some.inj h
    rfl

def byteString : Bincode Bytes where
  serialize := some
  deserialize := some
  deserialize_serialize h := h.symm
  serializedSize bytes := .ok bytes.length
  serializedSize_eq h := by rw [Option.some.inj h]

def either : ∀ i, Bincode (Either i)
  | true => byte
  | false => byteString

theorem framing_exact_handshake :
    let ms : List (Message Either) := [⟨true, (7 : UInt8), ⟨none, true⟩⟩,
      ⟨false, ([8, 9] : Bytes), ⟨some 6, true⟩⟩]
    let chunks : List Bytes := [[0], [0, 0, 1, 7, 0, 0], [0, 2, 8], [9, 5]]
    (recvMessages either [true, false] chunks).1 =
        ms.map (fun m => ⟨m.type, .ok m.data⟩) ∧
      (recvMessages either [true, false] chunks).2.flatten = [5] := by
  intro ms chunks
  obtain ⟨hexact, -⟩ := framing_exact either
  obtain ⟨hress, hrest, -⟩ := hexact ms [5] chunks
    (by
      intro res hres
      have hok : (sendMessages either ms).1 = [.ok, .ok] := by decide
      rw [hok] at hres
      simpa using hres)
    (by decide)
  exact ⟨hress, hrest⟩

end

end Rlirsh.Exchange
