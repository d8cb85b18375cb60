import Mathlib.Algebra.Group.Nat.Defs
import Rlirsh.Protocol

namespace Rlirsh.Framing

open Rlirsh.Protocol

/-- What is used of `bincode`: `serialize`, whose length is `serialized_size`, and
`deserialize`, its left inverse. -/
structure Codec (T : Type) where
  serialize : T → Option Bytes
  deserialize : Bytes → Option T
  deserialize_serialize {m : T} {b : Bytes} (h : serialize m = some b) :
    deserialize b = some m

/-- `MESSAGE_SIZE_LIMIT`, 1MiB. -/
def messageSizeLimit : Nat := 1024 * 1024

/-- Width of the size in front of a message. -/
def sizeWidth : Nat := 4

/-- `write_u32`: four bytes, the most significant first. -/
def encodeU32 (n : Nat) : Bytes :=
  [UInt8.ofNat (n / 16777216), UInt8.ofNat (n / 65536), UInt8.ofNat (n / 256), UInt8.ofNat n]

/-- `read_u32` on the bytes read. -/
def decodeU32 (bytes : Bytes) : Nat :=
  bytes.foldl (fun n b => n * 256 + b.toNat) 0

@[simp] theorem length_encodeU32 (n : Nat) : (encodeU32 n).length = sizeWidth := rfl

theorem decodeU32_encodeU32 {n : Nat} (h : n < 2 ^ 32) : decodeU32 (encodeU32 n) = n := by
  simp only [decodeU32, encodeU32, List.foldl_cons, List.foldl_nil, UInt8.toNat_ofNat']
  omega

variable {T : Type}

/-- `send_message` accepts the message: it can be serialized, within the limit. -/
def Codec.accepted (codec : Codec T) (m : T) : Option Bytes :=
  (codec.serialize m).filter fun b => b.length ≤ messageSizeLimit

/-- The bytes `send_message` writes for an accepted message with the form `b`. -/
def frame (b : Bytes) : Bytes := encodeU32 b.length ++ b

/-- The bytes of a sequence of accepted messages. -/
def Codec.frames (codec : Codec T) (ms : List T) : Bytes :=
  ms.flatMap fun m => (codec.accepted m).elim [] frame

@[simp] theorem Codec.frames_nil (codec : Codec T) : codec.frames [] = [] := rfl

theorem Codec.frames_append (codec : Codec T) (ms ns : List T) :
    codec.frames (ms ++ ns) = codec.frames ms ++ codec.frames ns := by
  simp [Codec.frames]

theorem Codec.frames_cons (codec : Codec T) {m : T} {b : Bytes}
    (h : codec.accepted m = some b) (ms : List T) :
    codec.frames (m :: ms) = frame b ++ codec.frames ms := by
  simp [Codec.frames, h]

theorem Codec.accepted_spec (codec : Codec T) {m : T} {b : Bytes}
    (h : codec.accepted m = some b) :
    codec.deserialize b = some m ∧ b.length ≤ messageSizeLimit := by
  obtain ⟨hserialize, hle⟩ := Option.filter_eq_some_iff.mp h
  exact ⟨codec.deserialize_serialize hserialize, by simpa using hle⟩

/-- Where `recv_message` is: in `read_u32` or in `read_exact`, with what it has read. -/
inductive Reading
  | size (got : Bytes)
  | body (n : Nat) (got : Bytes)
deriving DecidableEq, Repr

/-- `recv_message` has just been called. -/
def Reading.start : Reading := .size []

/-- The bytes the current read still asks for. -/
def Reading.wanted : Reading → Nat
  | .size got => sizeWidth - got.length
  | .body n got => n - got.length

/-- The bytes of the frame that have been read. -/
def Reading.consumed : Reading → Bytes
  | .size got => got
  | .body n got => encodeU32 n ++ got

/-- What a call of `recv_message` comes to. -/
inductive Outcome (T : Type)
  | more (reading : Reading)
  | message (m : T)
  | error
deriving DecidableEq, Repr

/-- `read_exact`, which asks for no byte when the size is 0, and `deserialize`. -/
def Codec.receiveBody (codec : Codec T) (n : Nat) (got : Bytes) : Outcome T :=
  if got.length < n then .more (.body n got)
  else
    match codec.deserialize got with
    | some m => .message m
    | none => .error

/-- A read returns `chunk`. -/
def Codec.receive (codec : Codec T) (reading : Reading) (chunk : Bytes) : Outcome T :=
  match reading with
  | .size got =>
      let got := got ++ chunk
      if got.length < sizeWidth then .more (.size got)
      else if decodeU32 got ≤ messageSizeLimit then codec.receiveBody (decodeU32 got) []
      else .error
  | .body n got => codec.receiveBody n (got ++ chunk)

/-- The states in which a read is under way. -/
def Reading.Good : Reading → Prop
  | .size got => got.length < sizeWidth
  | .body n got => got.length < n ∧ n ≤ messageSizeLimit

theorem Reading.good_start : Reading.start.Good := by
  simp [Reading.start, Reading.Good, sizeWidth]

theorem decodeU32_of_accepted {b : Bytes} (hle : b.length ≤ messageSizeLimit) :
    decodeU32 (encodeU32 b.length) = b.length :=
  decodeU32_encodeU32 (by simp only [messageSizeLimit] at hle; omega)

/-- What a read makes of the bytes of well formed frames: the call goes on, or it
returns the first message and has consumed exactly its frame. -/
def Received (codec : Codec T) (reading : Reading) (chunk : Bytes) (ms : List T) :
    Outcome T → Prop
  | .more next => next.Good ∧ next.consumed = reading.consumed ++ chunk
  | .message m => ∃ ns, ms = m :: ns ∧
      codec.frames ms = reading.consumed ++ chunk ++ codec.frames ns
  | .error => False

theorem receiveBody_spec (codec : Codec T) {reading : Reading} {chunk : Bytes} {m : T}
    {b got : Bytes} (ns : List T) (haccepted : codec.accepted m = some b)
    (hgot : got <+: b) (hconsumed : encodeU32 b.length ++ got = reading.consumed ++ chunk) :
    Received codec reading chunk (m :: ns) (codec.receiveBody b.length got) := by
  obtain ⟨hdeserialize, hlimit⟩ := codec.accepted_spec haccepted
  unfold Codec.receiveBody
  by_cases hlt : got.length < b.length
  · rw [if_pos hlt]
    exact ⟨⟨hlt, hlimit⟩, hconsumed⟩
  · have heq : got = b := hgot.eq_of_length (by have := hgot.length_le; omega)
    rw [if_neg hlt, heq, hdeserialize]
    exact ⟨ns, rfl, by rw [codec.frames_cons haccepted, frame, ← hconsumed, heq]⟩

/-- A read out of a sequence of accepted messages does not fail, and the call returns
the first of them when its frame is complete. -/
theorem receive_spec (codec : Codec T) {reading : Reading} {chunk rest : Bytes} {ms : List T}
    (hgood : reading.Good) (hne : chunk ≠ []) (hle : chunk.length ≤ reading.wanted)
    (haccepted : ∀ m ∈ ms, (codec.accepted m).isSome)
    (heq : reading.consumed ++ chunk ++ rest = codec.frames ms) :
    Received codec reading chunk ms (codec.receive reading chunk) := by
  cases ms with
  | nil => simp [hne] at heq
  | cons m ns =>
      obtain ⟨b, hb⟩ := Option.isSome_iff_exists.mp (haccepted m (by simp))
      have hlimit := (codec.accepted_spec hb).2
      rw [codec.frames_cons hb, frame, List.append_assoc (encodeU32 _)] at heq
      cases reading with
      | size got =>
          simp only [Reading.Good, Reading.wanted, Reading.consumed] at hgood hle heq
          simp only [Codec.receive]
          by_cases hlt : (got ++ chunk).length < sizeWidth
          · rw [if_pos hlt]
            exact ⟨hlt, rfl⟩
          · have hlength : (got ++ chunk).length = (encodeU32 b.length).length := by
              simp only [List.length_append, length_encodeU32] at hlt ⊢
              omega
            obtain ⟨hhead, -⟩ := List.append_inj heq hlength
            rw [if_neg hlt, hhead, decodeU32_of_accepted hlimit, if_pos hlimit]
            exact receiveBody_spec codec ns hb List.nil_prefix (by simp [Reading.consumed, hhead])
      | body n got =>
          simp only [Reading.Good, Reading.wanted, Reading.consumed] at hgood hle heq
          obtain ⟨hhead, htail⟩ := List.append_inj
            (by simpa only [List.append_assoc] using heq) (by simp)
          have hn : n = b.length := by
            rw [← decodeU32_of_accepted hlimit, ← hhead, decodeU32_encodeU32]
            have := hgood.2
            simp only [messageSizeLimit] at this
            omega
          have hwhole : got ++ chunk <+: b ++ codec.frames ns := ⟨rest, by simpa using htail⟩
          have hbefore : got ++ chunk <+: b := by
            apply List.prefix_of_prefix_length_le hwhole (List.prefix_append _ _)
            simp only [List.length_append]
            omega
          simp only [Codec.receive]
          rw [hn]
          exact receiveBody_spec codec ns hb hbefore (by simp [Reading.consumed])

end Rlirsh.Framing
