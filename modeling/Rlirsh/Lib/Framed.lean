import Mathlib.Data.PNat.Defs
import Rlirsh.Lib.Parties

/-!
The conversation of two parties over streams of bytes.  A message is written in frames and
read again in whatever pieces the stream comes in; as long as each party knows of which kind
the next message is, that is a conversation over channels of messages.
-/

namespace Rlirsh.Lib.Framed

open Rlirsh.Lib.Machine
open Rlirsh.Lib.Parties

universe u v w x

/-- What a read makes of what has been read before. -/
inductive Fed (Reading : Type v) (β : Type u)
  | more (reading : Reading)
  | body (b : List β)
  | error
deriving DecidableEq, Repr

/-- How frames are made, and how the body of a frame is read. -/
structure Framer (β : Type u) where
  frame : List β → List β
  Reading : Type v
  start : Reading
  wanted : Reading → Nat
  feed : Reading → List β → Fed Reading β
  consumed : Reading → List β
  Good : Reading → Prop
  Fits : List β → Prop
  good_start : Good start
  consumed_start : consumed start = []
  wanted_pos {reading : Reading} (good : Good reading) : 0 < wanted reading
  consumed_ne {reading : Reading} {b rest : List β} (good : Good reading) (fits : Fits b) :
    consumed reading ≠ frame b ++ rest
  feed_ne_error {reading : Reading} {chunk rest : List β} {bs : List (List β)}
    (good : Good reading) (hne : chunk ≠ []) (hle : chunk.length ≤ wanted reading)
    (fits : ∀ b ∈ bs, Fits b) (heq : consumed reading ++ chunk ++ rest = bs.flatMap frame) :
    feed reading chunk ≠ .error
  feed_more {reading next : Reading} {chunk rest : List β} {bs : List (List β)}
    (good : Good reading) (hne : chunk ≠ []) (hle : chunk.length ≤ wanted reading)
    (fits : ∀ b ∈ bs, Fits b) (heq : consumed reading ++ chunk ++ rest = bs.flatMap frame)
    (hfeed : feed reading chunk = .more next) :
    Good next ∧ consumed next = consumed reading ++ chunk
  feed_body {reading : Reading} {chunk rest b : List β} {bs : List (List β)}
    (good : Good reading) (hne : chunk ≠ []) (hle : chunk.length ≤ wanted reading)
    (fits : ∀ b ∈ bs, Fits b) (heq : consumed reading ++ chunk ++ rest = bs.flatMap frame)
    (hfeed : feed reading chunk = .body b) :
    ∃ bs', bs = b :: bs' ∧ rest = bs'.flatMap frame

/-- One direction of a stream, with room for some bytes on their way. -/
structure Pipe {β : Type u} (F : Framer.{u, v} β) (M : Type w) where
  room : ℕ+
  -- the message that is being written, and what is left of its frame
  writing : Option (M × List β)
  bytes : List β
  -- where the reader is, if it has not failed
  reading : Option F.Reading
  -- history: the messages that are written and not read
  whole : List M

variable {β : Type u} {F : Framer.{u, v} β} {M : Type w}

def Pipe.empty (room : ℕ+) : Pipe F M :=
  { room, writing := none, bytes := [], reading := some F.start, whole := [] }

/-- A party whose messages have a form as bytes.  What it makes of bytes depends on what it
waits for. -/
structure Coded (β : Type u) (σ : Type v) (ε : Type x) (Out In : Type w) extends
    Party σ ε Out In where
  encode : Out → Option (List β)
  decode : σ → List β → Option In

/-- The stream takes `n` bytes of the message `m`, as far as it has room; whether that was the
last of them. -/
def Pipe.write (encode : M → Option (List β)) (m : M) (n : Nat) (q : Pipe F M) :
    Option (Bool × Pipe F M) :=
  match encode m with
  | none => none
  | some b =>
      let rest := (q.writing.map Prod.snd).getD (F.frame b)
      if 0 < n ∧ n ≤ rest.length ∧ q.bytes.length + n ≤ q.room then
        if n < rest.length then
          some (false, { q with writing := some (m, rest.drop n), bytes := q.bytes ++ rest.take n })
        else
          some (true, { q with writing := none, bytes := q.bytes ++ rest, whole := q.whole ++ [m] })
      else none

/-- A read gets `n` bytes, and what it comes to. -/
def Pipe.read (decode : List β → Option M) (n : Nat) (q : Pipe F M) :
    Option (Option M × Pipe F M) :=
  match q.reading with
  | none => none
  | some reading =>
      if 0 < n ∧ n ≤ F.wanted reading ∧ n ≤ q.bytes.length then
        match F.feed reading (q.bytes.take n) with
        | .more next => some (none, { q with bytes := q.bytes.drop n, reading := some next })
        | .body b =>
            match decode b with
            | some m =>
                some (some m, { q with bytes := q.bytes.drop n, reading := some F.start,
                                       whole := q.whole.tail })
            | none => some (none, { q with bytes := q.bytes.drop n, reading := none })
        | .error => some (none, { q with bytes := q.bytes.drop n, reading := none })
      else none

/-- The writer goes on, or it has given up and begins with another message. -/
def Pipe.offered [DecidableEq M] (offer : Option M) (q : Pipe F M) : Pipe F M :=
  { q with writing := q.writing.filter fun p => offer = some p.1 }

/-- The reader goes on, or it has given up, and what it has read of a frame is lost. -/
def Pipe.awaited (reads : Bool) (q : Pipe F M) : Pipe F M :=
  { q with reading := if reads then q.reading else some F.start }

/-- Two parties at the ends of a stream. -/
structure Wired (F : Framer.{u, v} β) (σ τ : Type x) (U D : Type w) where
  left : σ
  right : τ
  forth : Pipe F U
  back : Pipe F D

variable {σ τ : Type x} {ε δ : Type x} {U D : Type w}

def Wired.swap (s : Wired F σ τ U D) : Wired F τ σ D U :=
  { left := s.right, right := s.left, forth := s.back, back := s.forth }

@[simp] theorem Wired.swap_swap (s : Wired F σ τ U D) : s.swap.swap = s := rfl

/-- The conversation, as far as messages have been written whole and not yet read. -/
def Wired.conversation (s : Wired F σ τ U D) : Joint σ τ U D :=
  { left := s.left, right := s.right, forth := s.forth.whole, back := s.back.whole }

/-- What a party can do at its end of a stream. -/
inductive Act (ε : Type v)
  | own (e : ε)
  | write (n : Nat)
  | read (n : Nat)
deriving DecidableEq, Repr

/-- The party has got into the state `left` by itself. -/
def Wired.goto [DecidableEq U] (P : Coded β σ ε U D) (s : Wired F σ τ U D) (left : σ) :
    Wired F σ τ U D :=
  { s with left, forth := s.forth.offered (P.offer left), back := s.back.awaited (P.reads left) }

def act [DecidableEq U] (P : Coded β σ ε U D) (s : Wired F σ τ U D) :
    Act ε → Option (Wired F σ τ U D)
  | .own e => (P.step s.left e).map (s.goto P)
  | .write n =>
      match P.offer s.left with
      | none => none
      | some m =>
          match s.forth.write P.encode m n with
          | none => none
          | some (false, forth) => some { s with forth }
          | some (true, forth) => (P.sent s.left).map ({ s with forth }.goto P)
  | .read n =>
      if P.reads s.left then
        match s.back.read (P.decode s.left) n with
        | none => none
        | some (none, back) => some { s with back }
        | some (some m, back) => (P.receive s.left m).map ({ s with back }.goto P)
      else none

inductive Event (ε δ : Type v)
  | left (a : Act ε)
  | right (a : Act δ)
deriving DecidableEq, Repr

def step [DecidableEq U] [DecidableEq D] (L : Coded β σ ε U D) (R : Coded β τ δ D U)
    (s : Wired F σ τ U D) : Event ε δ → Option (Wired F σ τ U D)
  | .left a => act L s a
  | .right a => (act R s.swap a).map Wired.swap

/-- The move an act is, if a message has been written or read with it. -/
def completes (P : Coded β σ ε U D) (s : Wired F σ τ U D) : Act ε → Option (Move ε)
  | .own e => some (.own e)
  | .write n =>
      match (P.offer s.left).bind fun m => s.forth.write P.encode m n with
      | some (true, _) => some .sent
      | _ => none
  | .read n =>
      match s.back.read (P.decode s.left) n with
      | some (some _, _) => some .receive
      | _ => none

/-- The step of the conversation that a step is, if it is one. -/
def speaks (L : Coded β σ ε U D) (R : Coded β τ δ D U) (s : Wired F σ τ U D) :
    Event ε δ → Option (Parties.Event ε δ)
  | .left a => (completes L s a).map .left
  | .right a => (completes R s.swap a).map .right

/-- The frames of messages, one behind the other. -/
def frames (F : Framer.{u, v} β) (encode : M → Option (List β)) (ms : List M) : List β :=
  (ms.filterMap encode).flatMap F.frame

/-- How the bytes on the stream fall into frames.  `lost` has been read of the first one, and
`tail` is to be written of the last one, which is `under` way. -/
structure Parted (encode : M → Option (List β)) (offer : Option M) (mute : Prop) (reads : Bool)
    (deaf : Prop) (q : Pipe F M) (lost tail : List β) (under : List M) : Prop where
  encoded : ∀ m ∈ q.whole ++ under, (encode m).isSome = true
  stream : lost ++ q.bytes ++ tail = frames F encode (q.whole ++ under)
  begun : under = [] ∧ tail = [] ∨ (∃ m, under = [m]) ∧ tail ≠ []
  cut : ∃ head, head ++ tail = frames F encode under
  writing : ∀ m rest, q.writing = some (m, rest) → under = [m] ∧ tail = rest ∧ offer = some m
  rested : q.writing = none → tail = [] ∨ mute
  reading : ∃ reading, q.reading = some reading ∧
    (deaf ∨ F.Good reading ∧ F.consumed reading = lost ∧ (reads = false → lost = []))

/-- What holds of one direction of a stream, between a writer that offers a message and a
reader. -/
def Flow (encode : M → Option (List β)) (offer : Option M) (mute : Prop) (reads : Bool)
    (deaf : Prop) (q : Pipe F M) : Prop :=
  ∃ lost tail under, Parted encode offer mute reads deaf q lost tail under

variable {encode : M → Option (List β)} {decode : List β → Option M} {offer offer' : Option M}
  {mute mute' deaf deaf' : Prop} {reads reads' : Bool} {q q' : Pipe F M} {n : Nat}

theorem frames_append (ms ms' : List M) :
    frames F encode (ms ++ ms') = frames F encode ms ++ frames F encode ms' := by
  simp [frames]

theorem frames_single {m : M} {b : List β} (hencode : encode m = some b) :
    frames F encode [m] = F.frame b := by
  simp [frames, hencode]

theorem flow_empty (room : ℕ+) :
    Flow encode offer mute reads deaf (Pipe.empty room : Pipe F M) := by
  refine ⟨[], [], [], nofun, rfl, Or.inl ⟨rfl, rfl⟩, ⟨[], rfl⟩, nofun, fun _ => Or.inl rfl, F.start,
    rfl, ?_⟩
  exact Or.inr ⟨F.good_start, F.consumed_start, fun _ => rfl⟩

theorem Flow.offered [DecidableEq M] (h : Flow encode offer mute reads deaf q)
    (hoffer : ∀ m, offer = some m → offer' = some m ∨ mute') (hmute : mute → mute') :
    Flow encode offer' mute' reads deaf (q.offered offer') := by
  obtain ⟨lost, tail, under, hparted⟩ := h
  refine ⟨lost, tail, under, hparted.encoded, hparted.stream, hparted.begun, hparted.cut, ?_, ?_,
    hparted.reading⟩
  · intro m rest hwriting
    obtain ⟨hbefore, hsame⟩ := Option.filter_eq_some_iff.mp hwriting
    obtain ⟨hunder, htail, -⟩ := hparted.writing m rest hbefore
    exact ⟨hunder, htail, of_decide_eq_true hsame⟩
  · intro hwriting
    cases hbefore : q.writing with
    | none => exact (hparted.rested hbefore).imp_right hmute
    | some p =>
        obtain ⟨m, rest⟩ := p
        rcases hoffer m (hparted.writing m rest hbefore).2.2 with hsame | hmute'
        · simp [Pipe.offered, hbefore, hsame] at hwriting
        · exact Or.inr hmute'

theorem Flow.awaited (h : Flow encode offer mute reads deaf q)
    (hreads : reads = true → reads' = true ∨ deaf') (hdeaf : deaf → deaf') :
    Flow encode offer mute reads' deaf' (q.awaited reads') := by
  obtain ⟨lost, tail, under, hparted⟩ := h
  refine ⟨lost, tail, under, hparted.encoded, hparted.stream, hparted.begun, hparted.cut,
    hparted.writing, hparted.rested, ?_⟩
  obtain ⟨reading, hreading, hcase⟩ := hparted.reading
  cases hreads' : reads' with
  | true =>
      refine ⟨reading, hreading, ?_⟩
      rcases hcase with hd | ⟨hgood, hconsumed, -⟩
      · exact Or.inl (hdeaf hd)
      · exact Or.inr ⟨hgood, hconsumed, nofun⟩
  | false =>
      refine ⟨F.start, rfl, ?_⟩
      rcases hcase with hd | ⟨-, -, hlost⟩
      · exact Or.inl (hdeaf hd)
      · cases hbefore : reads with
        | true =>
            refine Or.inl ((hreads hbefore).resolve_left ?_)
            simp [hreads']
        | false =>
            refine Or.inr ⟨F.good_start, ?_, fun _ => hlost hbefore⟩
            rw [F.consumed_start, hlost hbefore]

theorem Parted.rest {lost tail : List β} {under : List M}
    (h : Parted encode offer mute reads deaf q lost tail under) {m : M} {b : List β}
    (hoffer : offer = some m) (hmute : mute → offer = none) (hencode : encode m = some b) :
    let rest := (q.writing.map Prod.snd).getD (F.frame b)
    (∀ m' ∈ q.whole ++ [m], (encode m').isSome = true) ∧
      lost ++ q.bytes ++ rest = frames F encode (q.whole ++ [m]) ∧
      (∃ head, head ++ rest = F.frame b) ∧ (rest = F.frame b ∨ rest ≠ []) := by
  cases hwriting : q.writing with
  | some p =>
      obtain ⟨m', rest⟩ := p
      obtain ⟨hunder, htail, hoffer'⟩ := h.writing m' rest hwriting
      obtain rfl : m' = m := Option.some.inj (hoffer'.symm.trans hoffer)
      subst hunder htail
      have hcut := h.cut
      rw [frames_single hencode] at hcut
      refine ⟨h.encoded, h.stream, hcut, Or.inr ?_⟩
      rcases h.begun with ⟨hnil, -⟩ | ⟨-, hne⟩
      · cases hnil
      · exact hne
  | none =>
      have htail : tail = [] := by
        refine (h.rested hwriting).resolve_right fun hm => ?_
        rw [hmute hm] at hoffer
        cases hoffer
      have hunder : under = [] := by
        rcases h.begun with ⟨hunder, -⟩ | ⟨-, hne⟩
        · exact hunder
        · exact absurd htail hne
      have hstream := h.stream
      have hencoded := h.encoded
      simp only [hunder, htail, List.append_nil] at hstream hencoded
      refine ⟨?_, ?_, ⟨[], rfl⟩, Or.inl rfl⟩
      · intro m' hm'
        rcases List.mem_append.mp hm' with hm' | hm'
        · exact hencoded m' hm'
        · obtain rfl := List.mem_singleton.mp hm'
          rw [hencode]
          rfl
      · rw [frames_append, frames_single hencode, ← hstream]
        rfl

theorem Pipe.write_spec {m : M} {done : Bool} (hwrite : q.write encode m n = some (done, q')) :
    ∃ b, encode m = some b ∧ 0 < n ∧
      let rest := (q.writing.map Prod.snd).getD (F.frame b)
      (done = false ∧ n < rest.length ∧
          q' = { q with writing := some (m, rest.drop n), bytes := q.bytes ++ rest.take n }) ∨
        done = true ∧ q' = { q with writing := none, bytes := q.bytes ++ rest,
                                    whole := q.whole ++ [m] } := by
  unfold Pipe.write at hwrite
  split at hwrite
  · cases hwrite
  · rename_i b hencode
    dsimp only at hwrite
    split at hwrite
    · rename_i hroom
      split at hwrite
      · rename_i hlt
        obtain ⟨rfl, rfl⟩ := Prod.mk.inj (Option.some.inj hwrite)
        exact ⟨b, hencode, hroom.1, Or.inl ⟨rfl, hlt, rfl⟩⟩
      · obtain ⟨rfl, rfl⟩ := Prod.mk.inj (Option.some.inj hwrite)
        exact ⟨b, hencode, hroom.1, Or.inr ⟨rfl, rfl⟩⟩
    · cases hwrite

theorem Flow.write {m : M} (h : Flow encode offer mute reads deaf q) (hoffer : offer = some m)
    (hmute : mute → offer = none) (hwrite : q.write encode m n = some (false, q')) :
    Flow encode offer mute reads deaf q' ∧ q'.whole = q.whole := by
  obtain ⟨lost, tail, under, hparted⟩ := h
  obtain ⟨b, hencode, -, ⟨-, hlt, rfl⟩ | ⟨hdone, -⟩⟩ := Pipe.write_spec hwrite
  · obtain ⟨hencoded, hstream, ⟨head, hhead⟩, -⟩ := hparted.rest hoffer hmute hencode
    generalize (q.writing.map Prod.snd).getD (F.frame b) = rest at hlt hstream hhead
    refine ⟨⟨lost, rest.drop n, [m], hencoded, ?_, Or.inr ⟨⟨m, rfl⟩, ?_⟩, ⟨head ++ rest.take n, ?_⟩,
      ?_, nofun, hparted.reading⟩, rfl⟩
    · rw [← hstream]
      simp only [List.append_assoc, List.take_append_drop]
    · simpa using hlt
    · rw [frames_single hencode, List.append_assoc, List.take_append_drop]
      exact hhead
    · intro m' rest' hwriting
      obtain ⟨rfl, rfl⟩ := Prod.mk.inj (Option.some.inj hwriting)
      exact ⟨rfl, rfl, hoffer⟩
  · cases hdone

theorem Flow.written {m : M} (h : Flow encode offer mute reads deaf q) (hoffer : offer = some m)
    (hmute : mute → offer = none) (hwrite : q.write encode m n = some (true, q')) :
    (∀ offer' mute', Flow encode offer' mute' reads deaf q') ∧ q'.whole = q.whole ++ [m] := by
  obtain ⟨lost, tail, under, hparted⟩ := h
  obtain ⟨b, hencode, -, ⟨hdone, -⟩ | ⟨-, rfl⟩⟩ := Pipe.write_spec hwrite
  · cases hdone
  · obtain ⟨hencoded, hstream, -⟩ := hparted.rest hoffer hmute hencode
    refine ⟨fun offer' mute' => ⟨lost, [], [], ?_, ?_, Or.inl ⟨rfl, rfl⟩, ⟨[], rfl⟩, nofun,
      fun _ => Or.inl rfl, hparted.reading⟩, rfl⟩
    · simpa using hencoded
    · simpa using hstream

theorem Pipe.read_spec {res : Option M} (hread : q.read decode n = some (res, q')) :
    ∃ reading, q.reading = some reading ∧ 0 < n ∧ n ≤ F.wanted reading ∧ n ≤ q.bytes.length ∧
      ((∃ next, F.feed reading (q.bytes.take n) = .more next ∧ res = none ∧
          q' = { q with bytes := q.bytes.drop n, reading := some next }) ∨
        (∃ b m, F.feed reading (q.bytes.take n) = .body b ∧ decode b = some m ∧ res = some m ∧
          q' = { q with bytes := q.bytes.drop n, reading := some F.start,
                        whole := q.whole.tail }) ∨
        ((F.feed reading (q.bytes.take n) = .error ∨
            ∃ b, F.feed reading (q.bytes.take n) = .body b ∧ decode b = none) ∧ res = none)) := by
  unfold Pipe.read at hread
  split at hread
  · cases hread
  · rename_i reading hreading
    split at hread
    · rename_i hle
      refine ⟨reading, hreading, hle.1, hle.2.1, hle.2.2, ?_⟩
      split at hread
      · rename_i next hfeed
        obtain ⟨rfl, rfl⟩ := Prod.mk.inj (Option.some.inj hread)
        exact Or.inl ⟨next, hfeed, rfl, rfl⟩
      · rename_i b hfeed
        split at hread
        · rename_i m hdecode
          obtain ⟨rfl, rfl⟩ := Prod.mk.inj (Option.some.inj hread)
          exact Or.inr (Or.inl ⟨b, m, hfeed, hdecode, rfl, rfl⟩)
        · rename_i hdecode
          obtain ⟨rfl, rfl⟩ := Prod.mk.inj (Option.some.inj hread)
          exact Or.inr (Or.inr ⟨Or.inr ⟨b, hfeed, hdecode⟩, rfl⟩)
      · rename_i hfeed
        obtain ⟨rfl, rfl⟩ := Prod.mk.inj (Option.some.inj hread)
        exact Or.inr (Or.inr ⟨Or.inl hfeed, rfl⟩)
    · cases hread

/-- A frame that has been read in full is that of the first whole message: of the one under
way some of the bytes are not written yet. -/
theorem Parted.first {lost tail more b : List β} {under : List M} {bs : List (List β)}
    (h : Parted encode offer mute reads deaf q lost tail under)
    (hbs : (q.whole ++ under).filterMap encode = b :: bs)
    (hrest : more ++ tail = bs.flatMap F.frame) :
    ∃ m ms, q.whole = m :: ms ∧ encode m = some b ∧
      more ++ tail = frames F encode (ms ++ under) := by
  cases hwhole : q.whole with
  | nil =>
      exfalso
      rcases h.begun with ⟨hunder, -⟩ | ⟨⟨m, hunder⟩, htail⟩
      · simp [hwhole, hunder] at hbs
      · obtain ⟨b', hb'⟩ := Option.isSome_iff_exists.mp (h.encoded m (by simp [hunder]))
        simp only [hwhole, hunder, List.nil_append, List.filterMap_cons, hb',
          List.filterMap_nil, List.cons.injEq] at hbs
        rw [← hbs.2, List.flatMap_nil, List.append_eq_nil_iff] at hrest
        exact htail hrest.2
  | cons m ms =>
      obtain ⟨b', hb'⟩ := Option.isSome_iff_exists.mp (h.encoded m (by simp [hwhole]))
      simp only [hwhole, List.cons_append, List.filterMap_cons, hb', List.cons.injEq] at hbs
      obtain ⟨rfl, rfl⟩ := hbs
      exact ⟨m, ms, rfl, hb', hrest⟩

theorem Flow.read {res : Option M} (h : Flow encode offer mute true deaf q) (hdeaf : ¬ deaf)
    (hfits : ∀ m b, encode m = some b → F.Fits b)
    (hagree : ∀ m ms b, q.whole = m :: ms → encode m = some b → decode b = some m)
    (hread : q.read decode n = some (res, q')) :
    (res = none ∧ Flow encode offer mute true deaf q' ∧ q'.whole = q.whole) ∨
      ∃ m, res = some m ∧ q.whole = m :: q'.whole ∧
        ∀ reads' deaf', Flow encode offer mute reads' deaf' q' := by
  obtain ⟨lost, tail, under, hparted⟩ := h
  obtain ⟨reading, hreading, hpos, hwanted, hle, hcases⟩ := Pipe.read_spec hread
  obtain ⟨reading', hreading', hcase⟩ := hparted.reading
  obtain ⟨hgood, rfl, -⟩ := hcase.resolve_left hdeaf
  obtain rfl : reading' = reading := Option.some.inj (hreading'.symm.trans hreading)
  have hne : q.bytes.take n ≠ [] := by
    intro htake
    have hlength := congrArg List.length htake
    rw [List.length_take, Nat.min_eq_left hle] at hlength
    exact Nat.ne_of_gt hpos hlength
  have hlength : (q.bytes.take n).length ≤ F.wanted reading' := by
    rw [List.length_take]
    exact Nat.le_trans (Nat.min_le_left ..) hwanted
  have hstream : F.consumed reading' ++ q.bytes.take n ++ (q.bytes.drop n ++ tail) =
      ((q.whole ++ under).filterMap encode).flatMap F.frame := by
    rw [← List.append_assoc, List.append_assoc (F.consumed reading'), List.take_append_drop]
    exact hparted.stream
  have hfitting : ∀ b ∈ (q.whole ++ under).filterMap encode, F.Fits b := by
    intro b hb
    obtain ⟨m, -, hm⟩ := List.mem_filterMap.mp hb
    exact hfits m b hm
  have hfirst : ∀ b, F.feed reading' (q.bytes.take n) = .body b → ∃ m ms, q.whole = m :: ms ∧
      encode m = some b ∧ q.bytes.drop n ++ tail = frames F encode (ms ++ under) := by
    intro b hfeed
    obtain ⟨bs, hbs, hrest⟩ := F.feed_body hgood hne hlength hfitting hstream hfeed
    exact hparted.first hbs hrest
  -- no body yet, the body of the first message, or one that is refused, which none of the sent is
  rcases hcases with ⟨next, hfeed, rfl, rfl⟩ | ⟨b, m', hfeed, hdecode, rfl, rfl⟩ | ⟨hbad, -⟩
  · left
    obtain ⟨hgood', hconsumed⟩ := F.feed_more hgood hne hlength hfitting hstream hfeed
    refine ⟨rfl, ⟨F.consumed next, tail, under, hparted.encoded, ?_, hparted.begun, hparted.cut,
      hparted.writing, hparted.rested, next, rfl, Or.inr ⟨hgood', rfl, nofun⟩⟩, rfl⟩
    rw [hconsumed, List.append_assoc]
    exact hstream
  · right
    obtain ⟨m, ms, hwhole, hencode, hrest⟩ := hfirst b hfeed
    obtain rfl : m = m' :=
      Option.some.inj ((hagree m ms b hwhole hencode).symm.trans hdecode)
    refine ⟨m, rfl, by simp [hwhole], fun reads' deaf' => ?_⟩
    refine ⟨[], tail, under, ?_, ?_, hparted.begun, hparted.cut, hparted.writing, hparted.rested,
      F.start, rfl, Or.inr ⟨F.good_start, F.consumed_start, fun _ => rfl⟩⟩
    · intro m'' hm''
      apply hparted.encoded
      simp only [hwhole, List.tail_cons] at hm''
      simp only [hwhole, List.cons_append, List.mem_cons, hm'', or_true]
    · simpa [hwhole] using hrest
  · exfalso
    rcases hbad with herror | ⟨b, hfeed, hdecode⟩
    · exact F.feed_ne_error hgood hne hlength hfitting hstream herror
    · obtain ⟨m, ms, hwhole, hencode, -⟩ := hfirst b hfeed
      rw [hagree m ms b hwhole hencode] at hdecode
      cases hdecode

theorem Flow.readable_of_ne (h : Flow encode offer mute true deaf q) (hdeaf : ¬ deaf)
    (hbytes : q.bytes ≠ []) : (q.read decode 1).isSome = true := by
  obtain ⟨lost, tail, under, hparted⟩ := h
  obtain ⟨reading, hreading, hcase⟩ := hparted.reading
  obtain ⟨hgood, -, -⟩ := hcase.resolve_left hdeaf
  have hle : 0 < 1 ∧ 1 ≤ F.wanted reading ∧ 1 ≤ q.bytes.length :=
    ⟨Nat.zero_lt_one, F.wanted_pos hgood, List.length_pos_iff.mpr hbytes⟩
  simp only [Pipe.read, hreading, if_pos hle]
  split
  · rfl
  · split <;> rfl
  · rfl

theorem Flow.readable {m : M} {ms : List M} (h : Flow encode offer mute true deaf q)
    (hdeaf : ¬ deaf) (hfits : ∀ m b, encode m = some b → F.Fits b) (hwhole : q.whole = m :: ms) :
    (q.read decode 1).isSome = true := by
  refine h.readable_of_ne hdeaf fun hnil => ?_
  obtain ⟨lost, tail, under, hparted⟩ := h
  obtain ⟨reading, hreading, hcase⟩ := hparted.reading
  obtain ⟨hgood, rfl, -⟩ := hcase.resolve_left hdeaf
  obtain ⟨head, hhead⟩ := hparted.cut
  obtain ⟨b, hencode⟩ := Option.isSome_iff_exists.mp (hparted.encoded m (by simp [hwhole]))
  have hstream := hparted.stream
  rw [hnil, List.append_nil, hwhole, List.cons_append, ← List.singleton_append, frames_append,
    frames_append, frames_single hencode, ← hhead, ← List.append_assoc, ← List.append_assoc,
    List.append_assoc (F.frame b)] at hstream
  exact F.consumed_ne hgood (hfits m b hencode) (List.append_cancel_right hstream)

/-- A message that is offered can be written as far as there is room. -/
theorem Flow.writable {m : M} {b : List β} (h : Flow encode offer mute reads deaf q)
    (hoffer : offer = some m) (hmute : mute → offer = none) (hencode : encode m = some b)
    (hfits : F.Fits b) (hroom : q.bytes.length < q.room) :
    ∃ n done q', q.write encode m n = some (done, q') := by
  obtain ⟨lost, tail, under, hparted⟩ := h
  obtain ⟨-, -, -, hrest⟩ := hparted.rest hoffer hmute hencode
  generalize hleft : (q.writing.map Prod.snd).getD (F.frame b) = rest at hrest
  have hne : rest ≠ [] := by
    rcases hrest with rfl | hne
    · intro hnil
      have hstart : F.consumed F.start = F.frame b ++ [] := by
        rw [F.consumed_start, hnil]
        rfl
      exact F.consumed_ne F.good_start hfits hstart
    · exact hne
  have hpos : 0 < rest.length := List.length_pos_iff.mpr hne
  have hone : 0 < 1 ∧ 1 ≤ rest.length ∧ q.bytes.length + 1 ≤ q.room :=
    ⟨Nat.zero_lt_one, hpos, hroom⟩
  refine ⟨1, ?_⟩
  simp only [Pipe.write, hencode, hleft, if_pos hone]
  split
  · exact ⟨_, _, rfl⟩
  · exact ⟨_, _, rfl⟩

theorem Flow.unfailed (h : Flow encode offer mute reads deaf q) : q.reading ≠ none := by
  obtain ⟨lost, tail, under, hparted⟩ := h
  obtain ⟨reading, hreading, -⟩ := hparted.reading
  rw [hreading]
  exact Option.some_ne_none reading

/-- A party that finishes what it has begun: it goes on with the message it is writing unless
it writes no more, and with the message it is reading unless it reads no more. -/
structure Orderly (P : Coded β σ ε U D) where
  Mute : σ → Prop
  Deaf : σ → Prop
  offer_mute {s : σ} : Mute s → P.offer s = none
  reads_deaf {s : σ} : Deaf s → P.reads s = false
  mute_step {s t : σ} {e : ε} : P.step s e = some t → Mute s → Mute t
  mute_receive {s t : σ} {m : D} : P.receive s m = some t → Mute s → Mute t
  deaf_step {s t : σ} {e : ε} : P.step s e = some t → Deaf s → Deaf t
  deaf_sent {s t : σ} : P.sent s = some t → Deaf s → Deaf t
  offer_step {s t : σ} {e : ε} {m : U} :
    P.step s e = some t → P.offer s = some m → P.offer t = some m ∨ Mute t
  offer_receive {s t : σ} {m : U} {m' : D} :
    P.receive s m' = some t → P.offer s = some m → P.offer t = some m ∨ Mute t
  reads_step {s t : σ} {e : ε} : P.step s e = some t → P.reads s = true → P.reads t = true ∨ Deaf t
  reads_sent {s t : σ} : P.sent s = some t → P.reads s = true → P.reads t = true ∨ Deaf t

/-- The party knows of which kind the next message is, and takes it. -/
def Agreed (L : Coded β σ ε U D) (R : Coded β τ δ D U) (s : Joint σ τ U D) : Prop :=
  ∀ m ms b, s.back = m :: ms → L.reads s.left = true → R.encode m = some b →
    L.decode s.left b = some m ∧ (L.receive s.left m).isSome = true

theorem act_spec [DecidableEq U] {P : Coded β σ ε U D} {Q : Coded β τ δ D U} (hP : Orderly P)
    {s t : Wired F σ τ U D} {a : Act ε}
    (hforth : Flow P.encode (P.offer s.left) (hP.Mute s.left) reads deaf s.forth)
    {back : Option D} (hback : Flow Q.encode back mute (P.reads s.left) (hP.Deaf s.left) s.back)
    (hfits : ∀ m b, Q.encode m = some b → F.Fits b) (hagreed : Agreed P Q s.conversation)
    (h : act P s a = some t) :
    t.right = s.right ∧
      Flow P.encode (P.offer t.left) (hP.Mute t.left) reads deaf t.forth ∧
      Flow Q.encode back mute (P.reads t.left) (hP.Deaf t.left) t.back ∧
      match completes P s a with
      | some m => ∀ capacity, s.forth.whole.length < capacity →
          move P.toParty capacity s.conversation m = some t.conversation
      | none => t.conversation = s.conversation := by
  cases a with
  | own e =>
      obtain ⟨left, hstep, rfl⟩ := Option.map_eq_some_iff.mp h
      refine ⟨rfl, hforth.offered (fun m => hP.offer_step hstep) (hP.mute_step hstep),
        hback.awaited (hP.reads_step hstep) (hP.deaf_step hstep), fun capacity _ => ?_⟩
      simp only [move, Wired.conversation, hstep]
      rfl
  | write n =>
      simp only [act] at h
      split at h
      · cases h
      · rename_i m hoffer
        split at h
        · cases h
        · rename_i forth hwrite
          obtain rfl := Option.some.inj h
          obtain ⟨hflow, hwhole⟩ := hforth.write hoffer hP.offer_mute hwrite
          refine ⟨rfl, hflow, hback, ?_⟩
          simp only [completes, hoffer, Option.bind_some, hwrite, Wired.conversation, hwhole]
        · rename_i forth hwrite
          obtain ⟨left, hsent, rfl⟩ := Option.map_eq_some_iff.mp h
          obtain ⟨hflow, hwhole⟩ := hforth.written hoffer hP.offer_mute hwrite
          refine ⟨rfl, (hflow none False).offered (fun _ hnone => by cases hnone) False.elim,
            hback.awaited (hP.reads_sent hsent) (hP.deaf_sent hsent), ?_⟩
          simp only [completes, hoffer, Option.bind_some, hwrite]
          intro capacity hlt
          simp only [move, Wired.conversation, hoffer, hsent, if_pos hlt]
          simp only [Option.map_some, Wired.goto, Pipe.offered, Pipe.awaited, hwhole]
  | read n =>
      simp only [act] at h
      split at h
      · rename_i hreads
        have hdeaf : ¬ hP.Deaf s.left := by
          intro hd
          rw [hP.reads_deaf hd] at hreads
          cases hreads
        rw [hreads] at hback
        split at h
        · cases h
        · rename_i back' hread
          obtain rfl := Option.some.inj h
          rcases hback.read hdeaf hfits (fun m ms b hwhole hencode =>
            (hagreed m ms b hwhole hreads hencode).1) hread with
            ⟨-, hflow, hwhole⟩ | ⟨m, hm, -⟩
          · refine ⟨rfl, hforth, ?_, ?_⟩
            · rw [hreads]
              exact hflow
            · simp only [completes, hread, Wired.conversation, hwhole]
          · cases hm
        · rename_i m back' hread
          obtain ⟨left, hreceive, rfl⟩ := Option.map_eq_some_iff.mp h
          rcases hback.read hdeaf hfits (fun m ms b hwhole hencode =>
            (hagreed m ms b hwhole hreads hencode).1) hread with
            ⟨hm, -⟩ | ⟨m', hm, hwhole, hflow⟩
          · cases hm
          · obtain rfl := Option.some.inj hm
            refine ⟨rfl, hforth.offered (fun m => hP.offer_receive hreceive)
              (hP.mute_receive hreceive), ?_, ?_⟩
            · exact (hflow false False).awaited (fun hreads => by cases hreads) False.elim
            · simp only [completes, hread]
              intro capacity _
              simp only [move, Wired.conversation, hwhole, hreceive]
              rfl
      · cases h

/-- The acts that a move is made of. -/
inductive Serves : Move ε → Act ε → Prop
  | own (e : ε) : Serves (.own e) (.own e)
  | write (n : Nat) : Serves .sent (.write n)
  | read (n : Nat) : Serves .receive (.read n)

/-- What a step of the conversation comes to over the streams.  A writer that has no room
waits for the other party to read. -/
inductive Answers : Parties.Event ε δ → Event ε δ → Prop
  | left {m : Move ε} {a : Act ε} (h : Serves m a) : Answers (.left m) (.left a)
  | right {m : Move δ} {a : Act δ} (h : Serves m a) : Answers (.right m) (.right a)
  | forth (n : Nat) : Answers (.left .sent) (.right (.read n))
  | back (n : Nat) : Answers (.right .sent) (.left (.read n))

/-- What is sent is going to be read. -/
def Heard (L : Coded β σ ε U D) (R : Coded β τ δ D U) (s : Joint σ τ U D) :
    Parties.Event ε δ → Prop
  | .left .sent => R.reads s.right = true
  | .right .sent => L.reads s.left = true
  | _ => True

theorem act_of_read [DecidableEq U] {P : Coded β σ ε U D} {Q : Coded β τ δ D U} (hP : Orderly P)
    {s : Wired F σ τ U D} {back : Option D}
    (hback : Flow Q.encode back mute (P.reads s.left) (hP.Deaf s.left) s.back)
    (hfits : ∀ m b, Q.encode m = some b → F.Fits b) (hagreed : Agreed P Q s.conversation)
    (hreads : P.reads s.left = true) (hbytes : s.back.bytes ≠ []) :
    ∃ r, act P s (.read 1) = some r := by
  have hdeaf : ¬ hP.Deaf s.left := by
    intro hd
    rw [hP.reads_deaf hd] at hreads
    cases hreads
  rw [hreads] at hback
  have hreadable : (s.back.read (P.decode s.left) 1).isSome = true :=
    hback.readable_of_ne hdeaf hbytes
  obtain ⟨⟨res, q'⟩, hread⟩ := Option.isSome_iff_exists.mp hreadable
  have hagree (m : D) (ms : List D) (b : List β) (heq : s.back.whole = m :: ms)
      (hencode : Q.encode m = some b) : P.decode s.left b = some m :=
    (hagreed m ms b heq hreads hencode).1
  rcases hback.read hdeaf hfits hagree hread with ⟨rfl, -⟩ | ⟨m, rfl, hwhole, -⟩
  · exact ⟨{ s with back := q' }, by simp only [act, if_pos hreads, hread]⟩
  · obtain ⟨lost, tail, under, hparted⟩ := hback
    obtain ⟨b, hencode⟩ := Option.isSome_iff_exists.mp (hparted.encoded m (by simp [hwhole]))
    have hsome : (P.receive s.left m).isSome = true :=
      (hagreed m q'.whole b hwhole hreads hencode).2
    obtain ⟨left, hreceive⟩ := Option.isSome_iff_exists.mp hsome
    exact ⟨({ s with back := q' }).goto P left,
      by simp only [act, if_pos hreads, hread, hreceive, Option.map_some]⟩

/-- A party that can move in the conversation can go on over the stream, if what it offers
has a form as bytes, or it waits for room. -/
theorem act_of_move [DecidableEq U] {P : Coded β σ ε U D} {Q : Coded β τ δ D U} (hP : Orderly P)
    {s : Wired F σ τ U D}
    (hforth : Flow P.encode (P.offer s.left) (hP.Mute s.left) reads deaf s.forth)
    {back : Option D} (hback : Flow Q.encode back mute (P.reads s.left) (hP.Deaf s.left) s.back)
    (hfitsP : ∀ m b, P.encode m = some b → F.Fits b)
    (hfits : ∀ m b, Q.encode m = some b → F.Fits b) (hagreed : Agreed P Q s.conversation)
    (hencodes : ∀ m, P.offer s.left = some m → (P.encode m).isSome = true)
    (hreads : ∀ m t, P.receive s.left m = some t → P.reads s.left = true)
    {capacity : Nat} {m : Move ε} {t : Joint σ τ U D}
    (h : move P.toParty capacity s.conversation m = some t) :
    (∃ a r, Serves m a ∧ act P s a = some r) ∨ m = .sent ∧ s.forth.bytes ≠ [] := by
  cases move_spec h with
  | @own e left hstep =>
      have hown : P.step s.left e = some left := hstep
      refine Or.inl ⟨.own e, s.goto P left, .own e, ?_⟩
      rw [act, hown]
      rfl
  | @sent m left hoffer hsent =>
      have hoffer' : P.offer s.left = some m := hoffer
      have hsent' : P.sent s.left = some left := hsent
      by_cases hroom : s.forth.bytes.length < s.forth.room
      · obtain ⟨b, hencode⟩ := Option.isSome_iff_exists.mp (hencodes m hoffer')
        obtain ⟨n, done, q', hwrite⟩ :=
          hforth.writable hoffer' hP.offer_mute hencode (hfitsP m b hencode) hroom
        left
        cases done with
        | false =>
            refine ⟨.write n, { s with forth := q' }, .write n, ?_⟩
            simp only [act, hoffer', hwrite]
        | true =>
            refine ⟨.write n, ({ s with forth := q' }).goto P left, .write n, ?_⟩
            simp only [act, hoffer', hwrite, hsent', Option.map_some]
      · -- a stream without room has bytes under way, as there is room for one at least
        refine Or.inr ⟨rfl, fun hnil => hroom ?_⟩
        rw [hnil]
        exact s.forth.room.pos
  | @receive m ms left hwhole hreceive =>
      have hwhole' : s.back.whole = m :: ms := hwhole
      have hreading := hreads m left hreceive
      have hreadable : s.back.bytes ≠ [] := by
        have hdeaf : ¬ hP.Deaf s.left := by
          intro hd
          rw [hP.reads_deaf hd] at hreading
          cases hreading
        have hback' := hback
        rw [hreading] at hback'
        have hread : (s.back.read (P.decode s.left) 1).isSome = true :=
          hback'.readable hdeaf hfits hwhole'
        intro hnil
        rw [Pipe.read, hnil] at hread
        split at hread
        · cases hread
        · rw [if_neg (by simp)] at hread
          cases hread
      obtain ⟨r, hread⟩ := act_of_read hP hback hfits hagreed hreading hreadable
      exact Or.inl ⟨.read 1, r, .read 1, hread⟩

section

variable {L : Coded β σ ε U D} {R : Coded β τ δ D U} {s t : Wired F σ τ U D}

/-- What holds of both directions. -/
structure Flows (hL : Orderly L) (hR : Orderly R) (s : Wired F σ τ U D) : Prop where
  forth : Flow L.encode (L.offer s.left) (hL.Mute s.left) (R.reads s.right) (hR.Deaf s.right)
    s.forth
  back : Flow R.encode (R.offer s.right) (hR.Mute s.right) (L.reads s.left) (hL.Deaf s.left)
    s.back

/-- Nothing has been written. -/
def Wired.start (F : Framer.{u, v} β) (left : σ) (right : τ) (forth back : ℕ+) :
    Wired F σ τ U D :=
  { left, right, forth := .empty forth, back := .empty back }

theorem flows_start (hL : Orderly L) (hR : Orderly R) (left : σ) (right : τ) (forth back : ℕ+) :
    Flows hL hR (Wired.start F left right forth back) :=
  ⟨flow_empty forth, flow_empty back⟩

/-- The steps on the stream that the conversation admits. -/
def Admitted (L : Coded β σ ε U D) (R : Coded β τ δ D U)
    (ok : Joint σ τ U D → Parties.Event ε δ → Prop) (s : Wired F σ τ U D) (e : Event ε δ) :
    Prop :=
  ∀ e', speaks L R s e = some e' → ok s.conversation e'

instance {ok : Joint σ τ U D → Parties.Event ε δ → Prop} [∀ a e, Decidable (ok a e)]
    (s : Wired F σ τ U D) (e : Event ε δ) : Decidable (Admitted L R ok s e) :=
  inferInstanceAs (Decidable (∀ e' ∈ speaks L R s e, ok s.conversation e'))

variable [DecidableEq U] [DecidableEq D]

theorem Flows.step {hL : Orderly L} {hR : Orderly R} {e : Event ε δ} (h : Flows hL hR s)
    (hfitsL : ∀ m b, L.encode m = some b → F.Fits b)
    (hfitsR : ∀ m b, R.encode m = some b → F.Fits b) (hagreedL : Agreed L R s.conversation)
    (hagreedR : Agreed R L s.conversation.swap) (hstep : step L R s e = some t) :
    Flows hL hR t ∧
      match speaks L R s e with
      | some e' => ∃ room, ∀ capacity, room ≤ capacity →
          Parties.step L.toParty R.toParty capacity s.conversation e' = some t.conversation
      | none => t.conversation = s.conversation := by
  cases e with
  | left a =>
      obtain ⟨hright, hforth, hback, hspoken⟩ := act_spec hL h.forth h.back hfitsR hagreedL hstep
      refine ⟨⟨hright ▸ hforth, hright ▸ hback⟩, ?_⟩
      cases hcompletes : completes L s a with
      | none =>
          rw [hcompletes] at hspoken
          simpa [speaks, hcompletes] using hspoken
      | some m =>
          rw [hcompletes] at hspoken
          simp only [speaks, hcompletes, Option.map_some]
          exact ⟨s.forth.whole.length + 1, fun capacity hle => hspoken capacity hle⟩
  | right a =>
      obtain ⟨r, hact, rfl⟩ := Option.map_eq_some_iff.mp hstep
      obtain ⟨hleft, hforth, hback, hspoken⟩ :=
        act_spec (s := s.swap) hR h.back h.forth hfitsL hagreedR hact
      have hsame : r.swap.left = s.left := hleft
      refine ⟨⟨hsame ▸ hback, hsame ▸ hforth⟩, ?_⟩
      cases hcompletes : completes R s.swap a with
      | none =>
          rw [hcompletes] at hspoken
          simp only [speaks, hcompletes, Option.map_none]
          exact congrArg Joint.swap hspoken
      | some m =>
          rw [hcompletes] at hspoken
          simp only [speaks, hcompletes, Option.map_some]
          refine ⟨s.back.whole.length + 1, fun capacity hle => ?_⟩
          exact Option.map_eq_some_iff.mpr ⟨r.conversation, hspoken capacity hle, rfl⟩

/-- Orderly parties that agree on the kinds of their messages in every conversation never
misread the stream, and a run over the stream is a conversation. -/
theorem refines {ok : Joint σ τ U D → Parties.Event ε δ → Prop} (hL : Orderly L)
    (hR : Orderly R) (hfitsL : ∀ m b, L.encode m = some b → F.Fits b)
    (hfitsR : ∀ m b, R.encode m = some b → F.Fits b) (left : σ) (right : τ) (forth back : ℕ+)
    (hagreed : ∀ capacity a, Reach (Parties.step L.toParty R.toParty capacity) ok
      ⟨left, right, [], []⟩ a → Agreed L R a ∧ Agreed R L a.swap)
    (h : Reach (step L R) (Admitted L R ok) (Wired.start F left right forth back) s) :
    (∃ capacity, Reach (Parties.step L.toParty R.toParty capacity) ok ⟨left, right, [], []⟩
      s.conversation) ∧ Flows hL hR s := by
  induction h with
  | refl => exact ⟨⟨0, Reach.refl _⟩, flows_start hL hR left right forth back⟩
  | @tail a b _ hlast ih =>
      obtain ⟨e, hadmitted, hstep⟩ := hlast
      obtain ⟨⟨capacity, hreach⟩, hflows⟩ := ih
      obtain ⟨hagreedL, hagreedR⟩ := hagreed capacity a.conversation hreach
      obtain ⟨hflows', hspoken⟩ := hflows.step hfitsL hfitsR hagreedL hagreedR hstep
      refine ⟨?_, hflows'⟩
      cases hspeaks : speaks L R a e with
      | none =>
          rw [hspeaks] at hspoken
          rw [hspoken]
          exact ⟨capacity, hreach⟩
      | some e' =>
          rw [hspeaks] at hspoken
          obtain ⟨room, hroom⟩ := hspoken
          refine ⟨max capacity room, ?_⟩
          exact (reach_mono (Nat.le_max_left ..) hreach).snoc (hadmitted e' hspeaks)
            (hroom _ (Nat.le_max_right ..))

/-- What is being sent has a form as bytes. -/
structure Sendable (L : Coded β σ ε U D) (R : Coded β τ δ D U) (s : Wired F σ τ U D) : Prop where
  left : ∀ m, L.offer s.left = some m → (L.encode m).isSome = true
  right : ∀ m, R.offer s.right = some m → (R.encode m).isSome = true

/-- Whoever can move in the conversation can go on over the streams, or it waits for room that
the other party is going to make. -/
theorem enabled_of_step {hL : Orderly L} {hR : Orderly R} (h : Flows hL hR s)
    (hfitsL : ∀ m b, L.encode m = some b → F.Fits b)
    (hfitsR : ∀ m b, R.encode m = some b → F.Fits b) (hagreedL : Agreed L R s.conversation)
    (hagreedR : Agreed R L s.conversation.swap) (hsendable : Sendable L R s)
    (hreadsL : ∀ m t, L.receive s.left m = some t → L.reads s.left = true)
    (hreadsR : ∀ m t, R.receive s.right m = some t → R.reads s.right = true) {capacity : Nat}
    {e : Parties.Event ε δ} {r : Joint σ τ U D} (hheard : Heard L R s.conversation e)
    (hstep : Parties.step L.toParty R.toParty capacity s.conversation e = some r) :
    ∃ e' t, Answers e e' ∧ Framed.step L R s e' = some t := by
  cases e with
  | left m =>
      rcases act_of_move hL h.forth h.back hfitsL hfitsR hagreedL hsendable.left hreadsL hstep with
        ⟨a, t, hserves, hact⟩ | ⟨rfl, hbytes⟩
      · exact ⟨.left a, t, .left hserves, hact⟩
      · obtain ⟨t, hread⟩ :=
          act_of_read (s := s.swap) hR h.forth hfitsL hagreedR hheard hbytes
        exact ⟨.right (.read 1), t.swap, .forth 1, Option.map_eq_some_iff.mpr ⟨t, hread, rfl⟩⟩
  | right m =>
      obtain ⟨r', hmove, -⟩ := Option.map_eq_some_iff.mp hstep
      rcases act_of_move (s := s.swap) hR h.back h.forth hfitsR hfitsL hagreedR hsendable.right
        hreadsR hmove with ⟨a, t, hserves, hact⟩ | ⟨rfl, hbytes⟩
      · exact ⟨.right a, t.swap, .right hserves, Option.map_eq_some_iff.mpr ⟨t, hact, rfl⟩⟩
      · obtain ⟨t, hread⟩ := act_of_read hL h.back hfitsR hagreedL hheard hbytes
        exact ⟨.left (.read 1), t, .back 1, hread⟩

end

end Rlirsh.Lib.Framed
