import Rlirsh.Protocol

/-!
The terminal: in `terminal/raw_mode.rs` the settings that are put aside while it is in raw
mode, and the writer of the log that has to know about it; the mutex makes each call one
step.  In `terminal/mod.rs` the size of its window.
-/

namespace Rlirsh.Terminal

open Rlirsh.Protocol

universe u v

/-- The error number of a call that fails. -/
abbrev Errno := Nat

/-- `imp::RawMode`, whose file descriptor does not change. -/
structure RawMode (Termios : Type u) where
  orig : Option Termios
deriving DecidableEq, Repr

/-- What is recorded, and the settings the terminal really has. -/
structure State (Termios : Type u) where
  rawMode : RawMode Termios
  terminal : Termios
deriving DecidableEq, Repr

variable {Termios : Type u}

/-- `RawMode::new`, on a terminal with the settings `t`. -/
def State.new (t : Termios) : State Termios := { rawMode := ⟨none⟩, terminal := t }

/-- `RawMode::is_raw_mode`. -/
def RawMode.isRawMode (mode : RawMode Termios) : Bool := mode.orig.isSome

/-- `tcsetattr` comes to `res`; if it fails the terminal is as it was. -/
def tcsetattr (terminal attr : Termios) (res : Except Errno Unit) : Termios :=
  match res with
  | .ok _ => attr
  | .error _ => terminal

/-- `enter_raw_mode`, with what `tcgetattr` and `tcsetattr` come to. -/
def enterRawMode (cfmakeraw : Termios → Termios) (terminal : Termios)
    (get set : Except Errno Unit) : Except Errno Termios × Termios :=
  match get with
  | .error errno => (.error errno, terminal)
  | .ok _ =>
      let orig := terminal
      let terminal' := tcsetattr terminal (cfmakeraw orig) set
      match set with
      | .error errno => (.error errno, terminal')
      | .ok _ => (.ok orig, terminal')

/-- `leave_raw_mode`. -/
def leaveRawMode (terminal orig : Termios) (set : Except Errno Unit) :
    Except Errno Unit × Termios :=
  (set, tcsetattr terminal orig set)

/-- `RawMode::enter`. -/
def enter (cfmakeraw : Termios → Termios) (s : State Termios) (get set : Except Errno Unit) :
    Except Errno Bool × State Termios :=
  match s.rawMode.orig with
  | none =>
      match enterRawMode cfmakeraw s.terminal get set with
      | (.ok orig, terminal) => (.ok true, { rawMode := ⟨some orig⟩, terminal })
      | (.error errno, terminal) => (.error errno, { s with terminal })
  | some _ => (.ok false, s)

/-- `RawMode::leave`.  `take` has emptied the record before the settings are restored. -/
def leave (s : State Termios) (set : Except Errno Unit) : Except Errno Bool × State Termios :=
  match s.rawMode.orig with
  | some orig =>
      match leaveRawMode s.terminal orig set with
      | (.ok _, terminal) => (.ok true, { rawMode := ⟨none⟩, terminal })
      | (.error errno, terminal) => (.error errno, { rawMode := ⟨none⟩, terminal })
  | none => (.ok false, s)

/-- A call, of the guard, of `serve` or of the panic hook, with what the calls of `termios`
it makes come to. -/
inductive Call
  | enter (get set : Except Errno Unit)
  | leave (set : Except Errno Unit)

def call (cfmakeraw : Termios → Termios) (s : State Termios) :
    Call → Except Errno Bool × State Termios
  | .enter get set => enter cfmakeraw s get set
  | .leave set => leave s set

/-- The terminal is raw exactly if it can be restored to `t`. -/
def Restorable (cfmakeraw : Termios → Termios) (t : Termios) (s : State Termios) : Prop :=
  match s.rawMode.orig with
  | some orig => orig = t ∧ s.terminal = cfmakeraw t
  | none => s.terminal = t

/-- What a call promises: it comes to `res` and leads from `s` to `s'`. -/
structure Kept (cfmakeraw : Termios → Termios) (t : Termios) (s : State Termios)
    (res : Except Errno Bool) (s' : State Termios) : Prop where
  restorable : Restorable cfmakeraw t s'
  unchanged : (∃ errno, res = .error errno) → s' = s
  changed : res = .ok true ↔ s'.rawMode.isRawMode ≠ s.rawMode.isRawMode

/-- Every one of the calls keeps its promise. -/
def Upheld (cfmakeraw : Termios → Termios) (t : Termios) : State Termios → List Call → Prop
  | _, [] => True
  | s, c :: cs =>
      Kept cfmakeraw t s (call cfmakeraw s c).1 (call cfmakeraw s c).2 ∧
        Upheld cfmakeraw t (call cfmakeraw s c).2 cs

/-- None of the calls is a `leave` in raw mode whose `tcsetattr` fails. -/
def Unfailing (cfmakeraw : Termios → Termios) : State Termios → List Call → Prop
  | _, [] => True
  | s, c :: cs =>
      (∀ errno, c = .leave (.error errno) → s.rawMode.isRawMode = false) ∧
        Unfailing cfmakeraw (call cfmakeraw s c).2 cs

variable {cfmakeraw : Termios → Termios} {t : Termios} {s : State Termios}

theorem restorable_new : Restorable cfmakeraw t (State.new t) := rfl

theorem kept_enter (h : Restorable cfmakeraw t s) (get set : Except Errno Unit) :
    Kept cfmakeraw t s (enter cfmakeraw s get set).1 (enter cfmakeraw s get set).2 := by
  obtain ⟨⟨orig⟩, terminal⟩ := s
  rcases orig with _ | orig
  · obtain rfl : terminal = t := h
    rcases get with errno | _
    · exact ⟨rfl, fun _ => rfl, by simp [enter, enterRawMode, RawMode.isRawMode]⟩
    · rcases set with errno | _
      · exact ⟨rfl, fun _ => rfl, by simp [enter, enterRawMode, RawMode.isRawMode]⟩
      · refine ⟨⟨rfl, rfl⟩, ?_, by simp [enter, enterRawMode, RawMode.isRawMode]⟩
        rintro ⟨errno, herr⟩
        simp [enter, enterRawMode] at herr
  · exact ⟨h, fun _ => rfl, by simp [enter]⟩

theorem kept_leave_iff (h : Restorable cfmakeraw t s) (set : Except Errno Unit) :
    Kept cfmakeraw t s (leave s set).1 (leave s set).2 ↔
      ∀ errno, set = .error errno → s.rawMode.isRawMode = false := by
  obtain ⟨⟨orig⟩, terminal⟩ := s
  rcases orig with _ | orig
  · refine ⟨fun _ _ _ => rfl, fun _ => ⟨h, fun _ => rfl, by simp [leave]⟩⟩
  · obtain ⟨rfl, rfl⟩ := h
    rcases set with errno | _
    · constructor
      · intro hkept
        have hunchanged := hkept.unchanged ⟨errno, rfl⟩
        simp [leave, leaveRawMode] at hunchanged
      · intro hnot
        simp [RawMode.isRawMode] at hnot
    · refine ⟨fun _ _ herr => ?_, fun _ => ⟨rfl, ?_, ?_⟩⟩
      · cases herr
      · rintro ⟨errno, herr⟩
        simp [leave, leaveRawMode] at herr
      · simp [leave, leaveRawMode, RawMode.isRawMode]

theorem kept_iff (h : Restorable cfmakeraw t s) (c : Call) :
    Kept cfmakeraw t s (call cfmakeraw s c).1 (call cfmakeraw s c).2 ↔
      ∀ errno, c = .leave (.error errno) → s.rawMode.isRawMode = false := by
  cases c with
  | enter get set => exact ⟨fun _ _ hc => (by cases hc), fun _ => kept_enter h get set⟩
  | leave set =>
      refine (kept_leave_iff h set).trans (forall_congr' fun errno => ?_)
      rw [Call.leave.injEq]

theorem upheld_iff (h : Restorable cfmakeraw t s) (cs : List Call) :
    Upheld cfmakeraw t s cs ↔ Unfailing cfmakeraw s cs := by
  induction cs generalizing s with
  | nil => exact Iff.rfl
  | cons c cs ih =>
      simp only [Upheld, Unfailing, kept_iff h c]
      apply and_congr_right
      intro hnot
      exact ih ((kept_iff h c).mpr hnot).restorable

/-- The terminal can be restored after every call, and every call does what it says, exactly
if no `tcsetattr` fails in a `leave` of raw mode. -/
theorem upheld_iff_unfailing (cfmakeraw : Termios → Termios) (t : Termios) (cs : List Call) :
    Upheld cfmakeraw t (State.new t) cs ↔ Unfailing cfmakeraw (State.new t) cs :=
  upheld_iff restorable_new cs

/-- Some of the flags `cfmakeraw` clears. -/
structure Flags where
  echo : Bool
  icanon : Bool
  isig : Bool
  opost : Bool
deriving DecidableEq, Repr

def Flags.makeRaw (_ : Flags) : Flags := ⟨false, false, false, false⟩

/-- A `tcsetattr` that fails once loses the settings: the terminal is raw and counts as
cooked, and the next `leave` has nothing to restore. -/
theorem lost_by_leave :
    ∃ (t : Flags) (cs : List Call), ¬ Upheld Flags.makeRaw t (State.new t) cs ∧
      (call Flags.makeRaw (State.new t) (.enter (.ok ()) (.ok ()))).2 =
        ⟨⟨some t⟩, t.makeRaw⟩ ∧
      leave ⟨⟨some t⟩, t.makeRaw⟩ (.error 4) = (.error 4, ⟨⟨none⟩, t.makeRaw⟩) ∧
      leave ⟨⟨none⟩, t.makeRaw⟩ (.ok ()) = (.ok false, ⟨⟨none⟩, t.makeRaw⟩) ∧
      t.makeRaw ≠ t := by
  refine ⟨⟨true, true, true, true⟩, [.enter (.ok ()) (.ok ()), .leave (.error 4)],
    fun hupheld => ?_, rfl, rfl, rfl, by decide⟩
  obtain ⟨-, hkept, -⟩ := hupheld
  cases hkept.restorable

/-- What `RawModeWriter` writes to.  A `write_all` that succeeds has handed on the whole
buffer, and nothing else. -/
class Write (W : Type u) where
  writeAll : W → Bytes → Except Errno Unit × W
  output : W → Bytes
  output_writeAll (w : W) (buf : Bytes) :
    (writeAll w buf).1 = .ok () → output (writeAll w buf).2 = output w ++ buf

open Write

/-- The body of the loop of `RawModeWriter::write`. -/
def extend (converted : Bytes) (line : Bytes × Nat) : Bytes :=
  (if line.2 > 0 then converted ++ [13, 10] else converted) ++ line.1

/-- The loop of `RawModeWriter::write`. -/
def convert (buf : Bytes) : Bytes := (buf.splitOn 10).zipIdx.foldl extend []

variable {W : Type v} [Write W]

/-- `RawModeWriter::write`. -/
def write (rawMode : RawMode Termios) (w : W) (buf : Bytes) : Except Errno Nat × W :=
  let out := if rawMode.isRawMode then convert buf else buf
  match writeAll w out with
  | (.ok _, w') => (.ok buf.length, w')
  | (.error errno, w') => (.error errno, w')

/-- Successive calls, each with what it returns. -/
def writes (rawMode : RawMode Termios) (w : W) : List Bytes → List (Except Errno Nat) × W
  | [] => ([], w)
  | buf :: bufs =>
      let (res, w') := write rawMode w buf
      let (ress, w'') := writes rawMode w' bufs
      (res :: ress, w'')

def eintr : Errno := 4

/-- `ErrorKind::WriteZero`, which has no error number. -/
def writeZero : Errno := 0

/-- `Write::write_all` of the standard library, in at most so many calls of `write`. -/
def writeAllLoop (rawMode : RawMode Termios) : Nat → W → Bytes → Option (Except Errno Unit × W)
  | _, w, [] => some (.ok (), w)
  | 0, _, _ :: _ => none
  | n + 1, w, b :: buf =>
      match write rawMode w (b :: buf) with
      | (.ok 0, w') => some (.error writeZero, w')
      | (.ok (m + 1), w') => writeAllLoop rawMode n w' ((b :: buf).drop (m + 1))
      | (.error errno, w') =>
          if errno = eintr then writeAllLoop rawMode n w' (b :: buf)
          else some (.error errno, w')

/-- What becomes of a byte. -/
def substitute (rawMode : RawMode Termios) (b : UInt8) : Bytes :=
  if rawMode.isRawMode ∧ b = 10 then [13, 10] else [b]

theorem foldl_extend (lines : List Bytes) (converted : Bytes) (n : Nat) :
    (lines.zipIdx (n + 1)).foldl extend converted =
      converted ++ lines.flatMap fun line => [13, 10] ++ line := by
  induction lines generalizing converted n with
  | nil => simp
  | cons line lines ih =>
      rw [List.zipIdx_cons, List.foldl_cons, ih, List.flatMap_cons]
      simp [extend]

theorem convert_eq (buf line : Bytes) (lines : List Bytes)
    (hsplit : buf.splitOn 10 = line :: lines) :
    convert buf = line ++ lines.flatMap fun line => [13, 10] ++ line := by
  rw [convert, hsplit, List.zipIdx_cons, List.foldl_cons, foldl_extend]
  simp [extend]

@[simp] theorem convert_nil : convert [] = [] := rfl

theorem convert_cons (b : UInt8) (buf : Bytes) :
    convert (b :: buf) = (if b = 10 then [13, 10] else [b]) ++ convert buf := by
  obtain ⟨line, lines, hsplit⟩ := List.exists_cons_of_ne_nil (List.splitOn_ne_nil 10 buf)
  rw [convert_eq buf line lines hsplit]
  by_cases hb : b = 10
  · have hcons : (b :: buf).splitOn 10 = [] :: line :: lines := by
      rw [List.splitOn_cons_eq_if_modifyHead, hsplit, if_pos (by simp [hb])]
    rw [convert_eq _ _ _ hcons, if_pos hb, List.flatMap_cons]
    simp
  · have hcons : (b :: buf).splitOn 10 = (b :: line) :: lines := by
      rw [List.splitOn_cons_eq_if_modifyHead, hsplit, if_neg (by simp [hb])]
      rfl
    rw [convert_eq _ _ _ hcons, if_neg hb]
    simp

theorem convert_eq_flatMap (buf : Bytes) :
    convert buf = buf.flatMap fun b => if b = 10 then [13, 10] else [b] := by
  induction buf with
  | nil => rfl
  | cons b buf ih => rw [convert_cons, ih, List.flatMap_cons]

theorem out_eq (rawMode : RawMode Termios) (buf : Bytes) :
    (if rawMode.isRawMode then convert buf else buf) = buf.flatMap (substitute rawMode) := by
  split
  · rename_i hraw
    rw [convert_eq_flatMap]
    congr 1
    funext b
    simp [substitute, hraw]
  · rename_i hraw
    have hsame : substitute rawMode = fun b => [b] := by
      funext b
      simp [substitute, hraw]
    rw [hsame, List.flatMap_singleton']

theorem write_ok {rawMode : RawMode Termios} {w : W} {buf : Bytes} {n : Nat}
    (hok : (write rawMode w buf).1 = .ok n) : n = buf.length ∧
      output (write rawMode w buf).2 = output w ++ buf.flatMap (substitute rawMode) := by
  have hwrite := output_writeAll w (if rawMode.isRawMode then convert buf else buf)
  revert hok hwrite
  simp only [write]
  generalize writeAll w (if rawMode.isRawMode then convert buf else buf) = res
  obtain ⟨res | res, w'⟩ := res
  · intro hok
    cases hok
  · intro hok hwrite
    obtain rfl := Except.ok.inj hok
    refine ⟨rfl, ?_⟩
    rw [← out_eq]
    exact hwrite rfl

theorem writes_ok {rawMode : RawMode Termios} {w : W} {bufs : List Bytes}
    (hok : ∀ res ∈ (writes rawMode w bufs).1, ∃ n, res = .ok n) :
    (writes rawMode w bufs).1 = bufs.map (fun buf => .ok buf.length) ∧
      output (writes rawMode w bufs).2 =
        output w ++ bufs.flatten.flatMap (substitute rawMode) := by
  induction bufs generalizing w with
  | nil => simp [writes]
  | cons buf bufs ih =>
      simp only [writes, List.mem_cons, forall_eq_or_imp] at hok
      obtain ⟨⟨n, hn⟩, hrest⟩ := hok
      obtain ⟨rfl, hout⟩ := write_ok hn
      obtain ⟨hress, houts⟩ := ih hrest
      refine ⟨?_, ?_⟩
      · simp only [writes, List.map_cons, hn, hress]
      · simp only [writes, List.flatten_cons, List.flatMap_append, houts, hout,
          List.append_assoc]

theorem writeAllLoop_ok {rawMode : RawMode Termios} {w : W} {buf : Bytes} (hne : buf ≠ [])
    {m : Nat} (hok : (write rawMode w buf).1 = .ok m) (n : Nat) :
    writeAllLoop rawMode (n + 1) w buf = some (.ok (), (write rawMode w buf).2) := by
  rcases buf with _ | ⟨b, buf⟩
  · exact absurd rfl hne
  · obtain ⟨rfl, -⟩ := write_ok hok
    rw [writeAllLoop]
    revert hok
    generalize write rawMode w (b :: buf) = res
    obtain ⟨res, w'⟩ := res
    rintro rfl
    simp only [List.length_cons, List.drop_succ_cons, List.drop_length]
    cases n <;> rfl

/-- However the bytes are cut into calls that succeed, the line feeds are replaced in raw
mode, nothing is in cooked mode, each call returns the length of its buffer, and a caller
that loops makes one call for each buffer that is not empty. -/
theorem conversion_exact (rawMode : RawMode Termios) (w : W) (bufs : List Bytes)
    (hok : ∀ res ∈ (writes rawMode w bufs).1, ∃ n, res = .ok n) :
    output (writes rawMode w bufs).2 = output w ++
        (if rawMode.isRawMode then
          bufs.flatten.flatMap fun b => if b = 10 then [13, 10] else [b]
        else bufs.flatten) ∧
      (writes rawMode w bufs).1 = bufs.map (fun buf => .ok buf.length) ∧
      ∀ (w' : W) (buf : Bytes) (m : Nat), (write rawMode w' buf).1 = .ok m → ∀ n,
        writeAllLoop rawMode (if buf = [] then n else n + 1) w' buf =
          some (.ok (), if buf = [] then w' else (write rawMode w' buf).2) := by
  obtain ⟨hress, hout⟩ := writes_ok hok
  refine ⟨?_, hress, ?_⟩
  · rw [hout, ← out_eq]
    split
    · rw [convert_eq_flatMap]
    · rfl
  · intro w' buf m hm n
    by_cases hbuf : buf = []
    · subst hbuf
      cases n <;> rfl
    · rw [if_neg hbuf, if_neg hbuf]
      exact writeAllLoop_ok hbuf hm n

/-- `Vec<u8>` as a writer. -/
instance : Write Bytes where
  writeAll w buf := (.ok (), w ++ buf)
  output w := w
  output_writeAll _ _ _ := rfl

theorem conversion_exact_cutAtNewlines :
    writes (⟨some ()⟩ : RawMode Unit) ([] : Bytes) [[10], [], [97, 10, 10], [98]] =
        ([.ok 1, .ok 0, .ok 3, .ok 1], [13, 10, 97, 13, 10, 13, 10, 98]) ∧
      writeAllLoop (⟨some ()⟩ : RawMode Unit) 1 ([] : Bytes) [10, 98] =
        some (.ok (), [13, 10, 98]) := by
  obtain ⟨hout, hress, hloop⟩ := conversion_exact (⟨some ()⟩ : RawMode Unit) ([] : Bytes)
    [[10], [], [97, 10, 10], [98]] (by
      intro res hres
      simp only [writes, write, List.mem_cons, List.not_mem_nil, or_false] at hres
      rcases hres with rfl | rfl | rfl | rfl <;> exact ⟨_, rfl⟩)
  refine ⟨Prod.ext hress (hout.trans (by decide)), ?_⟩
  exact hloop [] [10, 98] 2 rfl 0

/-- `libc::winsize`. -/
structure Winsize where
  wsRow : UInt16
  wsCol : UInt16
  wsXpixel : UInt16
  wsYpixel : UInt16
deriving DecidableEq, Repr

/-- `get_window_size` on a terminal of that size. -/
def getWindowSize (winsz : Winsize) : UInt16 × UInt16 := (winsz.wsCol, winsz.wsRow)

/-- What `set_window_size` asks `tiocswinsz` for. -/
def setWindowSize (w h : UInt16) : Winsize :=
  { wsCol := w, wsRow := h, wsXpixel := 0, wsYpixel := 0 }

/-- `PtyMaster`: the size of its window, and what the calls of `tiocswinsz` return that are
still to come. -/
structure PtyMaster where
  winsz : Winsize
  tiocswinsz : Nat → Except Report Unit

/-- A pty that accepts every size. -/
def PtyMaster.accepting (winsz : Winsize) : PtyMaster := { winsz, tiocswinsz := fun _ => .ok () }

/-- `set_window_size` on a pty. -/
def PtyMaster.setWindowSize (pty : PtyMaster) (w h : UInt16) : Except Report Unit × PtyMaster :=
  let res := pty.tiocswinsz 0
  let winsz :=
    match res with
    | .ok _ => Terminal.setWindowSize w h
    | .error _ => pty.winsz
  (res, { winsz, tiocswinsz := fun n => pty.tiocswinsz (n + 1) })

end Rlirsh.Terminal
