import Sigar.Libc

namespace Sigar

/-- MAX_STRING_LEN, the size of both readers' static password array. -/
def maxStringLen : Nat := 8192

/-- EOF as getchar and _getch return it. -/
def eof : BitVec 32 := -1

/-- getchar() over a finite input (and _getch() on WIN32, which the model reads the same
way): the next byte widened to int, or EOF once the input is used up, for ever after. -/
def getchar : List (BitVec 8) → BitVec 32 × List (BitVec 8)
  | [] => (eof, [])
  | c :: rest => (c.setWidth 32, rest)

/-- The char an int is stored as: its low byte. -/
def byteChar (ch : BitVec 32) : Char := Char.ofNat (ch.setWidth 8).toNat

/-- Whether plain char is signed in the build, which decides the int a stored char is
read back as. -/
structure CharBuild where
  charSigned : Bool

/-- The int a char holds when a comparison promotes it. -/
def CharBuild.charValue (b : CharBuild) (c : Char) : Int :=
  if b.charSigned then (BitVec.ofNat 8 c.toNat).toInt else c.toNat

/-- iscntrl of the C locale, for the key codes 0..255 it is called with. -/
def iscntrl (ch : BitVec 32) : Bool := ch.toNat < 32 || ch.toNat == 127

/-- The static password array: its contents are what earlier calls left, its size is
MAX_STRING_LEN. -/
structure PasswordBuf where
  bytes : List Char
  size : bytes.length = maxStringLen

/-- The array as the first call finds it, zero-initialised. -/
def staticPassword : PasswordBuf := ⟨List.replicate maxStringLen nul, List.length_replicate _ _⟩

/-- The state of a password reader between two passes of its read loop: the input not
read yet, the index n, and the password array. -/
structure Reader where
  input : List (BitVec 8)
  n : Nat
  password : List Char

/-- How a password reader ends: returning the password array, returning NULL, or
calling exit. -/
inductive PasswordEnd
  | password (bytes : List Char)
  | null
  | exit (status : Int)

/-- What one pass of a read loop does: go round again, leave the loop, or leave the
function from inside it. -/
inductive Pass
  | next (r : Reader)
  | done (r : Reader)
  | leave (e : PasswordEnd)

/-- A read loop run for at most `fuel` passes; `none` when the budget runs out first. -/
def runPasses (pass : Reader → Except Fault Pass) : Nat → Reader → Option (Except Fault (Reader ⊕ PasswordEnd))
  | 0, _ => none
  | fuel + 1, r =>
    match pass r with
    | .error f => some (.error f)
    | .ok (.next r') => runPasses pass fuel r'
    | .ok (.done r') => some (.ok (.inl r'))
    | .ok (.leave e) => some (.ok (.inr e))

/-- The code after a read loop, run on the state the loop left in. -/
def finishWith (finish : Reader → Except Fault PasswordEnd) : Except Fault (Reader ⊕ PasswordEnd) →
    Except Fault PasswordEnd
  | .error f => .error f
  | .ok (.inl r) => finish r
  | .ok (.inr e) => .ok e

/-! ### termios_getpass (HP-UX) -/

/-- What tcgetattr and tcsetattr return on the terminal. -/
structure Tty where
  tcgetattr : Int
  tcsetattr : Int

/-- One pass of `while ((password[n] = getchar()) != '\n')`: the byte read is stored at
password[n] before it is compared. -/
def termiosPass (b : CharBuild) (r : Reader) : Except Fault Pass := do
  let (ch, input) := getchar r.input
  let password ← writeAt r.password r.n [byteChar ch]
  let c := b.charValue (byteChar ch)
  if c = 10 then pure (.done ⟨input, r.n, password⟩)
  else if r.n < maxStringLen - 1 ∧ 32 ≤ c ∧ c ≤ 126 then pure (.next ⟨input, r.n + 1, password⟩)
  else pure (.next ⟨input, 0, password⟩)

/-- The code after termios_getpass's loop. -/
def termiosFinish (r : Reader) : Except Fault PasswordEnd := do
  let password ← writeAt r.password r.n [nul]
  let password ← if r.n > maxStringLen - 1 then writeAt password (maxStringLen - 1) [nul] else pure password
  pure (.password password)

def termiosGetpass (b : CharBuild) (tty : Tty) (buf : PasswordBuf) (fuel : Nat) (input : List (BitVec 8)) :
    Option (Except Fault PasswordEnd) :=
  if tty.tcgetattr ≠ 0 then some (.ok .null)
  else if tty.tcsetattr ≠ 0 then some (.ok .null)
  else (runPasses (termiosPass b) fuel ⟨input, 0, buf.bytes⟩).map (finishWith termiosFinish)

/-! ### sigar_password_get (WIN32) -/

/-- `password[--n] = '\0'`; at n = 0 it would write password[-1]. -/
def backspace (input : List (BitVec 8)) : Nat → List Char → Except Fault Pass
  | 0, _ => .error .outOfBounds
  | n + 1, password => do
    let password ← writeAt password n [nul]
    pure (.next ⟨input, n, password⟩)

/-- One pass of `while ((ch = _getch()) != '\r')`. -/
def win32Pass (r : Reader) : Except Fault Pass :=
  let (ch, input) := getchar r.input
  if ch = 13#32 then pure (.done ⟨input, r.n, r.password⟩)
  else if ch = eof then pure (.leave .null)
  else if ch = 0#32 ∨ ch = 0xE0#32 then
    let (key, input) := getchar input
    let ch := (ch <<< 4) ||| key
    if (ch = 0xE53#32 ∨ ch = 0xE4B#32 ∨ ch = 0x053#32 ∨ ch = 0x04B#32) ∧ r.n ≠ 0 then
      backspace input r.n r.password
    else pure (.next ⟨input, r.n, r.password⟩)
  else if (ch = 8#32 ∨ ch = 127#32) ∧ r.n ≠ 0 then backspace input r.n r.password
  else if ch = 3#32 then pure (.leave (.exit (-1)))
  else if ch = 26#32 then pure (.leave .null)
  else if ch = 27#32 then pure (.next ⟨input, 0, r.password⟩)
  else if r.n < maxStringLen - 1 ∧ !iscntrl ch then do
    let password ← writeAt r.password r.n [byteChar ch]
    pure (.next ⟨input, r.n + 1, password⟩)
  else pure (.next ⟨input, r.n, r.password⟩)

/-- The code after the WIN32 loop. -/
def win32Finish (r : Reader) : Except Fault PasswordEnd := do
  let password ← writeAt r.password r.n [nul]
  pure (.password password)

def sigarPasswordGet (buf : PasswordBuf) (fuel : Nat) (input : List (BitVec 8)) :
    Option (Except Fault PasswordEnd) :=
  (runPasses win32Pass fuel ⟨input, 0, buf.bytes⟩).map (finishWith win32Finish)

/-! ### Runs of a read loop -/

/-- What a pass must do for its loop to end: a pass that goes round keeps `Inv` and
consumes input, and one that leaves the loop leaves it in a state satisfying `Done`. -/
def Pass.Advances (Inv Done : Reader → Prop) (r : Reader) : Pass → Prop
  | .next r' => Inv r' ∧ r'.input.length < r.input.length
  | .done r' => Done r'
  | .leave _ => True

section Runs

variable {pass : Reader → Except Fault Pass} {Inv Done : Reader → Prop}

/-- A loop every pass of which, from a state satisfying `Inv`, goes round again into
such a state never ends: every budget runs out, and no pass faults. -/
theorem runPasses_diverges (loops : ∀ r, Inv r → ∃ r', pass r = .ok (.next r') ∧ Inv r') :
    ∀ fuel r, Inv r → runPasses pass fuel r = none
  | 0, _, _ => rfl
  | fuel + 1, r, holds => by
    obtain ⟨r', step, holds'⟩ := loops r holds
    rw [runPasses, step]
    exact runPasses_diverges loops fuel r' holds'

/-- A loop whose passes advance ends without fault within one pass more than the input
has bytes, with the same outcome for every larger budget. -/
theorem runPasses_ends (advances : ∀ r, Inv r → ∃ p, pass r = .ok p ∧ p.Advances Inv Done r) (r : Reader)
    (holds : Inv r) : ∃ o, (∀ fuel, r.input.length < fuel → runPasses pass fuel r = some (.ok o)) ∧
      ∀ r', o = .inl r' → Done r' := by
  generalize bound : r.input.length = length
  induction length using Nat.strong_induction_on generalizing r with
  | _ length ih =>
    obtain ⟨p, step, advanced⟩ := advances r holds
    suffices ∃ o, (∀ f, length ≤ f → runPasses pass (f + 1) r = some (.ok o)) ∧ ∀ r', o = .inl r' → Done r' by
      obtain ⟨o, run, done⟩ := this
      refine ⟨o, fun fuel long => ?_, done⟩
      obtain ⟨f, rfl⟩ : ∃ f, fuel = f + 1 := ⟨fuel - 1, by omega⟩
      exact run f (by omega)
    simp only [runPasses, step]
    cases p with
    | next r' =>
      obtain ⟨holds', shorter⟩ := advanced
      obtain ⟨o, run, done⟩ := ih _ (bound ▸ shorter) r' holds' rfl
      exact ⟨o, fun f long => run f (by omega), done⟩
    | done r' => exact ⟨.inl r', fun _ _ => rfl, fun _ same => by cases same; exact advanced⟩
    | leave e => exact ⟨.inr e, fun _ _ => rfl, fun _ same => by cases same⟩

/-- With code after the loop that succeeds from every `Done` state, the whole function
ends without fault. -/
theorem runPasses_finish (advances : ∀ r, Inv r → ∃ p, pass r = .ok p ∧ p.Advances Inv Done r)
    {finish : Reader → Except Fault PasswordEnd} (finishes : ∀ r, Done r → ∃ e, finish r = .ok e)
    (r : Reader) (holds : Inv r) :
    ∃ e, ∀ fuel, r.input.length < fuel → (runPasses pass fuel r).map (finishWith finish) = some (.ok e) := by
  obtain ⟨o, run, done⟩ := runPasses_ends advances r holds
  rcases o with r' | e
  · obtain ⟨e, finished⟩ := finishes r' (done r' rfl)
    exact ⟨e, fun fuel long => by rw [run fuel long, Option.map_some', finishWith, finished]⟩
  · exact ⟨e, fun fuel long => by rw [run fuel long, Option.map_some', finishWith]⟩

end Runs

/-- The index and the array of a reader inside MAX_STRING_LEN. -/
def Reader.InBounds (r : Reader) : Prop := r.n < maxStringLen ∧ r.password.length = maxStringLen

/-- Both readers start with n = 0 in the static array. -/
theorem Reader.start_inBounds (input : List (BitVec 8)) (buf : PasswordBuf) :
    Reader.InBounds ⟨input, 0, buf.bytes⟩ :=
  ⟨show 0 < maxStringLen by decide, buf.size⟩

theorem writeAt_one {buf : List Char} {i : Nat} (inside : i < buf.length) (c : Char) :
    ∃ buf', writeAt buf i [c] = .ok buf' ∧ buf'.length = buf.length :=
  ⟨_, writeAt_inside inside, writeAt_length (writeAt_inside inside)⟩

/-! ### termios_getpass never returns without a newline -/

theorem byteChar_toNat (ch : BitVec 32) : (byteChar ch).toNat = (ch.setWidth 8).toNat := by
  have byte := (ch.setWidth 8).isLt
  unfold byteChar Char.ofNat
  rw [dif_pos (Or.inl (by omega))]
  rfl

/-- A stored byte compares with '\n', ' ' and '~' the same way whether char is signed
or not. -/
theorem charValue_decisions (b : CharBuild) (ch : BitVec 32) :
    (b.charValue (byteChar ch) = 10 ↔ (ch.setWidth 8).toNat = 10) ∧
      (32 ≤ b.charValue (byteChar ch) ∧ b.charValue (byteChar ch) ≤ 126 ↔
        32 ≤ (ch.setWidth 8).toNat ∧ (ch.setWidth 8).toNat ≤ 126) := by
  rw [CharBuild.charValue, byteChar_toNat, BitVec.ofNat_toNat, BitVec.setWidth_eq]
  split
  · rw [BitVec.toInt_eq_toNat_cond]
    split <;> omega
  · omega

/-- One pass of termios_getpass with n inside the array: it stores the byte read and
leaves the loop on a newline; otherwise n moves on over a printable byte while there is
room and goes back to 0 over any other. -/
theorem termiosPass_eq (b : CharBuild) {r : Reader} (inside : r.n < r.password.length) :
    ∃ password, password.length = r.password.length ∧
      termiosPass b r = .ok (
        if ((getchar r.input).1.setWidth 8).toNat = 10 then .done ⟨(getchar r.input).2, r.n, password⟩
        else .next ⟨(getchar r.input).2,
          if r.n < maxStringLen - 1 ∧ 32 ≤ ((getchar r.input).1.setWidth 8).toNat ∧
            ((getchar r.input).1.setWidth 8).toNat ≤ 126 then r.n + 1 else 0, password⟩) := by
  unfold termiosPass
  generalize getchar r.input = read
  obtain ⟨ch, input⟩ := read
  obtain ⟨password, stored, size⟩ := writeAt_one inside (byteChar ch)
  refine ⟨password, size, ?_⟩
  dsimp only
  rw [stored, Except.ok_bind]
  simp only [(charValue_decisions b ch).1, (charValue_decisions b ch).2, Int.ofNat_le]
  split_ifs <;> rfl

/-- The byte a read stores: the next one, or 0xFF, EOF's low byte, at end of input. -/
theorem getchar_byte (input : List (BitVec 8)) : (getchar input).1.setWidth 8 = input.headD 255#8 := by
  cases input with
  | nil => rfl
  | cons c rest => simp [getchar]

/-- The byte read is a newline only if the input holds one. -/
theorem newline_mem_of_byte {input : List (BitVec 8)} (newline : (input.headD 255#8).toNat = 10) :
    10#8 ∈ input := by
  cases input with
  | nil => exact absurd newline (by decide)
  | cons c rest =>
    have same : c = 10#8 := BitVec.eq_of_toNat_eq newline
    exact List.mem_cons.mpr (.inl same.symm)

theorem getchar_rest_mem {input : List (BitVec 8)} {x : BitVec 8} (member : x ∈ (getchar input).2) : x ∈ input := by
  cases input with
  | nil => exact member
  | cons c rest => exact List.mem_cons_of_mem c member

theorem getchar_rest_length (input : List (BitVec 8)) : (getchar input).2.length = input.length - 1 := by
  cases input <;> rfl

/-- Over a stream with no newline, each pass of termios_getpass keeps n and the array in
bounds and goes round again. -/
theorem termiosPass_loops (b : CharBuild) (r : Reader) (holds : r.InBounds ∧ 10#8 ∉ r.input) :
    ∃ r', termiosPass b r = .ok (.next r') ∧ r'.InBounds ∧ 10#8 ∉ r'.input := by
  obtain ⟨⟨inRange, size⟩, noNewline⟩ := holds
  obtain ⟨password, size', step⟩ := termiosPass_eq b (r := r) (by omega)
  rw [getchar_byte, if_neg (mt newline_mem_of_byte noNewline)] at step
  exact ⟨_, step, ⟨by dsimp only; split <;> omega, size'.trans size⟩, mt getchar_rest_mem noNewline⟩

/-- Over a stream with a newline, each pass of termios_getpass consumes a byte, and keeps
n and the array in bounds. -/
theorem termiosPass_advances (b : CharBuild) (r : Reader) (holds : r.InBounds ∧ 10#8 ∈ r.input) :
    ∃ p, termiosPass b r = .ok p ∧ p.Advances (fun r => r.InBounds ∧ 10#8 ∈ r.input) Reader.InBounds r := by
  obtain ⟨⟨inRange, size⟩, newline⟩ := holds
  obtain ⟨password, size', step⟩ := termiosPass_eq b (r := r) (by omega)
  have consumed : (getchar r.input).2.length < r.input.length := by
    rw [getchar_rest_length]
    exact Nat.sub_lt (List.length_pos_of_mem newline) Nat.one_pos
  refine ⟨_, step, ?_⟩
  rw [getchar_byte]
  by_cases isNewline : (r.input.headD 255#8).toNat = 10
  · rw [if_pos isNewline]
    exact ⟨inRange, size'.trans size⟩
  · rw [if_neg isNewline]
    refine ⟨⟨⟨by dsimp only; split <;> omega, size'.trans size⟩, ?_⟩, consumed⟩
    rcases r with ⟨_ | ⟨c, rest⟩, n, _⟩
    · exact absurd newline (List.not_mem_nil _)
    · exact (List.mem_cons.mp newline).resolve_left fun same => isNewline (by rw [← same]; rfl)

/-- termios_getpass's code after the loop succeeds when the loop left n in bounds. -/
theorem termiosFinish_ok (r : Reader) (holds : r.InBounds) : ∃ e, termiosFinish r = .ok e := by
  obtain ⟨inRange, size⟩ := holds
  obtain ⟨password, stored, -⟩ := writeAt_one (show r.n < r.password.length by omega) nul
  refine ⟨.password password, ?_⟩
  rw [termiosFinish, stored, Except.ok_bind, if_neg (by omega)]
  rfl

/-! ### The WIN32 reader ends on every input -/

/-- A pass that branches advances when both of its branches do. -/
theorem Pass.advances_ite {c : Prop} [Decidable c] {x y : Except Fault Pass} {Inv Done : Reader → Prop} {r : Reader}
    (yes : c → ∃ p, x = .ok p ∧ p.Advances Inv Done r) (no : ¬c → ∃ p, y = .ok p ∧ p.Advances Inv Done r) :
    ∃ p, (if c then x else y) = .ok p ∧ p.Advances Inv Done r :=
  iteInduction (motive := fun pass : Except Fault Pass => ∃ p, pass = Except.ok p ∧ p.Advances Inv Done r) yes no

theorem backspace_advances {r : Reader} (holds : r.InBounds) (erasing : r.n ≠ 0) {input : List (BitVec 8)}
    (shorter : input.length < r.input.length) :
    ∃ p, backspace input r.n r.password = .ok p ∧ p.Advances Reader.InBounds Reader.InBounds r := by
  obtain ⟨inRange, size⟩ := holds
  obtain ⟨n, previous⟩ := Nat.exists_eq_succ_of_ne_zero erasing
  obtain ⟨password, stored, size'⟩ := writeAt_one (show n < r.password.length by omega) nul
  rw [previous, backspace, stored, Except.ok_bind]
  exact ⟨_, rfl, ⟨by dsimp only; omega, size'.trans size⟩, shorter⟩

/-- Each pass of the WIN32 reader, from n and the array in bounds, keeps them in bounds
and consumes input, or leaves the function. -/
theorem win32Pass_advances (r : Reader) (holds : r.InBounds) :
    ∃ p, win32Pass r = .ok p ∧ p.Advances Reader.InBounds Reader.InBounds r := by
  obtain ⟨inRange, size⟩ := holds
  rcases r with ⟨_ | ⟨c, rest⟩, n, password⟩
  · exact ⟨.leave .null, rfl, trivial⟩
  dsimp only at inRange size
  have consumed : rest.length < (c :: rest).length := Nat.lt_succ_self _
  have consumedKey : (getchar rest).2.length < (c :: rest).length := by
    rw [getchar_rest_length, List.length_cons]
    omega
  unfold win32Pass
  rw [show getchar (c :: rest) = (c.setWidth 32, rest) from rfl]
  dsimp only
  generalize c.setWidth 32 = ch
  -- '\r' ends the loop, EOF returns NULL
  refine Pass.advances_ite (fun _ => ⟨_, rfl, inRange, size⟩) fun _ => ?_
  refine Pass.advances_ite (fun _ => ⟨_, rfl, trivial⟩) fun _ => ?_
  -- a function key: a second byte is read, and DELETE or <-- erases
  refine Pass.advances_ite (fun _ => ?_) fun _ => ?_
  · rcases read : getchar rest with ⟨key, rest'⟩
    rw [read] at consumedKey
    exact Pass.advances_ite (fun erase => backspace_advances (r := ⟨c :: rest, n, password⟩) ⟨inRange, size⟩ erase.2
      consumedKey) fun _ => ⟨_, rfl, ⟨inRange, size⟩, consumedKey⟩
  -- BS/DEL
  refine Pass.advances_ite (fun erase => backspace_advances (r := ⟨c :: rest, n, password⟩) ⟨inRange, size⟩ erase.2
    consumed) fun _ => ?_
  -- CTRL+C exits, CTRL+Z returns NULL, ESC starts over
  refine Pass.advances_ite (fun _ => ⟨_, rfl, trivial⟩) fun _ => ?_
  refine Pass.advances_ite (fun _ => ⟨_, rfl, trivial⟩) fun _ => ?_
  refine Pass.advances_ite (fun _ => ⟨_, rfl, ⟨show 0 < maxStringLen by decide, size⟩, consumed⟩) fun _ => ?_
  -- a byte stored while there is room, any other key beeps
  refine Pass.advances_ite (fun store => ?_) fun _ => ⟨_, rfl, ⟨inRange, size⟩, consumed⟩
  obtain ⟨password', stored, size'⟩ := writeAt_one (show n < password.length by omega) (byteChar ch)
  rw [stored, Except.ok_bind]
  exact ⟨_, rfl, ⟨by dsimp only; omega, size'.trans size⟩, consumed⟩

theorem win32Finish_ok (r : Reader) (holds : r.InBounds) : ∃ e, win32Finish r = .ok e := by
  obtain ⟨inRange, size⟩ := holds
  obtain ⟨password, stored, -⟩ := writeAt_one (show r.n < r.password.length by omega) nul
  exact ⟨.password password, by rw [win32Finish, stored]; rfl⟩

/-- The WIN32 sigar_password_get ends on every input, within one pass more than the input
has bytes, and writes only inside the password array. -/
theorem sigarPasswordGet_ends (buf : PasswordBuf) (input : List (BitVec 8)) :
    ∃ e, ∀ fuel, input.length < fuel → sigarPasswordGet buf fuel input = some (.ok e) :=
  runPasses_finish win32Pass_advances win32Finish_ok ⟨input, 0, buf.bytes⟩ (Reader.start_inBounds input buf)

/-! ### termios_getpass returns only on a newline -/

/-- termios_getpass, on a terminal it can set up and over a stream holding a newline,
returns within one pass more than the stream has bytes, and writes only inside the
password array. -/
theorem termiosGetpass_with_newline (b : CharBuild) (tty : Tty) (buf : PasswordBuf) (input : List (BitVec 8))
    (getattrOk : tty.tcgetattr = 0) (setattrOk : tty.tcsetattr = 0) (newline : 10#8 ∈ input) :
    ∃ e, ∀ fuel, input.length < fuel → termiosGetpass b tty buf fuel input = some (.ok e) := by
  obtain ⟨e, run⟩ := runPasses_finish (termiosPass_advances b) termiosFinish_ok ⟨input, 0, buf.bytes⟩
    ⟨Reader.start_inBounds input buf, newline⟩
  exact ⟨e, fun fuel long => by rw [termiosGetpass, if_neg (not_not.mpr getattrOk), if_neg (not_not.mpr setattrOk),
    run fuel long]⟩

theorem termiosGetpass_newline_only :
    ∃ e, ∀ fuel, 1 < fuel → termiosGetpass ⟨true⟩ ⟨0, 0⟩ staticPassword fuel [10#8] = some (.ok e) :=
  termiosGetpass_with_newline _ _ _ _ rfl rfl (List.mem_singleton_self _)

/-- termios_getpass, on a terminal it can set up and over a stream with no newline, never
returns: at end of input getchar returns EOF for ever, stored as a byte that is not a
newline, so every budget of passes runs out, and no pass faults. -/
theorem termiosGetpass_without_newline (b : CharBuild) (tty : Tty) (buf : PasswordBuf) (input : List (BitVec 8))
    (getattrOk : tty.tcgetattr = 0) (setattrOk : tty.tcsetattr = 0) (noNewline : 10#8 ∉ input) (fuel : Nat) :
    termiosGetpass b tty buf fuel input = none := by
  rw [termiosGetpass, if_neg (not_not.mpr getattrOk), if_neg (not_not.mpr setattrOk),
    runPasses_diverges (termiosPass_loops b) fuel _ ⟨Reader.start_inBounds input buf, noNewline⟩]
  rfl

theorem termiosGetpass_at_eof : termiosGetpass ⟨true⟩ ⟨0, 0⟩ staticPassword 100000 [] = none :=
  termiosGetpass_without_newline _ _ _ _ rfl rfl (List.not_mem_nil _) _

end Sigar
