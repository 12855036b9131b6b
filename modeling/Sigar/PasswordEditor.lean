import Sigar.Password

namespace Sigar

/-! What the WIN32 sigar_password_get is for: its user edits a line, unechoed, and Enter
hands the line back. The editor below keeps the line as a list and reads the keys as
edits; the reader keeps it in the static array, as the bytes before n. The reader answers
as the editor does on every input. -/

/-- What a key typed at the prompt asks of the line. -/
inductive Edit
  | enter
  | interrupt
  | cancel
  | clear
  | erase
  | type (c : Char)
  | ignore
  deriving DecidableEq

/-- The edit a byte typed on its own asks for: '\r' enters the line, BS and DEL erase,
CTRL+C interrupts, CTRL+Z cancels, ESC clears, any other control byte does nothing, and
every other byte is typed. -/
def byteEdit (k : BitVec 8) : Edit :=
  if k.toNat = 13 then .enter
  else if k.toNat = 8 ∨ k.toNat = 127 then .erase
  else if k.toNat = 3 then .interrupt
  else if k.toNat = 26 then .cancel
  else if k.toNat = 27 then .clear
  else if k.toNat < 32 then .ignore
  else .type (Char.ofNat k.toNat)

/-- Of the function keys, DELETE (scan code 0x53) and <-- (0x4B) erase. -/
def functionKeyEdit (code : BitVec 8) : Edit :=
  if code.toNat = 0x53 ∨ code.toNat = 0x4B then .erase else .ignore

/-- The edits the bytes typed ask for. A function key is 0 or 0xE0 followed by its scan
code; the end of the input cancels. -/
def edits : List (BitVec 8) → List Edit
  | [] => [.cancel]
  | k :: rest =>
    if k.toNat = 0 ∨ k.toNat = 0xE0 then
      match rest with
      | [] => [.ignore, .cancel]
      | code :: rest => functionKeyEdit code :: edits rest
    else byteEdit k :: edits rest

/-- How a prompt ends for its user: with the line entered, with none, or with the program
exiting. -/
inductive PromptEnd
  | entered (line : List Char)
  | cancelled
  | exited
  deriving DecidableEq

/-- The line editor a password prompt presents, from `line`: the line holds at most
MAX_STRING_LEN - 1 characters, and one typed when it is full is refused. -/
def editLine (line : List Char) : List Edit → PromptEnd
  | [] => .cancelled
  | .enter :: _ => .entered line
  | .interrupt :: _ => .exited
  | .cancel :: _ => .cancelled
  | .clear :: rest => editLine [] rest
  | .erase :: rest => editLine line.dropLast rest
  | .type c :: rest => editLine (if line.length < maxStringLen - 1 then line ++ [c] else line) rest
  | .ignore :: rest => editLine line rest

/-- What the caller of sigar_password_get is given: the string in the array returned, or
NULL; exit(-1) gives it nothing. -/
def PasswordEnd.prompt : PasswordEnd → PromptEnd
  | .password bytes => .entered (cString bytes)
  | .null => .cancelled
  | .exit _ => .exited

/-! ### The reader's pass, key by key -/

/-- The pass of the WIN32 reader over the key of one edit, `input` being what follows
the key. -/
def editPass (input : List (BitVec 8)) (n : Nat) (password : List Char) : Edit → Except Fault Pass
  | .enter => pure (.done ⟨input, n, password⟩)
  | .interrupt => pure (.leave (.exit (-1)))
  | .cancel => pure (.leave .null)
  | .clear => pure (.next ⟨input, 0, password⟩)
  | .erase => if n ≠ 0 then backspace input n password else pure (.next ⟨input, n, password⟩)
  | .type c =>
    if n < maxStringLen - 1 then do
      let password ← writeAt password n [c]
      pure (.next ⟨input, n + 1, password⟩)
    else pure (.next ⟨input, n, password⟩)
  | .ignore => pure (.next ⟨input, n, password⟩)

/-- _getch widens a byte to int without changing its value. -/
theorem toNat_widen (c : BitVec 8) : (c.setWidth 32).toNat = c.toNat := by
  rw [BitVec.toNat_setWidth, Nat.mod_eq_of_lt (by omega : c.toNat < 2 ^ 32)]

theorem widen_eq_iff {c : BitVec 8} {k : Nat} (byte : k < 256) : c.setWidth 32 = BitVec.ofNat 32 k ↔ c.toNat = k := by
  rw [BitVec.toNat_eq, toNat_widen, BitVec.toNat_ofNat, Nat.mod_eq_of_lt (by omega : k < 2 ^ 32)]

theorem not_iscntrl_widen (c : BitVec 8) : (!iscntrl (c.setWidth 32)) = true ↔ 32 ≤ c.toNat ∧ c.toNat ≠ 127 := by
  rw [iscntrl, toNat_widen]
  simp

/-- A byte read is never EOF. -/
theorem widen_ne_eof (c : BitVec 8) : c.setWidth 32 ≠ eof := fun same => by
  have := congrArg BitVec.toNat same
  rw [toNat_widen, show eof.toNat = 2 ^ 32 - 1 from rfl] at this
  omega

theorem byteChar_setWidth (c : BitVec 8) : byteChar (c.setWidth 32) = Char.ofNat c.toNat := by
  rw [byteChar, BitVec.setWidth_setWidth_of_le _ (by decide), BitVec.setWidth_eq]

theorem byteEdit_type {k : BitVec 8} {c : Char} (typed : byteEdit k = .type c) :
    c = Char.ofNat k.toNat ∧ 32 ≤ k.toNat ∧ k.toNat ≠ 127 := by
  simp only [byteEdit, ite_eq_iff, reduceCtorEq, and_false, false_or, Edit.type.injEq] at typed
  obtain ⟨-, erase, -, -, -, control, same⟩ := typed
  exact ⟨same.symm, by omega, by omega⟩

/-- A byte typed is stored as a character other than NUL. -/
theorem byteEdit_ne_type_nul (k : BitVec 8) : byteEdit k ≠ .type nul := fun typed => by
  obtain ⟨same, printable, -⟩ := byteEdit_type typed
  have code := congrArg Char.toNat same
  rw [← byteChar_setWidth, byteChar_toNat, BitVec.setWidth_setWidth_of_le _ (by decide), BitVec.setWidth_eq] at code
  exact absurd code (by rw [show nul.toNat = 0 from rfl]; omega)

theorem edits_cons_byte {k : BitVec 8} (unprefixed : ¬(k.toNat = 0 ∨ k.toNat = 0xE0)) (rest : List (BitVec 8)) :
    edits (k :: rest) = byteEdit k :: edits rest := by
  cases rest <;> simp only [edits, if_neg unprefixed]

theorem prefix_cases {c : BitVec 8} (prefixed : c.toNat = 0 ∨ c.toNat = 0xE0) : c = 0#8 ∨ c = 0xE0#8 :=
  prefixed.imp BitVec.eq_of_toNat_eq BitVec.eq_of_toNat_eq

/-- The scan code after a prefix is what `(ch << 4) | _getch()` holds in its low byte. -/
theorem functionKey_lowByte {c : BitVec 8} (prefixed : c = 0#8 ∨ c = 0xE0#8) (code : BitVec 8) :
    ((c.setWidth 32 <<< 4) ||| code.setWidth 32).setWidth 8 = code := by
  rw [BitVec.setWidth_or, BitVec.setWidth_setWidth_of_le _ (by decide), BitVec.setWidth_eq]
  rcases prefixed with rfl | rfl <;> exact BitVec.zero_or

/-- The four codes the reader compares `(ch << 4) | _getch()` with pick out DELETE and
<--, after either prefix. -/
theorem functionKey_erases {c : BitVec 8} (prefixed : c = 0#8 ∨ c = 0xE0#8) (code : BitVec 8) :
    ((c.setWidth 32 <<< 4) ||| code.setWidth 32 = 0xE53#32 ∨ (c.setWidth 32 <<< 4) ||| code.setWidth 32 = 0xE4B#32 ∨
      (c.setWidth 32 <<< 4) ||| code.setWidth 32 = 0x053#32 ∨ (c.setWidth 32 <<< 4) ||| code.setWidth 32 = 0x04B#32) ↔
      code.toNat = 0x53 ∨ code.toNat = 0x4B := by
  have low := functionKey_lowByte prefixed code
  constructor
  · rintro (same | same | same | same) <;> rw [same] at low <;> subst low <;> decide
  · rintro (named | named)
    · obtain rfl : code = 0x53#8 := BitVec.eq_of_toNat_eq named
      rcases prefixed with rfl | rfl <;> decide
    · obtain rfl : code = 0x4B#8 := BitVec.eq_of_toNat_eq named
      rcases prefixed with rfl | rfl <;> decide

/-- A prefix followed by EOF erases nothing. -/
theorem functionKey_eof {c : BitVec 8} (prefixed : c = 0#8 ∨ c = 0xE0#8) :
    ¬((c.setWidth 32 <<< 4) ||| eof = 0xE53#32 ∨ (c.setWidth 32 <<< 4) ||| eof = 0xE4B#32 ∨
      (c.setWidth 32 <<< 4) ||| eof = 0x053#32 ∨ (c.setWidth 32 <<< 4) ||| eof = 0x04B#32) := by
  rcases prefixed with rfl | rfl <;> decide

/-- Each pass of the reader over a key does what the key's edit asks, and reads no
further than the key. The edit never types a NUL. -/
theorem win32Pass_cons (c : BitVec 8) (rest : List (BitVec 8)) (n : Nat) (password : List Char) :
    ∃ e after, edits (c :: rest) = e :: edits after ∧ after.length ≤ rest.length ∧ e ≠ .type nul ∧
      win32Pass ⟨c :: rest, n, password⟩ = editPass after n password e := by
  unfold win32Pass
  rw [show getchar (c :: rest) = (c.setWidth 32, rest) from rfl]
  dsimp only
  rw [if_neg (widen_ne_eof c)]
  simp only [widen_eq_iff (show 13 < 256 by decide), widen_eq_iff (show 0 < 256 by decide),
    widen_eq_iff (show 0xE0 < 256 by decide), widen_eq_iff (show 8 < 256 by decide), widen_eq_iff (show 127 < 256 by decide),
    widen_eq_iff (show 3 < 256 by decide), widen_eq_iff (show 26 < 256 by decide), widen_eq_iff (show 27 < 256 by decide),
    not_iscntrl_widen]
  by_cases prefixed : c.toNat = 0 ∨ c.toNat = 0xE0
  · rw [if_neg (by omega), if_pos prefixed]
    cases rest with
    | nil =>
      refine ⟨.ignore, [], by simp [edits, prefixed], le_rfl, by decide, ?_⟩
      exact if_neg fun erase => functionKey_eof (prefix_cases prefixed) erase.1
    | cons code rest =>
      refine ⟨functionKeyEdit code, rest, by simp [edits, prefixed], Nat.le_succ _, by
        unfold functionKeyEdit; split <;> decide, ?_⟩
      rw [show getchar (code :: rest) = (code.setWidth 32, rest) from rfl]
      dsimp only
      simp only [functionKey_erases (prefix_cases prefixed) code, functionKeyEdit]
      split_ifs <;> simp_all [editPass]
  · refine ⟨byteEdit c, rest, edits_cons_byte prefixed rest, le_rfl, byteEdit_ne_type_nul c, ?_⟩
    rw [if_neg prefixed, byteChar_setWidth, byteEdit]
    by_cases enter : c.toNat = 13
    · rw [if_pos enter, if_pos enter]
      rfl
    rw [if_neg enter, if_neg enter]
    by_cases erase : c.toNat = 8 ∨ c.toNat = 127
    · rw [if_pos erase, editPass]
      by_cases erasing : n ≠ 0
      · rw [if_pos ⟨erase, erasing⟩, if_pos erasing]
      · rw [if_neg (erasing ∘ And.right), if_neg erasing, if_neg (by omega), if_neg (by omega), if_neg (by omega),
          if_neg (by omega)]
    rw [if_neg (erase ∘ And.left), if_neg erase]
    by_cases interrupt : c.toNat = 3
    · rw [if_pos interrupt, if_pos interrupt]
      rfl
    rw [if_neg interrupt, if_neg interrupt]
    by_cases cancel : c.toNat = 26
    · rw [if_pos cancel, if_pos cancel]
      rfl
    rw [if_neg cancel, if_neg cancel]
    by_cases clear : c.toNat = 27
    · rw [if_pos clear, if_pos clear]
      rfl
    rw [if_neg clear, if_neg clear]
    by_cases control : c.toNat < 32
    · rw [if_pos control, if_neg (by omega)]
      rfl
    rw [if_neg control, editPass]
    by_cases room : n < maxStringLen - 1
    · rw [if_pos ⟨room, by omega, by omega⟩, if_pos room]
    · rw [if_neg (room ∘ And.left), if_neg room]

/-! ### The reader refines the editor -/

/-- The array holds the line being edited: its bytes before n, none of them NUL, with n
and the array inside MAX_STRING_LEN. -/
structure LineStored (n : Nat) (password line : List Char) : Prop where
  inBounds : n < maxStringLen
  size : password.length = maxStringLen
  stored : password.take n = line
  noNul : nul ∉ line

theorem LineStored.start (buf : PasswordBuf) : LineStored 0 buf.bytes [] :=
  ⟨show 0 < maxStringLen by decide, buf.size, List.take_zero _, List.not_mem_nil _⟩

theorem LineStored.length_eq {n : Nat} {password line : List Char} (held : LineStored n password line) :
    line.length = n := by
  rw [← held.stored, List.length_take, held.size]
  exact Nat.min_eq_left held.inBounds.le

/-- What a pass must do for the reader to answer as the editor does: `target` is the
editor's answer from where the pass starts, and a pass that goes round leaves fewer than
`bound` bytes unread. -/
def Pass.Refines (bound : Nat) (target : PromptEnd) : Pass → Prop
  | .next r' => r'.input.length < bound ∧ ∃ line, LineStored r'.n r'.password line ∧ editLine line (edits r'.input) = target
  | .done r' => ∃ line, LineStored r'.n r'.password line ∧ target = .entered line
  | .leave e => e.prompt = target

theorem take_writeAt_one {password password' : List Char} {n : Nat} {c : Char}
    (written : writeAt password n [c] = .ok password') :
    password'.take n = password.take n ∧ password'.take (n + 1) = password.take n ++ [c] := by
  unfold writeAt at written
  split at written
  · cases written
    have long : (password.take n).length = n := List.length_take_of_le (by simp at *; omega)
    simp [List.take_append_eq_append_take, long]
  · cases written

/-- The pass over one edit's key keeps the line in the array, and goes where the editor
goes. -/
theorem editPass_refines {n : Nat} {password line : List Char} (held : LineStored n password line) {e : Edit}
    (typed : e ≠ .type nul) {after : List (BitVec 8)} {bound : Nat} (shorter : after.length < bound) :
    ∃ p, editPass after n password e = .ok p ∧ p.Refines bound (editLine line (e :: edits after)) := by
  have length := held.length_eq
  have size := held.size
  have inBounds := held.inBounds
  cases e with
  | enter => exact ⟨_, rfl, line, held, rfl⟩
  | interrupt => exact ⟨_, rfl, rfl⟩
  | cancel => exact ⟨_, rfl, rfl⟩
  | clear => exact ⟨_, rfl, shorter, [], ⟨show 0 < maxStringLen by decide, size, List.take_zero _, List.not_mem_nil _⟩, rfl⟩
  | ignore => exact ⟨_, rfl, shorter, line, held, rfl⟩
  | erase =>
    cases n with
    | zero =>
      obtain rfl : line = [] := List.length_eq_zero.mp length
      exact ⟨_, rfl, shorter, [], held, rfl⟩
    | succ m =>
      obtain ⟨password', written, size'⟩ := writeAt_one (show m < password.length by omega) nul
      refine ⟨.next ⟨after, m, password'⟩, by rw [editPass, if_pos m.succ_ne_zero, backspace, written, Except.ok_bind]; rfl, shorter,
        line.dropLast, ⟨show m < maxStringLen by omega, size'.trans size, ?_, fun mem => held.noNul (List.mem_of_mem_dropLast mem)⟩, rfl⟩
      rw [(take_writeAt_one written).1, ← held.stored, List.dropLast_take (by omega), Nat.add_sub_cancel]
  | type c =>
    by_cases room : n < maxStringLen - 1
    · obtain ⟨password', written, size'⟩ := writeAt_one (show n < password.length by omega) c
      refine ⟨.next ⟨after, n + 1, password'⟩, by rw [editPass, if_pos room, written, Except.ok_bind]; rfl, shorter, line ++ [c],
        ⟨show n + 1 < maxStringLen by omega, size'.trans size, by rw [(take_writeAt_one written).2, held.stored], ?_⟩, ?_⟩
      · exact fun mem => (List.mem_append.mp mem).elim held.noNul fun last =>
          typed (congrArg Edit.type (List.mem_singleton.mp last).symm)
      · rw [editLine, if_pos (length ▸ room)]
    · refine ⟨.next ⟨after, n, password⟩, by rw [editPass, if_neg room]; rfl, shorter, line, held, ?_⟩
      rw [editLine, if_neg (length ▸ room)]

/-- Each pass of the reader, from an array holding the line, goes where the editor goes. -/
theorem win32Pass_refines {r : Reader} {line : List Char} (held : LineStored r.n r.password line) :
    ∃ p, win32Pass r = .ok p ∧ p.Refines r.input.length (editLine line (edits r.input)) := by
  rcases r with ⟨_ | ⟨c, rest⟩, n, password⟩
  · exact ⟨_, rfl, rfl⟩
  · obtain ⟨e, after, decoded, shorter, typed, pass⟩ := win32Pass_cons c rest n password
    rw [pass, decoded]
    exact editPass_refines held typed (Nat.lt_succ_of_le shorter)

theorem win32Finish_prompt {r : Reader} {line : List Char} (held : LineStored r.n r.password line) :
    ∃ e, win32Finish r = .ok e ∧ e.prompt = .entered line := by
  rw [win32Finish, writeAt_inside (by rw [held.size]; exact held.inBounds)]
  refine ⟨_, rfl, ?_⟩
  rw [PasswordEnd.prompt, held.stored, List.append_assoc, cString_append_of_not_mem held.noNul, List.singleton_append,
    cString_nul_cons, List.append_nil]

/-- Given one pass more than the input has bytes, the reader ends without fault, with the
answer the editor gives from the line the array holds. -/
theorem runPasses_refines : ∀ (fuel : Nat) (r : Reader) {line : List Char}, LineStored r.n r.password line →
    r.input.length < fuel → ∃ e, (runPasses win32Pass fuel r).map (finishWith win32Finish) = some (.ok e) ∧
      e.prompt = editLine line (edits r.input)
  | 0, _, _, _, enough => absurd enough (Nat.not_lt_zero _)
  | fuel + 1, r, line, held, enough => by
    obtain ⟨p, pass, refines⟩ := win32Pass_refines held
    rw [runPasses, pass]
    cases p with
    | next r' =>
      obtain ⟨shorter, line', held', same⟩ := refines
      obtain ⟨e, run, prompt⟩ := runPasses_refines fuel r' held' (by omega)
      exact ⟨e, run, prompt.trans same⟩
    | done r' =>
      obtain ⟨line', held', entered⟩ := refines
      obtain ⟨e, finished, prompt⟩ := win32Finish_prompt held'
      exact ⟨e, by rw [Option.map_some', finishWith, finished], prompt.trans entered.symm⟩
    | leave e => exact ⟨e, rfl, refines⟩

/-- On every input, whatever earlier calls left in the static array, the WIN32
sigar_password_get answers as the line editor does from an empty line: given one pass
more than the input has bytes, it returns without fault the line the keys edit, NULL
where they cancel, and exits where they interrupt. -/
theorem sigarPasswordGet_refines (buf : PasswordBuf) (input : List (BitVec 8)) {fuel : Nat}
    (enough : input.length < fuel) :
    ∃ e, sigarPasswordGet buf fuel input = some (.ok e) ∧ e.prompt = editLine [] (edits input) :=
  runPasses_refines fuel ⟨input, 0, buf.bytes⟩ (LineStored.start buf) enough

theorem sigarPasswordGet_refines_erased :
    [0x61#8, 0x08#8, 0x62#8, 13#8].length < 5 ∧
      ∃ e, sigarPasswordGet staticPassword 5 [0x61#8, 0x08#8, 0x62#8, 13#8] = some (.ok e) ∧
        e.prompt = editLine [] (edits [0x61#8, 0x08#8, 0x62#8, 13#8]) :=
  ⟨by decide, sigarPasswordGet_refines staticPassword _ (by decide)⟩

/-! ### What the editor lets through -/

/-- A byte the prompt stores as typed: not a control byte, not DEL, and not 0xE0, which
_getch also sends before the scan code of a function key. -/
def Printable (k : BitVec 8) : Prop := 32 ≤ k.toNat ∧ k.toNat ≠ 127 ∧ k.toNat ≠ 0xE0

instance : DecidablePred Printable := fun k => inferInstanceAs (Decidable (32 ≤ k.toNat ∧ k.toNat ≠ 127 ∧ k.toNat ≠ 0xE0))

theorem byteEdit_printable {k : BitVec 8} (printable : Printable k) : byteEdit k = .type (Char.ofNat k.toNat) := by
  obtain ⟨low, notDel, -⟩ := printable
  rw [byteEdit, if_neg (by omega), if_neg (by omega), if_neg (by omega), if_neg (by omega), if_neg (by omega),
    if_neg (by omega)]

/-- Every character the keys type is a printable byte's. -/
theorem edits_typed_printable : ∀ (input : List (BitVec 8)) {c : Char}, .type c ∈ edits input →
    ∃ k, Printable k ∧ c = Char.ofNat k.toNat := by
  intro input
  induction input using edits.induct with
  | case1 => simp [edits]
  | case2 k prefixed => simp [edits, prefixed]
  | case3 k prefixed code rest ih =>
    intro c typed
    rw [edits, if_pos prefixed, List.mem_cons] at typed
    refine typed.elim (fun same => ?_) ih
    unfold functionKeyEdit at same
    split at same <;> cases same
  | case4 k rest unprefixed ih =>
    intro c typed
    rw [edits_cons_byte unprefixed, List.mem_cons] at typed
    refine typed.elim (fun same => ?_) ih
    obtain ⟨rfl, low, notDel⟩ := byteEdit_type same.symm
    exact ⟨k, ⟨low, notDel, by omega⟩, rfl⟩

/-- A line the editor hands back holds only characters the line started with or that
were typed. -/
theorem editLine_chars {P : Char → Prop} : ∀ (es : List Edit) {line entered : List Char}, (∀ c ∈ line, P c) →
    (∀ c, .type c ∈ es → P c) → editLine line es = .entered entered → ∀ c ∈ entered, P c
  | [], _, _, _, _, ended => by cases ended
  | .enter :: _, _, _, kept, _, ended => by cases ended; exact kept
  | .interrupt :: _, _, _, _, _, ended => by cases ended
  | .cancel :: _, _, _, _, _, ended => by cases ended
  | .clear :: es, _, _, _, typed, ended =>
    editLine_chars es (fun _ => False.elim ∘ List.not_mem_nil _) (fun c => typed c ∘ List.mem_cons_of_mem _) ended
  | .erase :: es, _, _, kept, typed, ended =>
    editLine_chars es (fun c => kept c ∘ List.mem_of_mem_dropLast) (fun c => typed c ∘ List.mem_cons_of_mem _) ended
  | .ignore :: es, _, _, kept, typed, ended =>
    editLine_chars es kept (fun c => typed c ∘ List.mem_cons_of_mem _) ended
  | .type c :: es, line, _, kept, typed, ended => by
    refine editLine_chars es ?_ (fun c => typed c ∘ List.mem_cons_of_mem _) ended
    split
    · exact fun d mem => (List.mem_append.mp mem).elim (kept d) fun last =>
        List.mem_singleton.mp last ▸ typed c (List.mem_cons_self _ _)
    · exact kept

/-- The password the WIN32 sigar_password_get returns holds no control character, no DEL
and no 0xE0: a byte 0xE0 is always taken for a function key's prefix, with the byte after
it as the scan code, and is never stored. -/
theorem sigarPasswordGet_printable (buf : PasswordBuf) (input : List (BitVec 8)) {fuel : Nat}
    (enough : input.length < fuel) :
    ∃ e, sigarPasswordGet buf fuel input = some (.ok e) ∧
      ∀ bytes, e = .password bytes → ∀ c ∈ cString bytes, ∃ k, Printable k ∧ c = Char.ofNat k.toNat := by
  obtain ⟨e, call, prompt⟩ := runPasses_refines fuel ⟨input, 0, buf.bytes⟩ (LineStored.start buf) enough
  refine ⟨e, call, fun bytes same => ?_⟩
  subst same
  exact editLine_chars (edits input) (fun _ => False.elim ∘ List.not_mem_nil _)
    (fun _ => edits_typed_printable input) prompt.symm

theorem sigarPasswordGet_printable_alpha :
    [0xE0#8, 0x61#8, 0x62#8, 13#8].length < 5 ∧
      ∃ e, sigarPasswordGet staticPassword 5 [0xE0#8, 0x61#8, 0x62#8, 13#8] = some (.ok e) ∧
        ∀ bytes, e = .password bytes → ∀ c ∈ cString bytes, ∃ k, Printable k ∧ c = Char.ofNat k.toNat :=
  ⟨by decide, sigarPasswordGet_printable staticPassword _ (by decide)⟩

theorem edits_append_printable {text : List (BitVec 8)} (printable : ∀ k ∈ text, Printable k)
    (rest : List (BitVec 8)) :
    edits (text ++ rest) = (text.map fun k => Char.ofNat k.toNat).map .type ++ edits rest := by
  induction text with
  | nil => rfl
  | cons k text ih =>
    have first := printable k (List.mem_cons_self _ _)
    rw [List.cons_append, edits_cons_byte (by unfold Printable at first; omega), byteEdit_printable first,
      ih fun k => printable k ∘ List.mem_cons_of_mem _]
    rfl

theorem editLine_typed (chars : List Char) : ∀ {line : List Char} (rest : List Edit),
    line.length + chars.length < maxStringLen → editLine line (chars.map .type ++ rest) = editLine (line ++ chars) rest := by
  induction chars with
  | nil => simp
  | cons c chars ih =>
    intro line rest fits
    rw [List.length_cons] at fits
    rw [List.map_cons, List.cons_append, editLine, if_pos (by omega), ih rest (by rw [List.length_append, List.length_singleton]; omega),
      List.append_assoc, List.singleton_append]

/-- Keys that only type, then '\r': the WIN32 sigar_password_get returns what they
typed, as long as it fits MAX_STRING_LEN - 1 characters, and reads no further. -/
theorem sigarPasswordGet_typed (buf : PasswordBuf) {text : List (BitVec 8)} (printable : ∀ k ∈ text, Printable k)
    (fits : text.length < maxStringLen) (rest : List (BitVec 8)) {fuel : Nat}
    (enough : text.length + rest.length + 1 < fuel) :
    ∃ bytes, sigarPasswordGet buf fuel (text ++ 13#8 :: rest) = some (.ok (.password bytes)) ∧
      cString bytes = text.map fun k => Char.ofNat k.toNat := by
  obtain ⟨e, call, prompt⟩ := runPasses_refines fuel ⟨text ++ 13#8 :: rest, 0, buf.bytes⟩ (LineStored.start buf)
    (by simp only [List.length_append, List.length_cons]; omega)
  have entered : editLine [] (edits (text ++ 13#8 :: rest)) = .entered (text.map fun k => Char.ofNat k.toNat) := by
    rw [edits_append_printable printable, editLine_typed _ _ (by simpa using fits), edits_cons_byte (by decide)]
    rfl
  rw [entered] at prompt
  cases e with
  | password bytes => exact ⟨bytes, call, PromptEnd.entered.inj prompt⟩
  | null => cases prompt
  | exit _ => cases prompt

theorem sigarPasswordGet_typed_ab :
    (∀ k ∈ [0x61#8, 0x62#8], Printable k) ∧ [0x61#8, 0x62#8].length < maxStringLen ∧
      [0x61#8, 0x62#8].length + [0x63#8].length + 1 < 5 ∧
      ∃ bytes, sigarPasswordGet staticPassword 5 ([0x61#8, 0x62#8] ++ 13#8 :: [0x63#8]) = some (.ok (.password bytes)) ∧
        cString bytes = [0x61#8, 0x62#8].map fun k => Char.ofNat k.toNat :=
  have printable : ∀ k ∈ [0x61#8, 0x62#8], Printable k := by
    simp only [List.mem_cons, List.mem_singleton, forall_eq_or_imp, forall_eq, List.not_mem_nil, or_false]
    decide
  have fits : [0x61#8, 0x62#8].length < maxStringLen := by decide
  have enough : [0x61#8, 0x62#8].length + [0x63#8].length + 1 < 5 := by decide
  ⟨printable, fits, enough, sigarPasswordGet_typed staticPassword printable fits [0x63#8] enough⟩

end Sigar
