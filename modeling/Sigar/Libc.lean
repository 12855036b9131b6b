import Mathlib

namespace Sigar

/-- SIGAR_OK. Every other status the modelled functions return is an errno value. -/
def sigarOk : Nat := 0

/-- SIGAR_FIELD_NOTIMPL, -1 in sigar.h, as the uint64 it is compared with. -/
def sigarFieldNotimpl : BitVec 64 := -1

/-- EINVAL as Linux numbers it; errno.h is outside the repository. -/
def einval : Nat := 22

/-- ENAMETOOLONG as Linux numbers it. -/
def enametoolong : Nat := 36

/-- What C leaves undefined, made an outcome of the model so that a run that
reaches it is told apart from one that returns. -/
inductive Fault
  | nullDeref
  | outOfBounds
  | useAfterFree
  | doubleFree
  /-- A conversion to an integer type that cannot represent the value. -/
  | unrepresentable
  /-- A string copy whose source and destination overlap. -/
  | overlap
  deriving DecidableEq, Repr

@[simp] theorem Except.ok_bind {ε α β : Type} (a : α) (f : α → Except ε β) :
    (Except.ok a >>= f) = f a := rfl

@[simp] theorem Except.error_bind {ε α β : Type} (e : ε) (f : α → Except ε β) :
    (Except.error e >>= f) = Except.error e := rfl

/-! Batteries states `map_ok` and `map_error` for `<$>`; the model writes
`Except.map`, which simp does not unfold to it. -/

@[simp] theorem Except.map_ok {ε α β : Type} (f : α → β) (a : α) :
    (Except.ok a : Except ε α).map f = Except.ok (f a) := rfl

@[simp] theorem Except.map_error {ε α β : Type} (f : α → β) (e : ε) :
    (Except.error e : Except ε α).map f = Except.error e := rfl

theorem Except.bind_eq_ok {ε α β : Type} {x : Except ε α} {f : α → Except ε β} {b : β} :
    x >>= f = .ok b ↔ ∃ a, x = .ok a ∧ f a = .ok b := by
  cases x <;> simp

theorem Except.map_eq_ok {ε α β : Type} {x : Except ε α} {f : α → β} {b : β} :
    x.map f = .ok b ↔ ∃ a, x = .ok a ∧ f a = b := by
  cases x <;> simp

/-- The resources of the process that sigar_t and the system calls hold: the size in
bytes of each live heap block a field of sigar_t points to (the enumeration buffer
ifconf_buf), by address, the next fresh address, and the open descriptors. The
blocks a result list owns, its data array and the strings strdup'd into it, are
tracked by that list's own `Storage` (ResultList.lean) and released by its destroy;
they are not in `blocks`. -/
structure Proc where
  blocks : Nat → Option Nat
  nextBlock : Nat
  fds : List Nat

namespace Proc

def release (p : Proc) (a : Nat) : Proc :=
  { p with blocks := Function.update p.blocks a none }

/-- free(ptr): NULL is ignored, and a block that is no longer live is freed twice. -/
def free (p : Proc) : Option Nat → Except Fault Proc
  | none => .ok p
  | some a => if (p.blocks a).isSome then .ok (p.release a) else .error .doubleFree

/-- realloc(ptr, size). When the allocator grants the request the contents move
to a fresh block of `size` bytes and the old block is released; when it does not,
NULL comes back and the old block stays live. -/
def realloc (p : Proc) (granted : Bool) (ptr : Option Nat) (size : Nat) :
    Except Fault (Option Nat × Proc) :=
  if ptr.any (fun a => (p.blocks a).isNone) then .error .useAfterFree
  else if granted then
    let q : Proc := match ptr with
      | some a => p.release a
      | none => p
    .ok (some q.nextBlock,
      { q with blocks := Function.update q.blocks q.nextBlock (some size), nextBlock := q.nextBlock + 1 })
  else .ok (none, p)

/-- The lowest descriptor not in use, the one socket(2) and fopen(3) hand out. -/
def lowestFreeFd (p : Proc) : Nat :=
  ((List.range (p.fds.length + 1)).find? (fun n => !p.fds.contains n)).getD 0

/-- A successful socket(2) or fopen(3). -/
def openFd (p : Proc) : Nat × Proc :=
  (p.lowestFreeFd, { p with fds := p.lowestFreeFd :: p.fds })

def close (p : Proc) (fd : Nat) : Proc :=
  { p with fds := p.fds.erase fd }

@[simp] theorem release_fds (p : Proc) (a : Nat) : (p.release a).fds = p.fds := rfl

@[simp] theorem openFd_blocks (p : Proc) : p.openFd.2.blocks = p.blocks := rfl

@[simp] theorem close_blocks (p : Proc) (fd : Nat) : (p.close fd).blocks = p.blocks := rfl

@[simp] theorem openFd_fds (p : Proc) : p.openFd.2.fds = p.lowestFreeFd :: p.fds := rfl

@[simp] theorem close_openFd (p : Proc) : p.openFd.2.close p.openFd.1 = p := by
  simp [openFd, close]

theorem free_fds {p q : Proc} {ptr : Option Nat} (run : p.free ptr = .ok q) : q.fds = p.fds := by
  cases ptr with
  | none => cases run; rfl
  | some a =>
    simp only [free] at run
    split at run <;> cases run
    rfl

theorem realloc_fds {p q : Proc} {granted : Bool} {ptr r : Option Nat} {size : Nat}
    (run : p.realloc granted ptr size = .ok (r, q)) : q.fds = p.fds := by
  simp only [realloc] at run
  split at run
  · cases run
  · split at run
    · cases run
      cases ptr <;> rfl
    · cases run; rfl

/-- A granted realloc of NULL or of a live block answers a fresh block of the
requested size. -/
theorem realloc_granted (p : Proc) {ptr : Option Nat} (size : Nat)
    (live : ∀ a, ptr = some a → (p.blocks a).isSome) :
    ∃ q : Proc, p.realloc true ptr size = .ok (some q.nextBlock, { q with
      blocks := Function.update q.blocks q.nextBlock (some size), nextBlock := q.nextBlock + 1 }) ∧
      q.fds = p.fds := by
  cases ptr with
  | none => exact ⟨p, by simp [realloc], rfl⟩
  | some a =>
    have alive := live a rfl
    refine ⟨p.release a, ?_, rfl⟩
    simp only [realloc, Option.any_some, if_true]
    rw [if_neg (by simpa [Option.isSome_iff_ne_none] using alive)]

end Proc

/-- The byte that ends a C string. -/
def nul : Char := Char.ofNat 0

/-- The characters of a C string as libc hands it back: never the terminating NUL. -/
structure CStr where
  chars : List Char
  noNul : nul ∉ chars
  deriving DecidableEq

/-- strEQ(s1, s2). -/
def strEQ (s1 s2 : List Char) : Bool := s1 == s2

/-- strnEQ(s1, s2, n): strncmp over at most n characters, which stops at the
first NUL of either string. -/
def strnEQ (s1 s2 : List Char) (n : Nat) : Bool :=
  (s1 ++ [nul]).take n == (s2 ++ [nul]).take n

/-- Comparing as many characters as `s2` holds is a prefix test. -/
theorem strnEQ_length_iff {s1 : List Char} {s2 : CStr} :
    strnEQ s1 s2.chars s2.chars.length = true ↔ s2.chars <+: s1 := by
  simp only [strnEQ, beq_iff_eq, List.take_left]
  constructor
  · intro same
    by_cases long : s2.chars.length ≤ s1.length
    · rw [List.take_append_of_le_length long] at same
      exact same ▸ List.take_prefix _ _
    · have tail : ([nul] : List Char).take (s2.chars.length - s1.length) = [nul] :=
        List.take_of_length_le (by simp; omega)
      rw [List.take_append_eq_append_take, List.take_of_length_le (by omega), tail] at same
      exact absurd (same ▸ List.mem_append_right _ (List.mem_singleton_self _)) s2.noNul
  · rintro ⟨rest, rfl⟩
    simp

/-- The C string a buffer holds: its bytes before the first NUL. -/
def cString (buf : List Char) : List Char := buf.takeWhile (· != nul)

/-- strncpy(dest, src, n), where `src` runs from the source pointer to the end of
the object it points into: the bytes before the first NUL, padded with NULs to
`n`. Reading past the object is out of bounds. -/
def strncpy : Nat → List Char → Except Fault (List Char)
  | 0, _ => .ok []
  | _ + 1, [] => .error .outOfBounds
  | n + 1, c :: cs => if c = nul then .ok (List.replicate (n + 1) nul) else (strncpy n cs).map (c :: ·)

/-- SIGAR_STRNCPY(dest, src, len), a macro of sigar_util.h, which is not under src/:
strncpy(dest, src, len), then dest[len-1] = '\0'. -/
def sigarStrncpy (len : Nat) (src : List Char) : Except Fault (List Char) :=
  (strncpy len src).map fun dest => dest.set (len - 1) nul

/-- The size_t an int converts to. -/
def sizeT (n : Int) : Nat := (n % 2 ^ 64).toNat

theorem sizeT_natCast {n : Nat} (small : n < 2 ^ 64) : sizeT n = n := by
  unfold sizeT
  rw [Int.emod_eq_of_lt (Int.natCast_nonneg n) (by exact_mod_cast small)]
  rfl

/-- Writing `src` into `buf` from index `off`; a byte past the end is out of bounds. -/
def writeAt (buf : List Char) (off : Nat) (src : List Char) : Except Fault (List Char) :=
  if off + src.length ≤ buf.length then .ok (buf.take off ++ src ++ buf.drop (off + src.length))
  else .error .outOfBounds

section CString

variable {buf : List Char}

@[simp] theorem cString_nil : cString [] = [] := rfl

theorem cString_cons (c : Char) (cs : List Char) :
    cString (c :: cs) = if c = nul then [] else c :: cString cs := by
  by_cases end_ : c = nul <;> simp [cString, List.takeWhile_cons, end_]

@[simp] theorem cString_nul_cons (cs : List Char) : cString (nul :: cs) = [] := by
  rw [cString_cons, if_pos rfl]

theorem nul_not_mem_cString : nul ∉ cString buf := by
  intro member
  simpa using List.mem_takeWhile_imp member

theorem cString_take (k : Nat) : cString (buf.take k) = (cString buf).take k := by
  induction buf generalizing k with
  | nil => simp
  | cons c cs ih =>
    cases k with
    | zero => simp
    | succ k => by_cases end_ : c = nul <;> simp [cString_cons, end_, ih]

theorem cString_set_nul {i : Nat} (inside : i < buf.length) :
    cString (buf.set i nul) = (cString buf).take i := by
  induction buf generalizing i with
  | nil => simp at inside
  | cons c cs ih =>
    cases i with
    | zero => simp [cString_cons]
    | succ i => by_cases end_ : c = nul <;> simp [cString_cons, end_, ih (by simpa using inside)]

theorem cString_append_of_not_mem {a : List Char} (noNul : nul ∉ a) (b : List Char) :
    cString (a ++ b) = a ++ cString b := by
  induction a with
  | nil => rfl
  | cons c cs ih =>
    have other : c ≠ nul ∧ nul ∉ cs := by simpa [eq_comm] using noNul
    simp [cString_cons, other.1, ih other.2]

theorem nul_mem_of_cString_length_lt (short : (cString buf).length < buf.length) : nul ∈ buf := by
  by_contra absent
  have whole : cString buf = buf := by simpa using cString_append_of_not_mem absent []
  rw [whole] at short
  exact Nat.lt_irrefl _ short

theorem nul_not_mem_replicate {c : Char} (other : c ≠ nul) (k : Nat) : nul ∉ List.replicate k c :=
  fun member => other (List.eq_of_mem_replicate member).symm

theorem cString_replicate (k : Nat) : cString (List.replicate k nul) = [] := by
  cases k <;> simp [List.replicate_succ, cString_cons]

/-- strncpy that stops inside the source object, at its NUL or after `n` bytes:
the C string, truncated or padded with NULs to `n`. -/
theorem strncpy_inside {n : Nat} (inside : n ≤ buf.length ∨ nul ∈ buf) :
    strncpy n buf = .ok ((cString buf).take n ++ List.replicate (n - (cString buf).length) nul) := by
  induction n generalizing buf with
  | zero => simp [strncpy]
  | succ n ih =>
    match buf, inside with
    | [], inside => simp at inside
    | c :: cs, inside =>
      by_cases end_ : c = nul
      · simp [strncpy, cString_cons, end_]
      · have rest : n ≤ cs.length ∨ nul ∈ cs := by
          rcases inside with long | found
          · exact .inl (by simpa using long)
          · exact .inr (by simpa [eq_comm, end_] using found)
        simp [strncpy, cString_cons, end_, ih rest]

/-- SIGAR_STRNCPY that stops inside the source object fills the whole destination
and leaves the source's C string cut to `len - 1` characters. -/
theorem sigarStrncpy_inside {len : Nat} (positive : 0 < len) (inside : len ≤ buf.length ∨ nul ∈ buf) :
    ∃ dest, sigarStrncpy len buf = .ok dest ∧ dest.length = len ∧
      cString dest = (cString buf).take (len - 1) := by
  have padded : ((cString buf).take len ++ List.replicate (len - (cString buf).length) nul).length = len := by
    simp only [List.length_append, List.length_take, List.length_replicate]
    omega
  refine ⟨_, by rw [sigarStrncpy, strncpy_inside inside]; rfl, by simp [padded], ?_⟩
  rw [cString_set_nul (by omega), cString_append_of_not_mem (fun member => nul_not_mem_cString
    (List.mem_of_mem_take member)), cString_replicate, List.append_nil, List.take_take]
  congr 1
  omega

theorem writeAt_inside {off : Nat} {src : List Char} (inside : off + src.length ≤ buf.length) :
    writeAt buf off src = .ok (buf.take off ++ src ++ buf.drop (off + src.length)) := by
  simp [writeAt, inside]

theorem writeAt_length {off : Nat} {src buf' : List Char} (written : writeAt buf off src = .ok buf') :
    buf'.length = buf.length := by
  unfold writeAt at written
  split at written
  · cases written
    simp only [List.length_append, List.length_take, List.length_drop]
    omega
  · cases written

theorem writeAt_outside {off : Nat} {src : List Char} (outside : buf.length < off + src.length) :
    writeAt buf off src = .error .outOfBounds := by
  simp [writeAt, Nat.not_le.mpr outside]

/-- A write that starts where an earlier write's text `a` ends and covers the rest
`c` of it leaves the buffer one write of `a ++ b` leaves: how consecutive sprintf
calls at `ptr + offset` compose. -/
theorem writeAt_bind_writeAt {off : Nat} {a b c : List Char} (covered : c.length ≤ b.length) :
    (writeAt buf off (a ++ c) >>= fun buf' => writeAt buf' (off + a.length) b) =
      writeAt buf off (a ++ b) := by
  by_cases fits : off + (a ++ b).length ≤ buf.length
  · have first : off + (a ++ c).length ≤ buf.length := by simp only [List.length_append] at *; omega
    have len : (buf.take off).length = off := by simp only [List.length_take]; omega
    rw [writeAt_inside first, Except.ok_bind, writeAt_inside fits, writeAt_inside]
    · simp (disch := omega) only [List.append_assoc, List.take_append_eq_append_take,
        List.drop_append_eq_append_drop, len, List.length_append, List.take_of_length_le,
        List.drop_eq_nil_of_le, Nat.add_sub_cancel_left, Nat.sub_self, Nat.zero_sub, List.take_zero,
        List.nil_append, min_eq_right (Nat.le_add_right off a.length), List.length_take, List.drop_drop]
      rw [show off + (a.length + c.length) + (off + a.length + b.length - off - a.length - c.length) =
        off + (a.length + b.length) by omega]
    · simp only [List.length_append, List.length_take, List.length_drop] at *; omega
  · by_cases first : off + (a ++ c).length ≤ buf.length
    · have long : buf.length < off + (a ++ b).length := Nat.not_le.mp fits
      rw [writeAt_inside first, Except.ok_bind, writeAt_outside long, writeAt_outside]
      simp only [List.length_append, List.length_take, List.length_drop] at *; omega
    · rw [writeAt_outside (Nat.not_le.mp first), writeAt_outside (Nat.not_le.mp fits)]
      rfl

/-- Writing a C string with its NUL at the start of a buffer leaves that string in it. -/
theorem cString_writeAt_zero {text : List Char} (noNul : nul ∉ text) {buf' : List Char}
    (written : writeAt buf 0 (text ++ [nul]) = .ok buf') : cString buf' = text := by
  unfold writeAt at written
  split at written
  · cases written
    rw [List.take_zero, List.nil_append, List.append_assoc, cString_append_of_not_mem noNul,
      List.singleton_append, cString_nul_cons, List.append_nil]
  · cases written

end CString

section Printf

/-! printf's %d prints a nonnegative value as `Nat.toDigits 10`, Lean's own decimal
numeral; reading the digits back left to right gives the value. -/

/-- The value of a string of decimal digits, read left to right. -/
def digitsValue (s : List Char) : Nat := s.foldl (fun acc c => 10 * acc + (c.toNat - 48)) 0

theorem digitsValue_append_one (s : List Char) (c : Char) :
    digitsValue (s ++ [c]) = 10 * digitsValue s + (c.toNat - 48) := by
  simp [digitsValue, List.foldl_append]

theorem digitChar_toNat {d : Nat} (digit : d < 10) : (Nat.digitChar d).toNat = 48 + d := by
  revert d
  decide

theorem digitChar_isDigit {d : Nat} (digit : d < 10) : (Nat.digitChar d).isDigit = true := by
  revert d
  decide

theorem toDigitsCore_ten (n : Nat) :
    ∀ fuel ds, n < fuel → Nat.toDigitsCore 10 fuel n ds = Nat.toDigits 10 n ++ ds := by
  induction n using Nat.strong_induction_on with
  | _ n ih =>
    intro fuel ds enough
    obtain ⟨f, rfl⟩ : ∃ f, fuel = f + 1 := ⟨fuel - 1, by omega⟩
    by_cases small : n / 10 = 0
    · simp [Nat.toDigits, Nat.toDigitsCore, small]
    · have shorter : n / 10 < n := by omega
      simp only [Nat.toDigits, Nat.toDigitsCore, small, if_false]
      rw [ih _ shorter f _ (by omega), ih _ shorter n _ (by omega)]
      simp

/-- The decimal numeral of `n`: that of `n / 10` when `n` has more than one digit,
then the last digit. -/
theorem toDigits_ten (n : Nat) :
    Nat.toDigits 10 n = (if n < 10 then [] else Nat.toDigits 10 (n / 10)) ++ [Nat.digitChar (n % 10)] := by
  by_cases small : n < 10
  · have none : n / 10 = 0 := by omega
    simp [Nat.toDigits, Nat.toDigitsCore, none, small]
  · have long : n / 10 ≠ 0 := by omega
    simp only [Nat.toDigits, Nat.toDigitsCore, long, small, if_false]
    rw [toDigitsCore_ten _ _ _ (by omega)]
    rfl

theorem toDigits_isDigit (n : Nat) : ∀ c ∈ Nat.toDigits 10 n, c.isDigit = true := by
  induction n using Nat.strong_induction_on with
  | _ n ih =>
    intro c member
    rw [toDigits_ten] at member
    rcases List.mem_append.mp member with front | last
    · split at front
      · cases front
      · exact ih _ (by omega) c front
    · rw [List.mem_singleton.mp last]
      exact digitChar_isDigit (Nat.mod_lt n (by decide))

theorem digitsValue_toDigits (n : Nat) : digitsValue (Nat.toDigits 10 n) = n := by
  induction n using Nat.strong_induction_on with
  | _ n ih =>
    rw [toDigits_ten, digitsValue_append_one, digitChar_toNat (Nat.mod_lt n (by decide))]
    split
    · simp [digitsValue]
      omega
    · rw [ih _ (by omega)]
      omega

theorem nul_not_mem_toDigits (n : Nat) : nul ∉ Nat.toDigits 10 n :=
  fun member => absurd (toDigits_isDigit n nul member) (by decide)

theorem toDigits_length_le {n k : Nat} (small : n < 10 ^ (k + 1)) : (Nat.toDigits 10 n).length ≤ k + 1 := by
  induction k generalizing n with
  | zero =>
    rw [toDigits_ten, if_pos (by simpa using small)]
    simp
  | succ k ih =>
    rw [toDigits_ten]
    split
    · simp
    · have shorter := ih (n := n / 10) (by rw [Nat.div_lt_iff_lt_mul (by decide)]; rw [pow_succ] at small; exact small)
      simp only [List.length_append, List.length_singleton]
      omega

/-- What printf's %d prints for an int. -/
def intDecimal (n : Int) : List Char := (if n < 0 then ['-'] else []) ++ Nat.toDigits 10 n.natAbs

@[simp] theorem intDecimal_natCast (n : Nat) : intDecimal n = Nat.toDigits 10 n := by
  simp [intDecimal]

/-- printf's width: the text right-justified in a field of `width` characters, padded
with spaces (%3d). -/
def rightJustify (width : Nat) (s : List Char) : List Char := List.replicate (width - s.length) ' ' ++ s

theorem rightJustify_length {width : Nat} {s : List Char} (fits : s.length ≤ width) :
    (rightJustify width s).length = width := by
  simp only [rightJustify, List.length_append, List.length_replicate]
  omega

/-- printf's 0 flag with a width (%02d): zeros between the sign and the digits, up to
`width` characters. -/
def zeroJustify (width : Nat) (n : Int) : List Char :=
  let sign := if n < 0 then ['-'] else []
  sign ++ List.replicate (width - (sign.length + (Nat.toDigits 10 n.natAbs).length)) '0' ++
    Nat.toDigits 10 n.natAbs

@[simp] theorem zeroJustify_natCast (width n : Nat) :
    zeroJustify width n = List.replicate (width - (Nat.toDigits 10 n).length) '0' ++ Nat.toDigits 10 n := by
  have unsigned : ¬(n : Int) < 0 := by omega
  simp [zeroJustify, unsigned]

theorem nul_not_mem_intDecimal (n : Int) : nul ∉ intDecimal n := by
  simp only [intDecimal, List.mem_append, not_or]
  exact ⟨by split <;> simp; decide, nul_not_mem_toDigits _⟩

/-- An int's %d takes at most 11 characters, and none of them is a NUL. -/
theorem intDecimal_bounded (n : BitVec 32) :
    (intDecimal n.toInt).length ≤ 11 ∧ nul ∉ intDecimal n.toInt := by
  have magnitude : n.toInt.natAbs < 10 ^ 10 := by
    have bits := n.isLt
    rw [BitVec.toInt_eq_toNat_cond]
    split <;> omega
  refine ⟨?_, ?_⟩
  · have digits := toDigits_length_le (k := 9) magnitude
    simp only [intDecimal, List.length_append]
    split <;> simp <;> omega
  · simp only [intDecimal, List.mem_append, not_or]
    exact ⟨by split <;> simp; decide, nul_not_mem_toDigits _⟩

end Printf

end Sigar
