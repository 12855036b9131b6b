import Sigar.Libc

namespace Sigar

/-- The four bytes of `addr.s_addr = address` in memory order: the address is cut
to its low 32 bits, and a little-endian host stores the lowest byte first. -/
def inAddrBytes (bigEndian : Bool) (address : BitVec 64) : List Nat :=
  let s := (address.setWidth 32).toNat
  let bytes := [s % 256, s / 256 % 256, s / 65536 % 256, s / 16777216 % 256]
  if bigEndian then bytes.reverse else bytes

/-- The character `'0' + d`. -/
def digitChar (d : Nat) : Char := Char.ofNat (48 + d)

/-- One pass of the do-while of sigar_inet_ntoa: the digits of `u` without leading
zeros, then '.'. -/
def ntoaByte (u : Nat) : List Char :=
  (if u > 99 then [digitChar (u / 100), digitChar (u % 100 / 10)]
    else if u > 9 then [digitChar (u / 10)] else []) ++ [digitChar (u % 10), '.']

/-- What the four passes write from addr_str onwards. -/
def ntoaWritten (bigEndian : Bool) (address : BitVec 64) : List Char :=
  ((inAddrBytes bigEndian address).map ntoaByte).flatten

/-- sigar_inet_ntoa: the four passes, then `*--next = 0` turns the last '.' into the
NUL. -/
def sigarInetNtoa (bigEndian : Bool) (address : BitVec 64) (addrStr : List Char) :
    Except Fault (List Char) := do
  let addrStr ← writeAt addrStr 0 (ntoaWritten bigEndian address)
  writeAt addrStr ((ntoaWritten bigEndian address).length - 1) [nul]

/-- The dotted-decimal text sigar_inet_ntoa leaves. -/
def ntoaText (bigEndian : Bool) (address : BitVec 64) : List Char :=
  (ntoaWritten bigEndian address).dropLast

theorem inAddrBytes_bytes (bigEndian : Bool) (address : BitVec 64) :
    ∃ u0 u1 u2 u3, inAddrBytes bigEndian address = [u0, u1, u2, u3] ∧
      u0 < 256 ∧ u1 < 256 ∧ u2 < 256 ∧ u3 < 256 := by
  have byte : ∀ n, n % 256 < 256 := fun n => Nat.mod_lt n (by decide)
  unfold inAddrBytes
  split
  · exact ⟨_, _, _, _, rfl, byte _, byte _, byte _, byte _⟩
  · exact ⟨_, _, _, _, rfl, byte _, byte _, byte _, byte _⟩

theorem digitChar_ne_nul {d : Nat} (digit : d < 10) : digitChar d ≠ nul := by
  revert d
  decide

theorem ntoaByte_split {u : Nat} (byte : u < 256) :
    ∃ digits, ntoaByte u = digits ++ ['.'] ∧ nul ∉ digits ∧ digits.length ≤ 3 := by
  have last := digitChar_ne_nul (Nat.mod_lt u (show 0 < 10 by decide))
  unfold ntoaByte
  split
  · refine ⟨[digitChar (u / 100), digitChar (u % 100 / 10), digitChar (u % 10)], by simp, ?_, by simp⟩
    simp only [List.mem_cons, List.not_mem_nil, or_false, not_or]
    exact ⟨Ne.symm (digitChar_ne_nul (by omega)), Ne.symm (digitChar_ne_nul (by omega)), Ne.symm last⟩
  · split
    · refine ⟨[digitChar (u / 10), digitChar (u % 10)], by simp, ?_, by simp⟩
      simp only [List.mem_cons, List.not_mem_nil, or_false, not_or]
      exact ⟨Ne.symm (digitChar_ne_nul (by omega)), Ne.symm last⟩
    · exact ⟨[digitChar (u % 10)], by simp, by simpa [eq_comm] using last, by simp⟩

theorem digitChar_eq {d : Nat} (digit : d < 10) : digitChar d = Nat.digitChar d := by
  revert d
  decide

theorem ntoaByte_toDigits {u : Nat} (byte : u < 256) : ntoaByte u = Nat.toDigits 10 u ++ ['.'] := by
  have last := digitChar_eq (Nat.mod_lt u (show 0 < 10 by decide))
  unfold ntoaByte
  split
  · rw [toDigits_ten u, if_neg (by omega), toDigits_ten (u / 10), if_neg (by omega), toDigits_ten (u / 10 / 10),
      if_pos (by omega), show u / 10 / 10 % 10 = u / 100 by omega, show u / 10 % 10 = u % 100 / 10 by omega,
      digitChar_eq (by omega), digitChar_eq (by omega), last]
    simp
  · split
    · rw [toDigits_ten u, if_neg (by omega), toDigits_ten (u / 10), if_pos (by omega),
        show u / 10 % 10 = u / 10 by omega, digitChar_eq (by omega), last]
      simp
    · rw [toDigits_ten u, if_pos (by omega), last]
      simp

theorem dot_ne_nul : '.' ≠ nul := by decide

/-- The passes write the text and one '.' after it; the text has no NUL and at
most 15 characters. -/
theorem ntoaWritten_split (bigEndian : Bool) (address : BitVec 64) :
    ntoaWritten bigEndian address = ntoaText bigEndian address ++ ['.'] ∧
      nul ∉ ntoaText bigEndian address ∧ (ntoaText bigEndian address).length ≤ 15 := by
  obtain ⟨u0, u1, u2, u3, bytes, small⟩ := inAddrBytes_bytes bigEndian address
  obtain ⟨d0, e0, n0, l0⟩ := ntoaByte_split small.1
  obtain ⟨d1, e1, n1, l1⟩ := ntoaByte_split small.2.1
  obtain ⟨d2, e2, n2, l2⟩ := ntoaByte_split small.2.2.1
  obtain ⟨d3, e3, n3, l3⟩ := ntoaByte_split small.2.2.2
  have written : ntoaWritten bigEndian address = (d0 ++ ['.'] ++ d1 ++ ['.'] ++ d2 ++ ['.'] ++ d3) ++ ['.'] := by
    simp [ntoaWritten, bytes, e0, e1, e2, e3]
  have text : ntoaText bigEndian address = d0 ++ ['.'] ++ d1 ++ ['.'] ++ d2 ++ ['.'] ++ d3 := by
    rw [ntoaText, written, List.dropLast_concat]
  refine ⟨by rw [written, text], ?_, by rw [text]; simp; omega⟩
  rw [text]
  simp only [List.mem_append, List.mem_singleton, not_or]
  exact ⟨⟨⟨⟨⟨⟨n0, Ne.symm dot_ne_nul⟩, n1⟩, Ne.symm dot_ne_nul⟩, n2⟩, Ne.symm dot_ne_nul⟩, n3⟩

theorem sigarInetNtoa_eq (bigEndian : Bool) (address : BitVec 64) (addrStr : List Char)
    (fits : (ntoaText bigEndian address).length < addrStr.length) :
    sigarInetNtoa bigEndian address addrStr =
      .ok (ntoaText bigEndian address ++ nul :: addrStr.drop ((ntoaText bigEndian address).length + 1)) := by
  obtain ⟨split, -, -⟩ := ntoaWritten_split bigEndian address
  have inside : 0 + (ntoaWritten bigEndian address).length ≤ addrStr.length := by
    rw [split, List.length_append, List.length_singleton]; omega
  rw [sigarInetNtoa, writeAt_inside inside, Except.ok_bind, split, List.length_append, List.length_singleton,
    Nat.add_sub_cancel, writeAt_inside (by simp)]
  simp

/-- sigar_inet_ntoa writes inside `addrStr` exactly when the text and its NUL fit,
and then leaves the text there as a C string. -/
theorem sigarInetNtoa_spec (bigEndian : Bool) (address : BitVec 64) (addrStr : List Char) :
    (ntoaText bigEndian address).length < addrStr.length →
      ∃ out, sigarInetNtoa bigEndian address addrStr = .ok out ∧ out.length = addrStr.length ∧
        cString out = ntoaText bigEndian address := by
  intro fits
  refine ⟨_, sigarInetNtoa_eq _ _ _ fits, by simp; omega, ?_⟩
  rw [cString_append_of_not_mem (ntoaWritten_split bigEndian address).2.1, cString_nul_cons, List.append_nil]

theorem sigarInetNtoa_overflow (bigEndian : Bool) (address : BitVec 64) (addrStr : List Char)
    (short : addrStr.length ≤ (ntoaText bigEndian address).length) :
    sigarInetNtoa bigEndian address addrStr = .error .outOfBounds := by
  obtain ⟨split, -, -⟩ := ntoaWritten_split bigEndian address
  rw [sigarInetNtoa, writeAt_outside (by rw [split]; simp; omega), Except.error_bind]

/-- The bytes of `address mod 2^32` in memory order, by arithmetic: on a
little-endian host byte `i` is `⌊address / 256^i⌋ mod 256`. -/
def addressBytes (bigEndian : Bool) (address : BitVec 64) : List Nat :=
  let bytes := (List.range 4).map fun i => address.toNat / 256 ^ i % 256
  if bigEndian then bytes.reverse else bytes

/-- The dotted-quad text of an address: the decimal numerals of those bytes, without
leading zeros, joined by '.'. -/
def dottedQuad (bigEndian : Bool) (address : BitVec 64) : List Char :=
  ['.'].intercalate ((addressBytes bigEndian address).map (Nat.toDigits 10))

theorem inAddrBytes_eq (bigEndian : Bool) (address : BitVec 64) :
    inAddrBytes bigEndian address = addressBytes bigEndian address := by
  have low : (address.setWidth 32).toNat = address.toNat % 2 ^ 32 := BitVec.toNat_setWidth _ _
  have quad : (List.range 4).map (fun i => address.toNat / 256 ^ i % 256) =
      [address.toNat % 2 ^ 32 % 256, address.toNat % 2 ^ 32 / 256 % 256, address.toNat % 2 ^ 32 / 65536 % 256,
        address.toNat % 2 ^ 32 / 16777216 % 256] := by
    simp [List.range_succ]
    omega
  simp only [inAddrBytes, addressBytes, low, quad]

theorem ntoaText_eq (bigEndian : Bool) (address : BitVec 64) : ntoaText bigEndian address = dottedQuad bigEndian address := by
  obtain ⟨u0, u1, u2, u3, bytes, small⟩ := inAddrBytes_bytes bigEndian address
  have quad : addressBytes bigEndian address = [u0, u1, u2, u3] := by rw [← inAddrBytes_eq, bytes]
  have written : ntoaWritten bigEndian address = dottedQuad bigEndian address ++ ['.'] := by
    rw [ntoaWritten, dottedQuad, bytes, quad]
    simp [ntoaByte_toDigits small.1, ntoaByte_toDigits small.2.1, ntoaByte_toDigits small.2.2.1,
      ntoaByte_toDigits small.2.2.2, List.intercalate]
  rw [ntoaText, written, List.dropLast_concat]

theorem addressBytes_injective {bigEndian : Bool} {address address' : BitVec 64}
    (same : addressBytes bigEndian address' = addressBytes bigEndian address) :
    address'.setWidth 32 = address.setWidth 32 := by
  apply BitVec.eq_of_toNat_eq
  simp only [BitVec.toNat_setWidth]
  cases bigEndian <;> simp [addressBytes, List.range_succ] at same <;> omega

theorem dottedQuad_splitOn (bigEndian : Bool) (address : BitVec 64) :
    ((dottedQuad bigEndian address).splitOn '.').map digitsValue = addressBytes bigEndian address := by
  rw [dottedQuad, List.splitOn_intercalate]
  · simp [Function.comp_def, digitsValue_toDigits]
  · intro l member dot
    obtain ⟨u, -, rfl⟩ := List.mem_map.mp member
    exact absurd (toDigits_isDigit u '.' dot) (by decide)
  · cases bigEndian <;> simp [addressBytes, List.range_succ]

/-- sigar_inet_ntoa leaves the dotted quad of the address's four bytes, then its NUL,
and changes nothing after them; text and NUL take at most 16 bytes, and the text
tells 32-bit addresses apart. -/
theorem sigarInetNtoa_dotted_quad (bigEndian : Bool) (address : BitVec 64) :
    (∀ addrStr : List Char, (dottedQuad bigEndian address).length < addrStr.length →
      sigarInetNtoa bigEndian address addrStr =
        .ok (dottedQuad bigEndian address ++ nul :: addrStr.drop ((dottedQuad bigEndian address).length + 1))) ∧
      (dottedQuad bigEndian address).length + 1 ≤ 16 ∧
      ∀ address' : BitVec 64, dottedQuad bigEndian address' = dottedQuad bigEndian address →
        address'.setWidth 32 = address.setWidth 32 := by
  have short := (ntoaWritten_split bigEndian address).2.2
  rw [← ntoaText_eq bigEndian address]
  refine ⟨fun addrStr fits => sigarInetNtoa_eq _ _ _ fits, by omega, fun address' same => ?_⟩
  apply addressBytes_injective
  rw [← dottedQuad_splitOn bigEndian address', same, ntoaText_eq, dottedQuad_splitOn]

end Sigar
