import Sigar.Libc

namespace Sigar

/-! sigar_uptime_string: up to two sprintf calls into the caller's buffer, the first
only for an uptime of a day or more. The double uptime->uptime is taken as its whole
seconds `secs`, the integral part that both of its conversions to int keep; the day
count the source takes from the double is the truncated quotient of the same
seconds. Division is C's, which truncates. -/

/-- The conversion of a double whose integral part is `whole` to int: C defines it
only when that value fits an int. -/
def intOfDouble (whole : Int) : Except Fault Int :=
  if -2 ^ 31 ≤ whole ∧ whole < 2 ^ 31 then .ok whole else .error .unrepresentable

/-- `uptime->uptime / (60*60*24)`, before it is stored in the int `days`. -/
def uptimeDays (secs : Int) : Int := secs.tdiv (60 * 60 * 24)

/-- `minutes = seconds / 60; hours = minutes / 60; hours = hours % 24;` where
`seconds` is `(int)uptime->uptime`. -/
def uptimeHours (seconds : Int) : Int := ((seconds.tdiv 60).tdiv 60).tmod 24

/-- `minutes = minutes % 60;` -/
def uptimeMinutes (seconds : Int) : Int := (seconds.tdiv 60).tmod 60

/-- What `sprintf(ptr + offset, "%d day%s, ", days, (days > 1) ? "s" : "")` prints. -/
def daysText (days : Int) : List Char :=
  intDecimal days ++ " day".toList ++ (if days > 1 then ['s'] else []) ++ ", ".toList

/-- What the second sprintf prints: "%2d:%02d" of the hours and minutes, or "%d min"
of the minutes when the hours are 0. -/
def clockText (hours minutes : Int) : List Char :=
  if hours ≠ 0 then rightJustify 2 (intDecimal hours) ++ [':'] ++ zeroJustify 2 minutes
  else intDecimal minutes ++ " min".toList

/-- sigar_uptime_string, with `buffer` the bytes the caller's buffer really has.
The source never reads `buflen`. -/
def uptimeString (secs : Int) (buffer : List Char) (_buflen : Int) : Except Fault (Nat × List Char) := do
  let days ← intOfDouble (uptimeDays secs)
  let (offset, buffer) ← if days ≠ 0 then
      (writeAt buffer 0 (daysText days ++ [nul])).map ((daysText days).length, ·)
    else pure (0, buffer)
  let seconds ← intOfDouble secs
  let buffer ← writeAt buffer offset (clockText (uptimeHours seconds) (uptimeMinutes seconds) ++ [nul])
  pure (sigarOk, buffer)

/-- The C string sigar_uptime_string leaves in the buffer when both conversions
are defined. -/
def uptimeText (secs : Int) : List Char :=
  (if uptimeDays secs ≠ 0 then daysText (uptimeDays secs) else []) ++
    clockText (uptimeHours secs) (uptimeMinutes secs)

theorem intOfDouble_of_fits {whole : Int} (nonneg : 0 ≤ whole) (small : whole < 2 ^ 31) :
    intOfDouble whole = .ok whole :=
  if_pos ⟨by omega, small⟩

theorem uptimeDays_natCast (n : Nat) : uptimeDays n = ((n / 86400 : Nat) : Int) :=
  (Int.ofNat_tdiv n 86400).symm

/-- An uptime that fits an int has a day count that fits one too. -/
theorem intOfDouble_uptimeDays {secs : Int} (nonneg : 0 ≤ secs) (small : secs < 2 ^ 31) :
    intOfDouble (uptimeDays secs) = .ok (uptimeDays secs) := by
  obtain ⟨n, rfl⟩ := Int.eq_ofNat_of_zero_le nonneg
  rw [uptimeDays_natCast]
  exact intOfDouble_of_fits (Int.natCast_nonneg _) (by omega)

theorem uptimeHours_natCast (n : Nat) : uptimeHours n = ((n / 60 / 60 % 24 : Nat) : Int) := by
  simp only [uptimeHours, ← Int.ofNat_tdiv, ← Int.ofNat_tmod]
  rfl

theorem uptimeMinutes_natCast (n : Nat) : uptimeMinutes n = ((n / 60 % 60 : Nat) : Int) := by
  simp only [uptimeMinutes, ← Int.ofNat_tdiv, ← Int.ofNat_tmod]
  rfl

theorem nul_not_mem_daysText (days : Int) : nul ∉ daysText days := by
  simp only [daysText, List.mem_append, not_or]
  exact ⟨⟨⟨nul_not_mem_intDecimal _, by decide⟩, by split <;> decide⟩, by decide⟩

theorem nul_not_mem_clockText (hours minutes : Int) : nul ∉ clockText hours minutes := by
  unfold clockText
  split
  · simp only [rightJustify, zeroJustify, List.mem_append, not_or]
    exact ⟨⟨⟨nul_not_mem_replicate (by decide) _, nul_not_mem_intDecimal _⟩, by decide⟩,
      ⟨by split <;> decide, nul_not_mem_replicate (by decide) _⟩, nul_not_mem_toDigits _⟩
  · simp only [List.mem_append, not_or]
    exact ⟨nul_not_mem_intDecimal _, by decide⟩

theorem nul_not_mem_uptimeText (secs : Int) : nul ∉ uptimeText secs := by
  simp only [uptimeText, List.mem_append, not_or]
  refine ⟨?_, nul_not_mem_clockText _ _⟩
  split
  · exact nul_not_mem_daysText _
  · exact List.not_mem_nil _

/-- For an uptime that fits an int, the two sprintf calls leave what one sprintf of
the whole text leaves: the second starts on the first one's NUL. -/
theorem uptimeString_eq {secs : Int} (nonneg : 0 ≤ secs) (small : secs < 2 ^ 31) (buffer : List Char)
    (buflen : Int) :
    uptimeString secs buffer buflen =
      (writeAt buffer 0 (uptimeText secs ++ [nul])).map (sigarOk, ·) := by
  simp only [uptimeString, uptimeText, intOfDouble_uptimeDays nonneg small, intOfDouble_of_fits nonneg small,
    Except.ok_bind]
  split
  · have compose := @writeAt_bind_writeAt buffer 0 (daysText (uptimeDays secs))
      (clockText (uptimeHours secs) (uptimeMinutes secs) ++ [nul]) [nul]
      (by rw [List.length_append]; exact Nat.le_add_left _ _)
    rw [List.append_assoc, ← compose, zero_add]
    cases writeAt buffer 0 (daysText (uptimeDays secs) ++ [nul]) <;> rfl
  · simp only [List.nil_append, pure_bind]
    cases writeAt buffer 0 (clockText (uptimeHours secs) (uptimeMinutes secs) ++ [nul]) <;> rfl

theorem daysText_length_le (days : Nat) : (daysText days).length ≤ (Nat.toDigits 10 days).length + 7 := by
  have words : (" day".toList).length = 4 ∧ (", ".toList).length = 2 := ⟨rfl, rfl⟩
  simp only [daysText, intDecimal_natCast, List.length_append, words.1, words.2]
  split <;> simp only [List.length_singleton, List.length_nil] <;> omega

theorem clockText_length_le {hours minutes : Nat} (twoDigitHours : (Nat.toDigits 10 hours).length ≤ 2)
    (twoDigitMinutes : (Nat.toDigits 10 minutes).length ≤ 2) : (clockText hours minutes).length ≤ 6 := by
  unfold clockText
  split
  · simp only [intDecimal_natCast, zeroJustify_natCast, List.length_append, rightJustify_length twoDigitHours,
      List.length_singleton, List.length_replicate]
    omega
  · have word : (" min".toList).length = 4 := rfl
    simp only [intDecimal_natCast, List.length_append, word]
    omega

theorem uptimeText_length_le {secs : Int} (nonneg : 0 ≤ secs) (small : secs < 2 ^ 31) :
    (uptimeText secs).length ≤ 18 := by
  obtain ⟨n, rfl⟩ := Int.eq_ofNat_of_zero_le nonneg
  have days : (Nat.toDigits 10 (n / 86400)).length ≤ 5 := toDigits_length_le (by omega)
  have clock := @clockText_length_le (n / 60 / 60 % 24) (n / 60 % 60) (toDigits_length_le (by omega))
    (toDigits_length_le (by omega))
  have dayPart : (if uptimeDays n ≠ 0 then daysText (uptimeDays n) else []).length ≤ 12 := by
    split
    · have := daysText_length_le (n / 86400)
      rw [uptimeDays_natCast]
      omega
    · exact Nat.zero_le _
  rw [uptimeText, uptimeHours_natCast, uptimeMinutes_natCast, List.length_append]
  omega

/-- The text of an uptime that fits an int, with its NUL, fits a buffer of 19 bytes. -/
theorem uptimeText_written {secs : Int} (nonneg : 0 ≤ secs) (small : secs < 2 ^ 31) {buffer : List Char}
    (roomy : 19 ≤ buffer.length) :
    ∃ filled, writeAt buffer 0 (uptimeText secs ++ [nul]) = .ok filled ∧ cString filled = uptimeText secs := by
  have fits := uptimeText_length_le nonneg small
  obtain ⟨filled, written⟩ : ∃ filled, writeAt buffer 0 (uptimeText secs ++ [nul]) = .ok filled :=
    ⟨_, writeAt_inside (by simp only [List.length_append, List.length_singleton]; omega)⟩
  exact ⟨filled, written, cString_writeAt_zero (nul_not_mem_uptimeText secs) written⟩

/-- An uptime that fits an int prints in at most 18 characters, so a buffer of 19
bytes is never overrun, whatever `buflen` says, and holds the text afterwards. -/
theorem uptimeString_fits {secs : Int} (nonneg : 0 ≤ secs) (small : secs < 2 ^ 31) {buffer : List Char}
    (roomy : 19 ≤ buffer.length) (buflen : Int) :
    ∃ filled, uptimeString secs buffer buflen = .ok (sigarOk, filled) ∧
      cString filled = uptimeText secs ∧ filled.length = buffer.length := by
  obtain ⟨filled, written, text⟩ := uptimeText_written nonneg small roomy
  exact ⟨filled, by rw [uptimeString_eq nonneg small, written]; rfl, text, writeAt_length written⟩

theorem uptimeString_fits_longest :
    (0 : Int) ≤ 2147483647 ∧ (2147483647 : Int) < 2 ^ 31 ∧ 19 ≤ (List.replicate 19 nul).length ∧
      ∃ filled, uptimeString 2147483647 (List.replicate 19 nul) 19 = .ok (sigarOk, filled) ∧
        cString filled = uptimeText 2147483647 ∧ filled.length = (List.replicate 19 nul).length :=
  have nonneg : (0 : Int) ≤ 2147483647 := by decide
  have small : (2147483647 : Int) < 2 ^ 31 := by norm_num
  have roomy : 19 ≤ (List.replicate 19 nul).length := by simp
  ⟨nonneg, small, roomy, uptimeString_fits nonneg small roomy 19⟩

section Reading

/-! Reading an uptime text back. -/

/-- One character of an uptime text read back: digits accumulate a number, the `d`
of "day" adds it as days and `:` as hours, both counted in minutes; every other
character is skipped. -/
def readUptimeStep (state : Nat × Nat) (c : Char) : Nat × Nat :=
  if c.isDigit then (state.1, 10 * state.2 + (c.toNat - 48))
  else if c = 'd' then (state.1 + 1440 * state.2, 0)
  else if c = ':' then (state.1 + 60 * state.2, 0)
  else state

/-- The whole minutes an uptime text stands for. -/
def readUptime (text : List Char) : Nat :=
  let state := text.foldl readUptimeStep (0, 0)
  state.1 + state.2

theorem foldl_readUptimeStep_digits {ds : List Char} (digits : ∀ c ∈ ds, c.isDigit = true)
    (total acc : Nat) :
    ds.foldl readUptimeStep (total, acc) =
      (total, ds.foldl (fun acc c => 10 * acc + (c.toNat - 48)) acc) := by
  induction ds generalizing acc with
  | nil => rfl
  | cons c cs ih =>
    have rest : ∀ c ∈ cs, c.isDigit = true := fun c member => digits c (List.mem_cons_of_mem _ member)
    simp only [List.foldl_cons, readUptimeStep, digits c (List.mem_cons_self _ _), if_true, ih rest]

theorem foldl_readUptimeStep_toDigits (n total : Nat) :
    (Nat.toDigits 10 n).foldl readUptimeStep (total, 0) = (total, n) := by
  rw [foldl_readUptimeStep_digits (toDigits_isDigit n)]
  exact congrArg _ (digitsValue_toDigits n)

theorem foldl_readUptimeStep_replicate {c : Char} {state : Nat × Nat}
    (skipped : readUptimeStep state c = state) (k : Nat) :
    (List.replicate k c).foldl readUptimeStep state = state := by
  induction k with
  | zero => rfl
  | succ k ih => rw [List.replicate_succ, List.foldl_cons, skipped, ih]

theorem foldl_readUptimeStep_daysText (d total : Nat) :
    (daysText d).foldl readUptimeStep (total, 0) = (total + 1440 * d, 0) := by
  simp only [daysText, intDecimal_natCast, List.foldl_append, foldl_readUptimeStep_toDigits]
  split <;> rfl

theorem foldl_readUptimeStep_clockText (h m total : Nat) :
    (clockText h m).foldl readUptimeStep (total, 0) = (total + 60 * h, m) := by
  unfold clockText
  split
  · simp only [rightJustify, intDecimal_natCast, zeroJustify_natCast, List.foldl_append,
      foldl_readUptimeStep_replicate (show readUptimeStep (total, 0) ' ' = (total, 0) from rfl),
      foldl_readUptimeStep_toDigits]
    rw [show [':'].foldl readUptimeStep (total, h) = (total + 60 * h, 0) from rfl,
      foldl_readUptimeStep_replicate (show readUptimeStep (total + 60 * h, 0) '0' = _ from rfl),
      foldl_readUptimeStep_toDigits]
  · rename_i zero
    have : h = 0 := by exact_mod_cast not_not.mp zero
    subst this
    simp only [intDecimal_natCast, List.foldl_append, foldl_readUptimeStep_toDigits]
    rfl

/-- Reading the text back gives the uptime's whole minutes. -/
theorem readUptime_uptimeText (n : Nat) : readUptime (uptimeText n) = n / 60 := by
  have days : (if uptimeDays n ≠ 0 then daysText (uptimeDays n) else []).foldl readUptimeStep (0, 0) =
      (1440 * (n / 86400), 0) := by
    rw [uptimeDays_natCast]
    split
    · rw [foldl_readUptimeStep_daysText, zero_add]
    · rename_i none
      have : n / 86400 = 0 := by exact_mod_cast not_not.mp none
      rw [this]
      rfl
  simp only [readUptime, uptimeText, List.foldl_append, days, uptimeHours_natCast, uptimeMinutes_natCast,
    foldl_readUptimeStep_clockText]
  omega

/-- The text tells nonnegative uptimes apart exactly by their whole minutes. -/
theorem uptimeText_eq_iff {s t : Int} (nonneg : 0 ≤ s) (nonneg' : 0 ≤ t) :
    uptimeText s = uptimeText t ↔ s / 60 = t / 60 := by
  obtain ⟨m, rfl⟩ := Int.eq_ofNat_of_zero_le nonneg
  obtain ⟨n, rfl⟩ := Int.eq_ofNat_of_zero_le nonneg'
  constructor
  · intro same
    have minutes := congrArg readUptime same
    rw [readUptime_uptimeText, readUptime_uptimeText] at minutes
    omega
  · intro same
    have whole : m / 60 = n / 60 := by omega
    have days : m / 86400 = n / 86400 := by
      rw [show 86400 = 60 * 1440 from rfl, ← Nat.div_div_eq_div_mul, ← Nat.div_div_eq_div_mul, whole]
    simp only [uptimeText, uptimeDays_natCast, uptimeHours_natCast, uptimeMinutes_natCast, days, whole]

/-- Two uptimes that fit an int leave a buffer of 19 bytes or more the same way
exactly when they have the same whole minutes: sigar_uptime_string loses the seconds
and nothing else. -/
theorem uptimeString_eq_iff {s t : Int} (nonneg : 0 ≤ s) (small : s < 2 ^ 31) (nonneg' : 0 ≤ t)
    (small' : t < 2 ^ 31) {buffer : List Char} (roomy : 19 ≤ buffer.length) (buflen buflen' : Int) :
    uptimeString s buffer buflen = uptimeString t buffer buflen' ↔ s / 60 = t / 60 := by
  obtain ⟨filled, written, text⟩ := uptimeText_written nonneg small roomy
  obtain ⟨filled', written', text'⟩ := uptimeText_written nonneg' small' roomy
  rw [uptimeString_eq nonneg small, uptimeString_eq nonneg' small', ← uptimeText_eq_iff nonneg nonneg']
  constructor
  · intro same
    rw [written, written'] at same
    simp only [Except.map_ok, Except.ok.injEq, Prod.mk.injEq, true_and] at same
    rw [← text, ← text', same]
  · intro same
    rw [same]

theorem uptimeString_eq_iff_minute :
    (0 : Int) ≤ 3600 ∧ (3600 : Int) < 2 ^ 31 ∧ (0 : Int) ≤ 3659 ∧ (3659 : Int) < 2 ^ 31 ∧
      19 ≤ (List.replicate 19 nul).length ∧
      (uptimeString 3600 (List.replicate 19 nul) 19 = uptimeString 3659 (List.replicate 19 nul) 19 ↔
        (3600 : Int) / 60 = 3659 / 60) :=
  have small : (3600 : Int) < 2 ^ 31 ∧ (3659 : Int) < 2 ^ 31 := by norm_num
  ⟨by decide, small.1, by decide, small.2, by simp,
    uptimeString_eq_iff (by decide) small.1 (by decide) small.2 (by simp) 19 19⟩

end Reading

end Sigar
