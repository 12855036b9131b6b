import Sigar.Libc

namespace Sigar

/-! ### sigar_format_size -/

/-- The array `ord`: the unit letters and their NUL. -/
def ord : List Char := "KMGTPE".toList ++ [nul]

/-- `*o` for the pointer at index `o` of ord; past the array the read is out of bounds. -/
def unitAt (o : Nat) : Except Fault Char :=
  match ord[o]? with
  | some u => .ok u
  | none => .error .outOfBounds

/-- The end of the loop's pass that prints: `size` and `remain` as that pass computed
them, `o` the unit. What sprintf writes is returned, its NUL included. -/
def formatSizeTail (o size remain : Nat) : Except Fault (List Char) :=
  if size < 9 ∨ (size = 9 ∧ remain < 973) then
    let remain := (remain * 5 + 256) / 512
    let (size, remain) := if remain ≥ 10 then (size + 1, 0) else (size, remain)
    (unitAt o).map fun u => intDecimal size ++ '.' :: intDecimal remain ++ [u, nul]
  else
    let size := if remain ≥ 512 then size + 1 else size
    (unitAt o).map fun u => rightJustify 3 (intDecimal size) ++ [u, nul]

/-- The `do { ... } while (1)` loop for at most `passes` passes, from the unit `o` and the
size at the top of a pass; `none` when the passes run out first. `size & 1023` is
`size % 1024` and `size >>= 10` is `size / 1024`; nothing here can overflow, since
remain stays below 1024 and size is incremented only below 973. -/
def formatSizeLoop : Nat → Nat → Nat → Option (Except Fault (List Char))
  | 0, _, _ => none
  | passes + 1, o, size =>
    let remain := size % 1024
    let size := size / 1024
    if size ≥ 973 then formatSizeLoop passes (o + 1) size
    else some (formatSizeTail o size remain)

/-- What sigar_format_size writes at buf[0], its NUL included; `none` when its loop has
not ended within `passes` passes. -/
def formatSizeText (passes : Nat) (size : BitVec 64) : Option (Except Fault (List Char)) :=
  if size = sigarFieldNotimpl then some (.ok ['-', nul])
  else if size.toNat < 973 then some (.ok (rightJustify 3 (intDecimal size.toNat) ++ [' ', nul]))
  else formatSizeLoop passes 0 size.toNat

def sigarFormatSize (passes : Nat) (size : BitVec 64) (buf : List Char) : Option (Except Fault (List Char)) :=
  (formatSizeText passes size).map (· >>= writeAt buf 0)

/-! ### Reading a printed size back -/

/-- The unit letters; the k-th, counted from 1, stands for 1024^k. -/
def sizeUnits : List Char := "KMGTPE".toList

/-- The quantity a string printed by sigar_format_size denotes: "N " is N bytes, "N.DU"
is (N + D/10)·1024^k and "NU" is N·1024^k, where U is the k-th letter of KMGTPE; spaces
before N are padding. -/
def sizeDenoted (text : List Char) : Option ℚ :=
  let body := text.dropLast.dropWhile (· = ' ')
  match text.getLast? with
  | none => none
  | some u =>
    if u = ' ' then some (digitsValue body)
    else if u ∈ sizeUnits then
      match body.splitOn '.' with
      | [n] => some (digitsValue n * 1024 ^ (sizeUnits.indexOf u + 1))
      | [n, d] => some ((digitsValue n + digitsValue d / 10) * 1024 ^ (sizeUnits.indexOf u + 1))
      | _ => none
    else none

/-- The quantity sigar_format_size's output denotes, once its loop has ended within
`passes` passes. -/
def formatSizeQuantity (passes : Nat) (size : BitVec 64) : Option ℚ :=
  match formatSizeText passes size with
  | some (.ok written) => sizeDenoted (cString written)
  | _ => none

/-- The two forms the output takes for a size of 973 or more: a digit, '.', a digit and
a unit, or a width-3 integer and a unit. -/
def UnitForm (text : List Char) : Prop :=
  (∃ n d u, n < 10 ∧ d < 10 ∧ u ∈ sizeUnits ∧ text = [Nat.digitChar n, '.', Nat.digitChar d, u]) ∨
    ∃ n u, n < 1000 ∧ u ∈ sizeUnits ∧ text = rightJustify 3 (Nat.toDigits 10 n) ++ [u]

/-- What the printing pass prints, in tenths of its unit, for `q` the size in 1024ths
of that unit: the tenths rounded half up below 9.95 units, whole units rounded half up
from there. -/
def printedTenths (q : Nat) : Nat := if q < 10189 then (10 * q + 512) / 1024 else 10 * ((q + 512) / 1024)

/-- The quantity printed with unit index `i` (unit 1024^(i+1)) for `q` 1024ths of it. -/
def printedQuantity (i q : Nat) : ℚ := (printedTenths q : ℚ) / 10 * 1024 ^ (i + 1)

section Reading

theorem toDigits_digit {d : Nat} (digit : d < 10) : Nat.toDigits 10 d = [Nat.digitChar d] := by
  rw [toDigits_ten, if_pos digit, Nat.mod_eq_of_lt digit, List.nil_append]

theorem toDigits_ne_nil (n : Nat) : Nat.toDigits 10 n ≠ [] := by
  rw [toDigits_ten]
  simp

/-- A printed numeral starts with a digit, so no padding is read off it. -/
theorem dropWhile_space_toDigits (n : Nat) (rest : List Char) :
    (Nat.toDigits 10 n ++ rest).dropWhile (· = ' ') = Nat.toDigits 10 n ++ rest := by
  obtain ⟨c, cs, first⟩ := List.exists_cons_of_ne_nil (toDigits_ne_nil n)
  have digit := toDigits_isDigit n c (first ▸ List.mem_cons_self c cs)
  rw [first, List.cons_append, List.dropWhile_cons_of_neg]
  intro space
  rw [of_decide_eq_true space] at digit
  cases digit

theorem dropWhile_space_rightJustify (width n : Nat) :
    (rightJustify width (Nat.toDigits 10 n)).dropWhile (· = ' ') = Nat.toDigits 10 n := by
  unfold rightJustify
  generalize width - (Nat.toDigits 10 n).length = k
  induction k with
  | zero => simpa using dropWhile_space_toDigits n []
  | succ k ih => rw [List.replicate_succ, List.cons_append, List.dropWhile_cons_of_pos (by simp), ih]

theorem splitOn_dot_toDigits (n : Nat) : (Nat.toDigits 10 n).splitOn '.' = [Nat.toDigits 10 n] := by
  have single : (['.'].intercalate [Nat.toDigits 10 n]).splitOn '.' = [Nat.toDigits 10 n] :=
    List.splitOn_intercalate _ '.' (by simpa using fun dot => absurd (toDigits_isDigit n '.' dot) (by decide)) (List.cons_ne_nil _ _)
  simpa [List.intercalate] using single

theorem splitOn_dot_decimal (n d : Nat) :
    (Nat.toDigits 10 n ++ '.' :: Nat.toDigits 10 d).splitOn '.' = [Nat.toDigits 10 n, Nat.toDigits 10 d] := by
  have pair : (['.'].intercalate [Nat.toDigits 10 n, Nat.toDigits 10 d]).splitOn '.' =
      [Nat.toDigits 10 n, Nat.toDigits 10 d] :=
    List.splitOn_intercalate _ '.' (by simpa using ⟨fun dot => absurd (toDigits_isDigit n '.' dot) (by decide),
      fun dot => absurd (toDigits_isDigit d '.' dot) (by decide)⟩) (List.cons_ne_nil _ _)
  simpa [List.intercalate] using pair

theorem space_not_mem_sizeUnits : ' ' ∉ sizeUnits := by decide

/-- "N " reads as N bytes. -/
theorem sizeDenoted_bytes (width n : Nat) : sizeDenoted (rightJustify width (Nat.toDigits 10 n) ++ [' ']) = some (n : ℚ) := by
  simp only [sizeDenoted, List.dropLast_concat, List.getLast?_concat, if_true, dropWhile_space_rightJustify,
    digitsValue_toDigits]

/-- "NU" reads as N·1024^k. -/
theorem sizeDenoted_units {u : Char} (unit : u ∈ sizeUnits) (width n : Nat) :
    sizeDenoted (rightJustify width (Nat.toDigits 10 n) ++ [u]) = some ((n : ℚ) * 1024 ^ (sizeUnits.indexOf u + 1)) := by
  have letter : u ≠ ' ' := fun space => space_not_mem_sizeUnits (space ▸ unit)
  simp only [sizeDenoted, List.dropLast_concat, List.getLast?_concat, if_neg letter, if_pos unit,
    dropWhile_space_rightJustify, splitOn_dot_toDigits, digitsValue_toDigits]

/-- "N.DU" reads as (N + D/10)·1024^k. -/
theorem sizeDenoted_tenths {u : Char} (unit : u ∈ sizeUnits) (n d : Nat) :
    sizeDenoted (Nat.toDigits 10 n ++ '.' :: Nat.toDigits 10 d ++ [u]) =
      some (((n : ℚ) + d / 10) * 1024 ^ (sizeUnits.indexOf u + 1)) := by
  have letter : u ≠ ' ' := fun space => space_not_mem_sizeUnits (space ▸ unit)
  simp only [sizeDenoted, List.dropLast_concat, List.getLast?_concat, if_neg letter, if_pos unit,
    dropWhile_space_toDigits, splitOn_dot_decimal, digitsValue_toDigits]

end Reading

/-! ### The printing pass -/

/-- The first six positions of ord hold the unit letters, the k-th standing for 1024^(k+1). -/
theorem unitAt_lt {o : Nat} (unit : o < 6) : ∃ u, unitAt o = .ok u ∧ u ∈ sizeUnits ∧ sizeUnits.indexOf u = o := by
  interval_cases o <;> exact ⟨_, rfl, by decide, by decide⟩

theorem printedTenths_mono {q q' : Nat} (le : q ≤ q') : printedTenths q ≤ printedTenths q' := by
  unfold printedTenths
  split_ifs <;> omega

theorem printedTenths_bounds {q : Nat} (big : 973 ≤ q) (small : q < 973 * 1024) :
    10 ≤ printedTenths q ∧ printedTenths q ≤ 9730 := by
  unfold printedTenths
  split_ifs <;> omega

/-- Rounded tenths of q 1024ths are ten per whole unit and the rounded tenths of the
remainder. -/
theorem tenths_split (q : Nat) : (10 * q + 512) / 1024 = 10 * (q / 1024) + (q % 1024 * 5 + 256) / 512 := by
  omega

/-- Below 9.95 units the pass prints the rounded tenths as "N.D"; the carry of a
remainder that rounds to ten tenths is the step to the next N. -/
theorem formatSizeTail_tenths (o : Nat) {q : Nat} (tenths : q < 10189) :
    formatSizeTail o (q / 1024) (q % 1024) = (unitAt o).map fun u =>
      Nat.toDigits 10 (printedTenths q / 10) ++ '.' :: Nat.toDigits 10 (printedTenths q % 10) ++ [u, nul] := by
  have carried : (if (q % 1024 * 5 + 256) / 512 ≥ 10 then (q / 1024 + 1, 0)
      else (q / 1024, (q % 1024 * 5 + 256) / 512)) = (printedTenths q / 10, printedTenths q % 10) := by
    have atMostTen : (q % 1024 * 5 + 256) / 512 ≤ 10 := by omega
    rw [printedTenths, if_pos tenths, tenths_split]
    split <;> ext <;> dsimp only <;> omega
  unfold formatSizeTail
  rw [if_pos (show q / 1024 < 9 ∨ (q / 1024 = 9 ∧ q % 1024 < 973) by omega)]
  dsimp only
  rw [carried]
  simp only [intDecimal_natCast]

/-- From 9.95 units the pass prints the rounded whole units, right-justified in three
places. -/
theorem formatSizeTail_units (o : Nat) {q : Nat} (units : 10189 ≤ q) :
    formatSizeTail o (q / 1024) (q % 1024) = (unitAt o).map fun u =>
      rightJustify 3 (Nat.toDigits 10 (printedTenths q / 10)) ++ [u, nul] := by
  have rounded : (if q % 1024 ≥ 512 then q / 1024 + 1 else q / 1024) = printedTenths q / 10 := by
    rw [printedTenths, if_neg (show ¬q < 10189 by omega)]
    split <;> omega
  unfold formatSizeTail
  rw [if_neg (show ¬(q / 1024 < 9 ∨ (q / 1024 = 9 ∧ q % 1024 < 973)) by omega)]
  dsimp only
  rw [rounded]
  simp only [intDecimal_natCast]

theorem tenths_cast (tenths : Nat) : ((tenths / 10 : Nat) : ℚ) + ((tenths % 10 : Nat) : ℚ) / 10 = (tenths : ℚ) / 10 := by
  rw [eq_div_iff (by norm_num), add_mul, div_mul_cancel₀ _ (by norm_num)]
  exact_mod_cast Nat.div_add_mod' tenths 10

/-- The pass that prints, with its unit in KMGTPE and 973 ≤ q < 973·1024 1024ths of
that unit, prints four characters and a NUL in one of the two unit forms, reading back
as the printed quantity. -/
theorem formatSizeTail_print {o q : Nat} (unit : o < 6) (big : 973 ≤ q) (small : q < 973 * 1024) :
    ∃ text, formatSizeTail o (q / 1024) (q % 1024) = .ok (text ++ [nul]) ∧ text.length = 4 ∧ nul ∉ text ∧
      UnitForm text ∧ sizeDenoted text = some (printedQuantity o q) := by
  obtain ⟨u, read, letter, position⟩ := unitAt_lt unit
  obtain ⟨lower, upper⟩ := printedTenths_bounds big small
  have notNul : nul ≠ u := fun same => absurd (same ▸ letter) (by decide)
  by_cases tenths : q < 10189
  · have value : printedTenths q = (10 * q + 512) / 1024 := if_pos tenths
    have whole : printedTenths q / 10 < 10 := by omega
    have tenth : printedTenths q % 10 < 10 := Nat.mod_lt _ (by decide)
    refine ⟨Nat.toDigits 10 (printedTenths q / 10) ++ '.' :: Nat.toDigits 10 (printedTenths q % 10) ++ [u],
      ?_, ?_, ?_, ?_, ?_⟩
    · rw [formatSizeTail_tenths o tenths, read, Except.map_ok]
      simp
    · rw [toDigits_digit whole, toDigits_digit tenth]
      rfl
    · simp [nul_not_mem_toDigits, notNul, show nul ≠ '.' by decide]
    · rw [toDigits_digit whole, toDigits_digit tenth]
      exact Or.inl ⟨_, _, u, whole, tenth, letter, rfl⟩
    · rw [sizeDenoted_tenths letter, position, tenths_cast]
      rfl
  · have value : printedTenths q = 10 * ((q + 512) / 1024) := if_neg tenths
    have fits : (Nat.toDigits 10 (printedTenths q / 10)).length ≤ 3 := toDigits_length_le (by omega)
    refine ⟨rightJustify 3 (Nat.toDigits 10 (printedTenths q / 10)) ++ [u], ?_, ?_, ?_, ?_, ?_⟩
    · rw [formatSizeTail_units o (by omega), read, Except.map_ok]
      simp
    · rw [List.length_append, rightJustify_length fits]
      rfl
    · simp [rightJustify, nul_not_mem_toDigits, notNul, show nul ≠ ' ' by decide]
    · exact Or.inr ⟨_, u, by omega, letter, rfl⟩
    · rw [sizeDenoted_units letter, position, printedQuantity, ← tenths_cast,
        show printedTenths q % 10 = 0 by omega]
      simp

/-! ### The loop -/

/-- Entered with a size of at least 973, the loop divides by 1024, one unit further each
pass, until the size drops below 973, and prints in that pass. -/
theorem formatSizeLoop_eq {passes o q : Nat} (big : 973 ≤ q) (room : q < 973 * 1024 ^ passes) :
    ∃ i, i < passes ∧ 973 ≤ q / 1024 ^ i ∧ q / 1024 ^ i < 973 * 1024 ∧
      formatSizeLoop passes o q = some (formatSizeTail (o + i) (q / 1024 ^ i / 1024) (q / 1024 ^ i % 1024)) := by
  induction passes generalizing o q with
  | zero => omega
  | succ passes ih =>
    rw [formatSizeLoop]
    by_cases further : q / 1024 ≥ 973
    · have room' : q / 1024 < 973 * 1024 ^ passes := by
        rwa [Nat.div_lt_iff_lt_mul (by decide), Nat.mul_assoc, ← pow_succ]
      obtain ⟨i, bound, reaches, stops, run⟩ := ih (o := o + 1) further room'
      have shift : q / 1024 ^ (i + 1) = q / 1024 / 1024 ^ i := by
        rw [pow_succ', Nat.div_div_eq_div_mul]
      refine ⟨i + 1, by omega, shift ▸ reaches, shift ▸ stops, ?_⟩
      rw [if_pos further, run, shift, Nat.add_right_comm, Nat.add_assoc]
    · refine ⟨0, by omega, by simpa using big, by simp; omega, ?_⟩
      rw [if_neg further]
      simp

/-- The pass the loop prints in only grows with the size. -/
theorem level_le {a b i j : Nat} (le : a ≤ b) (reaches : 973 ≤ a / 1024 ^ i) (stops : b / 1024 ^ j < 973 * 1024) :
    i ≤ j := by
  by_contra later
  have climbed : a / 1024 ^ i ≤ b / 1024 ^ j / 1024 :=
    calc a / 1024 ^ i ≤ a / 1024 ^ (j + 1) := Nat.div_le_div_left (Nat.pow_le_pow_right (by decide) (by omega)) (by positivity)
      _ ≤ b / 1024 ^ (j + 1) := Nat.div_le_div_right le
      _ = b / 1024 ^ j / 1024 := by rw [pow_succ, Nat.div_div_eq_div_mul]
  omega

/-- A 64-bit size of at least 973 is printed within six passes, with a unit of KMGTPE,
and every further pass allowed changes nothing. -/
theorem formatSizeLoop_print {size : Nat} (big : 973 ≤ size) (bits : size < 2 ^ 64) :
    ∃ i, i < 6 ∧ 973 ≤ size / 1024 ^ i ∧ size / 1024 ^ i < 973 * 1024 ∧ ∀ passes, 6 ≤ passes →
      formatSizeLoop passes 0 size = some (formatSizeTail i (size / 1024 ^ i / 1024) (size / 1024 ^ i % 1024)) := by
  have room : ∀ passes, 6 ≤ passes → size < 973 * 1024 ^ passes := fun passes enough =>
    calc size < 973 * 1024 ^ 6 := by omega
      _ ≤ 973 * 1024 ^ passes := Nat.mul_le_mul_left _ (Nat.pow_le_pow_right (by decide) enough)
  obtain ⟨i, unit, reaches, stops, -⟩ := formatSizeLoop_eq (o := 0) big (room 6 le_rfl)
  refine ⟨i, unit, reaches, stops, fun passes enough => ?_⟩
  obtain ⟨j, -, reaches', stops', run⟩ := formatSizeLoop_eq (o := 0) big (room passes enough)
  obtain rfl : i = j := le_antisymm (level_le le_rfl reaches stops') (level_le le_rfl reaches' stops)
  rw [run, Nat.zero_add]

/-! ### What sigar_format_size prints -/

/-- For every size other than SIGAR_FIELD_NOTIMPL, what sigar_format_size writes with
six passes or more: four characters and a NUL, "%3d " below 973 and otherwise a unit
form, reading back as the size itself or as the printed quantity of its printing pass. -/
theorem formatSizeText_spec (size : BitVec 64) (set : size ≠ sigarFieldNotimpl) :
    ∃ text, (∀ passes, 6 ≤ passes → formatSizeText passes size = some (.ok (text ++ [nul]))) ∧
      text.length = 4 ∧ nul ∉ text ∧
      (size.toNat < 973 ∧ text = rightJustify 3 (Nat.toDigits 10 size.toNat) ++ [' '] ∧
          sizeDenoted text = some (size.toNat : ℚ) ∨
        973 ≤ size.toNat ∧ UnitForm text ∧ ∃ i, 973 ≤ size.toNat / 1024 ^ i ∧ size.toNat / 1024 ^ i < 973 * 1024 ∧
          sizeDenoted text = some (printedQuantity i (size.toNat / 1024 ^ i))) := by
  by_cases small : size.toNat < 973
  · have fits : (Nat.toDigits 10 size.toNat).length ≤ 3 := toDigits_length_le (by omega)
    refine ⟨rightJustify 3 (Nat.toDigits 10 size.toNat) ++ [' '], fun passes _ => ?_, ?_, ?_,
      Or.inl ⟨small, rfl, sizeDenoted_bytes 3 _⟩⟩
    · rw [formatSizeText, if_neg set, if_pos small, intDecimal_natCast]
      simp
    · rw [List.length_append, rightJustify_length fits]
      rfl
    · simp [rightJustify, nul_not_mem_toDigits, show nul ≠ ' ' by decide]
  · obtain ⟨i, unit, reaches, stops, run⟩ := formatSizeLoop_print (by omega) size.isLt
    obtain ⟨text, printed, length, nulFree, form, denoted⟩ := formatSizeTail_print unit reaches stops
    refine ⟨text, fun passes enough => ?_, length, nulFree, Or.inr ⟨by omega, form, i, reaches, stops, denoted⟩⟩
    rw [formatSizeText, if_neg set, if_neg small, run passes enough, printed]

/-- For every size other than SIGAR_FIELD_NOTIMPL, sigar_format_size's loop ends within
six passes without reading past the unit letters, and what it writes is four characters
and a NUL: "%3d " below 973, otherwise "D.DU" or a width-3 integer and U, with U in
KMGTPE. -/
theorem formatSizeText_shape (size : BitVec 64) (set : size ≠ sigarFieldNotimpl) :
    ∃ text, (∀ passes, 6 ≤ passes → formatSizeText passes size = some (.ok (text ++ [nul]))) ∧
      text.length = 4 ∧ nul ∉ text ∧
      (size.toNat < 973 → text = rightJustify 3 (Nat.toDigits 10 size.toNat) ++ [' ']) ∧
      (973 ≤ size.toNat → UnitForm text) := by
  obtain ⟨text, run, length, nulFree, form⟩ := formatSizeText_spec size set
  refine ⟨text, run, length, nulFree, fun small => ?_, fun big => ?_⟩
  · rcases form with ⟨-, bytes, -⟩ | ⟨big, -⟩
    · exact bytes
    · omega
  · rcases form with ⟨small, -⟩ | ⟨-, unitForm, -⟩
    · omega
    · exact unitForm

theorem formatSizeText_shape_thousand :
    ∃ text, (∀ passes, 6 ≤ passes → formatSizeText passes 1000#64 = some (.ok (text ++ [nul]))) ∧
      text.length = 4 ∧ nul ∉ text ∧
      ((1000#64 : BitVec 64).toNat < 973 → text = rightJustify 3 (Nat.toDigits 10 (1000#64 : BitVec 64).toNat) ++ [' ']) ∧
      (973 ≤ (1000#64 : BitVec 64).toNat → UnitForm text) :=
  formatSizeText_shape 1000#64 (by decide)

/-- With a buffer of five bytes or more, sigar_format_size never writes past it, for every
size, SIGAR_FIELD_NOTIMPL included, and leaves a string of at most four characters. -/
theorem sigarFormatSize_fits (size : BitVec 64) (buf : List Char) (room : 5 ≤ buf.length) :
    ∃ buf', (∀ passes, 6 ≤ passes → sigarFormatSize passes size buf = some (.ok buf')) ∧
      buf'.length = buf.length ∧ (cString buf').length ≤ 4 := by
  by_cases set : size = sigarFieldNotimpl
  · have written := @writeAt_inside buf 0 ['-', nul] (by simp; omega)
    refine ⟨_, fun passes _ => ?_, writeAt_length written, ?_⟩
    · rw [sigarFormatSize, formatSizeText, if_pos set]
      exact congrArg some written
    · rw [cString_writeAt_zero (show nul ∉ ['-'] by decide) written]
      decide
  · obtain ⟨text, run, length, nulFree, -⟩ := formatSizeText_spec size set
    have written := @writeAt_inside buf 0 (text ++ [nul]) (by simp; omega)
    refine ⟨_, fun passes enough => ?_, writeAt_length written, ?_⟩
    · rw [sigarFormatSize, run passes enough]
      exact congrArg some written
    · rw [cString_writeAt_zero nulFree written, length]

theorem sigarFormatSize_fits_five :
    5 ≤ (List.replicate 5 'x').length ∧
      ∃ buf', (∀ passes, 6 ≤ passes → sigarFormatSize passes 0#64 (List.replicate 5 'x') = some (.ok buf')) ∧
        buf'.length = (List.replicate 5 'x').length ∧ (cString buf').length ≤ 4 :=
  ⟨by decide, sigarFormatSize_fits 0#64 (List.replicate 5 'x') (by decide)⟩

/-! ### The quantity printed -/

theorem formatSizeQuantity_spec (size : BitVec 64) (set : size ≠ sigarFieldNotimpl) :
    size.toNat < 973 ∧ formatSizeQuantity 6 size = some (size.toNat : ℚ) ∨
      ∃ i, 973 ≤ size.toNat / 1024 ^ i ∧ size.toNat / 1024 ^ i < 973 * 1024 ∧
        formatSizeQuantity 6 size = some (printedQuantity i (size.toNat / 1024 ^ i)) := by
  obtain ⟨text, run, -, nulFree, form⟩ := formatSizeText_spec size set
  have read : formatSizeQuantity 6 size = sizeDenoted text := by
    rw [formatSizeQuantity, run 6 le_rfl]
    dsimp only
    rw [cString_append_of_not_mem nulFree, cString_nul_cons, List.append_nil]
  rw [read]
  rcases form with ⟨small, -, denoted⟩ | ⟨-, -, i, reaches, stops, denoted⟩
  · exact Or.inl ⟨small, denoted⟩
  · exact Or.inr ⟨i, reaches, stops, denoted⟩

theorem printedQuantity_mono (i : Nat) {q q' : Nat} (le : q ≤ q') : printedQuantity i q ≤ printedQuantity i q' :=
  mul_le_mul_of_nonneg_right (div_le_div_of_nonneg_right (by exact_mod_cast printedTenths_mono le) (by norm_num))
    (by positivity)

/-- A printing pass with unit 1024^(i+1) prints from 1.0 to 973 of that unit. -/
theorem printedQuantity_bounds (i : Nat) {q : Nat} (big : 973 ≤ q) (small : q < 973 * 1024) :
    1024 ^ (i + 1) ≤ printedQuantity i q ∧ printedQuantity i q ≤ 973 * 1024 ^ (i + 1) := by
  obtain ⟨lower, upper⟩ := printedTenths_bounds big small
  have unit : (0 : ℚ) ≤ 1024 ^ (i + 1) := by positivity
  have lower' : (1 : ℚ) ≤ printedTenths q / 10 := by
    rw [le_div_iff₀ (by norm_num), one_mul]
    exact_mod_cast lower
  have upper' : (printedTenths q : ℚ) / 10 ≤ 973 := by
    rw [div_le_iff₀ (by norm_num)]
    exact_mod_cast upper
  exact ⟨le_mul_of_one_le_left unit lower', mul_le_mul_of_nonneg_right upper' unit⟩

/-- Everything printed with a larger unit is at least everything printed with a smaller one. -/
theorem printedQuantity_lt_level {i j q q' : Nat} (lower : i < j) (small : q < 973 * 1024) (big : 973 ≤ q)
    (big' : 973 ≤ q') (small' : q' < 973 * 1024) : printedQuantity i q ≤ printedQuantity j q' :=
  calc printedQuantity i q ≤ 973 * 1024 ^ (i + 1) := (printedQuantity_bounds i big small).2
    _ ≤ 1024 ^ (i + 1) * 1024 := by rw [mul_comm]; exact mul_le_mul_of_nonneg_left (by norm_num) (by positivity)
    _ = 1024 ^ (i + 1 + 1) := (pow_succ _ _).symm
    _ ≤ 1024 ^ (j + 1) := pow_le_pow_right₀ (by norm_num) (by omega)
    _ ≤ printedQuantity j q' := (printedQuantity_bounds j big' small').1

/-- sigar_format_size is monotone: for sizes a ≤ b, neither SIGAR_FIELD_NOTIMPL, the
quantity the output for a denotes is at most the one the output for b denotes. -/
theorem formatSizeQuantity_monotone (a b : BitVec 64) (aSet : a ≠ sigarFieldNotimpl) (bSet : b ≠ sigarFieldNotimpl)
    (le : a ≤ b) : ∃ va vb, formatSizeQuantity 6 a = some va ∧ formatSizeQuantity 6 b = some vb ∧ va ≤ vb := by
  have le' : a.toNat ≤ b.toNat := le
  rcases formatSizeQuantity_spec a aSet with ⟨aSmall, aRead⟩ | ⟨i, aReaches, aStops, aRead⟩ <;>
    rcases formatSizeQuantity_spec b bSet with ⟨bSmall, bRead⟩ | ⟨j, bReaches, bStops, bRead⟩ <;>
    refine ⟨_, _, aRead, bRead, ?_⟩
  · exact_mod_cast le'
  · have kilo : (1024 : ℚ) ≤ 1024 ^ (j + 1) := le_self_pow₀ (by norm_num) (by omega)
    have bytes : (a.toNat : ℚ) < 973 := by exact_mod_cast aSmall
    linarith [(printedQuantity_bounds j bReaches bStops).1]
  · have := Nat.div_le_self a.toNat (1024 ^ i)
    omega
  · rcases (level_le le' aReaches bStops).lt_or_eq with lower | rfl
    · exact printedQuantity_lt_level lower aStops aReaches bReaches bStops
    · exact printedQuantity_mono i (Nat.div_le_div_right le')

theorem formatSizeQuantity_monotone_kilobytes :
    ∃ va vb, formatSizeQuantity 6 1000#64 = some va ∧ formatSizeQuantity 6 2000#64 = some vb ∧ va ≤ vb :=
  formatSizeQuantity_monotone 1000#64 2000#64 (by decide) (by decide) (by decide)

/-- Ten times q and 1024 times the printed tenths are within 512 of each other below 9.95
units, and within 5120 from there: close enough for one part in 18. -/
theorem printedTenths_close {q : Nat} (big : 973 ≤ q) :
    18 * (1024 * printedTenths q) + 170 ≤ 190 * q ∧ 170 * q + 170 ≤ 18 * (1024 * printedTenths q) := by
  unfold printedTenths
  split_ifs <;> omega

/-- A quantity printed as P tenths of 1024·B, for a size of Q·B + L with L < B, is
within one part in 18 of the size when 1024·P and 10·Q are as close as
`printedTenths_close` has them. -/
theorem scaled_close {P Q L B : ℚ} (scale : 0 ≤ B) (lowNonneg : 0 ≤ L) (low : L < B)
    (over : 18 * (1024 * P) + 170 ≤ 190 * Q) (under : 170 * Q + 170 ≤ 18 * (1024 * P)) :
    18 * |P / 10 * (B * 1024) - (Q * B + L)| ≤ Q * B + L := by
  have over' := mul_le_mul_of_nonneg_right over scale
  have under' := mul_le_mul_of_nonneg_right under scale
  rcases abs_cases (P / 10 * (B * 1024) - (Q * B + L)) with ⟨value, -⟩ | ⟨value, -⟩ <;> rw [value] <;>
    linarith only [over', under', low, lowNonneg]

/-- The printed quantity is within one part in 18 of the size, the bytes below the
printing pass's 1024ths (fewer than 1024^i) included. -/
theorem printedQuantity_close {size i : Nat} (reaches : 973 ≤ size / 1024 ^ i) :
    18 * |printedQuantity i (size / 1024 ^ i) - size| ≤ size := by
  obtain ⟨over, under⟩ := printedTenths_close reaches
  have whole : (size : ℚ) = (size / 1024 ^ i : Nat) * 1024 ^ i + (size % 1024 ^ i : Nat) := by
    exact_mod_cast (Nat.div_add_mod' size (1024 ^ i)).symm
  rw [printedQuantity, pow_succ, whole]
  exact scaled_close (by positivity) (Nat.cast_nonneg _) (by exact_mod_cast Nat.mod_lt _ (by positivity))
    (by exact_mod_cast over) (by exact_mod_cast under)

/-- The quantity sigar_format_size's output denotes is within one part in 18 of the size,
for every size other than SIGAR_FIELD_NOTIMPL, and is the size itself below 973. -/
theorem formatSizeQuantity_close (size : BitVec 64) (set : size ≠ sigarFieldNotimpl) :
    ∃ v, formatSizeQuantity 6 size = some v ∧ 18 * |v - size.toNat| ≤ size.toNat ∧
      (size.toNat < 973 → v = size.toNat) := by
  rcases formatSizeQuantity_spec size set with ⟨-, read⟩ | ⟨i, reaches, -, read⟩
  · exact ⟨_, read, by simp, fun _ => rfl⟩
  · exact ⟨_, read, printedQuantity_close reaches, fun small => absurd (Nat.div_le_self size.toNat (1024 ^ i)) (by omega)⟩

theorem formatSizeQuantity_close_threshold :
    ∃ v, formatSizeQuantity 6 973#64 = some v ∧ 18 * |v - (973#64 : BitVec 64).toNat| ≤ (973#64 : BitVec 64).toNat ∧
      ((973#64 : BitVec 64).toNat < 973 → v = (973#64 : BitVec 64).toNat) :=
  formatSizeQuantity_close 973#64 (by decide)

end Sigar
