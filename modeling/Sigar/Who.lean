import Sigar.ResultList

namespace Sigar

/-- The build's side of sigar_who_list_get: the layout of struct utmp (its size,
and the offset and size of ut_user, ut_line and ut_host), how ut_type and ut_time
are read from a record, USER_PROCESS where <utmp.h> defines it, the sizes of the
user, device and host arrays of sigar_who_t, and SIGAR_WHO_LIST_MAX. A field lies
inside the record and every array holds at least one byte. -/
structure WhoBuild where
  utmpSize : Nat
  userField : Nat × Nat
  lineField : Nat × Nat
  hostField : Nat × Nat
  utType : List Char → Int
  utTime : List Char → Int
  userProcess : Option Int
  whoUser : Nat
  whoDevice : Nat
  whoHost : Nat
  whoListMax : Nat
  user_inside : userField.1 + userField.2 ≤ utmpSize
  line_inside : lineField.1 + lineField.2 ≤ utmpSize
  host_inside : hostField.1 + hostField.2 ≤ utmpSize
  user_pos : 0 < userField.2
  whoUser_pos : 0 < whoUser
  whoDevice_pos : 0 < whoDevice
  whoHost_pos : 0 < whoHost
  whoListMax_pos : 0 < whoListMax

/-- An entry of the who list: the user, device and host arrays as the bytes they
hold, and the time. -/
structure Who where
  user : List Char
  device : List Char
  host : List Char
  time : BitVec 64
  deriving DecidableEq

/-- WHOCPY(dest, src): SIGAR_SSTRCPY from the field onwards, then
dest[sizeof(src)] = '\0' when the field is the smaller array. -/
def whocpy (destSize : Nat) (field : Nat × Nat) (ut : List Char) : Except Fault (List Char) :=
  (sigarStrncpy destSize (ut.drop field.1)).map fun dest =>
    if field.2 < destSize then dest.set field.2 nul else dest

/-- The three WHOCPYs and the time stored by the loop body. -/
def whoOf (wb : WhoBuild) (ut : List Char) : Except Fault Who := do
  let user ← whocpy wb.whoUser wb.userField ut
  let device ← whocpy wb.whoDevice wb.lineField ut
  let host ← whocpy wb.whoHost wb.hostField ut
  return ⟨user, device, host, BitVec.ofInt 64 (wb.utTime ut)⟩

/-- The two `continue`s of the loop body: an empty ut_name, and, where
USER_PROCESS is defined, a record of another type. -/
def whoKeeps (wb : WhoBuild) (ut : List Char) : Bool :=
  ut.getD wb.userField.1 nul != nul && wb.userProcess.all (wb.utType ut == ·)

/-- fread(&ut, sizeof(ut), 1, fp) == 1: a whole record and the bytes after it, or
nothing when fewer than sizeof(ut) bytes remain. -/
def freadUtmp (size : Nat) (stream : List Char) : Option (List Char × List Char) :=
  if size ≤ stream.length then some (stream.take size, stream.drop size) else none

/-- The records the `while` loop reads, in at most `fuel` calls of fread. -/
def utmpRecords (size : Nat) : Nat → List Char → List (List Char)
  | 0, _ => []
  | fuel + 1, stream =>
    match freadUtmp size stream with
    | some (ut, rest) => ut :: utmpRecords size fuel rest
    | none => []

/-- The loop body over the records read; the allocator's answer is asked with the
number of entries stored so far. -/
def whoAppend (wb : WhoBuild) (grants : Nat → Bool) :
    List (List Char) → ResultList Who → Except Fault (ResultList Who)
  | [], l => .ok l
  | ut :: uts, l =>
    if whoKeeps wb ut then do
      let who ← whoOf wb ut
      whoAppend wb grants uts (← ListKind.who.append wb.whoListMax (grants l.number) l who)
    else whoAppend wb grants uts l

/-- What the host answers during one call: fopen's errno or the bytes of the utmp
file, and the allocator's answers. -/
structure WhoHost where
  utmp : Except Nat (List Char)
  grants : Nat → Bool

/-- sigar_who_list_get: the status, the list and the process. The file is read to
its end, one fread per record, so its length bounds the number of reads. -/
def whoListGet (wb : WhoBuild) (host : WhoHost) (wholist : ResultList Who) (p : Proc) :
    Except Fault (Nat × ResultList Who × Proc) :=
  match host.utmp with
  | .error e => .ok (e, wholist, p)
  | .ok file => do
    let l ← whoAppend wb host.grants (utmpRecords wb.utmpSize file.length file)
      (ListKind.who.create wb.whoListMax (host.grants 0)).1
    return (sigarOk, l, p.openFd.2.close p.openFd.1)

/-! What the entries should be. -/

/-- The complete records of a file of `size`-byte records; a trailing partial
record is left out. -/
def completeRecords (size : Nat) (file : List Char) : List (List Char) :=
  (List.range (file.length / size)).map fun i => (file.drop (i * size)).take size

/-- A record's field cut at its first NUL and truncated to fit a destination of
`destSize` bytes with its NUL. -/
def fieldText (field : Nat × Nat) (destSize : Nat) (ut : List Char) : List Char :=
  (cString ((ut.drop field.1).take field.2)).take (destSize - 1)

/-- An array of `size` bytes holding `text` as a C string that ends inside it. -/
def Holds (size : Nat) (text buf : List Char) : Prop :=
  buf.length = size ∧ cString buf = text ∧ text.length < size

/-- The entry made from record `ut`. -/
def WhoMatches (wb : WhoBuild) (ut : List Char) (who : Who) : Prop :=
  Holds wb.whoUser (fieldText wb.userField wb.whoUser ut) who.user ∧
    Holds wb.whoDevice (fieldText wb.lineField wb.whoDevice ut) who.device ∧
    Holds wb.whoHost (fieldText wb.hostField wb.whoHost ut) who.host ∧
    who.time = BitVec.ofInt 64 (wb.utTime ut)

/-- Every WHOCPY reads inside struct utmp: from each field, as many bytes as its
destination holds. -/
def WhoBuild.CopiesInside (wb : WhoBuild) : Prop :=
  wb.userField.1 + wb.whoUser ≤ wb.utmpSize ∧ wb.lineField.1 + wb.whoDevice ≤ wb.utmpSize ∧
    wb.hostField.1 + wb.whoHost ≤ wb.utmpSize

instance (wb : WhoBuild) : Decidable wb.CopiesInside := inferInstanceAs (Decidable (_ ∧ _ ∧ _))

/-- A WHOCPY that reads inside the record fills its destination with the field's
text, cut at the first NUL and truncated to fit. -/
theorem whocpy_inside {destSize : Nat} {field : Nat × Nat} {ut : List Char} (positive : 0 < destSize)
    (inside : field.1 + destSize ≤ ut.length) :
    ∃ dest, whocpy destSize field ut = .ok dest ∧ Holds destSize (fieldText field destSize ut) dest := by
  obtain ⟨dest, copied, length, text⟩ :=
    sigarStrncpy_inside positive (.inl (show destSize ≤ (ut.drop field.1).length by simp; omega))
  have cut : fieldText field destSize ut = (cString (ut.drop field.1)).take (min field.2 (destSize - 1)) := by
    rw [fieldText, cString_take, List.take_take, Nat.min_comm]
  have short : (fieldText field destSize ut).length < destSize := by
    simp only [fieldText, List.length_take]
    omega
  by_cases smaller : field.2 < destSize
  · refine ⟨dest.set field.2 nul, by simp [whocpy, copied, smaller], by simp [length], ?_, short⟩
    rw [cString_set_nul (by omega), text, List.take_take, cut]
  · refine ⟨dest, by simp [whocpy, copied, smaller], length, ?_, short⟩
    rw [text, cut]
    congr 1
    omega

theorem whoOf_inside {wb : WhoBuild} (inside : wb.CopiesInside) {ut : List Char}
    (sized : ut.length = wb.utmpSize) : ∃ who, whoOf wb ut = .ok who ∧ WhoMatches wb ut who := by
  obtain ⟨user, userCopy, userHolds⟩ := whocpy_inside wb.whoUser_pos (by rw [sized]; exact inside.1)
  obtain ⟨device, deviceCopy, deviceHolds⟩ := whocpy_inside wb.whoDevice_pos (by rw [sized]; exact inside.2.1)
  obtain ⟨host, hostCopy, hostHolds⟩ := whocpy_inside wb.whoHost_pos (by rw [sized]; exact inside.2.2)
  exact ⟨_, by simp only [whoOf, userCopy, deviceCopy, hostCopy, Except.ok_bind]; rfl,
    userHolds, deviceHolds, hostHolds, rfl⟩

/-- Reading the file to its end gives its complete records. -/
theorem utmpRecords_complete {size : Nat} (positive : 0 < size) {fuel : Nat} {file : List Char}
    (enough : file.length / size ≤ fuel) : utmpRecords size fuel file = completeRecords size file := by
  induction fuel generalizing file with
  | zero => simp [utmpRecords, completeRecords, Nat.le_zero.mp enough]
  | succ fuel ih =>
    by_cases whole : size ≤ file.length
    · have count : file.length / size = (file.drop size).length / size + 1 := by
        rw [List.length_drop, Nat.div_eq_sub_div positive whole]
      simp only [utmpRecords, freadUtmp, if_pos whole]
      rw [ih (by omega), completeRecords, completeRecords, count, List.range_succ_eq_map]
      simp [List.drop_drop, Nat.succ_mul, Nat.add_comm]
    · have none_ : file.length / size = 0 := Nat.div_eq_of_lt (by omega)
      simp [utmpRecords, freadUtmp, whole, completeRecords, none_]

theorem completeRecords_length {size : Nat} (positive : 0 < size) {file : List Char} :
    ∀ ut ∈ completeRecords size file, ut.length = size := by
  intro ut member
  obtain ⟨i, below, rfl⟩ := List.mem_map.mp member
  have fits : (i + 1) * size ≤ file.length := (Nat.le_div_iff_mul_le positive).mp (List.mem_range.mp below)
  simp only [List.length_take, List.length_drop, Nat.succ_mul] at fits ⊢
  omega

/-- The loop body, run over records of the full size with every allocation
granted, appends one matching entry per kept record, in order. -/
theorem whoAppend_chunked {wb : WhoBuild} (inside : wb.CopiesInside) (uts : List (List Char))
    (sized : ∀ ut ∈ uts, ut.length = wb.utmpSize) {whos : List Who} {l : ResultList Who}
    (inv : Chunked wb.whoListMax whos l) :
    ∃ l' more, whoAppend wb (fun _ => true) uts l = .ok l' ∧ Chunked wb.whoListMax (whos ++ more) l' ∧
      List.Forall₂ (WhoMatches wb) (uts.filter (whoKeeps wb)) more := by
  induction uts generalizing whos l with
  | nil => exact ⟨l, [], rfl, by simpa using inv, .nil⟩
  | cons ut uts ih =>
    have sizedRest : ∀ u ∈ uts, u.length = wb.utmpSize := fun u member => sized u (List.mem_cons_of_mem _ member)
    by_cases kept : whoKeeps wb ut
    · obtain ⟨who, made, matching⟩ := whoOf_inside inside (sized ut (List.mem_cons_self _ _))
      obtain ⟨next, appended, nextInv⟩ := inv.append ListKind.who wb.whoListMax_pos who
      obtain ⟨last, more, run, lastInv, rest⟩ := ih sizedRest nextInv
      refine ⟨last, who :: more, ?_, by simpa using lastInv, ?_⟩
      · simp only [whoAppend, kept, if_true, made, Except.ok_bind]
        rw [appended, Except.ok_bind, run]
      · rw [List.filter_cons_of_pos kept]
        exact .cons matching rest
    · obtain ⟨last, more, run, lastInv, rest⟩ := ih sizedRest inv
      refine ⟨last, more, by simpa [whoAppend, kept] using run, lastInv, ?_⟩
      rwa [List.filter_cons_of_neg kept]

/-- On a build whose copies read inside struct utmp, with the file open and every
allocation granted: SIGAR_OK, the count within the capacity, and one entry per
complete record with a non-empty ut_name (and of type USER_PROCESS, where it is
defined), in file order, each holding the record's fields cut at the first NUL,
truncated and terminated inside the entry, and its ut_time. The file is closed. -/
theorem whoListGet_reads_every_record (wb : WhoBuild) (inside : wb.CopiesInside) (file : List Char)
    (wholist : ResultList Who) (p : Proc) :
    ∃ whos l, whoListGet wb ⟨.ok file, fun _ => true⟩ wholist p = .ok (sigarOk, l, p) ∧
      l.number ≤ l.size ∧ l = ResultList.filled whos l.size ∧
      List.Forall₂ (WhoMatches wb) ((completeRecords wb.utmpSize file).filter (whoKeeps wb)) whos := by
  have positive : 0 < wb.utmpSize := by have := wb.user_inside; have := wb.user_pos; omega
  obtain ⟨l, whos, run, inv, entries⟩ :=
    whoAppend_chunked inside _ (completeRecords_length positive) (chunked_create (α := Who) ListKind.who)
  simp only [List.nil_append] at inv
  simp only [ListKind.create_eq] at run
  refine ⟨whos, l, ?_, inv.number_eq ▸ inv.fits, ?_, entries⟩
  · simp [whoListGet, utmpRecords_complete positive (Nat.div_le_self _ _), run]
  · obtain ⟨number, size, data⟩ := l
    obtain ⟨number_eq, data_eq, -⟩ := inv
    simp only at number_eq data_eq
    simp [ResultList.filled, number_eq, data_eq]

/-- A little-endian signed integer of `width` bytes at `off` in a record. -/
def leInt (off width : Nat) (ut : List Char) : Int :=
  let v : Nat := ((ut.drop off).take width).foldr (fun c acc => c.toNat + 256 * acc) 0
  if v < 2 ^ (8 * width - 1) then v else (v : Int) - 2 ^ (8 * width)

/-- The glibc struct utmp: the short ut_type at 0, ut_line[32] at 8, ut_user[32] at
44, ut_host[256] at 76 and the 32-bit ut_tv.tv_sec at 340, 384 bytes in all, with
USER_PROCESS = 7; the arrays of sigar_who_t hold 32, 32 and 256 bytes, and the list
grows by 12 entries. -/
def glibcWhoBuild : WhoBuild :=
  ⟨384, (44, 32), (8, 32), (76, 256), leInt 0 2, leInt 340 4, some 7, 32, 32, 256, 12,
    by decide, by decide, by decide, by decide, by decide, by decide, by decide, by decide⟩

/-- A USER_PROCESS record of that layout: alice on pts/0 from "host", at time
0x4A3B2C1D. -/
def glibcLogin : List Char :=
  [Char.ofNat 7] ++ List.replicate 7 nul ++ "pts/0".toList ++ List.replicate 31 nul ++
    "alice".toList ++ List.replicate 27 nul ++ "host".toList ++ List.replicate 260 nul ++
    [Char.ofNat 0x1D, Char.ofNat 0x2C, Char.ofNat 0x3B, Char.ofNat 0x4A] ++ List.replicate 40 nul

theorem whoListGet_reads_every_record_glibc :
    glibcWhoBuild.CopiesInside ∧
      ∃ whos l, whoListGet glibcWhoBuild ⟨.ok glibcLogin, fun _ => true⟩ ⟨0, 0, .null⟩ ⟨fun _ => none, 0, []⟩ =
          .ok (sigarOk, l, ⟨fun _ => none, 0, []⟩) ∧
        l.number ≤ l.size ∧ l = ResultList.filled whos l.size ∧
        List.Forall₂ (WhoMatches glibcWhoBuild)
          ((completeRecords glibcWhoBuild.utmpSize glibcLogin).filter (whoKeeps glibcWhoBuild)) whos :=
  ⟨by decide, whoListGet_reads_every_record glibcWhoBuild (by decide) glibcLogin _ _⟩

/-- The BSD struct utmp: ut_line[8], ut_name[16], ut_host[16] and the 32-bit
ut_time, 44 bytes in all, with no ut_type and no USER_PROCESS; the arrays of
sigar_who_t are those of the glibc build. -/
def bsdWhoBuild : WhoBuild :=
  ⟨44, (8, 16), (0, 8), (24, 16), fun _ => 0, leInt 40 4, none, 32, 32, 256, 12,
    by decide, by decide, by decide, by decide, by decide, by decide, by decide, by decide⟩

/-- A login by alice on ttyv0 from a host whose name fills ut_host, at time
0x4A3B2C1D. -/
def bsdLogin : List Char :=
  "ttyv0".toList ++ List.replicate 3 nul ++ "alice".toList ++ List.replicate 11 nul ++
    "host.example.org".toList ++ [Char.ofNat 0x1D, Char.ofNat 0x2C, Char.ofNat 0x3B, Char.ofNat 0x4A]

/-- On the BSD layout the host copy reads 256 bytes from ut_host, which starts 20
bytes before the end of the record: a utmp file holding that one login makes
strncpy run past struct utmp. -/
theorem whoListGet_bsd_full_host :
    ¬ bsdWhoBuild.CopiesInside ∧ bsdLogin.length = bsdWhoBuild.utmpSize ∧
      whoListGet bsdWhoBuild ⟨.ok bsdLogin, fun _ => true⟩ ⟨0, 0, .null⟩ ⟨fun _ => none, 0, []⟩ =
        .error .outOfBounds :=
  ⟨by decide, rfl, rfl⟩

end Sigar
