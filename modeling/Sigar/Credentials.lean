import Sigar.Libc

namespace Sigar

/-- The fields of struct passwd the code reads. -/
structure Passwd where
  pwName : CStr
  pwUid : BitVec 32

/-- The field of struct group the code reads; gr_name may be NULL. -/
structure Group where
  grName : Option CStr

/-- `strncpy(buf, src, buflen)` into the caller's buffer of buflen bytes. -/
def strncpyInto (buf : List Char) (src : CStr) : Except Fault (List Char) := do
  writeAt buf 0 (← strncpy buf.length (src.chars ++ [nul]))

/-- `buf[buflen-1] = '\0'`; for an empty buffer that is buf[-1]. -/
def terminate (buf : List Char) : Except Fault (List Char) := writeAt buf (buf.length - 1) [nul]

/-- sigar_user_name_get with getpwuid_r: `lookup` is its return value and `*result`
for the uid, and `errno` what errno holds after the call. -/
def userNameGet (lookup : Except Nat (Option Passwd)) (errno : Nat) (buf : List Char) :
    Except Fault (Nat × List Char) :=
  match lookup with
  | .error _ => .ok (errno, buf)
  | .ok none => .error .nullDeref
  | .ok (some pw) => do
    let buf ← strncpyInto buf pw.pwName
    let buf ← terminate buf
    return (sigarOk, buf)

/-- `if (gr && gr->gr_name) strncpy(buf, gr->gr_name, buflen); else sprintf(buf, "%d", gid);` -/
def groupNameInto (gr : Option Group) (gid : BitVec 32) (buf : List Char) : Except Fault (List Char) :=
  match gr.bind Group.grName with
  | some name => strncpyInto buf name
  | none => writeAt buf 0 (intDecimal gid.toInt ++ [nul])

/-- sigar_group_name_get with getgrgid_r: the group's name, or the gid in decimal
when there is no group or it has no name. -/
def groupNameGet (lookup : Except Nat (Option Group)) (errno : Nat) (gid : BitVec 32) (buf : List Char) :
    Except Fault (Nat × List Char) :=
  match lookup with
  | .error _ => .ok (errno, buf)
  | .ok gr => do
    let buf ← groupNameInto gr gid buf
    let buf ← terminate buf
    return (sigarOk, buf)

/-- sigar_user_id_get with getpwnam_r: the status, and what it stores in *uid. -/
def userIdGet (lookup : Except Nat (Option Passwd)) (errno : Nat) : Except Fault (Nat × Option Int) :=
  match lookup with
  | .error _ => .ok (errno, none)
  | .ok none => .error .nullDeref
  | .ok (some pw) => .ok (sigarOk, some pw.pwUid.toInt)

/-- What the host answers during sigar_proc_cred_name_get: sigar_proc_cred_get's
status and the process's uid and gid, the passwd and group databases as the
reentrant lookups answer them, and errno after each lookup. -/
structure CredHost where
  procCredStatus : Nat
  uid : BitVec 32
  gid : BitVec 32
  passwdByUid : BitVec 32 → Except Nat (Option Passwd)
  groupByGid : BitVec 32 → Except Nat (Option Group)
  userErrno : Nat
  groupErrno : Nat

/-- The user and group arrays of sigar_proc_cred_name_t. -/
structure ProcCredName where
  user : List Char
  group : List Char

/-- sigar_proc_cred_name_get: the status and the record. -/
def procCredNameGet (host : CredHost) (name : ProcCredName) : Except Fault (Nat × ProcCredName) :=
  if host.procCredStatus ≠ sigarOk then .ok (host.procCredStatus, name)
  else do
    let (status, user) ← userNameGet (host.passwdByUid host.uid) host.userErrno name.user
    if status ≠ sigarOk then return (status, { name with user := user })
    else
      let (status, group) ← groupNameGet (host.groupByGid host.gid) host.groupErrno host.gid name.group
      return (status, ⟨user, group⟩)

section Copies

variable {buf : List Char}

theorem strncpyInto_ok (src : CStr) :
    ∃ buf', strncpyInto buf src = .ok buf' ∧ buf'.length = buf.length ∧ cString buf' = src.chars.take buf.length := by
  have source : cString (src.chars ++ [nul]) = src.chars := by
    rw [cString_append_of_not_mem src.noNul, cString_nul_cons, List.append_nil]
  have copied : strncpy buf.length (src.chars ++ [nul]) = .ok _ :=
    strncpy_inside (.inr (List.mem_append_right _ (List.mem_singleton_self nul)))
  rw [source] at copied
  have length : (src.chars.take buf.length ++ List.replicate (buf.length - src.chars.length) nul).length =
      buf.length := by
    simp only [List.length_append, List.length_take, List.length_replicate]
    omega
  refine ⟨_, by rw [strncpyInto, copied, Except.ok_bind, writeAt_inside (by omega)]; simp [length], length, ?_⟩
  rw [cString_append_of_not_mem (fun member => src.noNul (List.mem_of_mem_take member)), cString_replicate,
    List.append_nil]

theorem terminate_ok (positive : 0 < buf.length) :
    ∃ buf', terminate buf = .ok buf' ∧ buf'.length = buf.length ∧
      cString buf' = (cString buf).take (buf.length - 1) ∧ nul ∈ buf' := by
  have last : buf.length - 1 < buf.length := by omega
  have set : buf.take (buf.length - 1) ++ [nul] ++ buf.drop (buf.length - 1 + [nul].length) = buf.set (buf.length - 1) nul := by
    rw [List.set_eq_take_append_cons_drop, if_pos last]
    simp
  refine ⟨_, by rw [terminate, writeAt_inside (by simp; omega), set], by simp, cString_set_nul last, ?_⟩
  exact List.mem_iff_get.mpr ⟨⟨buf.length - 1, by simpa using last⟩, by simp⟩

/-- A text copied over the buffer, then `buf[buflen-1] = '\0'`: the text cut to
buflen - 1 characters, NUL-terminated. -/
theorem terminate_copy {copy text : List Char} (positive : 0 < buf.length) (length : copy.length = buf.length)
    (copied : cString copy = text.take buf.length) :
    ∃ ended, terminate copy = .ok ended ∧ ended.length = buf.length ∧ nul ∈ ended ∧
      cString ended = text.take (buf.length - 1) := by
  obtain ⟨ended, terminated, length', text', member⟩ := @terminate_ok copy (by omega)
  refine ⟨ended, terminated, by omega, member, ?_⟩
  rw [text', copied, length, List.take_take, Nat.min_eq_left (by omega)]

end Copies

/-- What sigar_user_name_get does, for every answer of getpwuid_r: it faults when
the lookup returns 0 with no entry, returns errno and leaves buf when the lookup
fails, and otherwise copies the entry's name, cut to buflen - 1 characters and
NUL-terminated. -/
theorem userNameGet_cases (lookup : Except Nat (Option Passwd)) (errno : Nat) {buf : List Char}
    (positive : 0 < buf.length) :
    (lookup = .ok none ∧ userNameGet lookup errno buf = .error .nullDeref) ∨
      (∃ e, lookup = .error e ∧ userNameGet lookup errno buf = .ok (errno, buf)) ∨
      ∃ pw buf', lookup = .ok (some pw) ∧ userNameGet lookup errno buf = .ok (sigarOk, buf') ∧
        buf'.length = buf.length ∧ nul ∈ buf' ∧ cString buf' = pw.pwName.chars.take (buf.length - 1) := by
  rcases lookup with e | _ | pw
  · exact .inr (.inl ⟨e, rfl, rfl⟩)
  · exact .inl ⟨rfl, rfl⟩
  · obtain ⟨copy, copied, length, text⟩ := @strncpyInto_ok buf pw.pwName
    obtain ⟨ended, terminated, length', member, text'⟩ := terminate_copy positive length text
    exact .inr (.inr ⟨pw, ended, rfl, by simp [userNameGet, copied, terminated], length', member, text'⟩)

/-- What sigar_group_name_get does, for every answer of getgrgid_r and a buffer
with room for an int's %d: it returns errno and leaves buf when the lookup fails,
and otherwise the group's name, or the gid in decimal, cut to buflen - 1 characters
and NUL-terminated. -/
theorem groupNameGet_cases (lookup : Except Nat (Option Group)) (errno : Nat) (gid : BitVec 32) {buf : List Char}
    (roomy : 12 ≤ buf.length) :
    (∃ e, lookup = .error e ∧ groupNameGet lookup errno gid buf = .ok (errno, buf)) ∨
      ∃ gr buf', lookup = .ok gr ∧ groupNameGet lookup errno gid buf = .ok (sigarOk, buf') ∧
        buf'.length = buf.length ∧ nul ∈ buf' ∧
        cString buf' = (((gr.bind Group.grName).map CStr.chars).getD (intDecimal gid.toInt)).take (buf.length - 1) := by
  rcases lookup with e | gr
  · exact .inl ⟨e, rfl, rfl⟩
  · refine .inr ?_
    obtain ⟨short, noNul⟩ := intDecimal_bounded gid
    obtain ⟨written, wrote, length, text⟩ : ∃ written, groupNameInto gr gid buf = .ok written ∧
        written.length = buf.length ∧
        cString written = (((gr.bind Group.grName).map CStr.chars).getD (intDecimal gid.toInt)).take buf.length := by
      unfold groupNameInto
      rcases gr.bind Group.grName with _ | name
      · refine ⟨_, writeAt_inside (by simp; omega), by simp; omega, ?_⟩
        rw [List.take_zero, List.nil_append, List.append_assoc, cString_append_of_not_mem noNul,
          List.singleton_append, cString_nul_cons, List.append_nil]
        simp only [Option.map_none', Option.getD_none]
        rw [List.take_of_length_le (by omega)]
      · exact strncpyInto_ok name
    obtain ⟨ended, terminated, length', member, text'⟩ := terminate_copy (by omega) length text
    exact ⟨gr, ended, rfl, by simp [groupNameGet, wrote, terminated], length', member, text'⟩

/-- Once sigar_user_name_get has returned SIGAR_OK, sigar_proc_cred_name_get returns
what sigar_group_name_get returns. -/
theorem procCredNameGet_after_user {host : CredHost} {name : ProcCredName} {user : List Char}
    (credOk : host.procCredStatus = sigarOk)
    (userOk : userNameGet (host.passwdByUid host.uid) host.userErrno name.user = .ok (sigarOk, user)) :
    procCredNameGet host name =
      (groupNameGet (host.groupByGid host.gid) host.groupErrno host.gid name.group).map
        fun (status, group) => (status, ⟨user, group⟩) := by
  rw [procCredNameGet, if_neg (by rw [credOk]; decide), userOk, Except.ok_bind]
  dsimp only
  rw [if_neg (by decide)]
  rcases groupNameGet (host.groupByGid host.gid) host.groupErrno host.gid name.group with _ | ⟨_, _⟩ <;> rfl

/-- When the passwd database has an entry for the process's uid whenever its lookup
returns 0, and every failing lookup leaves errno set, sigar_proc_cred_name_get never
faults, and returns SIGAR_OK only with the user's name and a group name or gid in
place, both NUL-terminated. -/
theorem procCredNameGet_filled (host : CredHost) (name : ProcCredName) (userRoom : 0 < name.user.length)
    (groupRoom : 12 ≤ name.group.length) (entry : host.passwdByUid host.uid ≠ .ok none)
    (userErrnoSet : host.userErrno ≠ sigarOk) (groupErrnoSet : host.groupErrno ≠ sigarOk) :
    ∃ status name', procCredNameGet host name = .ok (status, name') ∧
      (status = sigarOk → ∃ pw, host.passwdByUid host.uid = .ok (some pw) ∧
        cString name'.user = pw.pwName.chars.take (name.user.length - 1) ∧ nul ∈ name'.user ∧
        nul ∈ name'.group) := by
  by_cases failed : host.procCredStatus ≠ sigarOk
  · exact ⟨_, _, by rw [procCredNameGet, if_pos failed], fun ok => absurd ok failed⟩
  rcases userNameGet_cases (host.passwdByUid host.uid) host.userErrno userRoom with
    ⟨absent, -⟩ | ⟨e, -, userFailed⟩ | ⟨pw, user, found, userCopied, -, userEnded, userText⟩
  · exact absurd absent entry
  · refine ⟨host.userErrno, { name with user := name.user }, ?_, fun ok => absurd ok userErrnoSet⟩
    rw [procCredNameGet, if_neg failed, userFailed, Except.ok_bind]
    dsimp only
    rw [if_pos userErrnoSet]
    rfl
  have userOk := procCredNameGet_after_user (Decidable.of_not_not failed) userCopied
  rcases groupNameGet_cases (host.groupByGid host.gid) host.groupErrno host.gid groupRoom with
    ⟨e, -, groupFailed⟩ | ⟨gr, group, -, groupCopied, -, groupEnded, -⟩
  · exact ⟨_, _, by rw [userOk, groupFailed]; rfl, fun ok => absurd ok groupErrnoSet⟩
  · exact ⟨_, _, by rw [userOk, groupCopied]; rfl, fun _ => ⟨pw, found, userText, userEnded, groupEnded⟩⟩

/-- A process with uid and gid 1000 whose passwd lookup answers `passwd`, in the
group "staff", with errno 0 after each lookup. -/
def credHost (passwd : Except Nat (Option Passwd)) : CredHost :=
  ⟨sigarOk, 1000, 1000, fun _ => passwd, fun _ => .ok (some ⟨some ⟨"staff".toList, by decide⟩⟩), 0, 0⟩

theorem procCredNameGet_filled_alice :
    0 < (List.replicate 16 'x').length ∧ 12 ≤ (List.replicate 16 'x').length ∧
      (credHost (.ok (some ⟨⟨"alice".toList, by decide⟩, 1000⟩))).passwdByUid 1000 ≠ .ok none ∧
      ∃ status name', procCredNameGet { credHost (.ok (some ⟨⟨"alice".toList, by decide⟩, 1000⟩)) with
          userErrno := 2, groupErrno := 2 } ⟨List.replicate 16 'x', List.replicate 16 'x'⟩ = .ok (status, name') ∧
        (status = sigarOk → ∃ pw, (credHost (.ok (some ⟨⟨"alice".toList, by decide⟩, 1000⟩))).passwdByUid 1000 =
            .ok (some pw) ∧
          cString name'.user = pw.pwName.chars.take ((List.replicate 16 'x').length - 1) ∧ nul ∈ name'.user ∧
          nul ∈ name'.group) :=
  have entry : (credHost (.ok (some ⟨⟨"alice".toList, by decide⟩, 1000⟩))).passwdByUid 1000 ≠ .ok none :=
    fun same => by cases same
  ⟨by decide, by decide, entry, procCredNameGet_filled _ _ (by decide) (by decide) entry (by decide) (by decide)⟩

/-- With sizeof(user) = sizeof(group) = 512: a uid with no passwd entry makes
sigar_user_name_get, and so sigar_proc_cred_name_get, dereference the NULL result;
so does sigar_user_id_get for a name with no entry; and a getpwuid_r that fails with
ERANGE without setting errno makes the call return SIGAR_OK with the user array
untouched, holding no NUL. -/
theorem procCredNameGet_unchecked_lookups :
    procCredNameGet (credHost (.ok none)) ⟨List.replicate 512 'x', List.replicate 512 'x'⟩ = .error .nullDeref ∧
      userIdGet (.ok none) 0 = .error .nullDeref ∧
      ∃ group, procCredNameGet (credHost (.error 34)) ⟨List.replicate 512 'x', List.replicate 512 'x'⟩ =
          .ok (sigarOk, ⟨List.replicate 512 'x', group⟩) ∧ nul ∉ List.replicate 512 'x' :=
  have userOk := @procCredNameGet_after_user (credHost (.error 34))
    ⟨List.replicate 512 'x', List.replicate 512 'x'⟩ _ rfl rfl
  have roomy : 12 ≤ (List.replicate 512 'x').length := by rw [List.length_replicate]; decide
  match groupNameGet_cases (.ok (some ⟨some ⟨"staff".toList, by decide⟩⟩)) 0 1000 roomy with
  | .inl ⟨_, absurd, _⟩ => by cases absurd
  | .inr ⟨_, group, _, copied, _⟩ =>
    ⟨rfl, rfl, group, by rw [userOk]; exact congrArg _ copied, fun listed => absurd (List.eq_of_mem_replicate listed) (by decide)⟩

end Sigar
