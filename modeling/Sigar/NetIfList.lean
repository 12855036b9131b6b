import Sigar.ResultList

namespace Sigar

/-- The part of a struct ifreq that SIOCGIFCONF fills and the enumeration reads:
the interface name and the address family of ifr_addr. -/
structure Ifreq where
  name : List Char
  family : Nat
  deriving DecidableEq, Inhabited

/-- What one SIOCGIFCONF ioctl leaves behind: errno when it failed, the ifc_len it
wrote back, and the record in each slot of the buffer. -/
structure IfconfReply where
  errno : Option Nat
  ifcLen : Nat
  ifreq : Nat → Ifreq

/-- The build's side of the enumeration: sizeof(struct ifreq), SIGAR_NET_IFLIST_MAX
from sigar_private.h (not under src/), and the address-family filter the platform
compiles in (none on Linux, AF_LINK on AIX and OSF/1). -/
structure IfconfBuild where
  ifreqSize : Nat
  iflistMax : Nat
  keep : Ifreq → Bool
  ifreqSize_pos : 0 < ifreqSize
  iflistMax_pos : 0 < iflistMax

/-- What the host answers during one call: socket(2)'s errno if it fails, whether
the allocator grants the realloc before query `k`, the answer to query `k` on a
buffer of the given length, and whether the malloc of iflist->data succeeds. -/
structure IfListHost where
  socket : Option Nat
  grants : Nat → Bool
  ifconf : Nat → Nat → IfconfReply
  dataGranted : Bool

/-- How a platform signals that the interface table does not fit the buffer:
success with as many records as fit, or EINVAL with ifc_len left as it was. -/
inductive Overflow
  | truncate
  | einval
  deriving DecidableEq

/-- The answer, under the overflow convention `o`, of a kernel whose interface
table is `table` to SIOCGIFCONF on a buffer of `len` bytes, with records of `R`
bytes. -/
def kernelIfconf (R : Nat) (o : Overflow) (table : List Ifreq) (len : Nat) : IfconfReply :=
  match o with
  | .truncate => ⟨none, R * min table.length (len / R), fun j => table.getD j default⟩
  | .einval =>
    if len < R * table.length then ⟨some einval, len, fun j => table.getD j default⟩
    else ⟨none, R * table.length, fun j => table.getD j default⟩

/-- A host where socket(2) and every allocation succeed, and query `k` is answered
by a kernel whose interface table is `tables k`. -/
def kernelHost (R : Nat) (o : Overflow) (tables : Nat → List Ifreq) : IfListHost :=
  ⟨none, fun _ => true, fun k => kernelIfconf R o (tables k), true⟩

/-- The fields of sigar_t that the enumeration keeps between calls. -/
structure Session where
  ifconfBuf : Option Nat
  ifconfLen : Nat
  deriving DecidableEq

/-- The session holds a live block of exactly ifconf_len bytes, a multiple of
sizeof(struct ifreq). -/
def LiveBuffer (b : IfconfBuild) (s : Session) (p : Proc) : Prop :=
  ∃ a, s.ifconfBuf = some a ∧ p.blocks a = some s.ifconfLen ∧ b.ifreqSize ∣ s.ifconfLen

/-- A well-formed session: no buffer and no length, or a live buffer of a positive
length that is a multiple of sizeof(struct ifreq). -/
def SessionOk (b : IfconfBuild) (s : Session) (p : Proc) : Prop :=
  (s.ifconfBuf = none ∧ s.ifconfLen = 0) ∨ (LiveBuffer b s p ∧ 0 < s.ifconfLen)

/-- sigar_open, given the status of the platform's sigar_os_open. -/
def sigarOpen (osOpen : Nat) : Nat × Option Session :=
  if osOpen = sigarOk then (sigarOk, some { ifconfBuf := none, ifconfLen := 0 }) else (osOpen, none)

/-- The part of sigar_close under src/: the enumeration buffer is released. -/
def sigarClose (s : Session) (p : Proc) : Except Fault Proc :=
  if s.ifconfBuf.isSome then p.free s.ifconfBuf else .ok p

/-- How the retry loop ends. -/
inductive IfconfEnd
  | accept (reply : IfconfReply) (s : Session) (p : Proc)
  | fail (errno : Nat) (s : Session) (p : Proc)

/-- How one pass of the retry loop ends. -/
inductive IfconfStep
  | retry (lastlen : Nat) (s : Session) (p : Proc)
  | done (last : IfconfEnd)

/-- The top of each pass: `if (!sigar->ifconf_buf || lastlen)` the buffer is
reallocated SIGAR_NET_IFLIST_MAX records longer. -/
def growIfconf (b : IfconfBuild) (granted : Bool) (lastlen : Nat) (s : Session) (p : Proc) :
    Except Fault (Session × Proc) :=
  if s.ifconfBuf = none ∨ lastlen ≠ 0 then
    (p.realloc granted s.ifconfBuf (s.ifconfLen + b.ifreqSize * b.iflistMax)).map fun r =>
      ({ ifconfBuf := r.1, ifconfLen := s.ifconfLen + b.ifreqSize * b.iflistMax }, r.2)
  else .ok (s, p)

/-- The tests on ifc.ifc_len after the ioctl returned, or failed with EINVAL
on a length other than lastlen. -/
def lengthVerdict (lastlen : Nat) (s : Session) (p : Proc) (reply : IfconfReply) : IfconfStep :=
  if reply.ifcLen < s.ifconfLen then .done (.accept reply s p)
  else if reply.ifcLen ≠ lastlen then .retry reply.ifcLen s p
  else .done (.accept reply s p)

/-- What follows the ioctl. A failure other than EINVAL, or EINVAL on the length
already tried, frees ifc.ifc_buf and returns errno; the socket stays open and
sigar->ifconf_buf keeps the freed address. -/
def ifconfVerdict (lastlen : Nat) (s : Session) (p : Proc) (reply : IfconfReply) :
    Except Fault IfconfStep :=
  match reply.errno with
  | some e =>
    if e ≠ einval ∨ lastlen = reply.ifcLen then
      (p.free s.ifconfBuf).map fun p => .done (.fail e s p)
    else .ok (lengthVerdict lastlen s p reply)
  | none => .ok (lengthVerdict lastlen s p reply)

/-- One pass of `for (;;)`, making query `k`. The kernel writes into the buffer,
so a buffer already released is a use after free. -/
def ifconfPass (b : IfconfBuild) (host : IfListHost) (k lastlen : Nat) (s : Session) (p : Proc) :
    Except Fault IfconfStep := do
  let (s, p) ← growIfconf b (host.grants k) lastlen s p
  if s.ifconfBuf.any (fun a => (p.blocks a).isNone) then .error .useAfterFree
  else ifconfVerdict lastlen s p (host.ifconf k s.ifconfLen)

/-- The retry loop for at most `fuel` passes, from query `k`; `none` when the
fuel runs out first. -/
def ifconfLoop (b : IfconfBuild) (host : IfListHost) :
    Nat → Nat → Nat → Session → Proc → Option (Except Fault IfconfEnd)
  | 0, _, _, _, _ => none
  | fuel + 1, k, lastlen, s, p =>
    match ifconfPass b host k lastlen s p with
    | .ok (.retry lastlen s p) => ifconfLoop b host fuel (k + 1) lastlen s p
    | .ok (.done last) => some (.ok last)
    | .error f => some (.error f)

/-- How many records `for (n = 0; n < ifc.ifc_len; n += sizeof(struct ifreq))` visits. -/
def ifreqCount (b : IfconfBuild) (reply : IfconfReply) : Nat :=
  (reply.ifcLen + b.ifreqSize - 1) / b.ifreqSize

/-- `*ifr` for record slot `j`: ifc.ifc_req points into the buffer `buf` the last
query was made with, so when a refused realloc left that buffer NULL the read is a
NULL dereference. -/
def readIfreq (buf : Option Nat) (reply : IfconfReply) (j : Nat) : Except Fault Ifreq :=
  match buf with
  | none => .error .nullDeref
  | some _ => .ok (reply.ifreq j)

/-- The body of that loop over the record slots `js`: a record the platform keeps
has its name strdup'd into data[number++]. -/
def collectNames (b : IfconfBuild) (reply : IfconfReply) (buf : Option Nat) :
    List Nat → ResultList (List Char) → Except Fault (ResultList (List Char))
  | [], l => .ok l
  | j :: js, l => do
    let ifr ← readIfreq buf reply j
    if b.keep ifr then
      let data ← l.data.store l.number ifr.name
      collectNames b reply buf js { l with data := data, number := l.number + 1 }
    else collectNames b reply buf js l

/-- What a call leaves: its status, the list, the session and the process. -/
structure IfListResult where
  status : Nat
  iflist : ResultList (List Char)
  session : Session
  proc : Proc

/-- The list built from the reply accepted on the buffer `buf`: `size` is
ifc.ifc_len, and data has that many slots. -/
def iflistOf (b : IfconfBuild) (granted : Bool) (buf : Option Nat) (reply : IfconfReply) :
    Except Fault (ResultList (List Char)) :=
  collectNames b reply buf (List.range (ifreqCount b reply))
    { number := 0, size := reply.ifcLen,
      data := if granted then .block (List.replicate reply.ifcLen none) else .null }

/-- sigar_net_interface_list_get, with at most `fuel` passes of its retry loop.
`iflist` is the caller's structure, left as it was on an error return. -/
def netInterfaceListGet (b : IfconfBuild) (host : IfListHost) (fuel : Nat)
    (iflist : ResultList (List Char)) (s : Session) (p : Proc) : Option (Except Fault IfListResult) :=
  match host.socket with
  | some e => some (.ok ⟨e, iflist, s, p⟩)
  | none =>
    (ifconfLoop b host fuel 0 0 s p.openFd.2).map fun
      | .ok (.accept reply s q) =>
        (iflistOf b host.dataGranted s.ifconfBuf reply).map fun l => ⟨sigarOk, l, s, q.close p.openFd.1⟩
      | .ok (.fail e s q) => .ok ⟨e, iflist, s, q⟩
      | .error f => .error f


/-- A first call on a fresh session whose only query fails with EFAULT: the
status is EFAULT and the block sigar->ifconf_buf points to has been freed, so the
next enumeration hands the kernel a freed buffer and sigar_close frees it again. -/
theorem netInterfaceListGet_failure_frees_session_buffer :
    ∃ q, netInterfaceListGet ⟨40, 20, fun _ => true, by decide, by decide⟩
        ⟨none, fun _ => true, fun _ _ => ⟨some 14, 800, fun _ => default⟩, true⟩ 1
        ⟨0, 0, .null⟩ ⟨none, 0⟩ ⟨fun _ => none, 0, []⟩ =
      some (.ok ⟨14, ⟨0, 0, .null⟩, ⟨some 0, 800⟩, q⟩) ∧
    q.blocks 0 = none ∧
    ¬ SessionOk ⟨40, 20, fun _ => true, by decide, by decide⟩ ⟨some 0, 800⟩ q ∧
    netInterfaceListGet ⟨40, 20, fun _ => true, by decide, by decide⟩
        (kernelHost 40 .truncate fun _ => []) 1 ⟨0, 0, .null⟩ ⟨some 0, 800⟩ q = some (.error .useAfterFree) ∧
    sigarClose ⟨some 0, 800⟩ q = .error .doubleFree := by
  refine ⟨_, rfl, rfl, ?_, rfl, rfl⟩
  rintro (⟨⟨⟩, _⟩ | ⟨⟨a, same, live, _⟩, _⟩)
  cases same
  exact absurd live (by decide)

/-- The same call leaves the socket it opened for the query open. -/
theorem netInterfaceListGet_failure_leaks_socket :
    ∃ r, netInterfaceListGet ⟨40, 20, fun _ => true, by decide, by decide⟩
        ⟨none, fun _ => true, fun _ _ => ⟨some 14, 800, fun _ => default⟩, true⟩ 1
        ⟨0, 0, .null⟩ ⟨none, 0⟩ ⟨fun _ => none, 0, []⟩ = some (.ok r) ∧
      r.status = 14 ∧ r.proc.fds = [0] := ⟨_, rfl, rfl, rfl⟩

end Sigar
