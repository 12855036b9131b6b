import Sigar.Libc

namespace Sigar

/-- The hardware-address lookup a platform compiles in: SIOCGIFHWADDR, the AF_LINK
records of the last enumeration (AIX, OSF/1), or SIOCGARP on the interface's
address. -/
inductive HwaddrLookup
  | ioctl
  | aixScan
  | arp
  deriving DecidableEq

/-- The build's side of sigar_net_interface_config_get: IFF_LOOPBACK and
IFF_MULTICAST of net/if.h, SIGAR_IFF_MULTICAST of sigar.h, AF_LINK, the size of the
config's name field, whether the `__linux__` code is compiled, and the
hardware-address lookup. None of these headers is under src/. -/
structure ConfigBuild where
  iffLoopback : BitVec 64
  iffMulticast : BitVec 64
  sigarIffMulticast : BitVec 64
  afLink : Nat
  nameSize : Nat
  linux : Bool
  hwaddrLookup : HwaddrLookup

/-- What the kernel answers to one call's per-interface ioctls (errno, or the value
it stores in struct ifreq or struct arpreq), and the AF_LINK records the session
buffer still holds from the last enumeration, which the AIX lookup reads. -/
structure IfreqAnswers where
  addr : Except Nat (BitVec 32)
  netmask : Except Nat (BitVec 32)
  flags : Except Nat (BitVec 16)
  dstaddr : Except Nat (BitVec 32)
  brdaddr : Except Nat (BitVec 32)
  hwaddr : Except Nat (Fin 6 → BitVec 8)
  arp : Except Nat (Fin 6 → BitVec 8)
  mtu : Except Nat (BitVec 32)
  metric : Except Nat (BitVec 32)
  linkRecords : List (List Char × Nat × (Fin 6 → BitVec 8))

/-- The fields of sigar_net_interface_config_t, `name` and `hwaddr` as the C strings
they hold. -/
structure IfConfig where
  name : List Char
  hwaddr : List Char
  address : BitVec 64
  destination : BitVec 64
  broadcast : BitVec 64
  netmask : BitVec 64
  flags : BitVec 64
  mtu : BitVec 64
  metric : BitVec 64
  deriving DecidableEq

/-- The config SIGAR_ZERO leaves. -/
def IfConfig.zero : IfConfig := ⟨[], [], 0, 0, 0, 0, 0, 0, 0⟩

/-- The digit "%X" prints for a value below 16. -/
def hexDigit (n : Nat) : Char :=
  if n < 10 then Char.ofNat (48 + n) else Char.ofNat (55 + n)

/-- "%02X" of a value below 256. -/
def hex02 (v : Nat) : List Char := [hexDigit (v / 16), hexDigit (v % 16)]

/-- sigar_hwaddr_format: "%02X:%02X:%02X:%02X:%02X:%02X" of the six bytes, each
masked with 0377. -/
def hwaddrFormat (ptr : Fin 6 → BitVec 8) : List Char :=
  List.intercalate [':'] (List.ofFn fun i => hex02 ((ptr i).toNat &&& 0o377))

example : hwaddrFormat ![0x01, 0xAB, 0x00, 0xFF, 0x10, 0x0A] = "01:AB:00:FF:10:0A".toList := by
  decide

/-- Modelled from the spec: sigar_hwaddr_set_null is defined in a header that is not
under src/. It stores the null hardware address, 00:00:00:00:00:00. -/
def hwaddrSetNull : List Char := hwaddrFormat fun _ => 0

/-- hwaddr_aix_lookup: the first AF_LINK record of the session buffer with the
config's name gives the address, and none gives the null address. -/
def hwaddrAixLookup (cb : ConfigBuild) (records : List (List Char × Nat × (Fin 6 → BitVec 8)))
    (name : List Char) : List Char :=
  match records.find? (fun r => r.2.1 == cb.afLink && r.1 == name) with
  | some r => hwaddrFormat r.2.2
  | none => hwaddrSetNull

/-- hwaddr_arp_lookup: a missing ARP entry is formatted as zeros. -/
def hwaddrArpLookup (answer : Except Nat (Fin 6 → BitVec 8)) : List Char :=
  match answer with
  | .ok ha => hwaddrFormat ha
  | .error _ => hwaddrFormat fun _ => 0

/-- The `__linux__` block after SIOCGIFFLAGS: SIGAR_IFF_MULTICAST follows IFF_MULTICAST. -/
def linuxMulticast (cb : ConfigBuild) (flags : BitVec 64) : BitVec 64 :=
  if flags &&& cb.iffMulticast ≠ 0 then flags ||| cb.sigarIffMulticast
  else flags &&& ~~~cb.sigarIffMulticast

/-- The branch on IFF_LOOPBACK: a loopback interface mirrors its address and gets the
null hardware address; any other has its destination, broadcast and hardware
address looked up, each best effort. -/
def loopbackOrLookups (cb : ConfigBuild) (ans : IfreqAnswers) (cfg : IfConfig) : IfConfig :=
  if cfg.flags &&& cb.iffLoopback ≠ 0 then
    { cfg with destination := cfg.address, broadcast := 0, hwaddr := hwaddrSetNull }
  else
    let cfg := match ans.dstaddr with
      | .ok d => { cfg with destination := d.zeroExtend 64 }
      | .error _ => cfg
    let cfg := match ans.brdaddr with
      | .ok d => { cfg with broadcast := d.zeroExtend 64 }
      | .error _ => cfg
    match cb.hwaddrLookup with
    | .ioctl =>
      match ans.hwaddr with
      | .ok ha => { cfg with hwaddr := hwaddrFormat ha }
      | .error _ => cfg
    | .aixScan => { cfg with hwaddr := hwaddrAixLookup cb ans.linkRecords cfg.name }
    | .arp => { cfg with hwaddr := hwaddrArpLookup ans.arp }

/-- SIOCGIFMTU (only under `__linux__`) and SIOCGIFMETRIC, where a metric of 0 reads
as 1. -/
def mtuAndMetric (cb : ConfigBuild) (ans : IfreqAnswers) (cfg : IfConfig) : IfConfig :=
  let cfg := if cb.linux then
      match ans.mtu with
      | .ok m => { cfg with mtu := m.signExtend 64 }
      | .error _ => cfg
    else { cfg with mtu := 0 }
  match ans.metric with
  | .ok m => { cfg with metric := (if m ≠ 0 then m else 1).signExtend 64 }
  | .error _ => cfg

/-- sigar_net_interface_config_get: the status, the config it leaves, and the
process. SIOCGIFADDR and SIOCGIFFLAGS are required; the short ifr_flags is stored in
the 64-bit flags field as C converts it, by sign extension. -/
def netInterfaceConfigGet (cb : ConfigBuild) (socket : Option Nat) (ans : IfreqAnswers)
    (name : List Char) (p : Proc) : Nat × IfConfig × Proc :=
  match socket with
  | some e => (e, IfConfig.zero, p)
  | none =>
    let cfg := { IfConfig.zero with name := name.take (cb.nameSize - 1) }
    match ans.addr with
    | .error e => (e, cfg, p.openFd.2.close p.openFd.1)
    | .ok a =>
      let cfg := { cfg with address := a.zeroExtend 64 }
      let cfg := match ans.netmask with
        | .ok m => { cfg with netmask := m.zeroExtend 64 }
        | .error _ => cfg
      match ans.flags with
      | .error e => (e, cfg, p.openFd.2.close p.openFd.1)
      | .ok w =>
        let cfg := { cfg with flags := if cb.linux then linuxMulticast cb (w.signExtend 64) else w.signExtend 64 }
        (sigarOk, mtuAndMetric cb ans (loopbackOrLookups cb ans cfg), p.openFd.2.close p.openFd.1)

/-- Both lookup stages keep every field but the ones they set. -/
theorem mtuAndMetric_frame (cb : ConfigBuild) (ans : IfreqAnswers) (cfg : IfConfig) :
    ∃ mtu metric, mtuAndMetric cb ans cfg = { cfg with mtu := mtu, metric := metric } := by
  unfold mtuAndMetric
  cases cb.linux <;> cases ans.mtu <;> cases ans.metric <;> exact ⟨_, _, rfl⟩

theorem loopbackOrLookups_frame (cb : ConfigBuild) (ans : IfreqAnswers) (cfg : IfConfig) :
    ∃ destination broadcast hwaddr, loopbackOrLookups cb ans cfg =
      { cfg with destination := destination, broadcast := broadcast, hwaddr := hwaddr } := by
  unfold loopbackOrLookups
  split
  · exact ⟨_, _, _, rfl⟩
  · cases ans.dstaddr <;> cases ans.brdaddr <;> cases cb.hwaddrLookup <;> try cases ans.hwaddr
    all_goals exact ⟨_, _, _, rfl⟩

/-- Every return path that opened the socket closes it, and nothing else of the
process changes. -/
theorem netInterfaceConfigGet_proc (cb : ConfigBuild) (socket : Option Nat) (ans : IfreqAnswers)
    (name : List Char) (p : Proc) : (netInterfaceConfigGet cb socket ans name p).2.2 = p := by
  unfold netInterfaceConfigGet
  rcases socket with _ | e
  · cases ans.addr <;> cases ans.flags <;> simp
  · rfl

/-- The status and the config do not depend on the process, and the process comes
back as it was. -/
theorem netInterfaceConfigGet_frame (cb : ConfigBuild) (socket : Option Nat) (ans : IfreqAnswers)
    (name : List Char) (p q : Proc) :
    netInterfaceConfigGet cb socket ans name q =
      ((netInterfaceConfigGet cb socket ans name p).1, (netInterfaceConfigGet cb socket ans name p).2.1, q) := by
  unfold netInterfaceConfigGet
  rcases socket with _ | e
  · cases ans.addr <;> cases ans.flags <;> simp
  · rfl

/-- The status is an error exactly when socket(2), SIOCGIFADDR or SIOCGIFFLAGS
fails, given that a failed call sets errno. -/
theorem netInterfaceConfigGet_fails_iff (cb : ConfigBuild) (socket : Option Nat) (ans : IfreqAnswers)
    (name : List Char) (p : Proc)
    (errnoSet : ∀ e, socket = some e ∨ ans.addr = .error e ∨ ans.flags = .error e → e ≠ sigarOk) :
    (netInterfaceConfigGet cb socket ans name p).1 ≠ sigarOk ↔
      socket.isSome ∨ (∃ e, ans.addr = .error e) ∨ ∃ e, ans.flags = .error e := by
  rcases socket with _ | e
  · rcases addr : ans.addr with e | a
    · simpa [netInterfaceConfigGet, addr] using errnoSet e (.inr (.inl addr))
    · rcases flags : ans.flags with e | w
      · simpa [netInterfaceConfigGet, addr, flags] using errnoSet e (.inr (.inr flags))
      · simp [netInterfaceConfigGet, addr, flags]
  · simpa [netInterfaceConfigGet] using errnoSet e (.inl rfl)

/-- A config is either left with no flags by an error return, or is what the two
lookup stages make of the one SIOCGIFFLAGS filled. -/
theorem netInterfaceConfigGet_config (cb : ConfigBuild) (socket : Option Nat) (ans : IfreqAnswers)
    (name : List Char) (p : Proc) :
    (netInterfaceConfigGet cb socket ans name p).2.1.flags = 0 ∨
      ∃ cfg, (netInterfaceConfigGet cb socket ans name p).2.1 = mtuAndMetric cb ans (loopbackOrLookups cb ans cfg) := by
  unfold netInterfaceConfigGet
  rcases socket with _ | e
  · rcases addr : ans.addr with e | a
    · exact .inl rfl
    · rcases flags : ans.flags with e | w
      · left
        simp only [flags]
        split <;> rfl
      · right
        simp only [flags]
        exact ⟨_, rfl⟩
  · exact .inl rfl

/-- The loopback invariant: whatever the kernel answers, a config whose flags
have IFF_LOOPBACK mirrors its address as destination, has no broadcast address
and has the null hardware address. -/
theorem netInterfaceConfigGet_loopback (cb : ConfigBuild) (socket : Option Nat) (ans : IfreqAnswers)
    (name : List Char) (p : Proc)
    (loopback : (netInterfaceConfigGet cb socket ans name p).2.1.flags &&& cb.iffLoopback ≠ 0) :
    (netInterfaceConfigGet cb socket ans name p).2.1.destination =
        (netInterfaceConfigGet cb socket ans name p).2.1.address ∧
      (netInterfaceConfigGet cb socket ans name p).2.1.broadcast = 0 ∧
      (netInterfaceConfigGet cb socket ans name p).2.1.hwaddr = hwaddrSetNull := by
  rcases netInterfaceConfigGet_config cb socket ans name p with noFlags | ⟨cfg, made⟩
  · simp [noFlags] at loopback
  · obtain ⟨mtu, metric, framed⟩ := mtuAndMetric_frame cb ans (loopbackOrLookups cb ans cfg)
    obtain ⟨d, b, h, looked⟩ := loopbackOrLookups_frame cb ans cfg
    have flagged : cfg.flags &&& cb.iffLoopback ≠ 0 := by
      rw [made, framed, looked] at loopback
      exact loopback
    rw [made, framed]
    simp only [loopbackOrLookups, if_pos flagged, and_self]

/-- A Linux build, with the values of IFF_LOOPBACK, IFF_MULTICAST and
SIGAR_IFF_MULTICAST and a 16-byte name field; the build reads the hardware address
with SIOCGIFHWADDR, so AF_LINK is not read. -/
def linuxConfigBuild : ConfigBuild := ⟨0x8, 0x1000, 0x800, 0, 16, true, .ioctl⟩

/-- An Ethernet interface whose flag word has IFF_DYNAMIC, bit 15, set, and whose
SIOCGIFHWADDR fails. -/
def dynamicEthAnswers : IfreqAnswers :=
  ⟨.ok 0x0100A8C0, .ok 0x00FFFFFF, .ok 0x9043, .error 99, .ok 0xFF00A8C0, .error 19, .error 22,
    .ok 1500, .ok 0, []⟩

/-- On that interface the call succeeds, but the short flag word is sign-extended
into the 64-bit flags, setting bits 16 to 63, and the hardware address is left as
the empty string SIGAR_ZERO wrote rather than the null address. -/
theorem netInterfaceConfigGet_dynamic_eth :
    ∃ cfg, netInterfaceConfigGet linuxConfigBuild none dynamicEthAnswers "eth0".toList ⟨fun _ => none, 0, []⟩ =
        (sigarOk, cfg, ⟨fun _ => none, 0, []⟩) ∧
      cfg.flags = 0xFFFFFFFFFFFF9843 ∧ 2 ^ 16 ≤ cfg.flags.toNat ∧ cfg.hwaddr = [] ∧ cfg.hwaddr ≠ hwaddrSetNull :=
  ⟨_, rfl, rfl, by decide, rfl, by decide⟩

theorem netInterfaceConfigGet_fails_iff_dynamic_eth :
    (∀ e, (none : Option Nat) = some e ∨ dynamicEthAnswers.addr = .error e ∨ dynamicEthAnswers.flags = .error e →
        e ≠ sigarOk) ∧
      ((netInterfaceConfigGet linuxConfigBuild none dynamicEthAnswers "eth0".toList ⟨fun _ => none, 0, []⟩).1 ≠ sigarOk ↔
        (none : Option Nat).isSome ∨ (∃ e, dynamicEthAnswers.addr = .error e) ∨ ∃ e, dynamicEthAnswers.flags = .error e) :=
  have errnoSet : ∀ e, (none : Option Nat) = some e ∨ dynamicEthAnswers.addr = .error e ∨
      dynamicEthAnswers.flags = .error e → e ≠ sigarOk := by
    rintro e (absent | absent | absent) <;> simp [dynamicEthAnswers] at absent
  ⟨errnoSet, netInterfaceConfigGet_fails_iff linuxConfigBuild none dynamicEthAnswers _ _ errnoSet⟩

/-- The loopback interface of a Linux host: IFF_UP, IFF_LOOPBACK and IFF_RUNNING. -/
def loopbackAnswers : IfreqAnswers :=
  ⟨.ok 0x0100007F, .ok 0x000000FF, .ok 0x49, .error 99, .error 99, .error 99, .error 22, .ok 65536, .ok 0, []⟩

theorem netInterfaceConfigGet_loopback_lo :
    (netInterfaceConfigGet linuxConfigBuild none loopbackAnswers "lo".toList ⟨fun _ => none, 0, []⟩).2.1.flags &&&
        linuxConfigBuild.iffLoopback ≠ 0 ∧
      (netInterfaceConfigGet linuxConfigBuild none loopbackAnswers "lo".toList ⟨fun _ => none, 0, []⟩).2.1.destination =
        (netInterfaceConfigGet linuxConfigBuild none loopbackAnswers "lo".toList ⟨fun _ => none, 0, []⟩).2.1.address ∧
      (netInterfaceConfigGet linuxConfigBuild none loopbackAnswers "lo".toList ⟨fun _ => none, 0, []⟩).2.1.broadcast = 0 ∧
      (netInterfaceConfigGet linuxConfigBuild none loopbackAnswers "lo".toList ⟨fun _ => none, 0, []⟩).2.1.hwaddr =
        hwaddrSetNull :=
  have loopback : (netInterfaceConfigGet linuxConfigBuild none loopbackAnswers "lo".toList
      ⟨fun _ => none, 0, []⟩).2.1.flags &&& linuxConfigBuild.iffLoopback ≠ 0 := by decide
  ⟨loopback, netInterfaceConfigGet_loopback _ _ _ _ _ loopback⟩

end Sigar
