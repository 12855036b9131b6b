import Sigar.Libc

namespace Sigar

/-! sigar_resource_limit_get: a loop over the table sigar_rlimits, which stores each
limit's pair through the offsets the table records (RlimitSet). sigar.h and
<sys/resource.h> are not under src/: the fields are those sigar.c names, and the
RLIMIT_* numbers, RLIM_NLIMITS, RLIM_INFINITY and the width of rlim_t are the
platform's. -/

/-- The limits whose `_cur` and `_max` fields RlimitOffsets names. -/
inductive RlimitKind
  | cpu | fileSize | data | stack | core | memory | processes | openFiles | virtualMemory
  deriving DecidableEq, Repr

/-- The fields of sigar_resource_limit_t that sigar.c writes. -/
inductive RlimitField
  | unlimited
  | cur (kind : RlimitKind)
  | max (kind : RlimitKind)
  deriving DecidableEq, Repr

/-- The kind a field belongs to. -/
def RlimitField.kind : RlimitField → Option RlimitKind
  | .unlimited => none
  | .cur kind => some kind
  | .max kind => some kind

/-- rlimit_field_t: the resource, and the fields at the offsets `cur` and `max`. -/
structure RlimitEntry where
  resource : Int
  cur : RlimitField
  max : RlimitField

/-- What <sys/resource.h> gives the table: the RLIMIT_* number of each kind (that of
RLIMIT_RSS for `memory`, where it is defined), RLIM_NLIMITS, and rlim_t with its
RLIM_INFINITY. -/
structure RlimitBuild where
  rlimit : RlimitKind → Int
  rssDefined : Bool
  rlimNlimits : Int
  rlimBits : Nat
  rlimInfinity : BitVec rlimBits

/-- RLIMIT_UNSUPPORTED, `RLIM_NLIMITS+1`. -/
def RlimitBuild.unsupported (b : RlimitBuild) : Int := b.rlimNlimits + 1

/-- The resource the table gives a kind; without RLIMIT_RSS, `memory` gets
RLIMIT_UNSUPPORTED. -/
def RlimitBuild.resource (b : RlimitBuild) (kind : RlimitKind) : Int :=
  if kind = .memory ∧ b.rssDefined = false then b.unsupported else b.rlimit kind

/-- sigar_rlimits, without the `{ -1 }` that ends it. -/
def sigarRlimits (b : RlimitBuild) : List RlimitEntry :=
  [.cpu, .fileSize, .data, .stack, .core, .memory, .processes, .openFiles, .virtualMemory].map
    fun kind => ⟨b.resource kind, .cur kind, .max kind⟩

/-- `rl` after the test: getrlimit's answer (`none` when it does not return 0), or
SIGAR_FIELD_NOTIMPL as an rlim_t in both fields for RLIMIT_UNSUPPORTED, which is
never passed to getrlimit, or a failed call. -/
def RlimitBuild.rl (b : RlimitBuild) (getrlimit : Int → Option (BitVec b.rlimBits × BitVec b.rlimBits))
    (resource : Int) : BitVec b.rlimBits × BitVec b.rlimBits :=
  if resource = b.unsupported then (-1, -1) else (getrlimit resource).getD (-1, -1)

/-- One pass of the loop: the two RlimitSet stores, each rlim_t widened to the
sigar_uint64_t at its offset. -/
def rlimitStep (b : RlimitBuild) (getrlimit : Int → Option (BitVec b.rlimBits × BitVec b.rlimBits))
    (r : RlimitEntry) (rlimit : RlimitField → BitVec 64) : RlimitField → BitVec 64 :=
  let rl := b.rl getrlimit r.resource
  Function.update (Function.update rlimit r.cur (rl.1.setWidth 64)) r.max (rl.2.setWidth 64)

/-- `for (i=0; sigar_rlimits[i].resource != -1; i++)`; the end of the list stands for
the entry that ends the table. -/
def rlimitLoop (step : RlimitEntry → (RlimitField → BitVec 64) → RlimitField → BitVec 64) :
    List RlimitEntry → (RlimitField → BitVec 64) → RlimitField → BitVec 64
  | [], rlimit => rlimit
  | r :: rs, rlimit => if r.resource = -1 then rlimit else rlimitLoop step rs (step r rlimit)

/-- sigar_resource_limit_get (not WIN32): the status and the struct it leaves. -/
def resourceLimitGet (b : RlimitBuild) (getrlimit : Int → Option (BitVec b.rlimBits × BitVec b.rlimBits))
    (rlimit : RlimitField → BitVec 64) : Nat × (RlimitField → BitVec 64) :=
  (sigarOk, rlimitLoop (rlimitStep b getrlimit) (sigarRlimits b)
    (Function.update rlimit .unlimited (b.rlimInfinity.setWidth 64)))

/-- What each field should hold: RLIM_INFINITY in `unlimited`, and in a kind's pair
what its resource's `rl` holds. -/
def RlimitBuild.limits (b : RlimitBuild) (getrlimit : Int → Option (BitVec b.rlimBits × BitVec b.rlimBits)) :
    RlimitField → BitVec 64
  | .unlimited => b.rlimInfinity.setWidth 64
  | .cur kind => (b.rl getrlimit (b.resource kind)).1.setWidth 64
  | .max kind => (b.rl getrlimit (b.resource kind)).2.setWidth 64

/-- Linux's numbering (asm-generic/resource.h), with an rlim_t of `bits` bits. -/
def linuxRlimitBuild (bits : Nat) : RlimitBuild where
  rlimit
    | .cpu => 0 | .fileSize => 1 | .data => 2 | .stack => 3 | .core => 4 | .memory => 5
    | .processes => 6 | .openFiles => 7 | .virtualMemory => 9
  rssDefined := true
  rlimNlimits := 16
  rlimBits := bits
  rlimInfinity := -1

section Loop

variable {b : RlimitBuild} {getrlimit : Int → Option (BitVec b.rlimBits × BitVec b.rlimBits)}

/-- One pass over a kind's entry writes that kind's pair as `limits` says. -/
theorem rlimitStep_apply (kind : RlimitKind) (rlimit : RlimitField → BitVec 64) (field : RlimitField) :
    rlimitStep b getrlimit ⟨b.resource kind, .cur kind, .max kind⟩ rlimit field =
      if field.kind = some kind then b.limits getrlimit field else rlimit field := by
  cases field with
  | unlimited => rfl
  | cur k =>
    by_cases same : k = kind
    · subst same; simp [rlimitStep, RlimitField.kind, RlimitBuild.limits]
    · simp [rlimitStep, RlimitField.kind, same]
  | max k =>
    by_cases same : k = kind
    · subst same; simp [rlimitStep, RlimitField.kind, RlimitBuild.limits]
    · simp [rlimitStep, RlimitField.kind, same]

/-- The loop over the entries of some kinds, none numbered -1: the fields of those
kinds hold what `limits` says, every other field is as it was. -/
theorem rlimitLoop_kinds (kinds : List RlimitKind) (numbered : ∀ kind ∈ kinds, b.resource kind ≠ -1)
    (rlimit : RlimitField → BitVec 64) (field : RlimitField) :
    rlimitLoop (rlimitStep b getrlimit) (kinds.map fun kind => ⟨b.resource kind, .cur kind, .max kind⟩)
        rlimit field =
      if ∃ kind ∈ kinds, field.kind = some kind then b.limits getrlimit field else rlimit field := by
  induction kinds generalizing rlimit with
  | nil => simp [rlimitLoop]
  | cons kind rest ih =>
    rw [List.map_cons, rlimitLoop, if_neg (numbered kind (List.mem_cons_self _ _)),
      ih (fun k member => numbered k (List.mem_cons_of_mem _ member)), rlimitStep_apply]
    by_cases here : field.kind = some kind
    · rw [if_pos here, ite_self, if_pos ⟨kind, List.mem_cons_self _ _, here⟩]
    · simp only [here, if_false, List.mem_cons, exists_eq_or_imp, false_or]

/-- The table names every kind, so the loop writes every field. -/
theorem resourceLimitGet_field (numbered : ∀ kind, b.resource kind ≠ -1) (rlimit : RlimitField → BitVec 64)
    (field : RlimitField) : (resourceLimitGet b getrlimit rlimit).2 field = b.limits getrlimit field := by
  dsimp only [resourceLimitGet, sigarRlimits]
  rw [rlimitLoop_kinds _ (fun kind _ => numbered kind)]
  cases field with
  | unlimited => simp [RlimitField.kind, RlimitBuild.limits]
  | cur kind => rw [if_pos ⟨kind, by cases kind <;> decide, rfl⟩]
  | max kind => rw [if_pos ⟨kind, by cases kind <;> decide, rfl⟩]

/-- sigar_resource_limit_get writes every field, each kind's pair from its own
resource and nothing from the struct it was given, on every platform whose RLIMIT_*
numbers and RLIMIT_UNSUPPORTED differ from the -1 that ends the table. -/
theorem resourceLimitGet_limits (numbered : ∀ kind, b.resource kind ≠ -1) (rlimit : RlimitField → BitVec 64) :
    resourceLimitGet b getrlimit rlimit = (sigarOk, b.limits getrlimit) :=
  Prod.ext rfl (funext (resourceLimitGet_field numbered rlimit))

theorem resourceLimitGet_limits_linux :
    (∀ kind, (linuxRlimitBuild 64).resource kind ≠ -1) ∧
      resourceLimitGet (linuxRlimitBuild 64) (fun _ => none) (fun _ => 0) =
        (sigarOk, (linuxRlimitBuild 64).limits fun _ => none) :=
  have numbered : ∀ kind, (linuxRlimitBuild 64).resource kind ≠ -1 := by intro kind; cases kind <;> decide
  ⟨numbered, resourceLimitGet_limits numbered fun _ => 0⟩

end Loop

/-! ### WIN32 -/

/-- What VirtualQuery reports of the region holding the local `meminfo`, with the
address of `meminfo` itself, each cast to the DWORD the code casts it to; RegionSize is
a SIZE_T of 32 bits, as in a 32-bit build. -/
structure StackRegion where
  meminfo : BitVec 32
  allocationBase : BitVec 32
  baseAddress : BitVec 32
  regionSize : BitVec 32

/-- sigar_resource_limit_get on WIN32: memset fills every field with 0xFF bytes, the
stack pair comes from VirtualQuery (`none` when it returns 0), and the virtual memory
pair is 0x80000000. Nothing of the struct passed in is read. -/
def resourceLimitGetWin32 (virtualQuery : Option StackRegion) : Nat × (RlimitField → BitVec 64) :=
  let rlimit : RlimitField → BitVec 64 := fun _ => -1
  let rlimit := match virtualQuery with
    | some m =>
      Function.update (Function.update rlimit (.cur .stack) ((m.meminfo - m.allocationBase).setWidth 64))
        (.max .stack) ((m.baseAddress + m.regionSize - m.allocationBase).setWidth 64)
    | none => rlimit
  (sigarOk, Function.update (Function.update rlimit (.max .virtualMemory) 0x80000000#64) (.cur .virtualMemory)
    0x80000000#64)

end Sigar
