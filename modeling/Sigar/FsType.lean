import Sigar.Libc

namespace Sigar

/-! sigar_file_system_type_e of sigar.h (not under src/), in the order the comment
on fstype_names gives: UNKNOWN, NONE, LOCAL_DISK, NETWORK, RAM_DISK, CDROM, SWAP,
MAX. -/

def sigarFstypeNone : Nat := 1
def sigarFstypeLocalDisk : Nat := 2
def sigarFstypeNetwork : Nat := 3
def sigarFstypeCdrom : Nat := 5
def sigarFstypeSwap : Nat := 6
def sigarFstypeMax : Nat := 7

/-- fstype_names, indexed with sigar_file_system_type_e. -/
def fstypeNames : List (List Char) :=
  ["unknown", "none", "local", "remote", "ram", "cdrom", "swap"].map String.toList

/-- How the compiler represents sigar_file_system_type_e: as int (MSVC), or as
unsigned int (GCC and Clang, for an enum with no negative constant). -/
structure FsBuild where
  enumSigned : Bool

/-- The value the 32 bits of the type field hold, as the build reads them. -/
def FsBuild.typeValue (b : FsBuild) (type : BitVec 32) : Int :=
  if b.enumSigned then type.toInt else type.toNat

/-- The fields of sigar_file_system_t that sigar_fs_type_get reads and writes. -/
structure FileSystem where
  sysTypeName : CStr
  type : BitVec 32
  typeName : List Char

/-- sigar_common_fs_type_get: a switch on the first character, then strEQ on the
whole name; the record it leaves, whose type it returns. -/
def commonFsTypeGet (fs : FileSystem) : FileSystem :=
  let set (type : Nat) : FileSystem := { fs with type := BitVec.ofNat 32 type }
  let name := fs.sysTypeName.chars
  match name with
  | 'n' :: _ => if strEQ name "nfs".toList then set sigarFstypeNetwork else fs
  | 's' :: _ =>
    if strEQ name "smbfs".toList then set sigarFstypeNetwork
    else if strEQ name "swap".toList then set sigarFstypeSwap else fs
  | 'a' :: _ => if strEQ name "afs".toList then set sigarFstypeNetwork else fs
  | 'i' :: _ => if strEQ name "iso9660".toList then set sigarFstypeCdrom else fs
  | 'm' :: _ =>
    if strEQ name "msdos".toList || strEQ name "minix".toList then set sigarFstypeLocalDisk else fs
  | 'h' :: _ => if strEQ name "hpfs".toList then set sigarFstypeLocalDisk else fs
  | 'v' :: _ => if strEQ name "vfat".toList then set sigarFstypeLocalDisk else fs
  | _ => fs

/-- `if (!(fsp->type || sigar_os_fs_type_get(fsp) || sigar_common_fs_type_get(fsp)))
fsp->type = SIGAR_FSTYPE_NONE;`, with the OS hook returning the type it leaves. -/
def typeStages (osFsTypeGet : FileSystem → FileSystem) (fs : FileSystem) : FileSystem :=
  if fs.type ≠ 0 then fs
  else
    let fs := osFsTypeGet fs
    if fs.type ≠ 0 then fs
    else
      let fs := commonFsTypeGet fs
      if fs.type ≠ 0 then fs else { fs with type := BitVec.ofNat 32 sigarFstypeNone }

/-- `table[i]` for a C index `i`. -/
def tableAt {α : Type} (table : List α) (i : Int) : Except Fault α :=
  if 0 ≤ i then (table.get? i.toNat).elim (.error .outOfBounds) .ok else .error .outOfBounds

/-- The clamp of a type at or above SIGAR_FSTYPE_MAX, then strcpy of
fstype_names[type] into type_name. -/
def clampTypeName (b : FsBuild) (fs : FileSystem) : Except Fault FileSystem := do
  let fs := if sigarFstypeMax ≤ b.typeValue fs.type then { fs with type := BitVec.ofNat 32 sigarFstypeNone } else fs
  let name ← tableAt fstypeNames (b.typeValue fs.type)
  return { fs with typeName := name }

/-- sigar_fs_type_get. -/
def fsTypeGet (b : FsBuild) (osFsTypeGet : FileSystem → FileSystem) (fs : FileSystem) : Except Fault FileSystem :=
  clampTypeName b (typeStages osFsTypeGet fs)

/-- What the dispatch on sys_type_name is for: the type each whole name in it gets,
as a lookup table. -/
def fsTypeTable : List (List Char × Nat) :=
  [("nfs".toList, sigarFstypeNetwork), ("smbfs".toList, sigarFstypeNetwork), ("afs".toList, sigarFstypeNetwork),
    ("swap".toList, sigarFstypeSwap), ("iso9660".toList, sigarFstypeCdrom),
    ("msdos".toList, sigarFstypeLocalDisk), ("minix".toList, sigarFstypeLocalDisk),
    ("hpfs".toList, sigarFstypeLocalDisk), ("vfat".toList, sigarFstypeLocalDisk)]

/-- The type a name gets by whole-string lookup, SIGAR_FSTYPE_NONE when it is not
in the table. -/
def fsTypeByName (name : List Char) : Nat := (fsTypeTable.lookup name).getD sigarFstypeNone

theorem commonFsTypeGet_type {fs : FileSystem} (unset : fs.type = 0) :
    (commonFsTypeGet fs).type = BitVec.ofNat 32 ((fsTypeTable.lookup fs.sysTypeName.chars).getD 0) := by
  by_cases listed : fs.sysTypeName.chars ∈ fsTypeTable.map Prod.fst
  · simp only [fsTypeTable, List.map_cons, List.map_nil, List.mem_cons, List.not_mem_nil, or_false] at listed
    unfold commonFsTypeGet
    rcases listed with same | same | same | same | same | same | same | same | same <;> rw [same] <;> rfl
  · have absent : fsTypeTable.lookup fs.sysTypeName.chars = none :=
      List.lookup_eq_none_iff.mpr fun p member =>
        bne_iff_ne.mpr fun same => listed (same ▸ List.mem_map_of_mem Prod.fst member)
    rw [absent, Option.getD_none]
    simp [fsTypeTable] at listed
    unfold commonFsTypeGet
    dsimp only
    split <;> simp_all [strEQ]

theorem fsTypeTable_values {name : List Char} {v : Nat} (found : fsTypeTable.lookup name = some v) :
    sigarFstypeLocalDisk ≤ v ∧ v ≤ sigarFstypeSwap := by
  obtain ⟨l₁, l₂, split, -⟩ := List.lookup_eq_some_iff.mp found
  have member : (name, v) ∈ fsTypeTable := by rw [split]; simp
  have bounded : ∀ p ∈ fsTypeTable, sigarFstypeLocalDisk ≤ p.2 ∧ p.2 ≤ sigarFstypeSwap := by decide
  exact bounded _ member

theorem typeStages_ne_zero (osFsTypeGet : FileSystem → FileSystem) (fs : FileSystem) :
    (typeStages osFsTypeGet fs).type ≠ 0 := by
  unfold typeStages
  dsimp only
  split_ifs <;> first | assumption | exact (by decide : BitVec.ofNat 32 sigarFstypeNone ≠ 0)

/-- With the type still UNKNOWN and the hook answering 0, the stages give the
whole-string lookup of the name sigar_common_fs_type_get reads. -/
theorem typeStages_unknown {osFsTypeGet : FileSystem → FileSystem} {fs : FileSystem} (unset : fs.type = 0)
    (quiet : (osFsTypeGet fs).type = 0) :
    (typeStages osFsTypeGet fs).type = BitVec.ofNat 32 (fsTypeByName (osFsTypeGet fs).sysTypeName.chars) := by
  have common := commonFsTypeGet_type quiet
  simp only [typeStages, unset, quiet, ne_eq, not_true_eq_false, if_false]
  rw [fsTypeByName]
  rcases found : fsTypeTable.lookup (osFsTypeGet fs).sysTypeName.chars with _ | v
  · rw [found, Option.getD_none] at common
    simp [common]
  · rw [found, Option.getD_some] at common
    have bounds := fsTypeTable_values found
    have nonzero : BitVec.ofNat 32 v ≠ 0#32 := by
      simp only [sigarFstypeLocalDisk, sigarFstypeSwap] at bounds
      intro zero
      have := congrArg BitVec.toNat zero
      simp at this
      omega
    simp [common, nonzero]

theorem fsTypeByName_lt (name : List Char) : fsTypeByName name < sigarFstypeMax := by
  rw [fsTypeByName]
  rcases found : fsTypeTable.lookup name with _ | v
  · decide
  · have bounds := fsTypeTable_values found
    simp only [Option.getD_some, sigarFstypeLocalDisk, sigarFstypeSwap, sigarFstypeMax] at bounds ⊢
    omega

theorem tableAt_fstypeNames {n : Nat} (inside : n < sigarFstypeMax) :
    ∃ name, tableAt fstypeNames n = .ok name ∧ fstypeNames.get? n = some name := by
  have bound : n < fstypeNames.length := inside
  refine ⟨fstypeNames.get ⟨n, bound⟩, ?_, List.get?_eq_get bound⟩
  simp [tableAt, List.getElem?_eq_getElem bound]

/-- On a build whose enum is unsigned, the clamp leaves a set type inside
fstype_names, and a type already inside unchanged. -/
theorem clampTypeName_unsigned {b : FsBuild} (unsigned : b.enumSigned = false) {fs : FileSystem}
    (set : fs.type ≠ 0) :
    ∃ fs', clampTypeName b fs = .ok fs' ∧ sigarFstypeNone ≤ fs'.type.toNat ∧ fs'.type.toNat < sigarFstypeMax ∧
      fstypeNames.get? fs'.type.toNat = some fs'.typeName ∧ (fs.type.toNat < sigarFstypeMax → fs'.type = fs.type) := by
  have value : ∀ type, b.typeValue type = type.toNat := by simp [FsBuild.typeValue, unsigned]
  have positive : 0 < fs.type.toNat := by
    rcases Nat.eq_zero_or_pos fs.type.toNat with zero | positive
    · exact absurd (BitVec.eq_of_toNat_eq (by simpa using zero)) set
    · exact positive
  by_cases big : sigarFstypeMax ≤ fs.type.toNat
  · obtain ⟨name, looked, listed⟩ := tableAt_fstypeNames (show sigarFstypeNone < sigarFstypeMax by decide)
    have clamps : (sigarFstypeMax : Int) ≤ b.typeValue fs.type := by rw [value]; exact_mod_cast big
    refine ⟨{ fs with type := BitVec.ofNat 32 sigarFstypeNone, typeName := name }, ?_,
      (by decide : sigarFstypeNone ≤ (BitVec.ofNat 32 sigarFstypeNone).toNat),
      (by decide : (BitVec.ofNat 32 sigarFstypeNone).toNat < sigarFstypeMax), listed,
      fun small => absurd big (Nat.not_le.mpr small)⟩
    rw [clampTypeName, if_pos clamps, value]
    dsimp only
    rw [show (BitVec.ofNat 32 sigarFstypeNone).toNat = sigarFstypeNone by decide, looked]
    rfl
  · have small : fs.type.toNat < sigarFstypeMax := Nat.not_le.mp big
    obtain ⟨name, looked, listed⟩ := tableAt_fstypeNames small
    have keeps : ¬ (sigarFstypeMax : Int) ≤ b.typeValue fs.type := by rw [value]; exact_mod_cast big
    refine ⟨{ fs with typeName := name }, ?_, positive, small, listed, fun _ => rfl⟩
    rw [clampTypeName, if_neg keeps, value, looked]
    rfl

/-- On a build whose enum is unsigned, sigar_fs_type_get leaves, for every name,
initial type and hook, a type from SIGAR_FSTYPE_NONE to SIGAR_FSTYPE_MAX - 1 and its
entry of fstype_names as the type name; with the type UNKNOWN and the hook
answering 0, that type is the whole-string lookup of the name. -/
theorem fsTypeGet_unsigned (b : FsBuild) (unsigned : b.enumSigned = false) (osFsTypeGet : FileSystem → FileSystem)
    (fs : FileSystem) :
    ∃ fs', fsTypeGet b osFsTypeGet fs = .ok fs' ∧ sigarFstypeNone ≤ fs'.type.toNat ∧
      fs'.type.toNat < sigarFstypeMax ∧ fstypeNames.get? fs'.type.toNat = some fs'.typeName ∧
      (fs.type = 0 → (osFsTypeGet fs).type = 0 →
        fs'.type.toNat = fsTypeByName (osFsTypeGet fs).sysTypeName.chars) := by
  obtain ⟨fs', clamped, low, high, listed, kept⟩ := clampTypeName_unsigned unsigned (typeStages_ne_zero osFsTypeGet fs)
  refine ⟨fs', clamped, low, high, listed, fun unset quiet => ?_⟩
  have lookup := fsTypeByName_lt (osFsTypeGet fs).sysTypeName.chars
  have staged := typeStages_unknown unset quiet
  have inside : (typeStages osFsTypeGet fs).type.toNat = fsTypeByName (osFsTypeGet fs).sysTypeName.chars := by
    rw [staged, BitVec.toNat_ofNat]
    simp only [sigarFstypeMax] at lookup
    omega
  rw [kept (by rw [inside]; exact lookup), inside]

theorem fsTypeGet_unsigned_nfs :
    (⟨false⟩ : FsBuild).enumSigned = false ∧
      ∃ fs', fsTypeGet ⟨false⟩ id ⟨⟨"nfs".toList, by decide⟩, 0, []⟩ = .ok fs' ∧ sigarFstypeNone ≤ fs'.type.toNat ∧
        fs'.type.toNat < sigarFstypeMax ∧ fstypeNames.get? fs'.type.toNat = some fs'.typeName ∧
        ((⟨⟨"nfs".toList, by decide⟩, 0, []⟩ : FileSystem).type = 0 →
          (id ⟨⟨"nfs".toList, by decide⟩, 0, []⟩ : FileSystem).type = 0 →
          fs'.type.toNat = fsTypeByName (id ⟨⟨"nfs".toList, by decide⟩, 0, []⟩ : FileSystem).sysTypeName.chars) :=
  ⟨rfl, fsTypeGet_unsigned _ rfl _ _⟩

/-- On a build whose enum is int, a negative type passes the clamp and indexes
fstype_names before its first entry. -/
theorem fsTypeGet_negative_type (osFsTypeGet : FileSystem → FileSystem) (fs : FileSystem)
    (negative : fs.type.toInt < 0) : fsTypeGet ⟨true⟩ osFsTypeGet fs = .error .outOfBounds := by
  have set : fs.type ≠ 0 := by
    rintro zero
    rw [zero] at negative
    exact absurd negative (by decide)
  have staged : typeStages osFsTypeGet fs = fs := by
    unfold typeStages
    rw [if_pos set]
  have value : (⟨true⟩ : FsBuild).typeValue fs.type = fs.type.toInt := rfl
  rw [fsTypeGet, staged, clampTypeName, value, if_neg (by omega), value]
  simp [tableAt, Int.not_le.mpr negative]

theorem fsTypeGet_negative_type_all_ones :
    (⟨⟨"nfs".toList, by decide⟩, 0xFFFFFFFF, []⟩ : FileSystem).type.toInt < 0 ∧
      fsTypeGet ⟨true⟩ id ⟨⟨"nfs".toList, by decide⟩, 0xFFFFFFFF, []⟩ = .error .outOfBounds :=
  ⟨by decide, fsTypeGet_negative_type _ _ (by decide)⟩

end Sigar
