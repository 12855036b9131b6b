import Sigar.Libc

namespace Sigar

/-- Where a list's `data` points: NULL, a live block of slots (a slot holds what
was stored in it, or nothing yet), or a block already released. -/
inductive Storage (α : Type) where
  | null
  | block (slots : List (Option α))
  | freed
  deriving DecidableEq

namespace Storage

variable {α : Type}

/-- realloc(data, n slots); realloc of NULL is malloc, and a refused request
answers NULL. -/
def realloc (granted : Bool) (n : Nat) : Storage α → Except Fault (Storage α)
  | .null => .ok (if granted then .block (List.replicate n none) else .null)
  | .block slots =>
    .ok (if granted then .block (slots.take n ++ List.replicate (n - slots.length) none) else .null)
  | .freed => .error .useAfterFree

def free : Storage α → Except Fault (Storage α)
  | .null => .ok .null
  | .block _ => .ok .freed
  | .freed => .error .doubleFree

/-- data[i] = x. -/
def store (i : Nat) (x : α) : Storage α → Except Fault (Storage α)
  | .null => .error .nullDeref
  | .block slots => if i < slots.length then .ok (.block (slots.set i (some x))) else .error .outOfBounds
  | .freed => .error .useAfterFree

/-- Reading data[i] as a pointer, to pass on or to hand to free: the slot must hold
one. -/
def load (i : Nat) : Storage α → Except Fault α
  | .null => .error .nullDeref
  | .block slots =>
    match slots[i]? with
    | some (some x) => .ok x
    | _ => .error .outOfBounds
  | .freed => .error .useAfterFree

/-- Whether data points to a live block. -/
def live : Storage α → Bool
  | .block _ => true
  | _ => false

theorem realloc_live {s : Storage α} (live : s ≠ .freed) (granted : Bool) (n : Nat) :
    ∃ t, s.realloc granted n = .ok t ∧ (granted = false → t = .null) := by
  cases s with
  | freed => exact absurd rfl live
  | null | block => exact ⟨_, rfl, by rintro rfl; rfl⟩

end Storage

/-- The fields every sigar_*_list_t has: `number` elements stored in `size`
allocated slots. -/
structure ResultList (α : Type) where
  number : Nat
  size : Nat
  data : Storage α
  deriving DecidableEq

variable {α : Type}

theorem set_after_elements (xs : List α) (x : α) (k : Nat) :
    (xs.map some ++ List.replicate (k + 1) none).set xs.length (some x) =
      (xs ++ [x]).map some ++ List.replicate k none := by
  simp [List.set_append_right, List.replicate_succ]

/-- A list whose `size` slots hold `xs` first and nothing after them. -/
def ResultList.filled (xs : List α) (size : Nat) : ResultList α :=
  ⟨xs.length, size, .block (xs.map some ++ List.replicate (size - xs.length) none)⟩

theorem ResultList.filled_store {xs : List α} {size : Nat} (x : α) (room : xs.length < size) :
    (ResultList.filled xs size).data.store xs.length x = .ok (ResultList.filled (xs ++ [x]) size).data := by
  have spare : size - xs.length = (size - (xs.length + 1)) + 1 := by omega
  simp only [ResultList.filled, Storage.store, List.length_append, List.length_map, List.length_replicate]
  rw [if_pos (by omega), spare, set_after_elements]
  simp

/-- sigar_*_list_create for a list kind whose chunk constant is `chunk`. The
result of malloc is not checked. -/
def listCreate (chunk : Nat) (granted : Bool) : ResultList α × Nat :=
  ({ number := 0, size := chunk,
     data := if granted then .block (List.replicate chunk none) else .null }, sigarOk)

/-- sigar_*_list_grow: the result of realloc is stored in `data` unchecked and
`size` grows by one chunk either way. -/
def listGrow (chunk : Nat) (granted : Bool) (l : ResultList α) : Except Fault (ResultList α × Nat) := do
  let data ← l.data.realloc granted (l.size + chunk)
  return ({ l with data := data, size := l.size + chunk }, sigarOk)

/-- sigar_*_list_destroy for lists of plain values. -/
def listDestroy (l : ResultList α) : Except Fault (ResultList α × Nat) :=
  if l.size ≠ 0 then do
    let data ← l.data.free
    return ({ number := 0, size := 0, data := data }, sigarOk)
  else .ok (l, sigarOk)

/-- The loop `for (i=0; i<number; i++) free(data[i])` of the lists that own their
elements: each slot is read as a pointer. -/
def freeElements (data : Storage α) : Nat → Except Fault Unit
  | 0 => .ok ()
  | i + 1 => do
    let _ ← freeElements data i
    let _ ← data.load i
    return ()

/-- sigar_*_list_destroy for lists whose elements are heap strings
(sigar_proc_args_destroy, sigar_net_interface_list_destroy). -/
def listDestroyOwned (l : ResultList α) : Except Fault (ResultList α × Nat) :=
  if l.size ≠ 0 then do
    freeElements l.data l.number
    let data ← l.data.free
    return ({ number := 0, size := 0, data := data }, sigarOk)
  else .ok (l, sigarOk)

def procListCreate (procListMax : Nat) : Bool → ResultList α × Nat := listCreate procListMax
def procListGrow (procListMax : Nat) : Bool → ResultList α → Except Fault (ResultList α × Nat) :=
  listGrow procListMax
def procListDestroy : ResultList α → Except Fault (ResultList α × Nat) := listDestroy

def procArgsCreate (procArgsMax : Nat) : Bool → ResultList α × Nat := listCreate procArgsMax
def procArgsGrow (procArgsMax : Nat) : Bool → ResultList α → Except Fault (ResultList α × Nat) :=
  listGrow procArgsMax
def procArgsDestroy : ResultList α → Except Fault (ResultList α × Nat) := listDestroyOwned

def fileSystemListCreate (fsMax : Nat) : Bool → ResultList α × Nat := listCreate fsMax
def fileSystemListGrow (fsMax : Nat) : Bool → ResultList α → Except Fault (ResultList α × Nat) :=
  listGrow fsMax
def fileSystemListDestroy : ResultList α → Except Fault (ResultList α × Nat) := listDestroy

def cpuInfoListCreate (cpuInfoMax : Nat) : Bool → ResultList α × Nat := listCreate cpuInfoMax
def cpuInfoListGrow (cpuInfoMax : Nat) : Bool → ResultList α → Except Fault (ResultList α × Nat) :=
  listGrow cpuInfoMax
def cpuInfoListDestroy : ResultList α → Except Fault (ResultList α × Nat) := listDestroy

/-- sigar_cpu_list_create; its chunk is SIGAR_CPU_INFO_MAX, the cpu_info list's. -/
def cpuListCreate (cpuInfoMax : Nat) : Bool → ResultList α × Nat := listCreate cpuInfoMax
def cpuListGrow (cpuInfoMax : Nat) : Bool → ResultList α → Except Fault (ResultList α × Nat) :=
  listGrow cpuInfoMax
def cpuListDestroy : ResultList α → Except Fault (ResultList α × Nat) := listDestroy

def netRouteListCreate (netRouteListMax : Nat) : Bool → ResultList α × Nat := listCreate netRouteListMax
def netRouteListGrow (netRouteListMax : Nat) : Bool → ResultList α → Except Fault (ResultList α × Nat) :=
  listGrow netRouteListMax
def netRouteListDestroy : ResultList α → Except Fault (ResultList α × Nat) := listDestroy

def netInterfaceListCreate (netIflistMax : Nat) : Bool → ResultList α × Nat := listCreate netIflistMax
def netInterfaceListGrow (netIflistMax : Nat) : Bool → ResultList α → Except Fault (ResultList α × Nat) :=
  listGrow netIflistMax
def netInterfaceListDestroy : ResultList α → Except Fault (ResultList α × Nat) := listDestroyOwned

def netConnectionListCreate (netConnlistMax : Nat) : Bool → ResultList α × Nat := listCreate netConnlistMax
def netConnectionListGrow (netConnlistMax : Nat) :
    Bool → ResultList α → Except Fault (ResultList α × Nat) :=
  listGrow netConnlistMax
def netConnectionListDestroy : ResultList α → Except Fault (ResultList α × Nat) := listDestroy

def whoListCreate (whoListMax : Nat) : Bool → ResultList α × Nat := listCreate whoListMax
def whoListGrow (whoListMax : Nat) : Bool → ResultList α → Except Fault (ResultList α × Nat) :=
  listGrow whoListMax
def whoListDestroy : ResultList α → Except Fault (ResultList α × Nat) := listDestroy

/-- The nine kinds of result list. -/
inductive ListKind
  | proc | procArgs | fileSystem | cpuInfo | cpu | netRoute | netInterface | netConnection | who
  deriving DecidableEq, Repr

namespace ListKind

/-- The kind's create, given its chunk constant. -/
def create : ListKind → Nat → Bool → ResultList α × Nat
  | proc => procListCreate | procArgs => procArgsCreate | fileSystem => fileSystemListCreate
  | cpuInfo => cpuInfoListCreate | cpu => cpuListCreate | netRoute => netRouteListCreate
  | netInterface => netInterfaceListCreate | netConnection => netConnectionListCreate
  | who => whoListCreate

def grow : ListKind → Nat → Bool → ResultList α → Except Fault (ResultList α × Nat)
  | proc => procListGrow | procArgs => procArgsGrow | fileSystem => fileSystemListGrow
  | cpuInfo => cpuInfoListGrow | cpu => cpuListGrow | netRoute => netRouteListGrow
  | netInterface => netInterfaceListGrow | netConnection => netConnectionListGrow
  | who => whoListGrow

def destroy : ListKind → ResultList α → Except Fault (ResultList α × Nat)
  | proc => procListDestroy | procArgs => procArgsDestroy | fileSystem => fileSystemListDestroy
  | cpuInfo => cpuInfoListDestroy | cpu => cpuListDestroy | netRoute => netRouteListDestroy
  | netInterface => netInterfaceListDestroy | netConnection => netConnectionListDestroy
  | who => whoListDestroy

/-- Whether the kind's destroy frees each element first. -/
def ownsElements : ListKind → Bool
  | procArgs | netInterface => true
  | _ => false

/-- Modelled from the spec: the SIGAR_*_LIST_GROW macros are defined in
sigar_private.h, which is not under src/. Each is the grow-when-full step that
precedes an append: the kind's sigar_*_list_grow when number >= size. -/
def growWhenFull (kind : ListKind) (chunk : Nat) (granted : Bool) (l : ResultList α) :
    Except Fault (ResultList α) :=
  if l.size ≤ l.number then Prod.fst <$> kind.grow chunk granted l else .ok l

/-- One append as the callers write it: the grow-when-full step, then
`data[number++] = x`. -/
def append (kind : ListKind) (chunk : Nat) (granted : Bool) (l : ResultList α) (x : α) :
    Except Fault (ResultList α) := do
  let l ← kind.growWhenFull chunk granted l
  let data ← l.data.store l.number x
  return { l with data := data, number := l.number + 1 }

/-- Appends in order, the allocator granting every request. -/
def appendAll (kind : ListKind) (chunk : Nat) (l : ResultList α) : List α → Except Fault (ResultList α)
  | [] => .ok l
  | x :: xs => do appendAll kind chunk (← kind.append chunk true l x) xs

@[simp] theorem create_eq (kind : ListKind) : kind.create (α := α) = listCreate := by
  cases kind <;> rfl

@[simp] theorem grow_eq (kind : ListKind) : kind.grow (α := α) = listGrow := by
  cases kind <;> rfl

theorem destroy_eq (kind : ListKind) :
    kind.destroy (α := α) = if kind.ownsElements then listDestroyOwned else listDestroy := by
  cases kind <;> rfl

theorem create_status (kind : ListKind) (chunk : Nat) (granted : Bool) :
    (kind.create (α := α) chunk granted).2 = sigarOk := by
  simp [listCreate]

/-- Whatever the allocator answers, create and grow report SIGAR_OK. A refused
malloc leaves `size` slots promised over NULL; a refused realloc keeps `number`,
adds a chunk to `size` and drops the only pointer to the stored elements. -/
theorem allocation_failure_unreported (kind : ListKind) (chunk : Nat) (granted : Bool)
    (l : ResultList α) (live : l.data ≠ .freed) :
    (kind.create (α := α) chunk granted).2 = sigarOk ∧
    (∃ grown, kind.grow chunk granted l = .ok (grown, sigarOk) ∧
      grown.number = l.number ∧ grown.size = l.size + chunk) ∧
    (granted = false →
      (kind.create (α := α) chunk granted).1 = { number := 0, size := chunk, data := .null } ∧
      kind.grow chunk granted l = .ok ({ l with size := l.size + chunk, data := .null }, sigarOk)) := by
  obtain ⟨data, realloc, refused⟩ := l.data.realloc_live live granted (l.size + chunk)
  have grown : kind.grow chunk granted l = .ok ({ l with data := data, size := l.size + chunk }, sigarOk) := by
    simp [listGrow, realloc]
  refine ⟨create_status kind chunk granted, ⟨_, grown, rfl, rfl⟩, ?_⟩
  rintro rfl
  exact ⟨by simp [listCreate], by rw [grown, refused rfl]⟩

end ListKind

theorem ListKind.allocation_failure_unreported_proc :
    ({ number := 1, size := 1, data := .block [some 7] } : ResultList Nat).data ≠ .freed ∧
    ((ListKind.proc.create 1 false : ResultList Nat × Nat).2 = sigarOk ∧
      (∃ grown, ListKind.proc.grow 1 false ({ number := 1, size := 1, data := .block [some 7] } : ResultList Nat) =
          .ok (grown, sigarOk) ∧ grown.number = 1 ∧ grown.size = 1 + 1) ∧
      (false = false →
        (ListKind.proc.create 1 false : ResultList Nat × Nat).1 = { number := 0, size := 1, data := .null } ∧
        ListKind.proc.grow 1 false ({ number := 1, size := 1, data := .block [some 7] } : ResultList Nat) =
          .ok ({ number := 1, size := 1 + 1, data := .null }, sigarOk))) :=
  ⟨by decide, ListKind.allocation_failure_unreported .proc 1 false _ (by decide)⟩

/-- Growing once from NULL with the allocator refusing: SIGAR_OK, and the element
stored before is gone with the block. -/
theorem ListKind.proc_grow_refused_reports_ok :
    ListKind.proc.grow 1 false ({ number := 1, size := 1, data := .block [some 7] } : ResultList Nat) =
      .ok ({ number := 1, size := 2, data := .null }, sigarOk) := rfl

/-- What create and the grow-then-append steps keep true of a list that holds
`xs`: a live block of exactly `size` slots with the elements first, and `size` the
least positive multiple of the chunk that holds them. -/
structure Chunked (chunk : Nat) (xs : List α) (l : ResultList α) : Prop where
  number_eq : l.number = xs.length
  data_eq : l.data = .block (xs.map some ++ List.replicate (l.size - xs.length) none)
  fits : xs.length ≤ l.size
  dvd : chunk ∣ l.size
  covers : chunk ≤ l.size
  least : l.size = chunk ∨ l.size < xs.length + chunk

theorem chunked_create (kind : ListKind) {chunk : Nat} :
    Chunked chunk ([] : List α) (kind.create chunk true).1 := by
  rw [ListKind.create_eq]
  exact ⟨rfl, by simp [listCreate], Nat.zero_le _, dvd_refl _, le_refl _, Or.inl rfl⟩

theorem Storage.store_block {slots : List (Option α)} {i : Nat} (x : α) (inside : i < slots.length) :
    (Storage.block slots).store i x = .ok (.block (slots.set i (some x))) := by
  simp [Storage.store, inside]

/-- The grow-when-full step leaves room for one more element and keeps the layout. -/
theorem Chunked.growWhenFull {chunk : Nat} {xs : List α} {l : ResultList α} (kind : ListKind)
    (inv : Chunked chunk xs l) :
    ∃ size, kind.growWhenFull chunk true l =
        .ok ⟨l.number, size, .block (xs.map some ++ List.replicate (size - xs.length) none)⟩ ∧
      (size = l.size ∧ xs.length < l.size ∨ l.size = xs.length ∧ size = l.size + chunk) := by
  obtain ⟨number, data, fits, dvd, covers, least⟩ := inv
  by_cases full : l.size ≤ l.number
  · have same : l.size = xs.length := by omega
    refine ⟨xs.length + chunk, ?_, Or.inr ⟨same, by rw [same]⟩⟩
    have short : (xs.map some).length ≤ xs.length + chunk := by simp
    simp [ListKind.growWhenFull, number, listGrow, data, same, Storage.realloc, List.take_of_length_le short]
  · exact ⟨l.size, by simp [ListKind.growWhenFull, full, ← data], Or.inl ⟨rfl, by omega⟩⟩

/-- One grow-then-append step keeps the invariant. -/
theorem Chunked.append {chunk : Nat} {xs : List α} {l : ResultList α} (kind : ListKind)
    (inv : Chunked chunk xs l) (positive : 0 < chunk) (x : α) :
    ∃ l', kind.append chunk true l x = .ok l' ∧ Chunked chunk (xs ++ [x]) l' := by
  obtain ⟨size, grown, growth⟩ := inv.growWhenFull kind
  have room : xs.length < size := by omega
  have spare : size - xs.length = (size - (xs.length + 1)) + 1 := by omega
  refine ⟨⟨l.number + 1, size, .block ((xs ++ [x]).map some ++ List.replicate (size - (xs.length + 1)) none)⟩,
    ?_, ?_⟩
  · rw [ListKind.append, grown, Except.ok_bind, inv.number_eq, spare, Storage.store_block x (by simp),
      set_after_elements]
    rfl
  · have least := inv.least
    have covers := inv.covers
    have length : (xs ++ [x]).length = xs.length + 1 := List.length_append xs [x]
    refine ⟨by rw [length, inv.number_eq], by rw [length], show _ ≤ size by omega, ?_, show chunk ≤ size by omega,
      show size = chunk ∨ size < _ by omega⟩
    rcases growth with ⟨rfl, _⟩ | ⟨_, rfl⟩
    · exact inv.dvd
    · exact Nat.dvd_add_self_right.mpr inv.dvd
/-- Any run of grow-then-append steps keeps the invariant. -/
theorem Chunked.appendAll {chunk : Nat} {xs : List α} {l : ResultList α} (kind : ListKind)
    (inv : Chunked chunk xs l) (positive : 0 < chunk) (ys : List α) :
    ∃ l', kind.appendAll chunk l ys = .ok l' ∧ Chunked chunk (xs ++ ys) l' := by
  induction ys generalizing xs l with
  | nil => exact ⟨l, rfl, by simpa using inv⟩
  | cons y ys ih =>
    obtain ⟨next, step, nextInv⟩ := inv.append kind positive y
    obtain ⟨last, run, lastInv⟩ := ih nextInv
    exact ⟨last, by rw [ListKind.appendAll, step]; exact run, by simpa using lastInv⟩

/-- The capacity the invariant pins down, as the ceiling formula. -/
theorem Chunked.size_eq {chunk : Nat} {xs : List α} {l : ResultList α}
    (inv : Chunked chunk xs l) (positive : 0 < chunk) :
    l.size = chunk * max 1 ((xs.length + chunk - 1) / chunk) := by
  obtain ⟨c, hc⟩ := inv.dvd
  have covers := inv.covers
  have fits := inv.fits
  have least := inv.least
  rw [hc] at covers fits least ⊢
  have one : 1 ≤ c := by
    rcases Nat.eq_zero_or_pos c with zero | pos
    · subst zero; omega
    · exact pos
  rcases Nat.eq_zero_or_pos xs.length with empty | nonempty
  · have single : c = 1 := by
      rcases least with same | below
      · exact (Nat.mul_right_eq_self_iff positive).mp same
      · have := Nat.mul_le_mul_left chunk one; omega
    rw [empty, single, Nat.div_eq_of_lt (by omega), max_eq_left (Nat.zero_le 1)]
  · have ceil : (xs.length + chunk - 1) / chunk = c := by
      apply Nat.div_eq_of_lt_le
      · rcases least with same | below
        · rw [Nat.mul_comm, same]; omega
        · rw [Nat.mul_comm]; omega
      · rw [Nat.succ_mul, Nat.mul_comm]; omega
    rw [ceil, max_eq_right one]

theorem freeElements_ok {slots : List (Option α)} {n : Nat}
    (stored : ∀ i < n, ∃ x, slots[i]? = some (some x)) : freeElements (.block slots) n = .ok () := by
  induction n with
  | zero => rfl
  | succ n ih =>
    obtain ⟨x, at_i⟩ := stored n (Nat.lt_succ_self n)
    have loaded : (Storage.block slots).load n = .ok x := by simp only [Storage.load, at_i]
    rw [freeElements, ih (fun i lt => stored i (by omega)), Except.ok_bind, loaded, Except.ok_bind]
    rfl

/-- Destroying a list that satisfies the invariant releases its block; destroying
it again changes nothing. -/
theorem Chunked.destroy {chunk : Nat} {xs : List α} {l : ResultList α} (kind : ListKind)
    (inv : Chunked chunk xs l) (positive : 0 < chunk) :
    kind.destroy l = .ok ({ number := 0, size := 0, data := .freed }, sigarOk) := by
  have sized : l.size ≠ 0 := by have := inv.covers; omega
  have stored : ∀ i < l.number, ∃ x, (xs.map some ++ List.replicate (l.size - xs.length) none)[i]? =
      some (some x) := by
    intro i lt
    rw [inv.number_eq] at lt
    have inside : i < (xs.map some).length := by simpa using lt
    exact ⟨xs[i], by rw [List.getElem?_append_left inside]; simp [lt]⟩
  rw [ListKind.destroy_eq]
  split
  · simp [listDestroyOwned, sized, inv.data_eq, freeElements_ok stored, Storage.free]
  · simp [listDestroy, sized, inv.data_eq, Storage.free]

theorem ListKind.destroy_destroyed (kind : ListKind) :
    kind.destroy ({ number := 0, size := 0, data := .freed } : ResultList α) =
      .ok ({ number := 0, size := 0, data := .freed }, sigarOk) := by
  cases kind <;> rfl

/-- Create, then `n` grow-then-append steps with every allocation granted: the
count never passes the capacity, the elements sit in order at the front, the
capacity is the least positive multiple of the chunk that holds them, and destroy
empties the list once and for all. -/
theorem ListKind.create_append_destroy (kind : ListKind) {chunk : Nat} (positive : 0 < chunk)
    (xs : List α) :
    (∀ k ≤ xs.length, ∃ l, kind.appendAll chunk (kind.create chunk true).1 (xs.take k) = .ok l ∧
      l.number ≤ l.size) ∧
    ∃ l slots, kind.appendAll chunk (kind.create chunk true).1 xs = .ok l ∧
      l.number = xs.length ∧ l.size = chunk * max 1 ((xs.length + chunk - 1) / chunk) ∧
      l.data = .block slots ∧ slots.take xs.length = xs.map some ∧
      kind.destroy l = .ok ({ number := 0, size := 0, data := .freed }, sigarOk) ∧
      kind.destroy ({ number := 0, size := 0, data := .freed } : ResultList α) =
        .ok ({ number := 0, size := 0, data := .freed }, sigarOk) := by
  constructor
  · intro k _
    obtain ⟨l, run, inv⟩ := (chunked_create kind).appendAll kind positive (xs.take k)
    exact ⟨l, run, inv.number_eq ▸ by simpa using inv.fits⟩
  · obtain ⟨l, run, inv⟩ := (chunked_create kind).appendAll kind positive xs
    simp only [List.nil_append] at inv
    exact ⟨l, _, run, inv.number_eq, inv.size_eq positive, inv.data_eq, by simp,
      inv.destroy kind positive, kind.destroy_destroyed⟩

theorem ListKind.create_append_destroy_who :
    0 < 2 ∧
    ((∀ k ≤ [1, 2, 3].length, ∃ l, ListKind.who.appendAll 2 (ListKind.who.create 2 true).1
        ([1, 2, 3].take k) = .ok l ∧ l.number ≤ l.size) ∧
      ∃ (l : ResultList Nat) (slots : List (Option Nat)), ListKind.who.appendAll 2 (ListKind.who.create 2 true).1 [1, 2, 3] = .ok l ∧
        l.number = [1, 2, 3].length ∧ l.size = 2 * max 1 (([1, 2, 3].length + 2 - 1) / 2) ∧
        l.data = .block slots ∧ slots.take [1, 2, 3].length = [1, 2, 3].map some ∧
        ListKind.who.destroy l = .ok ({ number := 0, size := 0, data := .freed }, sigarOk) ∧
        ListKind.who.destroy ({ number := 0, size := 0, data := .freed } : ResultList Nat) =
          .ok ({ number := 0, size := 0, data := .freed }, sigarOk)) :=
  ⟨by decide, ListKind.create_append_destroy ListKind.who (by decide) [1, 2, 3]⟩

end Sigar
