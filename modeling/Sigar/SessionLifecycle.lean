import Sigar.NetIfList

namespace Sigar

/-! The session across calls: sigar_open, sigar_net_interface_list_get calls,
sigar_close. The session's buffer is the only heap block sigar_t keeps between calls,
and the socket the only descriptor a call opens; the list a call hands out owns its
own block and names. -/

/-- Every live block of the process lies below its next fresh address. -/
def Proc.Fresh (p : Proc) : Prop := ∀ a, p.nextBlock ≤ a → p.blocks a = none

/-- What a session holds of a process that started as `p₀`: it is well formed, its
buffer was allocated after `p₀`, and every other block is as in `p₀`. -/
def Owns (b : IfconfBuild) (p₀ : Proc) (s : Session) (p : Proc) : Prop :=
  SessionOk b s p ∧ p₀.nextBlock ≤ p.nextBlock ∧ (∀ a, s.ifconfBuf = some a → p₀.nextBlock ≤ a) ∧
    ∀ a, s.ifconfBuf ≠ some a → p.blocks a = p₀.blocks a

/-- A host that grants every allocation and whose failed calls set a nonzero errno. -/
structure IfListHost.Reliable (host : IfListHost) : Prop where
  grants : ∀ k, host.grants k = true
  socketErrno : ∀ e, host.socket = some e → e ≠ sigarOk
  ifconfErrno : ∀ k len e, (host.ifconf k len).errno = some e → e ≠ sigarOk

/-- What a list handed out by sigar_net_interface_list_get owns: a block of `size`
slots whose first `number` each hold a name strdup'd into it, or no block and no
name. -/
def IflistOwned (l : ResultList (List Char)) : Prop :=
  (l.data = .null ∧ l.number = 0) ∨
    ∃ slots, l.data = .block slots ∧ slots.length = l.size ∧ ∀ i < l.number, ∃ x, slots[i]? = some (some x)

/-- A granted realloc: a fresh block at the next address, the old one released. -/
theorem Proc.realloc_true {p q : Proc} {ptr r : Option Nat} {size : Nat}
    (run : p.realloc true ptr size = .ok (r, q)) :
    r = some p.nextBlock ∧ q.nextBlock = p.nextBlock + 1 ∧ q.fds = p.fds ∧
      ∀ a, q.blocks a = if a = p.nextBlock then some size else if ptr = some a then none else p.blocks a := by
  unfold Proc.realloc at run
  split at run
  · cases run
  · cases ptr <;> cases run <;> refine ⟨rfl, rfl, rfl, fun a => ?_⟩ <;>
      simp [Function.update_apply, Proc.release, eq_comm]

section Step

variable {b : IfconfBuild} {p₀ p p' : Proc} {s s' : Session} {lastlen : Nat}

/-- A granted realloc at the top of a pass keeps what the session holds. -/
theorem growIfconf_owns (fresh : p₀.Fresh) (owns : Owns b p₀ s p)
    (grown : growIfconf b true lastlen s p = .ok (s', p')) : Owns b p₀ s' p' ∧ p'.fds = p.fds := by
  obtain ⟨wellFormed, later, after, others⟩ := owns
  unfold growIfconf at grown
  split at grown
  · obtain ⟨⟨r, q⟩, run, same⟩ := Except.map_eq_ok.mp grown
    cases same
    obtain ⟨rfl, next, fds, blocks⟩ := Proc.realloc_true run
    have multiple : b.ifreqSize ∣ s.ifconfLen := by
      rcases wellFormed with ⟨_, empty⟩ | ⟨⟨_, _, _, multiple⟩, _⟩
      · rw [empty]; exact dvd_zero _
      · exact multiple
    have chunk := Nat.mul_pos b.ifreqSize_pos b.iflistMax_pos
    refine ⟨⟨.inr ⟨⟨p.nextBlock, rfl, by simp [blocks], dvd_add multiple (Dvd.intro _ rfl)⟩, ?_⟩, ?_, ?_,
      fun a other => ?_⟩, fds⟩
    · dsimp only; omega
    · dsimp only; omega
    · rintro a ⟨⟩
      exact later
    · have fresh_a : a ≠ p.nextBlock := fun same => other (by rw [same])
      rw [blocks, if_neg fresh_a]
      split
      · rename_i held
        exact (fresh a (after a held)).symm
      · exact others a ‹_›
  · cases grown
    exact ⟨⟨wellFormed, later, after, others⟩, rfl⟩

/-- What the tests after the ioctl can decide: retry or accept on the state they were
given, or free the buffer and fail with the ioctl's errno. -/
theorem ifconfVerdict_cases {reply : IfconfReply} {step : IfconfStep}
    (verdict : ifconfVerdict lastlen s p reply = .ok step) :
    (∃ l, step = .retry l s p) ∨ (∃ r, step = .done (.accept r s p)) ∨
      ∃ e q, reply.errno = some e ∧ p.free s.ifconfBuf = .ok q ∧ step = .done (.fail e s q) := by
  have length : (∃ l, lengthVerdict lastlen s p reply = .retry l s p) ∨
      ∃ r, lengthVerdict lastlen s p reply = .done (.accept r s p) := by
    unfold lengthVerdict
    split
    · exact .inr ⟨_, rfl⟩
    · split
      · exact .inl ⟨_, rfl⟩
      · exact .inr ⟨_, rfl⟩
  unfold ifconfVerdict at verdict
  split at verdict
  · split at verdict
    · obtain ⟨q, freed, rfl⟩ := Except.map_eq_ok.mp verdict
      exact .inr (.inr ⟨_, q, ‹_›, freed, rfl⟩)
    · cases verdict
      exact length.imp id .inl
  · cases verdict
    exact length.imp id .inl

/-- A pass retries or accepts on the state its realloc left, or frees that state's
buffer and fails with the errno of its ioctl. -/
theorem ifconfPass_cases {host : IfListHost} {k : Nat} {step : IfconfStep}
    (pass : ifconfPass b host k lastlen s p = .ok step) :
    ∃ s' p', growIfconf b (host.grants k) lastlen s p = .ok (s', p') ∧
      ((∃ l, step = .retry l s' p') ∨ (∃ r, step = .done (.accept r s' p')) ∨
        ∃ e q, (host.ifconf k s'.ifconfLen).errno = some e ∧ p'.free s'.ifconfBuf = .ok q ∧
          step = .done (.fail e s' q)) := by
  unfold ifconfPass at pass
  obtain ⟨⟨s', p'⟩, grown, rest⟩ := Except.bind_eq_ok.mp pass
  refine ⟨s', p', grown, ?_⟩
  by_cases stale : s'.ifconfBuf.any (fun a => (p'.blocks a).isNone)
  · simp [stale] at rest
  · simp only [stale] at rest
    exact ifconfVerdict_cases rest

/-- An invariant that the realloc at the top of every pass keeps holds of the state an
accepted answer comes with; a failure frees the buffer of a state that has it. -/
theorem ifconfLoop_invariant {host : IfListHost} (Inv : Session → Proc → Prop)
    (grow : ∀ {k lastlen s p s' p'}, Inv s p → growIfconf b (host.grants k) lastlen s p = .ok (s', p') →
      Inv s' p') :
    ∀ {fuel k lastlen s p last}, Inv s p → ifconfLoop b host fuel k lastlen s p = some (.ok last) →
      (∃ r s' p', last = .accept r s' p' ∧ Inv s' p') ∨
        ∃ e s' p' q k len, last = .fail e s' q ∧ (host.ifconf k len).errno = some e ∧ Inv s' p' ∧
          p'.free s'.ifconfBuf = .ok q
  | 0, _, _, _, _, _, _, run => by cases run
  | fuel + 1, k, lastlen, s, p, last, holds, run => by
    rcases pass : ifconfPass b host k lastlen s p with f | ⟨l, s1, p1⟩ | last'
    · simp [ifconfLoop, pass] at run
    · obtain ⟨s', p', grown, ⟨l', same⟩ | ⟨_, same⟩ | ⟨_, _, _, _, same⟩⟩ := ifconfPass_cases pass <;>
        cases same
      simp only [ifconfLoop, pass] at run
      exact ifconfLoop_invariant Inv grow (grow holds grown) run
    · simp only [ifconfLoop, pass, Option.some.injEq, Except.ok.injEq] at run
      subst run
      obtain ⟨s', p', grown, ⟨_, same⟩ | ⟨r, same⟩ | ⟨e, q, errno, freed, same⟩⟩ :=
        ifconfPass_cases pass <;>
        cases same
      · exact .inl ⟨r, s', p', rfl, grow holds grown⟩
      · exact .inr ⟨e, s', p', q, k, _, rfl, errno, grow holds grown, freed⟩

/-- Storing a name at data[number] keeps what the list owns. -/
theorem IflistOwned.store {l : ResultList (List Char)} {x : List Char} {data : Storage (List Char)}
    (owned : IflistOwned l) (stored : l.data.store l.number x = .ok data) :
    IflistOwned { l with data := data, number := l.number + 1 } := by
  rcases owned with ⟨null, -⟩ | ⟨slots, block, length, held⟩
  · simp [null, Storage.store] at stored
  · rw [block, Storage.store] at stored
    split at stored
    · rename_i inside
      cases stored
      refine .inr ⟨_, rfl, by rw [List.length_set, length], fun i (below : i < l.number + 1) => ?_⟩
      by_cases same : i = l.number
      · exact ⟨x, by rw [same, List.getElem?_set_self inside]⟩
      · obtain ⟨y, at_i⟩ := held i (by omega)
        exact ⟨y, by rw [List.getElem?_set_ne (Ne.symm same), at_i]⟩
    · cases stored

/-- A property that every store of the record loop keeps holds of the list it builds. -/
theorem collectNames_invariant {reply : IfconfReply} {buf : Option Nat} (Inv : ResultList (List Char) → Prop)
    (store : ∀ {l x data}, Inv l → l.data.store l.number x = .ok data →
      Inv { l with data := data, number := l.number + 1 }) :
    ∀ {js : List Nat} {l l' : ResultList (List Char)}, Inv l → collectNames b reply buf js l = .ok l' → Inv l'
  | [], _, _, holds, run => by
    cases run
    exact holds
  | j :: js, l, l', holds, run => by
    obtain ⟨ifr, -, rest⟩ := Except.bind_eq_ok.mp run
    split at rest
    · obtain ⟨data, stored, rest⟩ := Except.bind_eq_ok.mp rest
      exact collectNames_invariant Inv store (store holds stored) rest
    · exact collectNames_invariant Inv store holds rest

/-- With malloc granted, the list holds a block of `size` slots. -/
theorem iflistOf_block {buf : Option Nat} {reply : IfconfReply} {l : ResultList (List Char)}
    (built : iflistOf b true buf reply = .ok l) : ∃ slots, l.data = .block slots ∧ slots.length = l.size := by
  refine collectNames_invariant (fun l => ∃ slots, l.data = .block slots ∧ slots.length = l.size)
    (fun ⟨slots, block, length⟩ stored => ?_) ⟨_, rfl, List.length_replicate _ _⟩ built
  rw [block, Storage.store] at stored
  split at stored
  · cases stored
    exact ⟨_, rfl, (List.length_set _ _ _).trans length⟩
  · cases stored

theorem iflistOf_owned {granted : Bool} {buf : Option Nat} {reply : IfconfReply} {l : ResultList (List Char)}
    (built : iflistOf b granted buf reply = .ok l) : IflistOwned l :=
  collectNames_invariant IflistOwned IflistOwned.store
    (by cases granted <;> [exact .inl ⟨rfl, rfl⟩; exact .inr ⟨_, rfl, List.length_replicate _ _, nofun⟩]) built

/-- Every return leaves the caller's list owning what it owned, or the list the call built. -/
theorem netInterfaceListGet_owned {host : IfListHost} {fuel : Nat} {iflist : ResultList (List Char)}
    {r : IfListResult} (owned : IflistOwned iflist) (call : netInterfaceListGet b host fuel iflist s p = some (.ok r)) :
    IflistOwned r.iflist := by
  unfold netInterfaceListGet at call
  split at call
  · cases call
    exact owned
  · obtain ⟨last, -, result⟩ := Option.map_eq_some'.mp call
    rcases last with _ | (⟨_, _, _⟩ | ⟨_, _, _⟩)
    · cases result
    · obtain ⟨l, built, rfl⟩ := Except.map_eq_ok.mp result
      exact iflistOf_owned built
    · cases result
      exact owned

/-- On a reliable host a call returns SIGAR_OK only with the list built from the answer
the retry loop accepted. -/
theorem netInterfaceListGet_accepted {host : IfListHost} {fuel : Nat} {iflist l : ResultList (List Char)} {q : Proc}
    (reliable : host.Reliable) (call : netInterfaceListGet b host fuel iflist s p = some (.ok ⟨sigarOk, l, s', q⟩)) :
    ∃ reply q', ifconfLoop b host fuel 0 0 s p.openFd.2 = some (.ok (.accept reply s' q')) ∧
      iflistOf b host.dataGranted s'.ifconfBuf reply = .ok l ∧ q = q'.close p.openFd.1 := by
  unfold netInterfaceListGet at call
  split at call
  · rename_i e socket
    cases call
    exact absurd rfl (reliable.socketErrno _ socket)
  · obtain ⟨last, loop, result⟩ := Option.map_eq_some'.mp call
    rcases last with _ | (⟨reply, s1, q1⟩ | ⟨e, s1, q1⟩)
    · cases result
    · obtain ⟨_, built, same⟩ := Except.map_eq_ok.mp result
      cases same
      exact ⟨reply, q1, loop, built, rfl⟩
    · cases result
      rcases ifconfLoop_invariant (fun _ _ => True) (fun _ _ => trivial) trivial loop with
        ⟨_, _, _, same, -⟩ | ⟨_, _, _, _, k, len, same, errno, -, -⟩ <;> cases same
      exact absurd rfl (reliable.ifconfErrno k len _ errno)

/-- A call that returns SIGAR_OK on a reliable host leaves the session holding what it
held and the descriptors as they were (the socket it opened is closed), and hands out
a list that owns its block and names. -/
theorem netInterfaceListGet_owns {host : IfListHost} {fuel : Nat} {iflist l : ResultList (List Char)} {q : Proc}
    (fresh : p₀.Fresh) (reliable : host.Reliable) (owns : Owns b p₀ s p)
    (call : netInterfaceListGet b host fuel iflist s p = some (.ok ⟨sigarOk, l, s', q⟩)) :
    Owns b p₀ s' q ∧ q.fds = p.fds ∧ IflistOwned l := by
  obtain ⟨reply, q', loop, built, rfl⟩ := netInterfaceListGet_accepted reliable call
  have grow : ∀ {k lastlen t r t' r'}, Owns b p₀ t r ∧ r.fds = p.openFd.2.fds →
      growIfconf b (host.grants k) lastlen t r = .ok (t', r') → Owns b p₀ t' r' ∧ r'.fds = p.openFd.2.fds := by
    intro k _ _ _ _ _ ⟨holds, fds⟩ grown
    rw [reliable.grants] at grown
    obtain ⟨holds', fds'⟩ := growIfconf_owns fresh holds grown
    exact ⟨holds', fds'.trans fds⟩
  have opened : Owns b p₀ s p.openFd.2 ∧ p.openFd.2.fds = p.openFd.2.fds := ⟨owns, rfl⟩
  rcases ifconfLoop_invariant (fun t r => Owns b p₀ t r ∧ r.fds = p.openFd.2.fds) grow opened loop with
    ⟨_, _, _, same, owns', fds⟩ | ⟨_, _, _, _, _, _, same, -⟩ <;> cases same
  exact ⟨owns', by simp [Proc.close, fds, Proc.openFd], iflistOf_owned built⟩

/-- sigar_net_interface_list_destroy frees every name and the block of a list that
owns them. A list of size 0 it leaves as it is, so the only block that can stay live
is the zero-byte block malloc(0) gave a list of size 0. -/
theorem IflistOwned.destroy {l : ResultList (List Char)} (owned : IflistOwned l) :
    ∃ l', netInterfaceListDestroy l = .ok (l', sigarOk) ∧
      (l'.data.live → l' = l ∧ l.size = 0 ∧ l.data = .block []) := by
  by_cases sized : l.size = 0
  · refine ⟨l, by simp [netInterfaceListDestroy, listDestroyOwned, sized], fun live => ⟨rfl, sized, ?_⟩⟩
    rcases owned with ⟨null, -⟩ | ⟨slots, block, length, -⟩
    · simp [null, Storage.live] at live
    · rw [block, List.eq_nil_of_length_eq_zero (length.trans sized)]
  · rcases owned with ⟨null, none⟩ | ⟨slots, block, -, held⟩
    · exact ⟨⟨0, 0, .null⟩, by simp [netInterfaceListDestroy, listDestroyOwned, sized, null, none, freeElements,
        Storage.free], by simp [Storage.live]⟩
    · exact ⟨⟨0, 0, .freed⟩, by simp [netInterfaceListDestroy, listDestroyOwned, sized, block, freeElements_ok held,
        Storage.free], by simp [Storage.live]⟩

end Step

section Leak

variable {b : IfconfBuild} {p p' : Proc} {s s' : Session} {lastlen a len : Nat}

/-- The session and process an enumeration loop ends with. -/
def IfconfEnd.state : IfconfEnd → Session × Proc
  | .accept _ s p => (s, p)
  | .fail _ s p => (s, p)

/-- A block the session no longer points to: still live, below the next fresh address. -/
def Forgotten (a len : Nat) (s : Session) (p : Proc) : Prop :=
  p.blocks a = some len ∧ s.ifconfBuf ≠ some a ∧ a < p.nextBlock

theorem Proc.free_other {q : Proc} {ptr : Option Nat} (run : p.free ptr = .ok q) (other : ptr ≠ some a) :
    q.blocks a = p.blocks a ∧ q.nextBlock = p.nextBlock := by
  cases ptr with
  | none => cases run; exact ⟨rfl, rfl⟩
  | some c =>
    simp only [Proc.free] at run
    split at run
    · cases run
      exact ⟨Function.update_noteq (fun same => other (congrArg some same.symm)) _ _, rfl⟩
    · cases run

/-- No realloc, granted or refused, touches a forgotten block. -/
theorem growIfconf_forgotten {granted : Bool} (forgotten : Forgotten a len s p)
    (grown : growIfconf b granted lastlen s p = .ok (s', p')) : Forgotten a len s' p' := by
  obtain ⟨live, other, below⟩ := forgotten
  unfold growIfconf at grown
  split at grown
  · obtain ⟨⟨r, q⟩, run, same⟩ := Except.map_eq_ok.mp grown
    cases same
    cases granted
    · simp only [Proc.realloc, Bool.false_eq_true, if_false] at run
      split at run
      · cases run
      · cases run
        exact ⟨live, nofun, below⟩
    · obtain ⟨rfl, next, -, blocks⟩ := Proc.realloc_true run
      refine ⟨by rw [blocks, if_neg (by omega), if_neg other, live], ?_, by dsimp only; omega⟩
      rintro ⟨⟩
      omega
  · cases grown
    exact ⟨live, other, below⟩

/-- What a loop ends with, accepted or failed, still has the forgotten block. -/
theorem ifconfLoop_forgotten {host : IfListHost} {fuel k : Nat} {last : IfconfEnd}
    (forgotten : Forgotten a len s p) (run : ifconfLoop b host fuel k lastlen s p = some (.ok last)) :
    Forgotten a len last.state.1 last.state.2 := by
  rcases ifconfLoop_invariant (Forgotten a len) growIfconf_forgotten forgotten run with
    ⟨_, _, _, rfl, holds⟩ | ⟨_, _, _, _, _, _, rfl, -, ⟨live, other, below⟩, freed⟩
  · exact holds
  · obtain ⟨same, next⟩ := Proc.free_other freed other
    exact ⟨same.trans live, other, next ▸ below⟩

/-- The same from a pass whose realloc forgets the block. -/
theorem ifconfLoop_forgets {host : IfListHost} {fuel k : Nat} {last : IfconfEnd}
    (grown : growIfconf b (host.grants k) lastlen s p = .ok (s', p')) (forgotten : Forgotten a len s' p')
    (run : ifconfLoop b host fuel k lastlen s p = some (.ok last)) : Forgotten a len last.state.1 last.state.2 := by
  obtain ⟨fuel, rfl⟩ : ∃ f, fuel = f + 1 := ⟨fuel - 1, by cases fuel with | zero => cases run | succ => rfl⟩
  rcases pass : ifconfPass b host k lastlen s p with f | ⟨l, s1, p1⟩ | last'
  · simp [ifconfLoop, pass] at run
  · obtain ⟨_, _, grown', ⟨_, same⟩ | ⟨_, same⟩ | ⟨_, _, _, _, same⟩⟩ := ifconfPass_cases pass <;>
      cases same
    cases grown.symm.trans grown'
    simp only [ifconfLoop, pass] at run
    exact ifconfLoop_forgotten forgotten run
  · simp only [ifconfLoop, pass, Option.some.injEq, Except.ok.injEq] at run
    subst run
    obtain ⟨_, _, grown', ⟨_, same⟩ | ⟨_, same⟩ | ⟨_, q, _, freed, same⟩⟩ := ifconfPass_cases pass <;>
      cases same <;> cases grown.symm.trans grown'
    · exact forgotten
    · obtain ⟨live, other, below⟩ := forgotten
      obtain ⟨same, next⟩ := Proc.free_other freed other
      exact ⟨same.trans live, other, next ▸ below⟩

/-- sigar_close frees the session's buffer, never a block it forgot. -/
theorem sigarClose_forgotten (forgotten : Forgotten a len s p) (closed : sigarClose s p = .ok p') :
    p'.blocks a = some len := by
  obtain ⟨live, other, -⟩ := forgotten
  unfold sigarClose at closed
  split at closed
  · exact (Proc.free_other closed other).1.trans live
  · cases closed
    exact live

theorem SessionOk.held (wellFormed : SessionOk b s p) (held : s.ifconfBuf = some a) :
    p.blocks a = some s.ifconfLen ∧ 0 < s.ifconfLen := by
  rcases wellFormed with ⟨empty, -⟩ | ⟨⟨c, at_c, live, -⟩, positive⟩
  · simp [empty] at held
  · cases held.symm.trans at_c
    exact ⟨live, positive⟩

/-- From a session holding a buffer, a first pass that the kernel fills exactly is
retried with that buffer's length, and a refused realloc at the top of the second pass
leaves sigar->ifconf_buf NULL, one chunk longer, and the process as it was. -/
theorem refill_refused {host : IfListHost} (wellFormed : SessionOk b s p) (held : s.ifconfBuf = some a)
    (quiet : (host.ifconf 0 s.ifconfLen).errno = none) (full : (host.ifconf 0 s.ifconfLen).ifcLen = s.ifconfLen)
    (refused : host.grants 1 = false) :
    ifconfPass b host 0 0 s p.openFd.2 = .ok (.retry s.ifconfLen s p.openFd.2) ∧
      growIfconf b (host.grants 1) s.ifconfLen s p.openFd.2 =
        .ok (⟨none, s.ifconfLen + b.ifreqSize * b.iflistMax⟩, p.openFd.2) := by
  obtain ⟨live, positive⟩ := wellFormed.held held
  constructor
  · simp [ifconfPass, growIfconf, held, live, ifconfVerdict, quiet, lengthVerdict, full, Nat.ne_of_gt positive]
  · simp [growIfconf, refused, Nat.ne_of_gt positive, Proc.realloc, held, live]

/-- A refused realloc on a retry pass leaks the session's buffer. When the kernel fills
the buffer exactly, the call retries with a larger one; if that realloc is refused,
sigar->ifconf_buf becomes NULL while the old block stays live, and whatever the call
and a later sigar_close return, the block is still allocated and nothing points to it. -/
theorem netInterfaceListGet_refused_realloc_leaks {host : IfListHost} {fuel : Nat}
    {iflist : ResultList (List Char)} {r : IfListResult} (fresh : p.Fresh) (wellFormed : SessionOk b s p)
    (held : s.ifconfBuf = some a) (socket : host.socket = none) (quiet : (host.ifconf 0 s.ifconfLen).errno = none)
    (full : (host.ifconf 0 s.ifconfLen).ifcLen = s.ifconfLen) (refused : host.grants 1 = false)
    (call : netInterfaceListGet b host fuel iflist s p = some (.ok r)) :
    r.session.ifconfBuf ≠ some a ∧ r.proc.blocks a = some s.ifconfLen ∧
      ∀ p', sigarClose r.session r.proc = .ok p' → p'.blocks a = some s.ifconfLen := by
  obtain ⟨live, positive⟩ := wellFormed.held held
  have below : a < p.nextBlock := Nat.lt_of_not_le fun past => by simp [fresh a past] at live
  obtain ⟨first, forgets⟩ := refill_refused wellFormed held quiet full refused
  have forgotten : Forgotten a s.ifconfLen ⟨none, s.ifconfLen + b.ifreqSize * b.iflistMax⟩ p.openFd.2 :=
    ⟨live, nofun, below⟩
  unfold netInterfaceListGet at call
  rw [socket] at call
  obtain ⟨last, loop, result⟩ := Option.map_eq_some'.mp call
  obtain ⟨fuel, rfl⟩ : ∃ f, fuel = f + 1 := ⟨fuel - 1, by cases fuel with | zero => cases loop | succ => rfl⟩
  rw [ifconfLoop, first] at loop
  rcases last with _ | last
  · cases result
  have ended := ifconfLoop_forgets forgets forgotten loop
  have kept : Forgotten a s.ifconfLen r.session r.proc := by
    rcases last with ⟨_, _, _⟩ | ⟨_, _, _⟩
    · obtain ⟨_, -, same⟩ := Except.map_eq_ok.mp result
      cases same
      exact ended
    · cases result
      exact ended
  exact ⟨kept.2.1, kept.1, fun _ closed => sigarClose_forgotten kept closed⟩

/-- A session holding an 800-byte buffer at address 0; the kernel fills it, the second
realloc is refused, and the ioctl on the NULL buffer fails with EFAULT. -/
theorem netInterfaceListGet_refused_realloc_leaks_efault :
    Proc.Fresh ⟨Function.update (fun _ => none) 0 (some 800), 1, []⟩ ∧
      SessionOk ⟨40, 20, fun _ => true, by decide, by decide⟩ ⟨some 0, 800⟩
        ⟨Function.update (fun _ => none) 0 (some 800), 1, []⟩ ∧
      (⟨some 0, 800⟩ : Session).ifconfBuf = some 0 ∧
      (⟨none, fun k => k != 1, fun k len => if k = 0 then ⟨none, len, fun _ => default⟩
        else ⟨some 14, len, fun _ => default⟩, true⟩ : IfListHost).socket = none ∧
      ((⟨none, fun k => k != 1, fun k len => if k = 0 then ⟨none, len, fun _ => default⟩
        else ⟨some 14, len, fun _ => default⟩, true⟩ : IfListHost).ifconf 0 800).errno = none ∧
      ((⟨none, fun k => k != 1, fun k len => if k = 0 then ⟨none, len, fun _ => default⟩
        else ⟨some 14, len, fun _ => default⟩, true⟩ : IfListHost).ifconf 0 800).ifcLen = 800 ∧
      (⟨none, fun k => k != 1, fun k len => if k = 0 then ⟨none, len, fun _ => default⟩
        else ⟨some 14, len, fun _ => default⟩, true⟩ : IfListHost).grants 1 = false ∧
      netInterfaceListGet ⟨40, 20, fun _ => true, by decide, by decide⟩
          ⟨none, fun k => k != 1, fun k len => if k = 0 then ⟨none, len, fun _ => default⟩
            else ⟨some 14, len, fun _ => default⟩, true⟩ 2 ⟨0, 0, .null⟩ ⟨some 0, 800⟩
          ⟨Function.update (fun _ => none) 0 (some 800), 1, []⟩ =
        some (.ok ⟨14, ⟨0, 0, .null⟩, ⟨none, 1600⟩,
          ⟨Function.update (fun _ => none) 0 (some 800), 1, [0]⟩⟩) ∧
      ((⟨none, 1600⟩ : Session).ifconfBuf ≠ some 0 ∧
        (⟨Function.update (fun _ => none) 0 (some 800), 1, [0]⟩ : Proc).blocks 0 = some 800 ∧
        ∀ p', sigarClose ⟨none, 1600⟩ ⟨Function.update (fun _ => none) 0 (some 800), 1, [0]⟩ = .ok p' →
          p'.blocks 0 = some 800) :=
  have fresh : Proc.Fresh ⟨Function.update (fun _ => none) 0 (some 800), 1, []⟩ :=
    fun a past => Function.update_noteq (show a ≠ 0 by change 1 ≤ a at past; omega) (some 800) fun _ => none
  have wellFormed : SessionOk ⟨40, 20, fun _ => true, by decide, by decide⟩ ⟨some 0, 800⟩
      ⟨Function.update (fun _ => none) 0 (some 800), 1, []⟩ :=
    .inr ⟨⟨0, rfl, rfl, by decide⟩, by decide⟩
  have call : netInterfaceListGet ⟨40, 20, fun _ => true, by decide, by decide⟩
      ⟨none, fun k => k != 1, fun k len => if k = 0 then ⟨none, len, fun _ => default⟩
        else ⟨some 14, len, fun _ => default⟩, true⟩ 2 ⟨0, 0, .null⟩ ⟨some 0, 800⟩
      ⟨Function.update (fun _ => none) 0 (some 800), 1, []⟩ =
        some (.ok ⟨14, ⟨0, 0, .null⟩, ⟨none, 1600⟩,
          ⟨Function.update (fun _ => none) 0 (some 800), 1, [0]⟩⟩) := by
    rfl
  ⟨fresh, wellFormed, rfl, rfl, rfl, rfl, rfl, call,
    netInterfaceListGet_refused_realloc_leaks fresh wellFormed rfl rfl rfl rfl rfl call⟩

/-- A Linux kernel behind a refused realloc: the first query fills its buffer, the
allocator refuses the retry's realloc, and SIOCGIFCONF on the NULL buffer reports the
length of three records, as Linux does when ifc_buf is NULL. -/
def nullQueryHost : IfListHost :=
  ⟨none, fun k => k != 1, fun k len => if k = 0 then ⟨none, len, fun _ => default⟩
    else ⟨none, 120, fun _ => ⟨['l', 'o'], 2⟩⟩, true⟩

end Leak

/-- sigar_close on a state the session holds releases its buffer and nothing else. -/
theorem sigarClose_owns {b : IfconfBuild} {p₀ p : Proc} {s : Session} (fresh : p₀.Fresh) (owns : Owns b p₀ s p) :
    ∃ p', sigarClose s p = .ok p' ∧ p'.blocks = p₀.blocks ∧ p'.fds = p.fds := by
  obtain ⟨wellFormed, -, after, others⟩ := owns
  rcases wellFormed with ⟨empty, -⟩ | ⟨⟨a, held, live, -⟩, -⟩
  · exact ⟨p, by simp [sigarClose, empty], funext fun a => others a (by simp [empty]), rfl⟩
  · refine ⟨p.release a, by simp [sigarClose, held, Proc.free, live], funext fun a' => ?_, rfl⟩
    by_cases same : a' = a
    · subst same
      simp [Proc.release, fresh a' (after a' held)]
    · simp [Proc.release, Function.update_noteq same, others a' (by simp [held, Ne.symm same])]

end Sigar
