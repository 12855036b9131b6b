import Sigar.NetIfList

namespace Sigar

section Kernel

variable {R len lastlen : Nat} {o : Overflow} {table : List Ifreq} {s : Session} {p : Proc}

theorem kernelIfconf_fits (multiple : R ∣ len) (fits : R * table.length < len) :
    kernelIfconf R o table len = ⟨none, R * table.length, fun j => table.getD j default⟩ := by
  have below : table.length < len / R := (Nat.lt_div_iff_mul_lt multiple _).mpr fits
  cases o with
  | truncate => simp [kernelIfconf, Nat.min_eq_left below.le]
  | einval => simp [kernelIfconf, Nat.not_lt.mpr fits.le]

/-- A table that does not fit is answered with the whole buffer, successfully or
with EINVAL. -/
theorem kernelIfconf_full (multiple : R ∣ len) (full : len ≤ R * table.length) :
    (kernelIfconf R o table len).ifcLen = len ∧
      ((kernelIfconf R o table len).errno = none ∨ (kernelIfconf R o table len).errno = some einval) := by
  cases o with
  | truncate =>
    have atMost : len / R ≤ table.length := Nat.div_le_of_le_mul full
    simp [kernelIfconf, Nat.min_eq_right atMost, Nat.mul_div_cancel' multiple]
  | einval =>
    simp only [kernelIfconf]
    split
    · simp
    · simp; omega

theorem ifconfVerdict_accept (multiple : R ∣ s.ifconfLen) (fits : R * table.length < s.ifconfLen) :
    ifconfVerdict lastlen s p (kernelIfconf R o table s.ifconfLen) =
      .ok (.done (.accept (kernelIfconf R o table s.ifconfLen) s p)) := by
  rw [kernelIfconf_fits multiple fits]
  simp [ifconfVerdict, lengthVerdict, fits]

/-- A full answer on a buffer longer than the last one tried is retried, under
either overflow convention. -/
theorem ifconfVerdict_retry (multiple : R ∣ s.ifconfLen) (full : s.ifconfLen ≤ R * table.length)
    (longer : lastlen < s.ifconfLen) :
    ifconfVerdict lastlen s p (kernelIfconf R o table s.ifconfLen) = .ok (.retry s.ifconfLen s p) := by
  obtain ⟨length, errno⟩ := kernelIfconf_full (o := o) multiple full
  have retried : lengthVerdict lastlen s p (kernelIfconf R o table s.ifconfLen) = .retry s.ifconfLen s p := by
    simp [lengthVerdict, length, Nat.ne_of_gt longer]
  rcases errno with quiet | invalid
  · simp [ifconfVerdict, quiet, retried]
  · simp [ifconfVerdict, invalid, retried, length, Nat.ne_of_lt longer]

end Kernel

/-- The buffer a pass queries with: live, and at least 1 + k·SIGAR_NET_IFLIST_MAX
records long. -/
def Grown (b : IfconfBuild) (k : Nat) (s : Session) (p : Proc) : Prop :=
  LiveBuffer b s p ∧ b.ifreqSize * (1 + b.iflistMax * k) ≤ s.ifconfLen

/-- The state before pass `k` of a call that started from a well-formed session:
the session itself on the first pass, and after that the buffer the previous pass
queried with, whose length is lastlen. -/
def PassReady (b : IfconfBuild) (k lastlen : Nat) (s : Session) (p : Proc) : Prop :=
  (k = 0 ∧ lastlen = 0 ∧ SessionOk b s p) ∨ (∃ j, k = j + 1 ∧ lastlen = s.ifconfLen ∧ Grown b j s p)

section Pass

variable {b : IfconfBuild} {k lastlen : Nat} {s : Session} {p : Proc}

/-- A granted realloc at the top of a pass leaves a live buffer one chunk longer. -/
theorem growIfconf_granted (grows : s.ifconfBuf = none ∨ lastlen ≠ 0)
    (live : ∀ a, s.ifconfBuf = some a → (p.blocks a).isSome) (multiple : b.ifreqSize ∣ s.ifconfLen) :
    ∃ s' p', growIfconf b true lastlen s p = .ok (s', p') ∧ LiveBuffer b s' p' ∧
      s'.ifconfLen = s.ifconfLen + b.ifreqSize * b.iflistMax ∧ p'.fds = p.fds := by
  obtain ⟨q, run, fds⟩ := p.realloc_granted (s.ifconfLen + b.ifreqSize * b.iflistMax) live
  exact ⟨⟨some q.nextBlock, s.ifconfLen + b.ifreqSize * b.iflistMax⟩,
    { q with blocks := Function.update q.blocks q.nextBlock (some (s.ifconfLen + b.ifreqSize * b.iflistMax)),
             nextBlock := q.nextBlock + 1 },
    by simp [growIfconf, grows, run], ⟨q.nextBlock, rfl, by simp, dvd_add multiple (Dvd.intro _ rfl)⟩, rfl, fds⟩

theorem PassReady.grow (ready : PassReady b k lastlen s p) :
    ∃ s' p', growIfconf b true lastlen s p = .ok (s', p') ∧ Grown b k s' p' ∧
      lastlen < s'.ifconfLen ∧ p'.fds = p.fds := by
  have chunk : 0 < b.ifreqSize * b.iflistMax := Nat.mul_pos b.ifreqSize_pos b.iflistMax_pos
  rcases ready with ⟨rfl, rfl, (⟨fresh, empty⟩ | ⟨⟨a, at_a, sized, multiple⟩, positive⟩)⟩ |
      ⟨j, rfl, rfl, ⟨a, at_a, sized, multiple⟩, bound⟩
  · obtain ⟨s', p', run, live, length, fds⟩ :=
      growIfconf_granted (Or.inl fresh : s.ifconfBuf = none ∨ (0 : Nat) ≠ 0) (by simp [fresh]) (by simp [empty])
    refine ⟨s', p', run, ⟨live, ?_⟩, by omega, fds⟩
    rw [length, empty, Nat.mul_zero, Nat.add_zero, Nat.mul_one, Nat.zero_add]
    exact Nat.le_mul_of_pos_right _ b.iflistMax_pos
  · refine ⟨s, p, by simp [growIfconf, at_a], ⟨⟨a, at_a, sized, multiple⟩, ?_⟩, positive, rfl⟩
    simpa using Nat.le_of_dvd positive multiple
  · have positive : 0 < s.ifconfLen := Nat.lt_of_lt_of_le (Nat.mul_pos b.ifreqSize_pos (by omega)) bound
    obtain ⟨s', p', run, live, length, fds⟩ :=
      growIfconf_granted (p := p) (Or.inr (Nat.ne_of_gt positive)) (by simp [at_a, sized]) multiple
    refine ⟨s', p', run, ⟨live, ?_⟩, by omega, fds⟩
    calc b.ifreqSize * (1 + b.iflistMax * (j + 1))
        = b.ifreqSize * (1 + b.iflistMax * j) + b.ifreqSize * b.iflistMax := by
          rw [Nat.mul_succ, ← Nat.add_assoc, Nat.mul_add b.ifreqSize (1 + _)]
      _ ≤ s'.ifconfLen := by rw [length]; exact Nat.add_le_add_right bound _

/-- What one pass does against a kernel answering from a table: accept the answer
when the table fits the grown buffer, retry with that buffer's length when it does
not. -/
theorem PassReady.pass {host : IfListHost} {o : Overflow} {table : List Ifreq}
    (ready : PassReady b k lastlen s p) (granted : host.grants k = true)
    (kernel : host.ifconf k = kernelIfconf b.ifreqSize o table) :
    ∃ s' p', Grown b k s' p' ∧ p'.fds = p.fds ∧
      ((b.ifreqSize * table.length < s'.ifconfLen ∧
        ifconfPass b host k lastlen s p = .ok (.done (.accept (kernelIfconf b.ifreqSize o table s'.ifconfLen) s' p'))) ∨
       (s'.ifconfLen ≤ b.ifreqSize * table.length ∧
        ifconfPass b host k lastlen s p = .ok (.retry s'.ifconfLen s' p'))) := by
  obtain ⟨s', p', run, grown, longer, fds⟩ := ready.grow
  obtain ⟨a, at_a, sized, multiple⟩ := grown.1
  have queried : ifconfPass b host k lastlen s p =
      ifconfVerdict lastlen s' p' (kernelIfconf b.ifreqSize o table s'.ifconfLen) := by
    simp [ifconfPass, granted, run, at_a, sized, kernel]
  refine ⟨s', p', grown, fds, ?_⟩
  rcases Nat.lt_or_ge (b.ifreqSize * table.length) s'.ifconfLen with fits | full
  · exact .inl ⟨fits, queried.trans (ifconfVerdict_accept multiple fits)⟩
  · exact .inr ⟨full, queried.trans (ifconfVerdict_retry multiple full longer)⟩

end Pass

/-- Against kernels whose tables never hold more than M records, from any pass the
loop can reach it accepts by pass M / SIGAR_NET_IFLIST_MAX + 1, with a table that
fits the buffer. -/
theorem PassReady.loop {b : IfconfBuild} {host : IfListHost} {o : Overflow} {tables : Nat → List Ifreq}
    {M : Nat} (bounded : ∀ k, (tables k).length ≤ M) (granted : ∀ k, host.grants k = true)
    (kernel : ∀ k, host.ifconf k = kernelIfconf b.ifreqSize o (tables k)) (fuel : Nat) :
    ∀ {k lastlen s p}, PassReady b k lastlen s p → k ≤ M / b.iflistMax + 1 →
      M / b.iflistMax + 2 ≤ k + fuel →
      ∃ k' s' p', k' ≤ M / b.iflistMax + 1 ∧ Grown b k' s' p' ∧ p'.fds = p.fds ∧
        b.ifreqSize * (tables k').length < s'.ifconfLen ∧
        ifconfLoop b host fuel k lastlen s p =
          some (.ok (.accept (kernelIfconf b.ifreqSize o (tables k') s'.ifconfLen) s' p')) := by
  induction fuel with
  | zero => intro _ _ _ _ _ bound enough; omega
  | succ fuel ih =>
    intro k lastlen s p ready bound enough
    obtain ⟨s', p', grown, fds, ⟨fits, run⟩ | ⟨full, run⟩⟩ := ready.pass (granted k) (kernel k)
    · exact ⟨k, s', p', bound, grown, fds, fits, by simp [ifconfLoop, run]⟩
    · have scaled : b.ifreqSize * (1 + b.iflistMax * k) ≤ b.ifreqSize * M :=
        grown.2.trans (full.trans (Nat.mul_le_mul_left _ (bounded k)))
      have below : 1 + b.iflistMax * k ≤ M := Nat.le_of_mul_le_mul_left scaled b.ifreqSize_pos
      have next : k ≤ M / b.iflistMax :=
        (Nat.le_div_iff_mul_le b.iflistMax_pos).mpr (by rw [Nat.mul_comm]; omega)
      obtain ⟨k', s'', p'', bound', grown', fds', fits', loop⟩ :=
        ih (.inr ⟨k, rfl, rfl, grown⟩) (by omega) (by omega)
      exact ⟨k', s'', p'', bound', grown', fds'.trans fds, fits', by simp [ifconfLoop, run, loop]⟩

/-- Over a live buffer, the record loop stores the kept names after those already
there. -/
theorem collectNames_filled (b : IfconfBuild) (reply : IfconfReply) (a : Nat) (js : List Nat) :
    ∀ {names : List (List Char)} {size : Nat}, names.length + js.length ≤ size →
      collectNames b reply (some a) js (ResultList.filled names size) =
        .ok (ResultList.filled (names ++ ((js.map reply.ifreq).filter b.keep).map Ifreq.name) size) := by
  induction js with
  | nil => intro names size _; simp [collectNames]
  | cons j js ih =>
    intro names size room
    simp only [List.length_cons] at room
    by_cases kept : b.keep (reply.ifreq j)
    · have stored := ResultList.filled_store (reply.ifreq j).name (show names.length < size by omega)
      have next := @ih (names ++ [(reply.ifreq j).name]) size (by simp; omega)
      simp only [collectNames, readIfreq, Except.ok_bind, kept, if_true]
      have grown : (⟨names.length + 1, (ResultList.filled names size).size,
          (ResultList.filled (names ++ [(reply.ifreq j).name]) size).data⟩ : ResultList (List Char)) =
          ResultList.filled (names ++ [(reply.ifreq j).name]) size := by
        simp only [ResultList.filled, List.length_append, List.length_singleton]
      rw [show (ResultList.filled names size).number = names.length from rfl, stored, Except.ok_bind, grown, next,
        List.map_cons, List.filter_cons_of_pos kept, List.map_cons, List.append_assoc, List.singleton_append]
    · simpa only [collectNames, readIfreq, Except.ok_bind, kept, Bool.false_eq_true, if_false, List.map_cons,
        List.filter_cons] using @ih names size (by omega)

theorem range_map_getD {α : Type} (l : List α) (d : α) :
    (List.range l.length).map (fun j => l.getD j d) = l := by
  apply List.ext_getElem (by simp)
  intro n inside _
  simp [List.getElem?_eq_getElem (by simpa using inside)]

/-- The list built from an answer that fits a live buffer: the kept names, in the
kernel's order, in a block of ifc_len slots. -/
theorem iflistOf_fits (b : IfconfBuild) (a : Nat) (table : List Ifreq) :
    iflistOf b true (some a) ⟨none, b.ifreqSize * table.length, fun j => table.getD j default⟩ =
      .ok (ResultList.filled ((table.filter b.keep).map Ifreq.name) (b.ifreqSize * table.length)) := by
  have count : ifreqCount b ⟨none, b.ifreqSize * table.length, fun j => table.getD j default⟩ = table.length := by
    show (b.ifreqSize * table.length + b.ifreqSize - 1) / b.ifreqSize = table.length
    have := b.ifreqSize_pos
    apply Nat.div_eq_of_lt_le
    · rw [Nat.mul_comm]; omega
    · rw [Nat.succ_mul, Nat.mul_comm]; omega
  have room : ([] : List (List Char)).length + (List.range table.length).length ≤ b.ifreqSize * table.length := by
    rw [List.length_nil, List.length_range, Nat.zero_add]
    exact Nat.le_mul_of_pos_left _ b.ifreqSize_pos
  have start : (⟨0, b.ifreqSize * table.length,
      if true then .block (List.replicate (b.ifreqSize * table.length) none) else .null⟩ :
        ResultList (List Char)) = ResultList.filled [] (b.ifreqSize * table.length) := by
    simp only [if_true, ResultList.filled, List.length_nil, List.map_nil, List.nil_append, Nat.sub_zero]
  rw [iflistOf, count, start, collectNames_filled b _ a _ room, List.nil_append, range_map_getD]

/-- Against any kernel whose table never holds more than M records, under either
overflow convention, a call from a well-formed session accepts by query
M / SIGAR_NET_IFLIST_MAX + 2, never a buffer the answer filled, and returns the
names of the accepted answer's records that pass the platform's filter, in the
kernel's order. -/
theorem netInterfaceListGet_bounded (b : IfconfBuild) (o : Overflow) (tables : Nat → List Ifreq)
    (M : Nat) (bounded : ∀ k, (tables k).length ≤ M) (iflist : ResultList (List Char)) (s : Session)
    (p : Proc) (wellFormed : SessionOk b s p) (fuel : Nat) (enough : M / b.iflistMax + 2 ≤ fuel) :
    ∃ k s' q, k + 1 ≤ M / b.iflistMax + 2 ∧
      ifconfLoop b (kernelHost b.ifreqSize o tables) fuel 0 0 s p.openFd.2 =
        some (.ok (.accept (kernelIfconf b.ifreqSize o (tables k) s'.ifconfLen) s' q)) ∧
      (kernelIfconf b.ifreqSize o (tables k) s'.ifconfLen).ifcLen < s'.ifconfLen ∧
      ∃ l, netInterfaceListGet b (kernelHost b.ifreqSize o tables) fuel iflist s p =
          some (.ok ⟨sigarOk, l, s', q.close p.openFd.1⟩) ∧
        l.number ≤ l.size ∧ l = ResultList.filled (((tables k).filter b.keep).map Ifreq.name) l.size := by
  obtain ⟨k, s', q, bound, grown, _, fits, loop⟩ :=
    PassReady.loop bounded (fun _ => rfl : ∀ k, (kernelHost b.ifreqSize o tables).grants k = true)
      (fun _ => rfl) fuel
      (.inl ⟨rfl, rfl, wellFormed⟩ : PassReady b 0 0 s p.openFd.2) (Nat.zero_le _)
      (by rw [Nat.zero_add]; exact enough)
  obtain ⟨a, at_a, _, multiple⟩ := grown.1
  have answer := kernelIfconf_fits (o := o) multiple fits
  refine ⟨k, s', q, Nat.succ_le_succ bound, loop, by rw [answer]; exact fits,
    ResultList.filled (((tables k).filter b.keep).map Ifreq.name) (b.ifreqSize * (tables k).length), ?_, ?_, rfl⟩
  · have opened : (kernelHost b.ifreqSize o tables).socket = none := rfl
    have allocated : (kernelHost b.ifreqSize o tables).dataGranted = true := rfl
    simp only [netInterfaceListGet, opened, allocated, loop, at_a, answer, iflistOf_fits, Option.map_some',
      Except.map_ok]
  · have kept := List.length_filter_le b.keep (tables k)
    have := Nat.le_mul_of_pos_left (tables k).length b.ifreqSize_pos
    simp only [ResultList.filled, List.length_map]
    omega

/-- One loopback interface, records of 40 bytes, a chunk of 20, a fresh session. -/
theorem netInterfaceListGet_bounded_loopback :
    (∀ _k : Nat, ([Ifreq.mk ['l', 'o'] 2] : List Ifreq).length ≤ 1) ∧
    SessionOk ⟨40, 20, fun _ => true, by decide, by decide⟩ ⟨none, 0⟩ ⟨fun _ => none, 0, []⟩ ∧
    1 / 20 + 2 ≤ 2 ∧
    ∃ k s' q, k + 1 ≤ 1 / 20 + 2 ∧
      ifconfLoop ⟨40, 20, fun _ => true, by decide, by decide⟩
          (kernelHost 40 .truncate (fun _ : Nat => [Ifreq.mk ['l', 'o'] 2])) 2 0 0 ⟨none, 0⟩
          (Proc.openFd ⟨fun _ => none, 0, []⟩).2 =
        some (.ok (.accept (kernelIfconf 40 .truncate [Ifreq.mk ['l', 'o'] 2] s'.ifconfLen) s' q)) ∧
      (kernelIfconf 40 .truncate [Ifreq.mk ['l', 'o'] 2] s'.ifconfLen).ifcLen < s'.ifconfLen ∧
      ∃ l, netInterfaceListGet ⟨40, 20, fun _ => true, by decide, by decide⟩
            (kernelHost 40 .truncate (fun _ : Nat => [Ifreq.mk ['l', 'o'] 2])) 2 ⟨0, 0, .null⟩ ⟨none, 0⟩
            ⟨fun _ => none, 0, []⟩ =
          some (.ok ⟨sigarOk, l, s', q.close (Proc.openFd ⟨fun _ => none, 0, []⟩).1⟩) ∧
        l.number ≤ l.size ∧
        l = ResultList.filled (([Ifreq.mk ['l', 'o'] 2].filter fun _ => true).map Ifreq.name) l.size :=
  ⟨fun _ => le_refl 1, .inl ⟨rfl, rfl⟩, by decide,
    netInterfaceListGet_bounded ⟨40, 20, fun _ => true, by decide, by decide⟩ .truncate
      (fun _ : Nat => [Ifreq.mk ['l', 'o'] 2]) 1 (fun _ => le_refl 1) ⟨0, 0, .null⟩ ⟨none, 0⟩
      ⟨fun _ => none, 0, []⟩ (.inl ⟨rfl, rfl⟩) 2 (by decide)⟩

end Sigar
