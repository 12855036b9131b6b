import Sigar.FqdnAlias

namespace Sigar

/-- Every address of the forward record has a reverse record, and that record has
an alias list: the two pointers sigar_fqdn_get dereferences without a check. -/
def FqdnHost.ReverseAnswered (host : FqdnHost) : Prop :=
  ∀ p, host.byName = some p → ∀ a ∈ p.hAddrList.getD [], ∃ q aliases, host.byAddr a = some q ∧ q.hAliases = some aliases

section Progress

variable {fb : FqdnBuild} {host : FqdnHost}

theorem gethostname_progress (nodename : Except Nat CStr) {name : List Char} (positive : 0 < name.length)
    (sized : name.length < 2 ^ 31) : ∃ r, gethostname nodename name (sizeT (name.length - 1)) = .ok r := by
  have exact : sizeT ((name.length : Int) - 1) = name.length - 1 := by
    rw [show ((name.length : Int) - 1) = ((name.length - 1 : Nat) : Int) by omega, sizeT_natCast (by omega)]
  rcases nodename with e | h
  · exact ⟨_, rfl⟩
  · simp only [gethostname, exact]
    split
    · exact ⟨_, by rw [writeAt_inside (by simp; omega)]; rfl⟩
    · exact ⟨_, by rw [writeAt_inside (by rw [Nat.zero_add, List.length_take]; omega)]; rfl⟩

theorem appendDomain_length {name name' : List Char} {len : Nat} {d : CStr}
    (run : appendDomain name len d = .ok name') : name'.length = name.length := by
  obtain ⟨dotted, wrote, rest⟩ := Except.bind_eq_ok.mp run
  obtain ⟨src, -, copied⟩ := Except.bind_eq_ok.mp rest
  rw [writeAt_length copied, writeAt_length wrote]

theorem domainStage_length {domain : Except Nat CStr} {name name' : List Char} {log : List FqdnLog}
    (run : domainStage domain name = .ok (name', log)) : name'.length = name.length := by
  unfold domainStage at run
  split at run
  · split at run
    · obtain ⟨out, appended, paired⟩ := Except.map_eq_ok.mp run
      cases paired
      exact appendDomain_length appended
    · cases run
      rfl
  · cases run
    rfl

theorem domainStage_progress (domain : Except Nat CStr) {h : CStr} {rest : List Char}
    (room : h.chars.length + 2 ≤ (h.chars ++ nul :: rest).length) (sized : (h.chars ++ nul :: rest).length < 2 ^ 63) :
    ∃ out, domainStage domain (h.chars ++ nul :: rest) = .ok out := by
  unfold domainStage
  rw [cString_terminated]
  split
  · rename_i d
    split
    · obtain ⟨name', appended, -⟩ := appendDomain_ok room sized d
      exact ⟨_, by rw [appended]; rfl⟩
    · exact ⟨_, rfl⟩
  · exact ⟨_, rfl⟩

theorem ipUnlessDotted_progress {name : List Char} (roomy : 16 ≤ name.length) :
    ∃ out, ipUnlessDotted fb host name = .ok out := by
  unfold ipUnlessDotted
  split
  · exact ⟨_, rfl⟩
  · exact fqdnIpGet_progress roomy

theorem fqdnFallback_progress {h : CStr} {rest : List Char} (room : h.chars.length + 2 ≤ (h.chars ++ nul :: rest).length)
    (sized : (h.chars ++ nul :: rest).length < 2 ^ 63) (roomy : 16 ≤ (h.chars ++ nul :: rest).length) :
    ∃ out, fqdnFallback fb host (h.chars ++ nul :: rest) = .ok out := by
  obtain ⟨⟨name1, domainLog⟩, staged⟩ := domainStage_progress host.domain room sized
  obtain ⟨⟨name2, ipLog⟩, ipped⟩ :=
    @ipUnlessDotted_progress fb host _ (by rw [domainStage_length staged]; exact roomy)
  exact ⟨_, by rw [fqdnFallback, staged, Except.ok_bind]; dsimp only; rw [ipped]; rfl⟩

theorem fqdnFromRecord_progress {p : Hostent}
    (answered : ∀ a ∈ p.hAddrList.getD [], ∃ q aliases, host.byAddr a = some q ∧ q.hAliases = some aliases) :
    ∃ r, fqdnFromRecord host.byAddr p = .ok r := by
  unfold fqdnFromRecord
  split
  · exact ⟨_, rfl⟩
  · split
    · exact ⟨_, rfl⟩
    · obtain ⟨r, looked⟩ := reverseLookup_progress answered
      exact ⟨_, by rw [looked]; rfl⟩

/-- With a buffer of at least 16 bytes and reverse lookups that answer,
sigar_fqdn_get runs to its end on every path. -/
theorem fqdnGet_progress {name : List Char} (roomy : 16 ≤ name.length) (sized : name.length < 2 ^ 31)
    (answered : host.ReverseAnswered) : ∃ r, fqdnGet fb host name = .ok r := by
  obtain ⟨⟨status, name1⟩, got⟩ := gethostname_progress host.nodename (by omega) sized
  unfold fqdnGet
  rw [got, Except.ok_bind]
  rcases status with _ | e
  · obtain ⟨h, named, -, -⟩ := gethostname_terminated got
    rw [named] at got
    obtain ⟨room, rfl, length⟩ := gethostname_buffer sized got
    rw [← length] at roomy room
    dsimp only
    rcases byName : host.byName with _ | p
    · obtain ⟨out, ipped⟩ := @ipUnlessDotted_progress fb host _ roomy
      exact ⟨_, by rw [ipped]; rfl⟩
    · obtain ⟨r, recorded⟩ := fqdnFromRecord_progress (answered p byName)
      dsimp only
      rw [recorded, Except.ok_bind]
      rcases r with _ | ⟨fqdn, log⟩
      · obtain ⟨out, fell⟩ := @fqdnFallback_progress fb host _ _ room (by omega) roomy
        exact ⟨_, by dsimp only; rw [fell]; rfl⟩
      · obtain ⟨name', set, -⟩ := fqdnSet_ok (show 0 < (h.chars ++ nul :: name.drop (h.chars.length + 1)).length by simp) fqdn
        exact ⟨_, by dsimp only; rw [set]; rfl⟩
  · exact ⟨_, rfl⟩

/-- sigar_fqdn_get either stops at a failed gethostname, with the buffer's length
kept, or returns SIGAR_OK after gethostname gave a name. -/
theorem fqdnGet_status {name name' : List Char} {status : Nat} {log : List FqdnLog}
    (run : fqdnGet fb host name = .ok (status, name', log)) :
    log = [.gethostnameFailed] ∧ name'.length = name.length ∨ status = sigarOk ∧ ∃ h, host.nodename = .ok h := by
  rcases fqdnGet_paths run with ⟨e, got, -, rfl⟩ | ⟨name1, got, rfl, -⟩
  · exact .inl ⟨rfl, gethostname_length got⟩
  · obtain ⟨h, named, -, -⟩ := gethostname_terminated got
    exact .inr ⟨rfl, h, named⟩

end Progress

/-- With a buffer of 16 to 2^31 - 1 bytes, and every reverse lookup of the forward
record's addresses answered with an alias list, sigar_fqdn_get runs without a fault
and keeps the buffer; it fails only when gethostname does, and otherwise returns
SIGAR_OK with a NUL inside the buffer. -/
theorem fqdnGet_safe (fb : FqdnBuild) (host : FqdnHost) (name : List Char) (roomy : 16 ≤ name.length)
    (sized : name.length < 2 ^ 31) (answered : host.ReverseAnswered) :
    ∃ status name' log, fqdnGet fb host name = .ok (status, name', log) ∧ name'.length = name.length ∧
      (log = [.gethostnameFailed] ∨ status = sigarOk ∧ nul ∈ name') := by
  obtain ⟨⟨status, name', log⟩, run⟩ := fqdnGet_progress roomy sized answered
  refine ⟨status, name', log, run, ?_⟩
  rcases fqdnGet_status run with ⟨failed, length⟩ | ⟨rfl, h, named⟩
  · exact ⟨length, .inl failed⟩
  · obtain ⟨length, text⟩ := fqdnGet_choice named sized run
    have short : (cString name').length < name'.length := by
      rw [text, length, List.length_take]
      omega
    exact ⟨length, .inr ⟨rfl, nul_mem_of_cString_length_lt short⟩⟩

theorem fqdnGet_safe_box :
    16 ≤ (List.replicate 64 'x').length ∧ (List.replicate 64 'x').length < 2 ^ 31 ∧ boxHost.ReverseAnswered ∧
      ∃ status name' log, fqdnGet ⟨false, 8⟩ boxHost (List.replicate 64 'x') = .ok (status, name', log) ∧
        name'.length = (List.replicate 64 'x').length ∧ (log = [.gethostnameFailed] ∨ status = sigarOk ∧ nul ∈ name') :=
  have answered : boxHost.ReverseAnswered := by
    rintro p named a member
    cases named
    cases member
  ⟨by decide, by decide, answered, fqdnGet_safe _ _ _ (by decide) (by decide) answered⟩

/-- A host whose forward record "host" is undotted, with no aliases and the one
address 127.0.0.1, which gethostbyaddr does not find. -/
def reverseMissHost : FqdnHost :=
  ⟨.ok ⟨"host".toList, by decide⟩, some ⟨⟨"host".toList, by decide⟩, some [], some [0x0100007F]⟩,
    fun _ => none, .error 1, .error 1, fun _ => (1, IfConfig.zero)⟩

/-- A host "box" that gethostbyname does not find, with the one interface eth0 at
192.168.100.200. -/
def ipOnlyHost : FqdnHost :=
  ⟨.ok ⟨"box".toList, by decide⟩, none, fun _ => none, .error 1, .ok ["eth0".toList],
    fun _ => (sigarOk, { IfConfig.zero with address := 0xC864A8C0 })⟩

theorem fqdnGet_reverse_miss_and_ip_overflow :
    fqdnGet ⟨false, 8⟩ reverseMissHost (List.replicate 64 'x') = .error .nullDeref ∧
      fqdnGet ⟨false, 8⟩ ipOnlyHost (List.replicate 8 'x') = .error .outOfBounds :=
  ⟨rfl, rfl⟩

end Sigar
