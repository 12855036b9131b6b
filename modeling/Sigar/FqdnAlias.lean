import Sigar.FqdnSpec

namespace Sigar

section Events

variable {fb : FqdnBuild} {host : FqdnHost} {name name' : List Char} {log : List FqdnLog}

theorem hAliasMatch_accepted {found name : CStr} (accepted : hAliasMatch found name = true) :
    isFqdn found.chars = true ∧ name.chars <+: found.chars := by
  simp only [hAliasMatch, Bool.and_eq_true] at accepted
  exact ⟨accepted.1, strnEQ_length_iff.mp accepted.2⟩

theorem forwardAlias_some {p : Hostent} {found : CStr} (chosen : forwardAlias p = some found) :
    found ∈ p.hAliases.getD [] ∧ hAliasMatch found p.hName = true := by
  unfold forwardAlias at chosen
  rcases listed : p.hAliases with _ | aliases
  · simp [listed] at chosen
  · simp only [listed, Option.some_bind] at chosen
    exact ⟨List.mem_of_find?_eq_some chosen, by simpa using List.find?_some chosen⟩

theorem gethostname_length {nodename : Except Nat CStr} {len : Nat} {status : Option Nat}
    (run : gethostname nodename name len = .ok (status, name')) : name'.length = name.length := by
  unfold gethostname at run
  split at run
  · cases run
    rfl
  · split at run <;>
    · obtain ⟨out, wrote, same⟩ := Except.map_eq_ok.mp run
      cases same
      exact writeAt_length wrote

theorem gethostname_terminated {nodename : Except Nat CStr} {len : Nat}
    (run : gethostname nodename name len = .ok (none, name')) :
    ∃ h, nodename = .ok h ∧ cString name' = h.chars ∧ 0 < name'.length := by
  rcases nodename with e | h
  · cases run
  · obtain ⟨-, -, rfl⟩ := gethostname_none run
    exact ⟨h, rfl, cString_terminated h _, by simp⟩

theorem fqdnIpGet_log (run : fqdnIpGet fb host name = .ok (name', log)) : log ⊆ [.usingIpAddress] := by
  unfold fqdnIpGet at run
  split at run
  · cases run
    exact List.nil_subset _
  · split at run
    · cases run
      exact List.nil_subset _
    · obtain ⟨out, -, same⟩ := Except.map_eq_ok.mp run
      cases same
      exact List.Subset.refl _

theorem ipUnlessDotted_log (run : ipUnlessDotted fb host name = .ok (name', log)) : log ⊆ [.usingIpAddress] := by
  unfold ipUnlessDotted at run
  split at run
  · cases run
    exact List.nil_subset _
  · exact fqdnIpGet_log run

theorem fqdnFallback_log (run : fqdnFallback fb host name = .ok (name', log)) :
    log ⊆ [.resolvedByDomain, .domainFailed, .usingIpAddress] := by
  obtain ⟨⟨name1, domainLog⟩, staged, finished⟩ := Except.bind_eq_ok.mp run
  obtain ⟨⟨name2, ipLog⟩, ipped, returned⟩ := Except.bind_eq_ok.mp finished
  cases returned
  have domained : domainLog ⊆ [.resolvedByDomain, .domainFailed] := by
    unfold domainStage at staged
    split at staged
    · split at staged
      · obtain ⟨out, -, same⟩ := Except.map_eq_ok.mp staged
        cases same
        simp
      · cases staged
        simp
    · cases staged
      simp
  intro e member
  rcases List.mem_append.mp member with fromDomain | fromIp
  · rcases List.mem_cons.mp (domained fromDomain) with rfl | later
    · simp
    · simp [List.mem_singleton.mp later]
  · simp [List.mem_singleton.mp (ipUnlessDotted_log ipped fromIp)]

theorem reverseLookup_event {byAddr : Nat → Option Hostent} {addrs : List Nat} {found : CStr} {event : FqdnLog}
    (run : reverseLookup byAddr addrs = .ok (some (found, event))) :
    event = .resolvedByAddrName ∨ event = .resolvedByAddrAlias := by
  induction addrs with
  | nil => cases run
  | cons a addrs ih =>
    unfold reverseLookup at run
    split at run
    · cases run
    · split at run
      · cases run
        exact .inl rfl
      · split at run
        · cases run
        · split at run
          · cases run
            exact .inr rfl
          · exact ih run

/-- Which stage of the record the events of `fqdnFromRecord` name: the forward
alias loop, or the reverse lookup of an address, in each case after an undotted
h_name. -/
theorem fqdnFromRecord_events {byAddr : Nat → Option Hostent} {p : Hostent} {fqdn : CStr}
    {events : List FqdnLog} (run : fqdnFromRecord byAddr p = .ok (some (fqdn, events))) :
    (FqdnLog.resolvedByAlias ∈ events → isFqdn p.hName.chars = false ∧ forwardAlias p = some fqdn) ∧
      (FqdnLog.resolvedByAddrAlias ∈ events → isFqdn p.hName.chars = false ∧
        reverseLookup byAddr (p.hAddrList.getD []) = .ok (some (fqdn, .resolvedByAddrAlias))) := by
  unfold fqdnFromRecord at run
  by_cases dotted : isFqdn p.hName.chars
  · simp only [dotted, if_true, Except.ok.injEq, Option.some.injEq, Prod.mk.injEq] at run
    obtain ⟨-, rfl⟩ := run
    simp
  · simp only [dotted, Bool.false_eq_true, if_false] at run
    rcases aliased : forwardAlias p with _ | found
    · simp only [aliased] at run
      obtain ⟨r, looked, paired⟩ := Except.map_eq_ok.mp run
      rcases r with _ | ⟨fqdn', event⟩
      · cases paired
      · simp only [Option.some.injEq, Prod.mk.injEq] at paired
        obtain ⟨rfl, rfl⟩ := paired
        have kinds := reverseLookup_event looked
        refine ⟨fun member => ?_, fun member => ⟨by simpa using dotted, ?_⟩⟩
        · rcases kinds with rfl | rfl <;> simp at member
        · simp only [List.mem_cons, List.not_mem_nil, or_false, reduceCtorEq, false_or] at member
          rw [looked, member]
    · simp only [aliased, Except.ok.injEq, Option.some.injEq, Prod.mk.injEq] at run
      obtain ⟨rfl, rfl⟩ := run
      exact ⟨fun _ => ⟨by simpa using dotted, rfl⟩, by simp⟩

end Events

/-- Whenever sigar_fqdn_get takes the name from an alias, of the forward record or
of a reverse record, that alias is dotted and begins with the undotted h_name it
was matched against, and the name left is that alias cut to namelen - 1
characters. -/
theorem fqdnGet_alias_starts_with_name (fb : FqdnBuild) (host : FqdnHost) (name : List Char) {status : Nat}
    {name' : List Char} {log : List FqdnLog} (run : fqdnGet fb host name = .ok (status, name', log)) :
    (FqdnLog.resolvedByAlias ∈ log → ∃ p found, host.byName = some p ∧ isFqdn p.hName.chars = false ∧
        found ∈ p.hAliases.getD [] ∧ isFqdn found.chars = true ∧ p.hName.chars <+: found.chars ∧
        cString name' = found.chars.take (name.length - 1)) ∧
      (FqdnLog.resolvedByAddrAlias ∈ log → ∃ p a q found, host.byName = some p ∧ a ∈ p.hAddrList.getD [] ∧
        host.byAddr a = some q ∧ isFqdn q.hName.chars = false ∧ found ∈ q.hAliases.getD [] ∧
        isFqdn found.chars = true ∧ q.hName.chars <+: found.chars ∧
        cString name' = found.chars.take (name.length - 1)) := by
  rcases fqdnGet_paths run with ⟨e, got, -, rfl⟩ | ⟨name1, got, -, path⟩
  · exact ⟨fun member => absurd member (by decide), fun member => absurd member (by decide)⟩
  rcases path with ⟨ipLog, -, ipped, rfl⟩ | ⟨p, fqdn, events, byName, recorded, set, rfl⟩ |
      ⟨p, fallLog, -, -, fell, rfl⟩
  · have quiet := ipUnlessDotted_log ipped
    refine ⟨fun member => ?_, fun member => ?_⟩ <;>
    · simp only [List.mem_cons, reduceCtorEq, false_or] at member
      exact absurd (quiet member) (by decide)
  · obtain ⟨-, -, -, positive⟩ := gethostname_terminated got
    obtain ⟨name3, set', -, text⟩ := fqdnSet_ok positive fqdn
    rw [set'] at set
    cases set
    rw [gethostname_length got] at text
    obtain ⟨forward, backward⟩ := fqdnFromRecord_events recorded
    refine ⟨fun member => ?_, fun member => ?_⟩
    · obtain ⟨undotted, chosen⟩ := forward (by simpa using member)
      obtain ⟨listed, accepted⟩ := forwardAlias_some chosen
      exact ⟨p, fqdn, byName, undotted, listed, (hAliasMatch_accepted accepted).1,
        (hAliasMatch_accepted accepted).2, text⟩
    · obtain ⟨-, looked⟩ := backward (by simpa using member)
      obtain ⟨a, listed, q, aliases, answer, named, undotted, member', accepted⟩ := reverseLookup_alias looked
      exact ⟨p, a, q, fqdn, byName, listed, answer, undotted, by simpa [named] using member',
        (hAliasMatch_accepted accepted).1, (hAliasMatch_accepted accepted).2, text⟩
  · have quiet := fqdnFallback_log fell
    refine ⟨fun member => ?_, fun member => ?_⟩ <;>
    · simp only [List.mem_cons, reduceCtorEq, false_or] at member
      exact absurd (quiet member) (by decide)

/-- A host named "host" whose forward record, also named "host", has the one alias
`aliasName`. -/
def aliasedHost (aliasName : CStr) : FqdnHost :=
  ⟨.ok ⟨"host".toList, by decide⟩, some ⟨⟨"host".toList, by decide⟩, some [aliasName], none⟩,
    fun _ => none, .error 1, .error 1, fun _ => (1, IfConfig.zero)⟩

theorem fqdnGet_alias_starts_with_name_host :
    fqdnGet ⟨false, 8⟩ (aliasedHost ⟨"host.example.com".toList, by decide⟩) (List.replicate 64 'x') =
        .ok (sigarOk, "host.example.com".toList ++ List.replicate 48 nul,
          [.gethostnameReturned, .unresolvedByName, .resolvedByAlias]) ∧
      ((FqdnLog.resolvedByAlias ∈ [FqdnLog.gethostnameReturned, .unresolvedByName, .resolvedByAlias] →
        ∃ p found, (aliasedHost ⟨"host.example.com".toList, by decide⟩).byName = some p ∧
          isFqdn p.hName.chars = false ∧ found ∈ p.hAliases.getD [] ∧ isFqdn found.chars = true ∧
          p.hName.chars <+: found.chars ∧
          cString ("host.example.com".toList ++ List.replicate 48 nul) =
            found.chars.take ((List.replicate 64 'x').length - 1)) ∧
        (FqdnLog.resolvedByAddrAlias ∈ [FqdnLog.gethostnameReturned, .unresolvedByName, .resolvedByAlias] →
          ∃ p a q found, (aliasedHost ⟨"host.example.com".toList, by decide⟩).byName = some p ∧
            a ∈ p.hAddrList.getD [] ∧ (aliasedHost ⟨"host.example.com".toList, by decide⟩).byAddr a = some q ∧
            isFqdn q.hName.chars = false ∧ found ∈ q.hAliases.getD [] ∧ isFqdn found.chars = true ∧
            q.hName.chars <+: found.chars ∧
            cString ("host.example.com".toList ++ List.replicate 48 nul) =
              found.chars.take ((List.replicate 64 'x').length - 1))) :=
  have run : fqdnGet ⟨false, 8⟩ (aliasedHost ⟨"host.example.com".toList, by decide⟩) (List.replicate 64 'x') =
      .ok (sigarOk, "host.example.com".toList ++ List.replicate 48 nul,
        [.gethostnameReturned, .unresolvedByName, .resolvedByAlias]) := rfl
  ⟨run, fqdnGet_alias_starts_with_name _ _ _ run⟩

/-- For the host "host" with the alias "hostile.example.com", the alias is taken,
though its first label is "hostile". -/
theorem fqdnGet_hostile_alias :
    fqdnGet ⟨false, 8⟩ (aliasedHost ⟨"hostile.example.com".toList, by decide⟩) (List.replicate 64 'x') =
        .ok (sigarOk, "hostile.example.com".toList ++ List.replicate 45 nul,
          [.gethostnameReturned, .unresolvedByName, .resolvedByAlias]) ∧
      "hostile.example.com".toList.takeWhile (· != '.') ≠ "host".toList :=
  ⟨rfl, by decide⟩

end Sigar
