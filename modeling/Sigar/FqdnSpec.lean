import Sigar.Fqdn

namespace Sigar

/-- The dotted-decimal address of the first interface, in enumeration order, whose
configuration can be read and which is not loopback. -/
def firstIp (fb : FqdnBuild) (host : FqdnHost) : Option (List Char) :=
  match host.ifaces with
  | .error _ => none
  | .ok names =>
    (names.find? fun n => (host.config n).1 == sigarOk && (host.config n).2.flags &&& fb.sigarIffLoopback == 0).map
      fun n => ntoaText fb.bigEndian (host.config n).2.address

/-- Over the forward record's addresses in order, the first reverse record whose
name is dotted or which has an alias H_ALIAS_MATCH accepts: that name, else that
alias. -/
def firstReverse (byAddr : Nat → Option Hostent) : List Nat → Option CStr
  | [] => none
  | a :: addrs =>
    match byAddr a with
    | some q =>
      if isFqdn q.hName.chars then some q.hName
      else
        match (q.hAliases.getD []).find? (hAliasMatch · q.hName) with
        | some found => some found
        | none => firstReverse byAddr addrs
    | none => firstReverse byAddr addrs

/-- Stages (2) to (4): the forward record's name if dotted, else its first alias
H_ALIAS_MATCH accepts, else the first reverse record's dotted name or matching
alias. -/
def recordChoice (byAddr : Nat → Option Hostent) (p : Hostent) : Option CStr :=
  if isFqdn p.hName.chars then some p.hName
  else
    match forwardAlias p with
    | some found => some found
    | none => firstReverse byAddr (p.hAddrList.getD [])

/-- Stage (5): `h` + "." + the domain, for an undotted `h` and a domain neither
empty nor starting with '('. -/
def domainChoice (domain : Except Nat CStr) (h : CStr) : Option (List Char) :=
  match domain with
  | .ok d =>
    if !isFqdn h.chars && d.chars ≠ [] && d.chars.head? ≠ some '(' then some (h.chars ++ '.' :: d.chars)
    else none
  | .error _ => none

/-- Stages (6) and (7), and the fallback of stage (1): for an undotted `h` the
first interface address, else `h`. -/
def ipChoice (fb : FqdnBuild) (host : FqdnHost) (h : CStr) : List Char :=
  if isFqdn h.chars then h.chars else (firstIp fb host).getD h.chars

/-- The name the seven stages choose for the short name `h`: stage (1) when the
forward lookup fails, else the first of stages (2) to (7) that applies. -/
def fqdnChoice (fb : FqdnBuild) (host : FqdnHost) (h : CStr) : List Char :=
  match host.byName with
  | none => ipChoice fb host h
  | some p => ((recordChoice host.byAddr p).map CStr.chars).getD
      ((domainChoice host.domain h).getD (ipChoice fb host h))

section Stages

variable {fb : FqdnBuild} {host : FqdnHost}

theorem gethostname_none {h : CStr} {name name' : List Char} {len : Nat}
    (run : gethostname (.ok h) name len = .ok (none, name')) :
    h.chars.length < len ∧ h.chars.length < name.length ∧
      name' = h.chars ++ nul :: name.drop (h.chars.length + 1) := by
  simp only [gethostname] at run
  by_cases fits : h.chars.length < len
  · rw [if_pos fits] at run
    obtain ⟨out, wrote, same⟩ := Except.map_eq_ok.mp run
    obtain ⟨-, rfl⟩ := Prod.mk.inj same
    unfold writeAt at wrote
    split at wrote
    · rename_i inside
      cases wrote
      simp only [List.length_append, List.length_singleton, Nat.zero_add] at inside
      simp [fits]
      omega
    · cases wrote
  · rw [if_neg fits] at run
    obtain ⟨out, -, same⟩ := Except.map_eq_ok.mp run
    cases same

theorem gethostname_some {h : CStr} {name name' : List Char} {len e : Nat}
    (run : gethostname (.ok h) name len = .ok (some e, name')) : e = enametoolong := by
  simp only [gethostname] at run
  split at run
  · obtain ⟨out, -, same⟩ := Except.map_eq_ok.mp run
    cases same
  · obtain ⟨out, -, same⟩ := Except.map_eq_ok.mp run
    cases same
    rfl

theorem fqdnSet_ok {name : List Char} (nonempty : 0 < name.length) (fqdn : CStr) :
    ∃ name', fqdnSet name fqdn = .ok name' ∧ name'.length = name.length ∧
      cString name' = fqdn.chars.take (name.length - 1) := by
  obtain ⟨dest, copied, length, text⟩ :=
    sigarStrncpy_inside nonempty (.inr (List.mem_append_right _ (List.mem_singleton_self nul)))
  refine ⟨dest, by rw [fqdnSet, copied, Except.ok_bind, writeAt_inside (by omega)]; simp [length], length, ?_⟩
  rw [text, cString_append_of_not_mem fqdn.noNul, cString_nul_cons, List.append_nil]

theorem fqdnIpGet_ok {name name' : List Char} {log : List FqdnLog} (run : fqdnIpGet fb host name = .ok (name', log)) :
    name'.length = name.length ∧
      match firstIp fb host with
      | some text => text.length < name.length ∧ cString name' = text
      | none => name' = name := by
  unfold fqdnIpGet at run
  unfold firstIp
  rcases ifaces : host.ifaces with e | names
  · simp only [ifaces, Except.ok.injEq, Prod.mk.injEq] at run
    simp [← run.1]
  · simp only [ifaces] at run ⊢
    rcases found : names.find? _ with _ | n
    · simp only [found, Except.ok.injEq, Prod.mk.injEq] at run
      simp [← run.1]
    · simp only [found] at run
      obtain ⟨out, wrote, same⟩ := Except.map_eq_ok.mp run
      obtain ⟨rfl, -⟩ := Prod.mk.inj same
      by_cases fits : (ntoaText fb.bigEndian (host.config n).2.address).length < name.length
      · obtain ⟨out', wrote', length, text⟩ := sigarInetNtoa_spec _ _ _ fits
        rw [wrote'] at wrote
        cases wrote
        simp [length, text, fits]
      · rw [sigarInetNtoa_overflow _ _ _ (Nat.not_lt.mp fits)] at wrote
        cases wrote

theorem fqdnIpGet_progress (roomy : 16 ≤ name.length) : ∃ out, fqdnIpGet fb host name = .ok out := by
  unfold fqdnIpGet
  split
  · exact ⟨_, rfl⟩
  · split
    · exact ⟨_, rfl⟩
    · rename_i n _
      have short := (ntoaWritten_split fb.bigEndian (host.config n).2.address).2.2
      obtain ⟨out, wrote, -⟩ := sigarInetNtoa_spec fb.bigEndian (host.config n).2.address name (by omega)
      exact ⟨_, by rw [wrote]; rfl⟩

theorem reverseLookup_ok {byAddr : Nat → Option Hostent} {addrs : List Nat} {r : Option (CStr × FqdnLog)}
    (run : reverseLookup byAddr addrs = .ok r) : r.map Prod.fst = firstReverse byAddr addrs := by
  induction addrs with
  | nil => cases run; rfl
  | cons a addrs ih =>
    rcases answer : byAddr a with _ | q
    · simp [reverseLookup, answer] at run
    · by_cases dotted : isFqdn q.hName.chars
      · simp only [reverseLookup, answer, dotted, if_true, Except.ok.injEq] at run
        simp [← run, firstReverse, answer, dotted]
      · rcases listed : q.hAliases with _ | aliases
        · simp [reverseLookup, answer, dotted, listed] at run
        · rcases found : aliases.find? (hAliasMatch · q.hName) with _ | found
          · simp only [reverseLookup, answer, dotted, listed, found] at run
            simp [firstReverse, answer, dotted, listed, found, ih run]
          · simp only [reverseLookup, answer, dotted, listed, found, Except.ok.injEq, Bool.false_eq_true, if_false] at run
            simp [← run, firstReverse, answer, dotted, listed, found]

/-- An alias taken from a reverse record is one of that record's aliases that
H_ALIAS_MATCH accepts against its undotted name. -/
theorem reverseLookup_alias {byAddr : Nat → Option Hostent} {addrs : List Nat} {found : CStr}
    (run : reverseLookup byAddr addrs = .ok (some (found, .resolvedByAddrAlias))) :
    ∃ a ∈ addrs, ∃ q aliases, byAddr a = some q ∧ q.hAliases = some aliases ∧ isFqdn q.hName.chars = false ∧
      found ∈ aliases ∧ hAliasMatch found q.hName = true := by
  induction addrs with
  | nil => cases run
  | cons a addrs ih =>
    rcases answer : byAddr a with _ | q
    · simp [reverseLookup, answer] at run
    · by_cases dotted : isFqdn q.hName.chars
      · simp [reverseLookup, answer, dotted] at run
      · rcases listed : q.hAliases with _ | aliases
        · simp [reverseLookup, answer, dotted, listed] at run
        · rcases matched : aliases.find? (hAliasMatch · q.hName) with _ | match_
          · simp only [reverseLookup, answer, dotted, listed, matched] at run
            obtain ⟨b, member, rest⟩ := ih run
            exact ⟨b, List.mem_cons_of_mem a member, rest⟩
          · simp only [reverseLookup, answer, dotted, listed, matched, Except.ok.injEq, Option.some.injEq,
              Bool.false_eq_true, if_false,
              Prod.mk.injEq, and_true] at run
            subst run
            exact ⟨a, List.mem_cons_self a addrs, q, aliases, answer, listed, by simpa using dotted,
              List.mem_of_find?_eq_some matched, by simpa using List.find?_some matched⟩

theorem reverseLookup_progress {byAddr : Nat → Option Hostent} {addrs : List Nat}
    (answered : ∀ a ∈ addrs, ∃ q aliases, byAddr a = some q ∧ q.hAliases = some aliases) :
    ∃ r, reverseLookup byAddr addrs = .ok r := by
  induction addrs with
  | nil => exact ⟨none, rfl⟩
  | cons a addrs ih =>
    obtain ⟨q, aliases, answer, listed⟩ := answered a (List.mem_cons_self a addrs)
    obtain ⟨r, rest⟩ := ih fun b member => answered b (List.mem_cons_of_mem a member)
    by_cases dotted : isFqdn q.hName.chars
    · exact ⟨some (q.hName, .resolvedByAddrName), by simp [reverseLookup, answer, dotted]⟩
    · rcases matched : aliases.find? (hAliasMatch · q.hName) with _ | found
      · exact ⟨r, by simp [reverseLookup, answer, dotted, listed, matched, rest]⟩
      · exact ⟨some (found, .resolvedByAddrAlias), by simp [reverseLookup, answer, dotted, listed, matched]⟩

theorem fqdnFromRecord_ok {byAddr : Nat → Option Hostent} {p : Hostent} {r : Option (CStr × List FqdnLog)}
    (run : fqdnFromRecord byAddr p = .ok r) : r.map Prod.fst = recordChoice byAddr p := by
  unfold fqdnFromRecord at run
  unfold recordChoice
  by_cases dotted : isFqdn p.hName.chars
  · simp only [dotted, if_true, Except.ok.injEq] at run
    simp [← run, dotted]
  · simp only [dotted] at run ⊢
    rcases aliased : forwardAlias p with _ | found
    · simp only [aliased] at run ⊢
      obtain ⟨r', looked, rfl⟩ := Except.map_eq_ok.mp run
      rw [← reverseLookup_ok looked]
      rcases r' with _ | ⟨fqdn, event⟩ <;> rfl
    · simp only [aliased, Except.ok.injEq, Bool.false_eq_true, if_false] at run
      simp [← run]

theorem cString_terminated (h : CStr) (rest : List Char) : cString (h.chars ++ nul :: rest) = h.chars := by
  rw [cString_append_of_not_mem h.noNul, cString_nul_cons, List.append_nil]

theorem isFqdn_take_dotted {h d : List Char} {k : Nat} (longer : h.length < k) :
    isFqdn ((h ++ '.' :: d).take k) = true := by
  rw [List.take_append_eq_append_take, List.take_of_length_le (by omega),
    show k - h.length = (k - h.length - 1) + 1 by omega]
  simp [isFqdn]

/-- Appending the domain after a name that leaves room for the '.' and one more
byte writes inside the buffer and leaves `h.d`, truncated to the buffer. -/
theorem appendDomain_ok {h : CStr} {rest : List Char} (room : h.chars.length + 2 ≤ (h.chars ++ nul :: rest).length)
    (sized : (h.chars ++ nul :: rest).length < 2 ^ 63) (d : CStr) :
    ∃ name', appendDomain (h.chars ++ nul :: rest) h.chars.length d = .ok name' ∧
      name'.length = (h.chars ++ nul :: rest).length ∧
      cString name' = (h.chars ++ '.' :: d.chars).take ((h.chars ++ nul :: rest).length - 1) := by
  have total : (h.chars ++ nul :: rest).length = h.chars.length + 1 + rest.length := by simp; omega
  have dotted : writeAt (h.chars ++ nul :: rest) h.chars.length ['.'] = .ok ((h.chars ++ ['.']) ++ rest) := by
    rw [writeAt_inside (by simp)]
    simp
  have room' : ((((h.chars ++ ['.']) ++ rest).length : Int) - (h.chars.length + 1)) = (rest.length : Nat) := by
    simp
  obtain ⟨dest, copied, length, text⟩ := sigarStrncpy_inside (show 0 < rest.length by omega)
    (.inr (List.mem_append_right d.chars (List.mem_singleton_self nul)))
  refine ⟨(h.chars ++ ['.']) ++ dest, ?_, by simp [length, total]; omega, ?_⟩
  · rw [appendDomain, dotted, Except.ok_bind, room', sizeT_natCast (by omega), copied, Except.ok_bind,
      writeAt_inside (by simp [length]; omega), List.take_left' (by simp),
      List.drop_eq_nil_of_le (by simp [length]; omega), List.append_nil]
  · have noNul : nul ∉ h.chars ++ ['.'] := by
      simp only [List.mem_append, List.mem_singleton, not_or]
      exact ⟨h.noNul, fun same => dot_ne_nul same.symm⟩
    have cut : (h.chars ++ '.' :: d.chars).take (h.chars.length + 1 + rest.length - 1) =
        h.chars ++ '.' :: d.chars.take (rest.length - 1) := by
      rw [List.take_append_eq_append_take, List.take_of_length_le (l := h.chars) (by omega),
        show h.chars.length + 1 + rest.length - 1 - h.chars.length = (rest.length - 1) + 1 by omega,
        List.take_succ_cons]
    rw [cString_append_of_not_mem noNul, text, cString_terminated d [], total, cut]
    simp

theorem domainChoice_dotted {domain : Except Nat CStr} {h : CStr} {text : List Char}
    (chosen : domainChoice domain h = some text) : ∃ d, text = h.chars ++ '.' :: d := by
  unfold domainChoice at chosen
  split at chosen
  · split at chosen
    · cases chosen
      exact ⟨_, rfl⟩
    · cases chosen
  · cases chosen

theorem domainStage_ok {domain : Except Nat CStr} {h : CStr} {rest : List Char}
    (room : h.chars.length + 2 ≤ (h.chars ++ nul :: rest).length) (sized : (h.chars ++ nul :: rest).length < 2 ^ 63)
    {name' : List Char} {log : List FqdnLog} (run : domainStage domain (h.chars ++ nul :: rest) = .ok (name', log)) :
    match domainChoice domain h with
    | some text => name'.length = (h.chars ++ nul :: rest).length ∧
        cString name' = text.take ((h.chars ++ nul :: rest).length - 1)
    | none => name' = h.chars ++ nul :: rest := by
  unfold domainStage at run
  unfold domainChoice
  rw [cString_terminated] at run
  rcases domain with e | d
  · simp only [Except.ok.injEq, Prod.mk.injEq] at run
    exact run.1.symm
  · have same : (!isFqdn h.chars && d.chars.head? != none && d.chars.head? != some '(') =
        (!isFqdn h.chars && decide (d.chars ≠ []) && decide (d.chars.head? ≠ some '(')) := by
      rcases d.chars with _ | ⟨c, cs⟩
      · simp
      · by_cases paren : c = '(' <;> simp [bne, paren]
    simp only [same] at run ⊢
    by_cases applies : (!isFqdn h.chars && decide (d.chars ≠ []) && decide (d.chars.head? ≠ some '(')) = true
    · simp only [applies, if_true] at run ⊢
      obtain ⟨out, appended, paired⟩ := Except.map_eq_ok.mp run
      obtain ⟨rfl, -⟩ := Prod.mk.inj paired
      obtain ⟨name'', appended', length, text⟩ := appendDomain_ok room sized d
      rw [appended'] at appended
      cases appended
      exact ⟨length, text⟩
    · simp only [applies, Bool.false_eq_true, if_false, Except.ok.injEq, Prod.mk.injEq] at run ⊢
      exact run.1.symm

theorem ipChoice_dotted {h : CStr} (dotted : isFqdn h.chars = true) : ipChoice fb host h = h.chars := by
  simp [ipChoice, dotted]

/-- fqdn_ip_get on the buffer gethostname left: the first interface address, when
there is one, else the short name. -/
theorem fqdnIpGet_choice {h : CStr} {rest : List Char} (room : h.chars.length + 2 ≤ (h.chars ++ nul :: rest).length)
    (undotted : isFqdn h.chars = false) {name' : List Char} {ipLog : List FqdnLog}
    (run : fqdnIpGet fb host (h.chars ++ nul :: rest) = .ok (name', ipLog)) :
    name'.length = (h.chars ++ nul :: rest).length ∧
      cString name' = (ipChoice fb host h).take ((h.chars ++ nul :: rest).length - 1) := by
  have fits : h.chars.take ((h.chars ++ nul :: rest).length - 1) = h.chars := List.take_of_length_le (by omega)
  have ip := fqdnIpGet_ok run
  simp only [ipChoice, undotted, Bool.false_eq_true, if_false]
  refine ⟨ip.1, ?_⟩
  revert ip
  rcases firstIp fb host with _ | text
  · rintro ⟨-, rfl⟩
    rw [cString_terminated, Option.getD_none, fits]
  · rintro ⟨-, short, written⟩
    rw [written, Option.getD_some, List.take_of_length_le (by omega)]

/-- The last step of both fallbacks: the name if dotted, else fqdn_ip_get. -/
theorem ipUnlessDotted_ok {h : CStr} {rest : List Char} (room : h.chars.length + 2 ≤ (h.chars ++ nul :: rest).length)
    {name' : List Char} {ipLog : List FqdnLog}
    (run : ipUnlessDotted fb host (h.chars ++ nul :: rest) = .ok (name', ipLog)) :
    name'.length = (h.chars ++ nul :: rest).length ∧
      cString name' = (ipChoice fb host h).take ((h.chars ++ nul :: rest).length - 1) := by
  unfold ipUnlessDotted at run
  rw [cString_terminated] at run
  by_cases dotted : isFqdn h.chars
  · simp only [dotted, if_true, Except.ok.injEq, Prod.mk.injEq] at run
    rw [← run.1, cString_terminated, ipChoice_dotted dotted, List.take_of_length_le (by omega)]
    exact ⟨rfl, rfl⟩
  · simp only [dotted, Bool.false_eq_true, if_false] at run
    exact fqdnIpGet_choice room (by simpa using dotted) run

theorem fqdnFallback_ok {h : CStr} {rest : List Char} (room : h.chars.length + 2 ≤ (h.chars ++ nul :: rest).length)
    (sized : (h.chars ++ nul :: rest).length < 2 ^ 63) {name' : List Char} {log : List FqdnLog}
    (run : fqdnFallback fb host (h.chars ++ nul :: rest) = .ok (name', log)) :
    name'.length = (h.chars ++ nul :: rest).length ∧
      cString name' = ((domainChoice host.domain h).getD (ipChoice fb host h)).take
        ((h.chars ++ nul :: rest).length - 1) := by
  obtain ⟨⟨name1, domainLog⟩, staged, finished⟩ := Except.bind_eq_ok.mp run
  have domained := domainStage_ok room sized staged
  obtain ⟨⟨name2, ipLog⟩, ipped, returned⟩ := Except.bind_eq_ok.mp finished
  cases returned
  rcases chosen : domainChoice host.domain h with _ | text
  · rw [chosen] at domained
    subst domained
    exact ipUnlessDotted_ok room ipped
  · rw [chosen] at domained
    obtain ⟨length, cut⟩ := domained
    obtain ⟨d, rfl⟩ := domainChoice_dotted chosen
    have dotted : isFqdn (cString name1) = true := by
      rw [cut]
      exact isFqdn_take_dotted (by omega)
    simp only [ipUnlessDotted, dotted, if_true, Except.ok.injEq, Prod.mk.injEq] at ipped
    rw [← ipped.1]
    exact ⟨length, cut⟩

/-- gethostname on the caller's buffer, when it succeeds: the short name and its
NUL, with room left for one more byte. -/
theorem gethostname_buffer {h : CStr} {name name1 : List Char} (sized : name.length < 2 ^ 31)
    (run : gethostname (.ok h) name (sizeT (name.length - 1)) = .ok (none, name1)) :
    h.chars.length + 2 ≤ name.length ∧ name1 = h.chars ++ nul :: name.drop (h.chars.length + 1) ∧
      (h.chars ++ nul :: name.drop (h.chars.length + 1)).length = name.length := by
  obtain ⟨short, inside, rfl⟩ := gethostname_none run
  have exact : sizeT ((name.length : Int) - 1) = name.length - 1 := by
    rw [show ((name.length : Int) - 1) = ((name.length - 1 : Nat) : Int) by omega, sizeT_natCast (by omega)]
  rw [exact] at short
  exact ⟨by omega, rfl, by simp; omega⟩

end Stages

/-- The four ways a call of sigar_fqdn_get ends: gethostname fails; or, after it
gives the name, the forward lookup fails, the record gives the name, or the last
stages do. -/
theorem fqdnGet_paths {fb : FqdnBuild} {host : FqdnHost} {name name' : List Char} {status : Nat}
    {log : List FqdnLog} (run : fqdnGet fb host name = .ok (status, name', log)) :
    (∃ e, gethostname host.nodename name (sizeT (name.length - 1)) = .ok (some e, name') ∧ status = e ∧
        log = [.gethostnameFailed]) ∨
      ∃ name1, gethostname host.nodename name (sizeT (name.length - 1)) = .ok (none, name1) ∧ status = sigarOk ∧
        ((∃ ipLog, host.byName = none ∧ ipUnlessDotted fb host name1 = .ok (name', ipLog) ∧
            log = .gethostnameReturned :: .gethostbynameFailed :: ipLog) ∨
          (∃ p fqdn events, host.byName = some p ∧ fqdnFromRecord host.byAddr p = .ok (some (fqdn, events)) ∧
            fqdnSet name1 fqdn = .ok name' ∧ log = .gethostnameReturned :: events) ∨
          (∃ p fallLog, host.byName = some p ∧ fqdnFromRecord host.byAddr p = .ok none ∧
            fqdnFallback fb host name1 = .ok (name', fallLog) ∧
            log = .gethostnameReturned :: .unresolvedByName :: .unresolvedByAlias :: .unresolvedByAddrList :: fallLog)) := by
  unfold fqdnGet at run
  obtain ⟨⟨status1, name1⟩, got, continued⟩ := Except.bind_eq_ok.mp run
  rcases status1 with _ | e
  · dsimp only at continued
    refine .inr ⟨name1, got, ?_⟩
    rcases byName : host.byName with _ | p
    · simp only [byName] at continued
      obtain ⟨⟨name2, ipLog⟩, ipped, returned⟩ := Except.map_eq_ok.mp continued
      cases returned
      exact ⟨rfl, .inl ⟨ipLog, rfl, ipped, rfl⟩⟩
    · simp only [byName] at continued
      obtain ⟨r, recorded, finished⟩ := Except.bind_eq_ok.mp continued
      rcases r with _ | ⟨fqdn, events⟩
      · obtain ⟨⟨name2, fallLog⟩, fell, returned⟩ := Except.map_eq_ok.mp finished
        cases returned
        exact ⟨rfl, .inr (.inr ⟨p, fallLog, rfl, recorded, fell, rfl⟩)⟩
      · obtain ⟨name2, set, returned⟩ := Except.map_eq_ok.mp finished
        cases returned
        exact ⟨rfl, .inr (.inl ⟨p, fqdn, events, rfl, recorded, set, rfl⟩)⟩
  · cases continued
    exact .inl ⟨_, got, rfl, rfl⟩

theorem fqdnGet_choice {fb : FqdnBuild} {host : FqdnHost} {name : List Char} {h : CStr}
    (named : host.nodename = .ok h) (sized : name.length < 2 ^ 31) {name' : List Char} {log : List FqdnLog}
    (run : fqdnGet fb host name = .ok (sigarOk, name', log)) :
    name'.length = name.length ∧ cString name' = (fqdnChoice fb host h).take (name.length - 1) := by
  rcases fqdnGet_paths run with ⟨e, got, rfl, -⟩ | ⟨name1, got, -, path⟩
  · rw [named] at got
    exact absurd (gethostname_some got) (by decide)
  rw [named] at got
  obtain ⟨room, rfl, length⟩ := gethostname_buffer sized got
  rw [← length] at room ⊢
  unfold fqdnChoice
  rcases path with ⟨ipLog, byName, ipped, -⟩ | ⟨p, fqdn, events, byName, recorded, set, -⟩ |
      ⟨p, fallLog, byName, recorded, fell, -⟩
  · rw [byName]
    exact ipUnlessDotted_ok room ipped
  · obtain ⟨name3, set', length3, text⟩ :=
      fqdnSet_ok (show 0 < (h.chars ++ nul :: name.drop (h.chars.length + 1)).length by simp) fqdn
    rw [set'] at set
    cases set
    rw [byName]
    dsimp only
    rw [← fqdnFromRecord_ok recorded, Option.map_some', Option.map_some', Option.getD_some]
    exact ⟨length3, text⟩
  · rw [byName]
    dsimp only
    rw [← fqdnFromRecord_ok recorded, Option.map_none', Option.map_none', Option.getD_none]
    exact fqdnFallback_ok room (by omega) fell

/-- A host named "box" whose forward record has no dotted name, no aliases and no
addresses, in the domain example.com. -/
def boxHost : FqdnHost :=
  ⟨.ok ⟨"box".toList, by decide⟩, some ⟨⟨"box".toList, by decide⟩, none, none⟩, fun _ => none,
    .ok ⟨"example.com".toList, by decide⟩, .error 1, fun _ => (1, IfConfig.zero)⟩

end Sigar
