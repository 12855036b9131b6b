import Sigar.Fqdn
import Sigar.IfconfRetry
import Sigar.SessionLifecycle

namespace Sigar

/-! Whole runs of a session: sigar_open, then any interleaving of
sigar_net_interface_list_get, sigar_net_interface_list_destroy and fqdn_ip_get, then
sigar_close. fqdn_ip_get is made of the first two and sigar_net_interface_config_get,
and gives what `fqdnIpGet`, the stage sigar_fqdn_get runs, reads from their answers. -/

/-- The elements data[0..number) holds, as a loop over them reads them. -/
def ResultList.elements {α : Type} (l : ResultList α) : List α :=
  (List.range l.number).filterMap fun i => (l.data.load i).toOption

theorem IflistOwned.load {l : ResultList (List Char)} (owned : IflistOwned l) {i : Nat} (below : i < l.number) :
    ∃ x, l.data.load i = .ok x := by
  rcases owned with ⟨-, none⟩ | ⟨slots, block, -, held⟩
  · omega
  · obtain ⟨x, at_i⟩ := held i below
    exact ⟨x, by simp [block, Storage.load, at_i]⟩

/-- The answers fqdn_ip_get's calls give it, as the host `fqdnIpGet` reads them: the
names sigar_net_interface_list_get stored, or its failed status, and each name's
status and config from sigar_net_interface_config_get. -/
def FqdnHost.answered (host : FqdnHost) (listed : IfListResult) (cb : ConfigBuild) (ch : ConfigHost) : FqdnHost :=
  { host with
    ifaces := if listed.status = sigarOk then .ok listed.iflist.elements else .error listed.status
    config := ch.config cb listed.proc }

section Fqdn

variable {fb : FqdnBuild} {cb : ConfigBuild} {ch : ConfigHost} {name : List Char}

/-- Over slots that each hold a name, the loop makes the choice `fqdnIpGet` makes from
those names and the configs the calls give, and leaves the process as it was. -/
theorem fqdnIpLoop_eq (host : FqdnHost) {data : Storage (List Char)} :
    ∀ {js : List Nat}, (∀ j ∈ js, ∃ x, data.load j = .ok x) → ∀ q : Proc,
      fqdnIpLoop fb cb ch data name js q =
        (fqdnIpGet fb
          { host with
            ifaces := .ok (js.filterMap fun j => (data.load j).toOption)
            config := ch.config cb q } name).map fun r => (r.1, r.2, q)
  | [], _, q => by simp [fqdnIpLoop, fqdnIpGet]
  | j :: js, loaded, q => by
    obtain ⟨x, at_j⟩ := loaded j (List.mem_cons_self _ _)
    have rest := fqdnIpLoop_eq host (fun j' member => loaded j' (List.mem_cons_of_mem _ member)) q
    have answered : netInterfaceConfigGet cb (ch.socket x) (ch.answers x) x q =
        ((ch.config cb q x).1, (ch.config cb q x).2, q) :=
      netInterfaceConfigGet_frame cb _ _ x q q
    have names : (j :: js).filterMap (fun j => (data.load j).toOption) =
        x :: js.filterMap (fun j => (data.load j).toOption) := by
      simp [at_j, Except.toOption]
    rw [names]
    simp only [fqdnIpLoop, at_j, Except.ok_bind, answered, bne, ← Bool.not_and]
    cases keep : ((ch.config cb q x).1 == sigarOk && (ch.config cb q x).2.flags &&& fb.sigarIffLoopback == 0)
    · simp only [Bool.not_false, if_true, rest, fqdnIpGet, List.find?_cons, keep]
    · simp only [Bool.not_true, Bool.false_eq_true, if_false, fqdnIpGet, List.find?_cons, keep]
      cases sigarInetNtoa fb.bigEndian (ch.config cb q x).2.address name <;> rfl

/-- The loop leaves the process as it was. -/
theorem fqdnIpLoop_proc {data : Storage (List Char)} :
    ∀ {js : List Nat} {q q' : Proc} {name' : List Char} {log : List FqdnLog},
      fqdnIpLoop fb cb ch data name js q = .ok (name', log, q') → q' = q
  | [], _, _, _, _, run => by
    cases run
    rfl
  | j :: js, q, q', _, _, run => by
    obtain ⟨x, -, rest⟩ := Except.bind_eq_ok.mp run
    rw [netInterfaceConfigGet_frame cb _ _ x q q] at rest
    dsimp only at rest
    split at rest
    · exact fqdnIpLoop_proc rest
    · obtain ⟨_, -, same⟩ := Except.map_eq_ok.mp rest
      cases same
      rfl

/-- fqdn_ip_get on the session gives the name and log that `fqdnIpGet`, the stage
sigar_fqdn_get runs, gives from the answers the calls return: whatever the
enumeration, each interface's config and sigar_inet_ntoa's write come to, faults
included. -/
theorem fqdnIpGetOn_refines (b : IfconfBuild) (host : IfListHost) (fuel : Nat) (s : Session) (p : Proc)
    (fqdnHost : FqdnHost) :
    (fqdnIpGetOn fb b host fuel cb ch name s p).map (Except.map fun r => (r.name, r.log)) =
      (netInterfaceListGet b host fuel ⟨0, 0, .null⟩ s p).map fun
        | .ok listed => fqdnIpGet fb (fqdnHost.answered listed cb ch) name
        | .error f => .error f := by
  unfold fqdnIpGetOn
  rcases call : netInterfaceListGet b host fuel ⟨0, 0, .null⟩ s p with _ | (f | listed)
  · rfl
  · rfl
  · have owned := netInterfaceListGet_owned (.inl ⟨rfl, rfl⟩) call
    by_cases ok : listed.status = sigarOk
    · obtain ⟨l', destroyed, -⟩ := owned.destroy
      simp only [Option.map_some', ok, ne_eq, not_true_eq_false, if_false,
        fqdnIpLoop_eq fqdnHost (fun j member => owned.load (List.mem_range.mp member)) listed.proc,
        FqdnHost.answered, if_true, ResultList.elements]
      cases fqdnIpGet fb _ name with
      | error => rfl
      | ok => simp only [Except.map_ok, Except.ok_bind, destroyed]; rfl
    · simp only [Option.map_some', ok, ne_eq, not_false_eq_true, if_true, FqdnHost.answered, if_false, fqdnIpGet,
        Except.map_ok]

/-- An fqdn_ip_get that returns SIGAR_OK on a reliable host leaves the session holding
what it held and the descriptors as they were, and its local list's block is freed
unless the list has size 0, when it is the zero-byte block malloc(0) gave. -/
theorem fqdnIpGetOn_session {b : IfconfBuild} {host : IfListHost} {fuel : Nat} {s : Session} {p₀ p : Proc}
    {r : FqdnIpResult} (fresh : p₀.Fresh) (reliable : host.Reliable) (owns : Owns b p₀ s p)
    (run : fqdnIpGetOn fb b host fuel cb ch name s p = some (.ok r)) (ok : r.status = sigarOk) :
    Owns b p₀ r.session r.proc ∧ r.proc.fds = p.fds ∧
      (r.iflist.data.live → r.iflist.size = 0 ∧ r.iflist.data = .block []) := by
  unfold fqdnIpGetOn at run
  obtain ⟨result, call, rest⟩ := Option.map_eq_some'.mp run
  rcases result with f | ⟨status, l, s', q⟩
  · cases rest
  · by_cases listed : status = sigarOk
    · subst listed
      obtain ⟨owns', fds, owned⟩ := netInterfaceListGet_owns fresh reliable owns call
      obtain ⟨l', destroyed, leaked⟩ := owned.destroy
      simp only [ne_eq, not_true_eq_false, if_false] at rest
      obtain ⟨⟨name', log, q'⟩, loop, returned⟩ := Except.bind_eq_ok.mp rest
      have same := fqdnIpLoop_proc loop
      subst same
      simp only [destroyed, Except.ok_bind, pure, Except.pure, Except.ok.injEq] at returned
      subst returned
      refine ⟨owns', fds, fun live => ?_⟩
      obtain ⟨rfl, empty, block⟩ := leaked live
      exact ⟨empty, block⟩
    · simp only [ne_eq, listed, not_false_eq_true, if_true] at rest
      cases rest
      exact absurd ok listed

end Fqdn

/-- The lists given up after a list is destroyed: it joins them while its block is
still live. -/
def loseList (l : ResultList (List Char)) (lost : List (ResultList (List Char))) : List (ResultList (List Char)) :=
  if l.data.live then l :: lost else lost

theorem mem_loseList {l l' : ResultList (List Char)} {lost : List (ResultList (List Char))}
    (member : l' ∈ loseList l lost) : l' ∈ lost ∨ l' = l ∧ l.data.live := by
  unfold loseList at member
  split at member
  · rcases List.mem_cons.mp member with rfl | old
    · exact .inr ⟨rfl, ‹_›⟩
    · exact .inl old
  · exact .inl member

/-- The states a session reaches from sigar_open through calls that return SIGAR_OK on
reliable hosts: sigar_net_interface_list_get, sigar_net_interface_list_destroy of a
list the caller holds, and fqdn_ip_get with any answers to its config queries. `held`
are the lists handed to the caller and not yet destroyed, `lost` those given up whose
block is still live. -/
inductive SessionReach (b : IfconfBuild) (p₀ : Proc) :
    Session → Proc → List (ResultList (List Char)) → List (ResultList (List Char)) → Prop
  | opened {s : Session} : sigarOpen sigarOk = (sigarOk, some s) → SessionReach b p₀ s p₀ [] []
  | listed {s s' : Session} {p q : Proc} {host : IfListHost} {fuel : Nat} {iflist l : ResultList (List Char)}
      {held lost : List (ResultList (List Char))} :
      SessionReach b p₀ s p held lost → host.Reliable →
      netInterfaceListGet b host fuel iflist s p = some (.ok ⟨sigarOk, l, s', q⟩) →
      SessionReach b p₀ s' q (l :: held) lost
  | destroyed {s : Session} {p : Proc} {l l' : ResultList (List Char)} {before after lost : List (ResultList (List Char))}
      {status : Nat} :
      SessionReach b p₀ s p (before ++ l :: after) lost → netInterfaceListDestroy l = .ok (l', status) →
      SessionReach b p₀ s p (before ++ after) (loseList l' lost)
  | fqdnIp {s : Session} {p : Proc} {held lost : List (ResultList (List Char))} {fb : FqdnBuild} {host : IfListHost}
      {fuel : Nat} {cb : ConfigBuild} {ch : ConfigHost} {name : List Char} {r : FqdnIpResult} :
      SessionReach b p₀ s p held lost → host.Reliable →
      fqdnIpGetOn fb b host fuel cb ch name s p = some (.ok r) → r.status = sigarOk →
      SessionReach b p₀ r.session r.proc held (loseList r.iflist lost)

/-- What every state a session reaches satisfies: the session holds only its own
buffer, the descriptors are those the process started with, every list the caller
holds owns its block and names, and every list given up with a live block is a list
of size 0 over a zero-byte block. -/
structure RunInv (b : IfconfBuild) (p₀ : Proc) (s : Session) (p : Proc)
    (held lost : List (ResultList (List Char))) : Prop where
  owns : Owns b p₀ s p
  fds : p.fds = p₀.fds
  held : ∀ l ∈ held, IflistOwned l
  lost : ∀ l ∈ lost, l.size = 0 ∧ l.data = .block []

theorem RunInv.lose {b : IfconfBuild} {p₀ p : Proc} {s : Session} {held lost : List (ResultList (List Char))}
    {l : ResultList (List Char)} (inv : RunInv b p₀ s p held lost) (leaked : l.data.live → l.size = 0 ∧ l.data = .block []) :
    ∀ l' ∈ loseList l lost, l'.size = 0 ∧ l'.data = .block [] := fun l' member => by
  rcases mem_loseList member with old | ⟨rfl, live⟩
  · exact inv.lost l' old
  · exact leaked live

theorem SessionReach.inv {b : IfconfBuild} {p₀ p : Proc} {s : Session} {held lost : List (ResultList (List Char))}
    (fresh : p₀.Fresh) (reach : SessionReach b p₀ s p held lost) : RunInv b p₀ s p held lost := by
  induction reach with
  | opened opened =>
    cases opened
    exact ⟨⟨.inl ⟨rfl, rfl⟩, le_refl _, by rintro _ ⟨⟩, fun _ _ => rfl⟩, rfl, nofun, nofun⟩
  | listed _ reliable call ih =>
    obtain ⟨owns, fds, owned⟩ := netInterfaceListGet_owns fresh reliable ih.owns call
    refine ⟨owns, fds.trans ih.fds, fun l member => ?_, ih.lost⟩
    rcases List.mem_cons.mp member with rfl | old
    · exact owned
    · exact ih.held l old
  | destroyed _ destroyed ih =>
    obtain ⟨l'', destroyed', leaked⟩ := (ih.held _ (List.mem_append_right _ (List.mem_cons_self _ _))).destroy
    cases destroyed.symm.trans destroyed'
    refine ⟨ih.owns, ih.fds, fun l member => ih.held l ?_, ih.lose fun live => ?_⟩
    · rcases List.mem_append.mp member with front | back
      · exact List.mem_append_left _ front
      · exact List.mem_append_right _ (List.mem_cons_of_mem _ back)
    · obtain ⟨rfl, empty, block⟩ := leaked live
      exact ⟨empty, block⟩
  | fqdnIp _ reliable run ok ih =>
    obtain ⟨owns, fds, leaked⟩ := fqdnIpGetOn_session fresh reliable ih.owns run ok
    exact ⟨owns, fds.trans ih.fds, ih.held, ih.lose leaked⟩

end Sigar
