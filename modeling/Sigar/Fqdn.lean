import Sigar.InetNtoa
import Sigar.NetIfConfig
import Sigar.NetIfList

namespace Sigar

/-- The fields of a struct hostent the code reads: h_name, h_aliases and
h_addr_list, either list possibly NULL, and each address given by its value. -/
structure Hostent where
  hName : CStr
  hAliases : Option (List CStr)
  hAddrList : Option (List Nat)

/-- The build's side of sigar_fqdn_get: the host's byte order and
SIGAR_IFF_LOOPBACK of sigar.h. -/
structure FqdnBuild where
  bigEndian : Bool
  sigarIffLoopback : BitVec 64

/-- What the host answers during one call: uname's nodename (which glibc's
gethostname copies) or its errno, the record gethostbyname finds for the name, the
one gethostbyaddr finds for each address, getdomainname's outcome, and what
sigar_net_interface_list_get and sigar_net_interface_config_get give fqdn_ip_get:
the interface names or the error status, and each name's status and config.

The resolver is glibc's, where gethostbyname and gethostbyaddr hand back records in
separate static storage, so the forward record stays as it was while the reverse
lookups run. Where the two share one hostent (FreeBSD, Winsock), each gethostbyaddr
overwrites the record whose address list the loop is walking; those platforms are not
modelled. -/
structure FqdnHost where
  nodename : Except Nat CStr
  byName : Option Hostent
  byAddr : Nat → Option Hostent
  domain : Except Nat CStr
  ifaces : Except Nat (List (List Char))
  config : List Char → Nat × IfConfig

/-- The messages sigar_fqdn_get and fqdn_ip_get hand to the log, one constructor
per call site in source order, from "[fqdn] gethostname failed: %s" to "[fqdn]
using ip address ... for fqdn". -/
inductive FqdnLog
  | gethostnameFailed
  | gethostnameReturned
  | gethostbynameFailed
  | resolvedByName
  | unresolvedByName
  | resolvedByAlias
  | unresolvedByAlias
  | resolvedByAddrName
  | resolvedByAddrAlias
  | unresolvedByAddrList
  | resolvedByDomain
  | domainFailed
  | usingIpAddress
  deriving DecidableEq

/-- gethostname(name, len) as glibc implements it over uname's nodename: the
nodename and its NUL are copied when the nodename is shorter than `len`;
otherwise `len` bytes are copied and ENAMETOOLONG is returned. -/
def gethostname (nodename : Except Nat CStr) (name : List Char) (len : Nat) :
    Except Fault (Option Nat × List Char) :=
  match nodename with
  | .error e => .ok (some e, name)
  | .ok h =>
    if h.chars.length < len then (writeAt name 0 (h.chars ++ [nul])).map (none, ·)
    else (writeAt name 0 ((h.chars ++ [nul]).take len)).map (some enametoolong, ·)

/-- IS_FQDN(name): strchr(name, '.'). -/
def isFqdn (name : List Char) : Bool := name.contains '.'

/-- H_ALIAS_MATCH(alias, name). -/
def hAliasMatch (aliasName name : CStr) : Bool :=
  isFqdn aliasName.chars && strnEQ aliasName.chars name.chars name.chars.length

/-- FQDN_SET(fqdn): SIGAR_STRNCPY(name, fqdn, namelen). -/
def fqdnSet (name : List Char) (fqdn : CStr) : Except Fault (List Char) := do
  writeAt name 0 (← sigarStrncpy name.length (fqdn.chars ++ [nul]))

/-- fqdn_ip_get as sigar_fqdn_get sees it, from the answers its calls give: the first
interface in enumeration order whose configuration can be read and which is not
loopback has its address written into `name`. `fqdnIpGetOn` makes those calls on the
session; SessionRun.lean shows it gives the same name and log. -/
def fqdnIpGet (fb : FqdnBuild) (host : FqdnHost) (name : List Char) :
    Except Fault (List Char × List FqdnLog) :=
  match host.ifaces with
  | .error _ => .ok (name, [])
  | .ok names =>
    match names.find? (fun n => (host.config n).1 == sigarOk &&
        (host.config n).2.flags &&& fb.sigarIffLoopback == 0) with
    | none => .ok (name, [])
    | some n => (sigarInetNtoa fb.bigEndian (host.config n).2.address name).map (·, [.usingIpAddress])

/-- What socket(2) and the kernel answer sigar_net_interface_config_get for each
interface name. -/
structure ConfigHost where
  socket : List Char → Option Nat
  answers : List Char → IfreqAnswers

/-- The status and config sigar_net_interface_config_get gives for a name. -/
def ConfigHost.config (ch : ConfigHost) (cb : ConfigBuild) (p : Proc) (n : List Char) : Nat × IfConfig :=
  ((netInterfaceConfigGet cb (ch.socket n) (ch.answers n) n p).1,
    (netInterfaceConfigGet cb (ch.socket n) (ch.answers n) n p).2.1)

/-- The loop of fqdn_ip_get over the slots `is` of the list's data: each name read
from its slot is handed to sigar_net_interface_config_get, and the first interface
whose config is read and is not loopback has its address written into `name`. -/
def fqdnIpLoop (fb : FqdnBuild) (cb : ConfigBuild) (ch : ConfigHost) (data : Storage (List Char))
    (name : List Char) : List Nat → Proc → Except Fault (List Char × List FqdnLog × Proc)
  | [], p => .ok (name, [], p)
  | i :: is, p => do
    let ifname ← data.load i
    let (status, ifconfig, p) := netInterfaceConfigGet cb (ch.socket ifname) (ch.answers ifname) ifname p
    if status != sigarOk || ifconfig.flags &&& fb.sigarIffLoopback != 0 then fqdnIpLoop fb cb ch data name is p
    else (sigarInetNtoa fb.bigEndian ifconfig.address name).map fun name => (name, [.usingIpAddress], p)

/-- What fqdn_ip_get leaves: its status, the name and the log, the session and the
process, and its local list as sigar_net_interface_list_destroy leaves it. -/
structure FqdnIpResult where
  status : Nat
  name : List Char
  log : List FqdnLog
  session : Session
  proc : Proc
  iflist : ResultList (List Char)

/-- fqdn_ip_get on the session, with at most `fuel` passes of the enumeration's retry
loop: sigar_net_interface_list_get into the local list, the loop over its names, then
sigar_net_interface_list_destroy. The local list starts with no storage; a failed
enumeration returns its status before anything is stored in it. -/
def fqdnIpGetOn (fb : FqdnBuild) (b : IfconfBuild) (host : IfListHost) (fuel : Nat) (cb : ConfigBuild)
    (ch : ConfigHost) (name : List Char) (s : Session) (p : Proc) : Option (Except Fault FqdnIpResult) :=
  (netInterfaceListGet b host fuel ⟨0, 0, .null⟩ s p).map fun
    | .error f => .error f
    | .ok listed =>
      if listed.status ≠ sigarOk then .ok ⟨listed.status, name, [], listed.session, listed.proc, listed.iflist⟩
      else do
        let (name, log, q) ←
          fqdnIpLoop fb cb ch listed.iflist.data name (List.range listed.iflist.number) listed.proc
        let (iflist, _) ← netInterfaceListDestroy listed.iflist
        return ⟨sigarOk, name, log, listed.session, q, iflist⟩

/-- The loop over p->h_aliases, which may be NULL. -/
def forwardAlias (p : Hostent) : Option CStr :=
  p.hAliases.bind fun aliases => aliases.find? (hAliasMatch · p.hName)

/-- The loop over p->h_addr_list: the reverse record of each address gives its
name if dotted, else its first matching alias. The record and its alias list are
dereferenced unchecked. -/
def reverseLookup (byAddr : Nat → Option Hostent) : List Nat → Except Fault (Option (CStr × FqdnLog))
  | [] => .ok none
  | a :: addrs =>
    match byAddr a with
    | none => .error .nullDeref
    | some q =>
      if isFqdn q.hName.chars then .ok (some (q.hName, .resolvedByAddrName))
      else
        match q.hAliases with
        | none => .error .nullDeref
        | some aliases =>
          match aliases.find? (hAliasMatch · q.hName) with
          | some found => .ok (some (found, .resolvedByAddrAlias))
          | none => reverseLookup byAddr addrs

/-- The stages that take the name from the gethostbyname record, with what they log. -/
def fqdnFromRecord (byAddr : Nat → Option Hostent) (p : Hostent) :
    Except Fault (Option (CStr × List FqdnLog)) :=
  if isFqdn p.hName.chars then .ok (some (p.hName, [.resolvedByName]))
  else
    match forwardAlias p with
    | some found => .ok (some (found, [.unresolvedByName, .resolvedByAlias]))
    | none => (reverseLookup byAddr (p.hAddrList.getD [])).map fun
      | some (fqdn, event) => some (fqdn, [.unresolvedByName, .unresolvedByAlias, event])
      | none => none

/-- `*ptr++ = '.'` after the `len` characters of the name, then
SIGAR_STRNCPY(ptr, domain, namelen - (len + 1)). -/
def appendDomain (name : List Char) (len : Nat) (domain : CStr) : Except Fault (List Char) := do
  let name ← writeAt name len ['.']
  writeAt name (len + 1) (← sigarStrncpy (sizeT (name.length - (len + 1))) (domain.chars ++ [nul]))

/-- The getdomainname stage: the domain appended to an undotted name when
getdomainname gives one that is neither empty nor starting with '(' (Linux
answers "(none)"). -/
def domainStage (domain : Except Nat CStr) (name : List Char) : Except Fault (List Char × List FqdnLog) :=
  match domain with
  | .ok d =>
    if !isFqdn (cString name) && d.chars.head? != none && d.chars.head? != some '(' then
      (appendDomain name (cString name).length d).map (·, [.resolvedByDomain])
    else .ok (name, [.domainFailed])
  | .error _ => .ok (name, [.domainFailed])

/-- `if (!IS_FQDN(name)) fqdn_ip_get(sigar, name);` -/
def ipUnlessDotted (fb : FqdnBuild) (host : FqdnHost) (name : List Char) :
    Except Fault (List Char × List FqdnLog) :=
  if isFqdn (cString name) then .ok (name, []) else fqdnIpGet fb host name

/-- The last stages: the domain, then fqdn_ip_get while the name is still undotted. -/
def fqdnFallback (fb : FqdnBuild) (host : FqdnHost) (name : List Char) :
    Except Fault (List Char × List FqdnLog) := do
  let (name, domainLog) ← domainStage host.domain name
  let (name, ipLog) ← ipUnlessDotted fb host name
  return (name, domainLog ++ ipLog)

/-- sigar_fqdn_get on the caller's buffer `name` of namelen bytes: the status, the
buffer and the log. -/
def fqdnGet (fb : FqdnBuild) (host : FqdnHost) (name : List Char) :
    Except Fault (Nat × List Char × List FqdnLog) := do
  let (status, name) ← gethostname host.nodename name (sizeT (name.length - 1))
  match status with
  | some e => .ok (e, name, [.gethostnameFailed])
  | none =>
    match host.byName with
    | none => (ipUnlessDotted fb host name).map fun (name, ipLog) =>
      (sigarOk, name, .gethostnameReturned :: .gethostbynameFailed :: ipLog)
    | some p =>
      match ← fqdnFromRecord host.byAddr p with
      | some (fqdn, log) => (fqdnSet name fqdn).map (sigarOk, ·, .gethostnameReturned :: log)
      | none => (fqdnFallback fb host name).map fun (name, log) =>
        (sigarOk, name, .gethostnameReturned :: .unresolvedByName :: .unresolvedByAlias ::
          .unresolvedByAddrList :: log)

end Sigar
