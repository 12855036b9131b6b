import Sigar.Libc

namespace Sigar

/-! sigar_pid_get, which every platform but Linux compiles, and sigar_proc_kill. -/

/-- sigar_pid_get: `if (!sigar->pid) sigar->pid = getpid(); return sigar->pid;`. The
answer, and the session's pid field after the call. -/
def pidGet (getpid : Nat) (pid : Nat) : Nat × Nat :=
  let pid := if pid = 0 then getpid else pid
  (pid, pid)

/-- The answers of successive calls on one session, the i-th made when getpid would
answer `getpids[i]`: a process that forks between two calls gets another getpid. -/
def pidGetRun : List Nat → Nat → List Nat
  | [], _ => []
  | getpid :: rest, pid => (pidGet getpid pid).1 :: pidGetRun rest (pidGet getpid pid).2

/-- Once the field holds a pid, every call answers it. -/
theorem pidGetRun_cached {pid : Nat} (cached : pid ≠ 0) (getpids : List Nat) :
    pidGetRun getpids pid = List.replicate getpids.length pid := by
  induction getpids with
  | nil => rfl
  | cons getpid rest ih => simp [pidGetRun, pidGet, cached, ih, List.replicate_succ]

/-- sigar_proc_kill where it is not WIN32: kill(2), and errno when it returns -1. -/
def procKill (kill : Option Nat) : Nat :=
  match kill with
  | some errno => errno
  | none => sigarOk

/-- What the Win32 calls of sigar_proc_kill answer: whether OpenProcess gives a handle,
whether TerminateProcess succeeds, and GetLastError. -/
structure KillHost where
  opened : Bool
  terminated : Bool
  lastError : Nat

/-- sigar_proc_kill on WIN32, with the process's handles as its descriptors: the
status, and the handles after the call. Signal 0 asks only whether the process can
be opened; TerminateProcess is not called for it. -/
def procKillWin32 (host : KillHost) (signum : Int) (p : Proc) : Nat × Proc :=
  if host.opened then
    let (proc, p) := p.openFd
    let status : Int := if signum = 0 then sigarOk else if host.terminated then sigarOk else -1
    let p := p.close proc
    (if status = sigarOk then sigarOk else host.lastError, p)
  else (host.lastError, p)

/-- The handle OpenProcess gives is closed on every path, and SIGAR_OK comes back
exactly when the process was opened and the signal was 0 or TerminateProcess
succeeded; otherwise GetLastError's code. -/
theorem procKillWin32_eq (host : KillHost) (signum : Int) (p : Proc) :
    procKillWin32 host signum p =
      (if host.opened ∧ (signum = 0 ∨ host.terminated) then sigarOk else host.lastError, p) := by
  unfold procKillWin32
  by_cases opened : host.opened <;> by_cases zero : signum = 0 <;> cases host.terminated <;>
    simp [opened, zero, sigarOk]

end Sigar
