import Sigar.Libc
import Sigar.ResultList
import Sigar.NetIfList
import Sigar.IfconfRetry
import Sigar.NetIfConfig
import Sigar.Who
import Sigar.InetNtoa
import Sigar.Fqdn
import Sigar.FqdnSpec
import Sigar.FqdnAlias
import Sigar.FqdnSafety
import Sigar.FsType
import Sigar.Credentials
import Sigar.FormatSize
import Sigar.Password
import Sigar.PasswordEditor
import Sigar.Uptime
import Sigar.ResourceLimit
import Sigar.SessionLifecycle
import Sigar.SessionRun
import Sigar.Process
import Sigar.Strerror
