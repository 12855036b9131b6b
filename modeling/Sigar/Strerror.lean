import Sigar.Libc

namespace Sigar

/-! sigar_strerror and sigar_error_string. sigar.h is not under src/: the error ranges
and SIGAR_ENOTIMPL are parameters, as is the way a build finds the text of an errno
value. -/

/-- The error ranges of sigar.h: sigar's own codes lie above SIGAR_START_ERROR, those
of the OS layer above SIGAR_OS_START_ERROR; SIGAR_ENOTIMPL is one of sigar's. -/
structure ErrorCodes where
  startError : Int
  osStartError : Int
  enotimpl : Int

/-- sigar_error_string. -/
def errorString (codes : ErrorCodes) (err : Int) : List Char :=
  if err = codes.enotimpl then "This function has not been implemented on this platform".toList
  else "Error string not specified yet".toList

/-- Where a build finds the text of an errno value: FormatMessage (WIN32), the GNU
strerror_r (HAVE_STRERROR_R_GLIBC), the XSI strerror_r (HAVE_STRERROR_R), or strerror. -/
inductive StrerrorBuild
  | formatMessage
  | gnuStrerrorR
  | xsiStrerrorR
  | strerror
  deriving DecidableEq

/-- What the GNU strerror_r returns, which "may, but need not, use the user supplied
buffer": a static message, the buffer left unused, or the buffer itself after the
message was written into it (glibc does this for an errno it has no text for). -/
inductive GnuStrerror
  | static (msg : CStr)
  | errbuf

/-- What the calls of sigar_strerror answer: sigar_os_error_string (NULL is `none`);
the message strerror gives; what the GNU strerror_r returns; the XSI strerror_r's
return value and the buffer it leaves; and the buffer FormatMessage leaves, `none`
when it returns 0 and writes nothing. -/
structure ErrorHost where
  osErrorString : Int → Option CStr
  message : Int → CStr
  gnuStrerrorR : Int → GnuStrerror
  xsiStrerrorR : Int → List Char → Int × List Char
  formatMessage : Int → List Char → Option (List Char)

/-- The string sigar_strerror returns: one of its own or of the OS layer, or
sigar->errbuf. -/
inductive ErrorText
  | text (chars : List Char)
  | errbuf
  deriving DecidableEq

/-- sigar_strerror, with `errbuf` the bytes of sigar->errbuf: the string it returns,
and errbuf after the call. SIGAR_SSTRCPY copies sizeof(sigar->errbuf) bytes; when
the GNU strerror_r hands back sigar->errbuf itself, it copies errbuf onto itself,
which strncpy leaves undefined. -/
def sigarStrerror (codes : ErrorCodes) (build : StrerrorBuild) (host : ErrorHost) (errbuf : List Char)
    (err : Int) : Except Fault (ErrorText × List Char) :=
  if err > codes.osStartError then
    .ok (.text (((host.osErrorString err).map CStr.chars).getD "Unknown OS Error".toList), errbuf)
  else if err > codes.startError then .ok (.text (errorString codes err), errbuf)
  else
    let sstrcpy (buf : List Char) := (sigarStrncpy errbuf.length (buf ++ [nul])).map (ErrorText.errbuf, ·)
    match build with
    | .formatMessage => .ok (.errbuf, (host.formatMessage err errbuf).getD errbuf)
    | .gnuStrerrorR =>
      match host.gnuStrerrorR err with
      | .static msg => sstrcpy msg.chars
      | .errbuf => .error .overlap
    | .xsiStrerrorR =>
      let (status, written) := host.xsiStrerrorR err errbuf
      if status < 0 then (sigarStrncpy written.length ("Unknown Error".toList ++ [nul])).map (.errbuf, ·)
      else .ok (.errbuf, written)
    | .strerror => sstrcpy (host.message err).chars

end Sigar
