import Fanout.Host.Fs

/-!
# The machine's first layout

What a freshly started machine holds before any task runs: the directories of a Debian system
(with `/bin`, `/lib` and `/sbin` as links into `/usr`), the account files, the character
devices, the process table under `/proc` (which takes no new names), the sticky `/tmp`, and the
programs installed in `/usr/bin`, among them `sh`, a link to `dash`, and `passwd`, which runs
with the rights of its owner.

Everything here carries tick zero, so anything written later is newer.
-/

namespace Fanout.Host

/-- The programs installed in `/usr/bin`, by name. -/
def installedPrograms : List String :=
  ["dash", "bash", "sleep", "cat", "echo", "printf", "true", "false", "kill", "env", "touch",
   "mkdir", "rm", "pwd", "test", "[", "id", "whoami", "seq", "basename", "dirname", "uname",
   "od", "tr", "sort", "head", "tail", "wc", "cut", "expr", "mawk", "sed", "printenv", "tee",
   "ls", "grep", "uniq", "rev", "yes", "nproc", "date", "chmod", "readlink", "realpath",
   "timeout", "xargs", "cp", "mv", "ln", "stat", "passwd", "tac", "nl", "paste", "comm",
   "expand", "unexpand", "fold", "md5sum", "sha1sum", "sha224sum", "sha256sum", "sha384sum",
   "sha512sum", "cksum", "sum", "base64", "base32", "factor",
   "rmdir", "unlink", "truncate", "dd", "find"]

/-- The links among the installed programs: name and target. -/
def programLinks : List (String × String) :=
  [("sh", "dash"), ("awk", "/etc/alternatives/awk"), ("rbash", "bash")]

/-- The account file. -/
def passwdText : String :=
  "root:x:0:0:root:/root:/bin/bash\n" ++
  "daemon:x:1:1:daemon:/usr/sbin:/usr/sbin/nologin\n" ++
  "bin:x:2:2:bin:/bin:/usr/sbin/nologin\n" ++
  "sys:x:3:3:sys:/dev:/usr/sbin/nologin\n" ++
  "nobody:x:65534:65534:nobody:/nonexistent:/usr/sbin/nologin\n"

/-- The group file. -/
def groupText : String :=
  "root:x:0:\ndaemon:x:1:\nbin:x:2:\nsys:x:3:\nnogroup:x:65534:\n"

/-- The machine as it starts. -/
def Fs.system : Fs :=
  let dirs : List (String × Nat) :=
    [("/usr", 0o755), ("/usr/bin", 0o755), ("/usr/lib", 0o755), ("/usr/sbin", 0o755),
     ("/usr/local", 0o755), ("/usr/local/bin", 0o755), ("/usr/local/sbin", 0o755),
     ("/etc", 0o755), ("/etc/alternatives", 0o755), ("/dev", 0o755), ("/proc", 0o555),
     ("/proc/1", 0o555), ("/tmp", 0o1777), ("/root", 0o700), ("/home", 0o755),
     ("/var", 0o755), ("/var/tmp", 0o1777), ("/run", 0o755)]
  let fs := dirs.foldl (fun fs (p, m) => fs.install p (.dir m)) Fs.empty
  let fs := [("/bin", "usr/bin"), ("/lib", "usr/lib"), ("/sbin", "usr/sbin"),
      ("/dev/stdin", "/proc/self/fd/0"), ("/dev/stdout", "/proc/self/fd/1"),
      ("/dev/stderr", "/proc/self/fd/2"), ("/dev/fd", "/proc/self/fd"), ("/proc/self", "1"),
      ("/etc/alternatives/awk", "/usr/bin/mawk")].foldl
    (fun fs (p, t) => fs.install p (.link t)) fs
  let fs := [("/dev/null", Device.null), ("/dev/full", .full), ("/dev/zero", .zero)].foldl
    (fun fs (p, d) => fs.install p (.device d)) fs
  let fs := installedPrograms.foldl (fun fs n =>
    fs.install ("/usr/bin/" ++ n) (.program n (if n == "passwd" then 0o4755 else 0o755))) fs
  let fs := programLinks.foldl (fun fs (n, t) => fs.install ("/usr/bin/" ++ n) (.link t)) fs
  let fs := fs.install "/etc/passwd" (.file passwdText 0o644)
  let fs := fs.install "/etc/group" (.file groupText 0o644)
  { fs with sealed := ["/proc"] }

end Fanout.Host
