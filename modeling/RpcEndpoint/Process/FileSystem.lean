import RpcEndpoint.Text.Bytes

/-!
# The files that children find

A tree of directories, programs, plain files, devices and links. A path is walked step by step, so
that of two things that are wrong with it the one that stands first counts.
-/

namespace RpcEndpoint

/-- Why the system refuses what a process asks for. -/
inductive SystemFault where
  | missing
  | notDirectory
  | isDirectory
  | nameTooLong
  | tooManyLinks
  | denied
  | alreadyThere
  | notEmpty
  | badFile
  | brokenPipe
  | noSpace
  | noProcess
  | interrupted
deriving Repr, DecidableEq

/-- How the system names the fault. -/
def SystemFault.message : SystemFault → String
  | .missing => "No such file or directory"
  | .notDirectory => "Not a directory"
  | .isDirectory => "Is a directory"
  | .nameTooLong => "File name too long"
  | .tooManyLinks => "Too many levels of symbolic links"
  | .denied => "Permission denied"
  | .alreadyThere => "File exists"
  | .notEmpty => "Directory not empty"
  | .badFile => "Bad file descriptor"
  | .brokenPipe => "Broken pipe"
  | .noSpace => "No space left on device"
  | .noProcess => "No such process"
  | .interrupted => "Interrupted system call"

/-- The devices that children use. -/
inductive Device where
  /-- Always at its end; takes everything. -/
  | null
  /-- An endless source of zero bytes; takes everything. -/
  | zero
  /-- An endless source of zero bytes; takes nothing. -/
  | full
  /-- Whatever the process has open under this number. -/
  | opened (number : Nat)
deriving Repr, DecidableEq

/-- What a name in a directory stands for. -/
inductive Node where
  | directory
  /-- A program, known by its name. -/
  | program (name : String)
  | plain (content : Bytes)
  | device (device : Device)
  | link (target : String)
deriving Repr, DecidableEq

/-- A place in the tree: the names on the way to it. -/
abbrev Place := List String

/-- The nodes of the tree by their places. The root is always there. -/
abbrev FileSystem := List (Place × Node)

namespace FileSystem

/-! ## Paths -/

/-- How many bytes a path may have. -/
def pathLimit : Nat := 4095

/-- How many bytes a name may have. -/
def nameLimit : Nat := 255

/-- How many links may be followed on the way. -/
def linkLimit : Nat := 40

/-- The steps of a path. A path that ends with a slash goes on into what it names. -/
def steps (path : String) : List String :=
  let names := (path.splitOn "/").filter fun name => !name.isEmpty
  if path.endsWith "/" then names ++ ["."] else names

/-- The path of a place. -/
def pathOf (place : Place) : String :=
  "/" ++ "/".intercalate place

/-- The node at a place. -/
def node? (place : Place) (system : FileSystem) : Option Node :=
  if place.isEmpty then some .directory else system.lookup place

/-- Where a path leads, and what is there. The last name may be missing. The first number bounds
the links, the second the steps between two of them. -/
def walk (system : FileSystem) : Nat → Nat → Place → List String →
    Except SystemFault (Place × Option Node)
  | _, 0, _, _ => .error .nameTooLong
  | _, _ + 1, place, [] => .ok (place, some .directory)
  | links, fuel + 1, place, step :: rest =>
    if step = "." then walk system links fuel place rest
    else if step = ".." then walk system links fuel place.dropLast rest
    else if nameLimit < step.length then .error .nameTooLong
    else
      let next := place ++ [step]
      match system.node? next with
      | none => if rest.isEmpty then .ok (next, none) else .error .missing
      | some (.link target) =>
        match links with
        | 0 => .error .tooManyLinks
        | links + 1 =>
          let start := if target.startsWith "/" then [] else place
          walk system links (fuel + target.length) start (steps target ++ rest)
      | some .directory => walk system links fuel next rest
      | some found => if rest.isEmpty then .ok (next, some found) else .error .notDirectory
termination_by links fuel => (links, fuel)

/-- Where a path leads from a place, and what is there. -/
def locate (system : FileSystem) (base : Place) (path : String) :
    Except SystemFault (Place × Option Node) :=
  if path.isEmpty then .error .missing
  else if pathLimit < path.length then .error .nameTooLong
  else
    let start := if path.startsWith "/" then [] else base
    walk system linkLimit (path.length + 1) start (steps path)

/-- Where a path leads from a place and what is there, which may be a link. -/
def locateItself (system : FileSystem) (base : Place) (path : String) :
    Except SystemFault (Place × Option Node) := do
  let names := steps path
  match names.getLast? with
  | none | some "." | some ".." => system.locate base path
  | some name =>
    let start := if path.startsWith "/" then [] else base
    let (place, _) ← walk system linkLimit (path.length + 1) start (names.dropLast ++ ["."])
    match system.node? (place ++ [name]) with
    | some (.link target) => return (place ++ [name], some (.link target))
    | _ => system.locate base path

/-- Whether a path names a link, seen from a place. -/
def isLink (system : FileSystem) (base : Place) (path : String) : Bool :=
  match system.locateItself base path with
  | .ok (_, some (.link _)) => true
  | _ => false

/-- What a path leads to from a place. -/
def find (system : FileSystem) (base : Place) (path : String) :
    Except SystemFault (Place × Node) :=
  match system.locate base path with
  | .error fault => .error fault
  | .ok (place, some node) => .ok (place, node)
  | .ok (_, none) => .error .missing

/-- The names in the directory of a path, with those of itself and of what it lies in. -/
def list (system : FileSystem) (base : Place) (path : String) : List String :=
  match system.find base path with
  | .ok (place, .directory) =>
    "." :: ".." :: system.filterMap fun held =>
      if held.1.dropLast = place && !held.1.isEmpty then held.1.getLast? else none
  | _ => []

/-- Enters a directory. -/
def enter (system : FileSystem) (base : Place) (path : String) : Except SystemFault Place :=
  match system.find base path with
  | .error fault => .error fault
  | .ok (place, .directory) => .ok place
  | .ok _ => .error .notDirectory

/-- The program behind a path. -/
def program (system : FileSystem) (base : Place) (path : String) : Except SystemFault String :=
  match system.find base path with
  | .error fault => .error fault
  | .ok (_, .program name) => .ok name
  | .ok _ => .error .denied

/-- Looks for a program behind one path after another. One that may not be run is remembered, and
otherwise the last fault counts; what has nothing to do with a single path ends the search. -/
def search (system : FileSystem) (base : Place) :
    List String → SystemFault → Except SystemFault String
  | [], fault => .error fault
  | path :: rest, fault =>
    match system.program base path with
    | .ok name => .ok name
    | .error .denied => search system base rest .denied
    | .error .missing =>
      search system base rest (if fault = .denied then .denied else .missing)
    | .error .notDirectory =>
      search system base rest (if fault = .denied then .denied else .notDirectory)
    | .error other => .error other

/-! ## Changes -/

/-- Puts a node at a place. -/
def put (place : Place) (node : Node) (system : FileSystem) : FileSystem :=
  (place, node) :: system.filter fun held => held.1 ≠ place

/-- Takes the node of a place away. -/
def remove (place : Place) (system : FileSystem) : FileSystem :=
  system.filter fun held => held.1 ≠ place

/-- Takes the node of a place away with everything below it. -/
def removeAll (place : Place) (system : FileSystem) : FileSystem :=
  system.filter fun held => !place.isPrefixOf held.1

/-- Whether there is anything in a directory. -/
def isOccupied (place : Place) (system : FileSystem) : Bool :=
  system.any fun held => held.1.dropLast = place && !held.1.isEmpty

/-! ## The standard system

The files that a child finds when it is started: the accounts, the programs and the devices. -/

/-- Nodes at the places of their paths. -/
def nodesAt (paths : List String) (node : Node) : FileSystem :=
  paths.map fun path => (steps path, node)

/-- The programs of the system. -/
def programNames : List String :=
  ["[", "arch", "awk", "b2sum", "base32", "base64", "basename", "basenc", "bash", "cat", "chgrp",
    "chmod", "chown", "chroot", "cksum", "clear", "cmp", "comm", "cp", "csplit", "cut", "dash",
    "date", "dd", "df", "diff", "diff3", "dir", "dircolors", "dirname", "du", "echo", "egrep",
    "env", "expand", "expr", "factor", "false", "fgrep", "find", "flock", "fmt", "fold", "getconf",
    "getent", "getopt", "grep", "groups", "gunzip", "gzip", "head", "hostid", "hostname", "iconv",
    "id", "infocmp", "install", "ionice", "join", "ldd", "link", "ln", "locale", "logger", "login",
    "logname", "ls", "lsblk", "lscpu", "mawk", "md5sum", "mkdir", "mkfifo", "mknod", "mktemp",
    "more", "mount", "mountpoint", "mv", "namei", "newgrp", "nice", "nl", "nohup", "nproc",
    "numfmt", "od", "passwd", "paste", "pathchk", "perl", "pinky", "pr", "printenv", "printf",
    "ptx", "pwd", "readlink", "realpath", "renice", "reset", "rev", "rgrep", "rm", "rmdir",
    "run-parts", "savelog", "script", "sdiff", "sed", "seq", "setpriv", "setsid", "sha1sum",
    "sha224sum", "sha256sum", "sha384sum", "sha512sum", "shred", "shuf", "sleep", "sort", "split",
    "stat", "stdbuf", "stty", "su", "sum", "sync", "tabs", "tac", "tail", "tar", "taskset", "tee",
    "test", "timeout", "toe", "touch", "tput", "tr", "true", "truncate", "tset", "tsort", "tty",
    "umount", "uname", "uncompress", "unexpand", "uniq", "unlink", "unshare", "users", "vdir",
    "wall", "wc", "whereis", "which", "who", "whoami", "xargs", "yes", "zcat", "zcmp", "zdiff",
    "zegrep", "zfgrep", "zforce", "zgrep", "zless", "zmore", "znew"]

/-! ## Accounts -/

/-- Somebody whom the system knows. -/
structure Account where
  name : String
  user : Nat
  group : Nat
  title : String
  home : String
  shell : String

/-- The shell of those who may not enter. -/
def noShell : String := "/usr/sbin/nologin"

/-- Those whom the system knows. -/
def accounts : List Account :=
  [⟨"root", 0, 0, "root", "/root", "/bin/bash"⟩,
    ⟨"daemon", 1, 1, "daemon", "/usr/sbin", noShell⟩,
    ⟨"bin", 2, 2, "bin", "/bin", noShell⟩,
    ⟨"sys", 3, 3, "sys", "/dev", noShell⟩,
    ⟨"sync", 4, 65534, "sync", "/bin", "/bin/sync"⟩,
    ⟨"games", 5, 60, "games", "/usr/games", noShell⟩,
    ⟨"man", 6, 12, "man", "/var/cache/man", noShell⟩,
    ⟨"lp", 7, 7, "lp", "/var/spool/lpd", noShell⟩,
    ⟨"mail", 8, 8, "mail", "/var/mail", noShell⟩,
    ⟨"news", 9, 9, "news", "/var/spool/news", noShell⟩,
    ⟨"uucp", 10, 10, "uucp", "/var/spool/uucp", noShell⟩,
    ⟨"proxy", 13, 13, "proxy", "/bin", noShell⟩,
    ⟨"www-data", 33, 33, "www-data", "/var/www", noShell⟩,
    ⟨"backup", 34, 34, "backup", "/var/backups", noShell⟩,
    ⟨"list", 38, 38, "Mailing List Manager", "/var/list", noShell⟩,
    ⟨"irc", 39, 39, "ircd", "/run/ircd", noShell⟩,
    ⟨"_apt", 42, 65534, "", "/nonexistent", noShell⟩,
    ⟨"nobody", 65534, 65534, "nobody", "/nonexistent", noShell⟩]

/-- An account as a line of seven fields. -/
def Account.line (account : Account) : String :=
  ":".intercalate [account.name, "x", toString account.user, toString account.group,
    account.title, account.home, account.shell] ++ "\n"

/-- The groups with their numbers. -/
def groups : List (String × Nat) :=
  [("root", 0), ("daemon", 1), ("bin", 2), ("sys", 3), ("adm", 4), ("tty", 5), ("disk", 6),
    ("lp", 7), ("mail", 8), ("news", 9), ("uucp", 10), ("man", 12), ("proxy", 13), ("kmem", 15),
    ("dialout", 20), ("fax", 21), ("voice", 22), ("cdrom", 24), ("floppy", 25), ("tape", 26),
    ("sudo", 27), ("audio", 29), ("dip", 30), ("www-data", 33), ("backup", 34), ("operator", 37),
    ("list", 38), ("irc", 39), ("src", 40), ("shadow", 42), ("utmp", 43), ("video", 44),
    ("sasl", 45), ("plugdev", 46), ("staff", 50), ("games", 60), ("users", 100),
    ("nogroup", 65534)]

/-! ## The system -/

/-- The plain files with what they hold. -/
def plainFiles : List (String × String) :=
  [("etc/fstab", "# UNCONFIGURED FSTAB FOR BASE SYSTEM\n"),
    ("etc/group", String.join (groups.map fun held => held.1 ++ ":x:" ++ toString held.2 ++ ":\n")),
    ("etc/hostname", "localhost\n"),
    ("etc/hosts", "127.0.0.1\tlocalhost\n::1\tlocalhost ip6-localhost ip6-loopback\n"),
    ("etc/issue", "Debian GNU/Linux 12 \\n \\l\n\n"),
    ("etc/passwd", String.join (accounts.map Account.line)),
    ("etc/profile", "# /etc/profile: system-wide .profile file for the Bourne shell (sh(1))\n"),
    ("etc/resolv.conf", "nameserver 127.0.0.11\n"),
    ("etc/shadow", String.join (accounts.map fun account =>
      account.name ++ ":*:19000:0:99999:7:::\n")),
    ("etc/shells", "# /etc/shells: valid login shells\n/bin/sh\n/usr/bin/sh\n/bin/bash\n"
      ++ "/usr/bin/bash\n/bin/rbash\n/usr/bin/rbash\n/bin/dash\n/usr/bin/dash\n")]

/-- The system that a child finds when it is started. -/
def standard : FileSystem :=
  nodesAt ["boot", "dev", "dev/pts", "dev/shm", "etc", "home", "media", "mnt", "opt", "proc",
    "proc/1", "proc/sys", "root", "run", "run/lock", "srv", "sys", "tmp", "usr", "usr/bin",
    "usr/games", "usr/include", "usr/lib", "usr/lib64", "usr/libexec", "usr/local",
    "usr/local/bin", "usr/local/etc", "usr/local/lib", "usr/local/sbin", "usr/local/share",
    "usr/sbin", "usr/share", "usr/src", "var", "var/cache", "var/lib", "var/log", "var/mail",
    "var/opt", "var/spool", "var/tmp"] .directory
  ++ plainFiles.map (fun (path, content) => (steps path, Node.plain (encodeText content)))
  ++ nodesAt ["proc/cmdline", "proc/cpuinfo", "proc/filesystems", "proc/loadavg", "proc/meminfo",
    "proc/mounts", "proc/stat", "proc/uptime", "proc/version"] (.plain [])
  ++ nodesAt ["dev/null"] (.device .null)
  ++ nodesAt ["dev/zero", "dev/random", "dev/urandom", "dev/tty"] (.device .zero)
  ++ nodesAt ["dev/full"] (.device .full)
  ++ nodesAt ["proc/1/fd"] .directory
  ++ (List.range 10).map (fun number =>
    (["proc", "1", "fd", toString number], Node.device (.opened number)))
  ++ programNames.map (fun name => (["usr", "bin", name], Node.program name))
  ++ [(["bin"], .link "usr/bin"), (["lib"], .link "usr/lib"), (["lib64"], .link "usr/lib64"),
    (["sbin"], .link "usr/sbin"), (["proc", "self"], .link "1"),
    (["dev", "fd"], .link "/proc/self/fd"), (["dev", "stdin"], .link "/proc/self/fd/0"),
    (["dev", "stdout"], .link "/proc/self/fd/1"), (["dev", "stderr"], .link "/proc/self/fd/2"),
    (["usr", "bin", "sh"], .link "dash"), (["var", "run"], .link "/run"),
    (["var", "lock"], .link "/run/lock"), (["etc", "mtab"], .link "../proc/self/mounts")]

end FileSystem

end RpcEndpoint
