import Gatehouse.Files.Node

/-!
# The system around a tree

A server's own files form a tree whose top is its working directory, but a path may leave the
tree: an absolute path starts at the root of the system, and `..` above the top reaches the
directory that holds it.  What lies outside the tree is a parameter of the tree (`Host`): where
the top sits, the nodes outside it by their names from the root, and the names that are links
with where they point.  A walk that meets a link goes on from where it points, so a `..` after it
leaves that place, not the link's directory.

`Host.standard` is one such system, a common Linux layout: the standard directories, the
programs, the devices such as `/dev/null`, and the process's own view of itself under
`/proc/self`, with the program and library directories at the root linked to those under `/usr`,
`/proc/self/cwd` to the top of the tree and `/proc/self/root` to the root.  Any other name there
names nothing.  A program holds machine code, which is not text.  Every system bounds names: one
name is at most `nameMax` bytes, and a whole path is less than `pathMax` bytes.
-/

namespace Gatehouse.Files

/-- The most bytes one name in a path may have. -/
def nameMax : Nat := 255

/-- A path must have fewer bytes than this. -/
def pathMax : Nat := 4096

/-- Where a walk through a path stands: in the tree at these names from its top, or in the
system around it at these names from the root. -/
inductive Place where
  | inTree (names : List String)
  | inSystem (names : List String)
  deriving DecidableEq, Repr

namespace Place

/-- The directory above a place: the top of the tree sits in `home`, and the root is its own
parent. -/
def parent (home : List String) : Place → Place
  | .inTree [] => .inSystem home
  | .inTree names => .inTree names.dropLast
  | .inSystem names => .inSystem names.dropLast

/-- The entry of a name in the directory at a place. -/
def child : Place → String → Place
  | .inTree names, name => .inTree (names ++ [name])
  | .inSystem names, name => .inSystem (names ++ [name])

end Place

/-- The system around a tree: the names, from the root, of the directory that holds the tree's
top; the node at names from the root; and where the link at names from the root points. -/
structure Host where
  home : List String
  node? : List String → Option Node
  link? : List String → Option Place

/-- The place a place stands for: where a link of the system points, or the place itself. -/
def Host.follow (h : Host) : Place → Place
  | .inSystem names => (h.link? names).getD (.inSystem names)
  | p => p

/-- The standard directories of the system, by their names from the root, with their
permission bits. -/
def systemDirectories : List (List String × Nat) :=
  [(["boot"], 0o755), (["dev"], 0o755), (["dev", "shm"], 0o1777), (["etc"], 0o755),
    (["home"], 0o755), (["media"], 0o755), (["mnt"], 0o755), (["opt"], 0o755),
    (["proc"], 0o555), (["proc", "self"], 0o555), (["proc", "self", "fd"], 0o500),
    (["root"], 0o700), (["run"], 0o755), (["srv"], 0o755), (["sys"], 0o555),
    (["tmp"], 0o1777), (["usr"], 0o755), (["usr", "bin"], 0o755),
    (["usr", "include"], 0o755), (["usr", "lib"], 0o755), (["usr", "lib64"], 0o755),
    (["usr", "libexec"], 0o755), (["usr", "local"], 0o755), (["usr", "local", "bin"], 0o755),
    (["usr", "local", "lib"], 0o755), (["usr", "sbin"], 0o755), (["usr", "share"], 0o755),
    (["usr", "src"], 0o755), (["var"], 0o755), (["var", "cache"], 0o755),
    (["var", "lib"], 0o755), (["var", "log"], 0o755), (["var", "tmp"], 0o1777)]

/-- The links of the system: names that stand for another place. -/
def systemLinks : List (List String × Place) :=
  [(["bin"], .inSystem ["usr", "bin"]), (["sbin"], .inSystem ["usr", "sbin"]),
    (["lib"], .inSystem ["usr", "lib"]), (["lib64"], .inSystem ["usr", "lib64"]),
    (["proc", "self", "cwd"], .inTree []), (["proc", "self", "root"], .inSystem [])]

/-- The programs of the system, in `/usr/bin`. -/
def systemPrograms : List String :=
  ["[", "awk", "base64", "basename", "bash", "cat", "chgrp", "chmod", "chown", "cksum", "cmp",
    "comm", "cp", "cut", "dash", "date", "dd", "df", "diff", "dirname", "du", "echo", "egrep",
    "env", "expand", "expr", "factor", "false", "fgrep", "find", "fmt", "fold", "grep",
    "groups", "gzip", "head", "hostname", "id", "install", "join", "kill", "link", "ln",
    "logname", "ls", "md5sum", "mkdir", "mkfifo", "mknod", "mktemp", "mv", "nice", "nl",
    "nohup", "nproc", "od", "paste", "perl", "pr", "printenv", "printf", "pwd", "readlink",
    "realpath", "rm", "rmdir", "sed", "seq", "sh", "sha1sum", "sha256sum", "sha512sum",
    "shred", "shuf", "sleep", "sort", "split", "stat", "stty", "sum", "sync", "tac", "tail",
    "tar", "tee", "test", "timeout", "touch", "tr", "true", "truncate", "tsort", "tty",
    "uname", "unexpand", "uniq", "unlink", "users", "wc", "which", "who", "whoami", "xargs",
    "yes"]

/-- The character devices of the system, in `/dev`. -/
def systemDevices : List String :=
  ["full", "null", "random", "urandom", "zero"]

/-- The bytes a program starts with: the mark of an executable image, then a byte no UTF-8 text
holds. -/
def machineCode : List UInt8 :=
  [0x7F, 0x45, 0x4C, 0x46, 0x02, 0x01, 0x01, 0x00, 0xFF]

/-- The well-known entries of the system outside the tree, by their names from the root. -/
def systemEntries : List (List String × Node) :=
  systemDirectories.map (fun (names, mode) => (names, ⟨.directory, mode⟩))
    ++ systemPrograms.map (fun name => (["usr", "bin", name], ⟨.file machineCode, 0o755⟩))
    ++ [(["usr", "sbin", "nologin"], ⟨.file machineCode, 0o755⟩),
      (["proc", "self", "exe"], ⟨.file machineCode, 0o755⟩)]
    ++ systemDevices.map (fun name => (["dev", name], ⟨.device, 0o666⟩))

/-- A common Linux layout around a tree kept in `/tmp`: the root is a directory, its
well-known entries are found, and its links lead where they point. -/
def Host.standard : Host where
  home := ["tmp"]
  node? names :=
    match names with
    | [] => some ⟨.directory, defaultDirectoryMode⟩
    | names => (systemEntries.find? (·.1 == names)).map (·.2)
  link? names := (systemLinks.find? (·.1 == names)).map (·.2)

end Gatehouse.Files
