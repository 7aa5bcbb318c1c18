/-!
# Nodes of a file system

What a path can name — a directory, a regular file with its bytes, a socket, or a device — with
its permission bits, and why a path can name nothing, in the words the system uses.

A file system, as the server sees it while it serves, answers two questions (`FileSystem`): what
node a path names, as its metadata tells, and whether opening the path for reading is refused.
The system decides the second by who the server runs as, so a file whose owner may read it can
still be refused.  Both are asked of one state of the files, so a path that opens gives the node
it names.
-/

namespace Gatehouse.Files

/-- What a path can name. -/
inductive NodeKind where
  | directory
  | file (content : List UInt8)
  | socket
  /-- A character device, read as empty as the null device reads. -/
  | device
  deriving DecidableEq, Repr

/-- A node of a file system with its permission bits. -/
structure Node where
  kind : NodeKind
  mode : Nat
  deriving DecidableEq, Repr

namespace Node

/-- Whether the node is a regular file. -/
def isFile (n : Node) : Bool :=
  match n.kind with
  | .file _ => true
  | _ => false

/-- Whether the node is a directory. -/
def isDirectory (n : Node) : Bool :=
  n.kind == .directory

/-- The size of the node: the length of a file's bytes. -/
def size (n : Node) : Nat :=
  match n.kind with
  | .file c => c.length
  | _ => 0

/-- The bytes read from the node: a file's content; a device reads as empty. -/
def bytes (n : Node) : List UInt8 :=
  match n.kind with
  | .file c => c
  | _ => []

theorem length_bytes_of_isFile {n : Node} (regular : n.isFile = true) :
    n.bytes.length = n.size := by
  obtain ⟨kind, mode⟩ := n
  cases kind <;> simp_all [isFile, bytes, size]

/-- Whether the owner may read the node. -/
def ownerCanRead (n : Node) : Bool :=
  n.mode / 256 % 2 == 1

/-- Whether the owner may execute the node. -/
def ownerCanExecute (n : Node) : Bool :=
  n.mode / 64 % 2 == 1

/-- Whether the owner may do what the bits `want` ask (read 4, write 2, search or execute 1),
all of them. -/
def grants (n : Node) (want : Nat) : Bool :=
  (List.range 3).all fun i =>
    (want / Nat.pow 2 i % 2 == 0) || (n.mode / 64 / Nat.pow 2 i % 2 == 1)

end Node

/-- Why a path names no node. -/
inductive LookupError where
  /-- Nothing is at the path. -/
  | notFound
  /-- A name before the end of the path is not a directory. -/
  | notADirectory
  /-- A name, or the whole path, is longer than the system allows. -/
  | nameTooLong
  /-- The path holds a NUL character, which no file name can. -/
  | nulByte
  /-- A directory on the way may not be searched, or the node may not be used as asked. -/
  | permissionDenied
  deriving DecidableEq, Repr

/-- The wording the system gives a lookup error. -/
def LookupError.message : LookupError → String
  | .notFound => "No such file or directory (os error 2)"
  | .notADirectory => "Not a directory (os error 20)"
  | .nameTooLong => "File name too long (os error 36)"
  | .nulByte => "file name contained an unexpected NUL byte"
  | .permissionDenied => "Permission denied (os error 13)"

/-- A file system as the server sees it: the node a path names, links followed, or why there
is none; and why opening a path for reading is refused, when it is. -/
structure FileSystem where
  lookup : String → Except LookupError Node
  openRefusal? : String → Option LookupError

/-- Opens a path for reading: the node it names, unless the system refuses. -/
def FileSystem.openToRead (fs : FileSystem) (path : String) : Except LookupError Node :=
  match fs.openRefusal? path with
  | some e => .error e
  | none => fs.lookup path

theorem FileSystem.lookup_of_openToRead {fs : FileSystem} {path : String} {node : Node}
    (opened : fs.openToRead path = .ok node) : fs.lookup path = .ok node := by
  unfold openToRead at opened
  split at opened
  · cases opened
  · exact opened

/-- The wording the system gives reading a directory as a file. -/
def isADirectoryMessage : String := "Is a directory (os error 21)"

/-- The wording the system gives bytes that are not UTF-8 where text is read. -/
def notTextMessage : String := "stream did not contain valid UTF-8"

/-- The default permission bits of a new file. -/
def defaultFileMode : Nat := 0o644

/-- The default permission bits of a new directory. -/
def defaultDirectoryMode : Nat := 0o755

end Gatehouse.Files
