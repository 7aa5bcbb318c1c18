import Gatehouse.Files.Path
import Gatehouse.Files.System

/-!
# File trees

A tree of directories, regular files with their bytes, and sockets, each with its permission
bits, in the system around it (`Host`).  Paths are looked up the way the system resolves them:
from the working directory (the top of the tree), or from the root of the system for an absolute
path, name by name; every name but the last must be a directory, and a trailing `/` or `.` asks
that the last one be a directory too.  Outside the tree the host's nodes are found.

A tree is one file system (`Tree.fileSystem`), the one whose nodes all belong to the server: the
owner's bits decide what it may search, open or write.  Entries are kept by their normalised
path, the names joined by `/`.
-/

namespace Gatehouse.Files

/-- A tree of files in the system around it: nodes by normalised path, the top directory
implied. -/
structure Tree where
  nodes : List (String × Node) := []
  host : Host := Host.standard

namespace Tree

/-- The node at a normalised path. -/
def get? (t : Tree) (key : String) : Option Node :=
  (t.nodes.find? (·.1 == key)).map (·.2)

/-- Puts a node at a normalised path, replacing what was there. -/
def put (t : Tree) (key : String) (n : Node) : Tree :=
  { t with nodes := (t.nodes.filter (·.1 != key)) ++ [(key, n)] }

/-- The normalised path of a list of names. -/
def keyOf (names : List String) : String :=
  "/".intercalate names

/-- The node at a place: the top of the tree is a directory, and outside the tree the system's
entries are found. -/
def nodeAt? (t : Tree) : Place → Option Node
  | .inTree [] => some ⟨.directory, defaultDirectoryMode⟩
  | .inTree names => t.get? (keyOf names)
  | .inSystem names => t.host.node? names

/-- One step of a walk, from the place reached by one piece of a path: the place must be a
directory.  An empty piece (from a doubled or trailing `/`) stays; any other piece needs leave
to search the directory; then `.` stays, `..` goes up, and a name, at most `nameMax` bytes
long, must be there; a link leads on to where it points. -/
def step (t : Tree) (here : Place) (piece : String) : Except LookupError Place :=
  match t.nodeAt? here with
  | none => .error .notFound
  | some dir =>
    if !dir.isDirectory then .error .notADirectory
    else if piece.isEmpty then .ok here
    else if !dir.grants 1 then .error .permissionDenied
    else if piece == "." then .ok here
    else if piece == ".." then .ok (here.parent t.host.home)
    else if nameMax < piece.utf8ByteSize then .error .nameTooLong
    else if (t.nodeAt? (t.host.follow (here.child piece))).isSome then
      .ok (t.host.follow (here.child piece))
    else .error .notFound

/-- Walks the pieces of a path from a place. -/
def walk (t : Tree) : Place → List String → Except LookupError Place
  | here, [] => .ok here
  | here, piece :: rest =>
    match t.step here piece with
    | .ok next => t.walk next rest
    | .error e => .error e

/-- Where a path starts: the root of the system for an absolute path, the top of the tree
otherwise. -/
def startOf (path : String) : Place :=
  if Path.isAbsolute path then .inSystem [] else .inTree []

/-- The place a path names, as the system resolves it: a NUL character is refused before
anything else, an empty path names nothing, a path of `pathMax` bytes or more is too long, and
otherwise the path is walked piece by piece. -/
def resolve (t : Tree) (path : String) : Except LookupError Place :=
  if path.any (· == Char.ofNat 0) then .error .nulByte
  else if path.isEmpty then .error .notFound
  else if pathMax ≤ path.utf8ByteSize then .error .nameTooLong
  else t.walk (startOf path) (Path.pieces path)

/-- The node a path names. -/
def lookup (t : Tree) (path : String) : Except LookupError Node :=
  match t.resolve path with
  | .error e => .error e
  | .ok place =>
    match t.nodeAt? place with
    | some n => .ok n
    | none => .error .notFound

/-- The tree as a file system.  Its files belong to the server, so the owner's bits decide
whether one opens for reading. -/
def fileSystem (t : Tree) : FileSystem where
  lookup := t.lookup
  openRefusal? path :=
    match t.lookup path with
    | .ok n => if n.grants 4 then none else some .permissionDenied
    | .error _ => none

/-- The normalised path a relative path names when it stays in the tree. -/
def keyOfPath? (path : String) : Option String :=
  let names := (Path.pieces path).filter fun n => !(n.isEmpty || n == ".")
  if Path.isAbsolute path || names.contains ".." || names.isEmpty then none
  else some (keyOf names)

/-- The place a new entry at a path takes: its last piece must be a name, and the pieces before
it must lead to a directory the server may write in and search. -/
def placeFor? (t : Tree) (path : String) : Except LookupError Place :=
  let ps := Path.pieces path
  match ps.getLast? with
  | none => .error .notFound
  | some name =>
    if name.isEmpty || name == "." || name == ".." then .error .notFound
    else
      match t.walk (startOf path) ps.dropLast with
      | .error e => .error e
      | .ok dir =>
        match t.nodeAt? dir with
        | some n =>
          if !n.isDirectory then .error .notADirectory
          else if !n.grants 3 then .error .permissionDenied
          else .ok (dir.child name)
        | none => .error .notFound

/-- Puts a node at a place in the tree; a place in the system is not recorded. -/
def putAt (t : Tree) (place : Place) (n : Node) : Tree :=
  match place with
  | .inTree names => t.put (keyOf names) n
  | .inSystem _ => t

/-- Adds the directories above a normalised path that are not there yet. -/
def addParents (t : Tree) (names : List String) : Tree :=
  (List.range (names.length - 1)).foldl (fun acc i =>
    let key := keyOf (names.take (i + 1))
    if (acc.get? key).isSome then acc else acc.put key ⟨.directory, defaultDirectoryMode⟩) t

/-- Adds a file with its bytes, and the directories above it. -/
def addFile (t : Tree) (key : String) (content : List UInt8) : Tree :=
  (t.addParents (key.splitOn "/")).put key ⟨.file content, defaultFileMode⟩

/-- Adds a directory, and the directories above it. -/
def addDirectory (t : Tree) (key : String) : Tree :=
  let t' := t.addParents (key.splitOn "/")
  if (t'.get? key).any Node.isDirectory then t' else t'.put key ⟨.directory, defaultDirectoryMode⟩

/-- Sets the permission bits of the node at a normalised path. -/
def setMode (t : Tree) (key : String) (mode : Nat) : Tree :=
  { t with nodes := t.nodes.map fun (k, n) => if k == key then (k, { n with mode := mode }) else (k, n) }

/-- What an entry of a tree's listing makes. -/
inductive EntryKind where
  | file (content : List UInt8)
  | directory
  deriving DecidableEq, Repr

/-- One entry of a listing: a relative path, what it makes, and its permission bits if they are
not the default ones. -/
structure Entry where
  path : String
  kind : EntryKind
  mode : Option Nat := none
  deriving DecidableEq, Repr

/-- The tree a listing makes: every entry in order with the directories above it, then the
permission bits of the entries that set them.  Entries outside the tree are left out. -/
def ofEntries (entries : List Entry) : Tree :=
  let made := entries.foldl (fun t e =>
    match keyOfPath? e.path with
    | none => t
    | some key =>
      match e.kind with
      | .file content => t.addFile key content
      | .directory => t.addDirectory key) {}
  entries.foldl (fun t e =>
    match keyOfPath? e.path, e.mode with
    | some key, some mode => t.setMode key mode
    | _, _ => t) made

end Tree

end Gatehouse.Files
