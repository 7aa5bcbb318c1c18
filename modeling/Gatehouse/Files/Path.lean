/-!
# File paths

Paths are texts of names separated by `/`.  A path that starts with `/` is absolute.  Joining
a relative path onto a base puts one `/` between them unless the base is empty or already ends
with one; joining an absolute path replaces the base.

The *components* of a path are its names with the empty ones and the `.` ones left out (a `.`
at the very start of a relative path stays), and `..` is the parent.  The file name is the last
component when it is an ordinary name, and its extension is what follows the last `.` in it,
unless that dot is the first character of the name.
-/

namespace Gatehouse.Files

/-- A component of a path. -/
inductive Component where
  | root
  | current
  | parent
  | normal (name : String)
  deriving DecidableEq, Repr

namespace Path

/-- Whether a path starts at the root. -/
def isAbsolute (p : String) : Bool :=
  p.startsWith "/"

/-- The names of a path between its separators, empty ones included. -/
def pieces (p : String) : List String :=
  p.splitOn "/"

/-- The components of a path. -/
def components (p : String) : List Component :=
  let names := pieces p
  let head : List Component :=
    if isAbsolute p then [.root]
    else match names with
      | "." :: _ => [.current]
      | _ => []
  let body := (if isAbsolute p then names.drop 1 else
      match names with
      | "." :: rest => rest
      | _ => names).filterMap fun n =>
    if n.isEmpty || n == "." then none
    else if n == ".." then some .parent
    else some (.normal n)
  head ++ body

/-- Whether a path has a `..` component. -/
def hasParent (p : String) : Bool :=
  (components p).contains .parent

/-- The last component, when it is an ordinary name. -/
def fileName? (p : String) : Option String :=
  match (components p).getLast? with
  | some (.normal n) => some n
  | _ => none

/-- The extension of a file name: the text after its last dot, unless that dot begins it. -/
def nameExtension? (name : String) : Option String :=
  if name == ".." then none
  else
    match (name.splitOn ".").reverse with
    | after :: before :: rest =>
      if rest.isEmpty && before.isEmpty then none else some after
    | _ => none

/-- The extension of the file name of a path. -/
def extension? (p : String) : Option String :=
  (fileName? p).bind nameExtension?

/-- A relative path joined onto a base; an absolute path replaces the base. -/
def join (base rel : String) : String :=
  if isAbsolute rel then rel
  else if base.isEmpty || base.endsWith "/" then base ++ rel
  else base ++ "/" ++ rel

/-- A path without the `/` characters at its start. -/
def dropLeadingSlashes (p : String) : String :=
  String.ofList (p.toList.dropWhile (· == '/'))

end Path

end Gatehouse.Files
