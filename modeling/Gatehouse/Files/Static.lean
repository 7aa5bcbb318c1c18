import Gatehouse.Files.Tree
import Gatehouse.Http.Response

/-!
# Static files

A request path is served from a root directory of a file system.  The path, without its
leading `/` characters, is refused outright when it has a `..` component.  Otherwise it is
joined onto the root; a directory is served through its `index.html`.  What is found must be a
regular file that its owner may read.  The file is then opened, which the system may still
refuse.  The content type follows the extension of the file name.

Main rules: `resolve` never leaves the root lexically, and `serve` answers a refusal, or a file
that does not open, with the 403 page and a miss with the 404 page, both naming the request
path.
-/

namespace Gatehouse.Files

open Gatehouse.Http

/-- The content type of a path, by the extension of its file name. -/
def contentType (path : String) : String :=
  match Path.extension? path with
  | some "html" => "text/html"
  | some "gif" => "image/gif"
  | some "jpg" => "image/jpeg"
  | _ => "text/plain"

/-- Where a request path leads under a root. -/
inductive Resolution where
  /-- A readable regular file at this path, of this size. -/
  | found (path : String) (size : Nat)
  /-- The path may not be served. -/
  | forbidden
  /-- Nothing is there. -/
  | notFound
  deriving DecidableEq, Repr

/-- Resolves a request path under a root in a file system. -/
def resolve (fs : FileSystem) (root requestPath : String) : Resolution :=
  let relative := Path.dropLeadingSlashes requestPath
  if Path.hasParent relative then .forbidden
  else
    let target := Path.join root relative
    match fs.lookup target with
    | .error _ => .notFound
    | .ok node =>
      let (target, looked) :=
        if node.isDirectory then
          let inner := Path.join target "index.html"
          (inner, fs.lookup inner)
        else (target, .ok node)
      match looked with
      | .error _ => .notFound
      | .ok node =>
        if node.isFile && node.ownerCanRead then .found target node.size else .forbidden

/-- Serves a request path under a root: the status and the bytes sent.  A file found is opened
and sent after a head that gives the size found. -/
def serve (fs : FileSystem) (root requestPath : String) : Status × List UInt8 :=
  match resolve fs root requestPath with
  | .forbidden => (.forbidden, (Response.error .forbidden requestPath).toBytes)
  | .notFound => (.notFound, (Response.error .notFound requestPath).toBytes)
  | .found path size =>
    match fs.openToRead path with
    | .error _ => (.forbidden, (Response.error .forbidden requestPath).toBytes)
    | .ok file =>
      let head := (((Response.new .ok).withHeader "Content-Length" (toString size)).withHeader
        "Content-Type" (contentType path)).head
      (.ok, head ++ file.bytes)

end Gatehouse.Files
