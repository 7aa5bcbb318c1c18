import Mathlib
import Gatehouse.Files.Static
import Gatehouse.Proofs.PathComponents

/-!
# Static files stay under their root

A request path is served from a root directory of a file system (`resolve`, `serve`).  The path,
without its leading `/` characters, is refused at once when it has a `..` component, whatever the
files are.  Otherwise it is joined onto the root, and a directory there is served through its
`index.html`; what is served must be a regular file that its owner may read.

Every fact below holds for every file system, root and request path.  A file that is found is
the root joined with the path, or its `index.html`, and so lies lexically under the root
(`lexicallyUnder_join`); it is a regular readable file of the size its metadata gives.  Nothing
is found exactly when the target or its index names nothing.  A refusal, and a found file that
the system will not open, are answered with the 403 page, and a miss with the 404 page.

Main statement: `resolve_within_root`.
-/

namespace Gatehouse.Files

section Resolution

variable {fs : FileSystem} {root requestPath : String}

theorem resolve_of_hasParent (parent : Path.hasParent (Path.dropLeadingSlashes requestPath) = true) :
    resolve fs root requestPath = .forbidden := by
  simp [resolve, parent]

theorem found_of_readable {node : Node} {target path : String} {size : Nat}
    (found : (if node.isFile && node.ownerCanRead then Resolution.found target node.size
      else .forbidden) = .found path size) :
    path = target ∧ node.isFile = true ∧ node.ownerCanRead = true ∧ size = node.size := by
  split_ifs at found with readable
  cases found
  simp only [Bool.and_eq_true] at readable
  exact ⟨rfl, readable.1, readable.2, rfl⟩

/-- What a found file is: the target joined from the root and the path, or its `index.html` when
the target is a directory; a regular file its owner may read, of the size given. -/
theorem found_of_resolve {path : String} {size : Nat}
    (found : resolve fs root requestPath = .found path size) :
    Path.hasParent (Path.dropLeadingSlashes requestPath) = false ∧
      ∃ node, fs.lookup (Path.join root (Path.dropLeadingSlashes requestPath)) = .ok node ∧
        path = (if node.isDirectory then
            Path.join (Path.join root (Path.dropLeadingSlashes requestPath)) "index.html"
          else Path.join root (Path.dropLeadingSlashes requestPath)) ∧
        ∃ file, fs.lookup path = .ok file ∧ file.isFile = true ∧ file.ownerCanRead = true ∧
          size = file.size := by
  unfold resolve at found
  dsimp only at found
  split at found
  · cases found
  · next noParent =>
    refine ⟨by simpa using noParent, ?_⟩
    split at found
    · cases found
    · next node lookedUp =>
      by_cases dir : node.isDirectory
      · simp only [dir, if_true] at found
        split at found
        · cases found
        · next file lookedIndex =>
          obtain ⟨rfl, regular, readable, sized⟩ := found_of_readable found
          exact ⟨node, lookedUp, by simp [dir], file, lookedIndex, regular, readable, sized⟩
      · simp only [dir, Bool.false_eq_true, if_false] at found
        obtain ⟨rfl, regular, readable, sized⟩ := found_of_readable found
        exact ⟨node, lookedUp, by simp [dir], node, lookedUp, regular, readable, sized⟩

/-- Nothing is found exactly when the path has no `..` and either the target names nothing or it
is a directory whose `index.html` names nothing. -/
theorem resolve_eq_notFound_iff :
    resolve fs root requestPath = .notFound ↔
      Path.hasParent (Path.dropLeadingSlashes requestPath) = false ∧
        ((∃ error, fs.lookup (Path.join root (Path.dropLeadingSlashes requestPath)) = .error error) ∨
          ∃ dir error, fs.lookup (Path.join root (Path.dropLeadingSlashes requestPath)) = .ok dir ∧
            dir.isDirectory = true ∧
            fs.lookup (Path.join (Path.join root (Path.dropLeadingSlashes requestPath)) "index.html") =
              .error error) := by
  unfold resolve
  dsimp only
  cases parent : Path.hasParent (Path.dropLeadingSlashes requestPath)
  · cases lookedUp : fs.lookup (Path.join root (Path.dropLeadingSlashes requestPath)) with
    | error error => simp
    | ok node =>
      by_cases dir : node.isDirectory
      · cases lookedIndex :
            fs.lookup (Path.join (Path.join root (Path.dropLeadingSlashes requestPath)) "index.html") with
        | error error => simp [dir]
        | ok file => by_cases readable : (file.isFile && file.ownerCanRead) = true <;>
            simp [dir, readable]
      · by_cases readable : (node.isFile && node.ownerCanRead) = true <;> simp [dir, readable]
  · simp

theorem serve_of_forbidden (refused : resolve fs root requestPath = .forbidden) :
    serve fs root requestPath =
      (.forbidden, (Http.Response.error .forbidden requestPath).toBytes) := by
  simp [serve, refused]

theorem serve_of_notFound (missing : resolve fs root requestPath = .notFound) :
    serve fs root requestPath =
      (.notFound, (Http.Response.error .notFound requestPath).toBytes) := by
  simp [serve, missing]

theorem serve_of_open_refused {path : String} {size : Nat} {refusal : LookupError}
    (found : resolve fs root requestPath = .found path size)
    (refused : fs.openToRead path = .error refusal) :
    serve fs root requestPath =
      (.forbidden, (Http.Response.error .forbidden requestPath).toBytes) := by
  simp [serve, found, refused]

theorem serve_of_opened {path : String} {size : Nat} {file : Node}
    (found : resolve fs root requestPath = .found path size)
    (opened : fs.openToRead path = .ok file) :
    serve fs root requestPath =
      (.ok, ((((Http.Response.new .ok).withHeader "Content-Length" (toString size)).withHeader
        "Content-Type" (contentType path)).head ++ file.bytes)) := by
  simp [serve, found, opened]

end Resolution

/-- Static files stay under their root.  For every file system, root and request path: a path
with a `..` component, once its leading `/` characters are dropped, is refused with the 403 page,
whatever the files are.  A file that is found is the root joined with the path, followed by
`index.html` when that names a directory, so it lies lexically under the root; it is a regular
file its owner may read, of the size its metadata gives; it is served with 200 when it opens and
with the 403 page when the system refuses to open it.  Nothing is found exactly when the path
has no `..` and the target names nothing or is a directory whose `index.html` names nothing;
that is answered with the 404 page, and any other refusal with the 403 page. -/
theorem resolve_within_root (fs : FileSystem) (root requestPath : String) :
    let relative := Path.dropLeadingSlashes requestPath
    let target := Path.join root relative
    (Path.hasParent relative = true → resolve fs root requestPath = .forbidden) ∧
    (∀ path size, resolve fs root requestPath = .found path size →
      (∃ node, fs.lookup target = .ok node ∧
        path = if node.isDirectory then Path.join target "index.html" else target) ∧
      Path.LexicallyUnder root path ∧
      (∃ file, fs.lookup path = .ok file ∧ file.isFile = true ∧ file.ownerCanRead = true ∧
        size = file.size) ∧
      (∀ file, fs.openToRead path = .ok file → (serve fs root requestPath).1 = .ok) ∧
      (∀ refusal, fs.openToRead path = .error refusal →
        serve fs root requestPath =
          (.forbidden, (Http.Response.error .forbidden requestPath).toBytes))) ∧
    (resolve fs root requestPath = .notFound ↔
      Path.hasParent relative = false ∧
        ((∃ error, fs.lookup target = .error error) ∨
          ∃ dir error, fs.lookup target = .ok dir ∧ dir.isDirectory = true ∧
            fs.lookup (Path.join target "index.html") = .error error)) ∧
    (resolve fs root requestPath = .forbidden →
      serve fs root requestPath = (.forbidden, (Http.Response.error .forbidden requestPath).toBytes)) ∧
    (resolve fs root requestPath = .notFound →
      serve fs root requestPath = (.notFound, (Http.Response.error .notFound requestPath).toBytes)) := by
  intro relative target
  refine ⟨resolve_of_hasParent, fun path size found => ?_, resolve_eq_notFound_iff,
    serve_of_forbidden, serve_of_notFound⟩
  obtain ⟨noParent, node, lookedUp, chosen, file, named, regular, readable, sized⟩ :=
    found_of_resolve found
  have underRoot : Path.LexicallyUnder root target :=
    Path.lexicallyUnder_join root (Path.isAbsolute_dropLeadingSlashes requestPath) noParent
  refine ⟨⟨node, lookedUp, chosen⟩, ?_, ⟨file, named, regular, readable, sized⟩,
    fun _ opened => by rw [serve_of_opened found opened], fun _ => serve_of_open_refused found⟩
  rw [chosen]
  split_ifs
  · exact underRoot.trans
      (Path.lexicallyUnder_join target Path.isAbsolute_index Path.hasParent_index)
  · exact underRoot

end Gatehouse.Files
