import Mathlib
import Gatehouse.Files.Path
import Gatehouse.Proofs.SeparatorSplitting

/-!
# The components of a path

A path is cut at every `/` into names (`Path.pieces`), and its components are the root for an
absolute path, a `.` that starts a relative one, and then what each name stands for: nothing for
an empty name or `.`, the parent for `..`, and the name itself otherwise (`nameComponent?`).

The cutting is first read on characters (`Path.pieces_eq`), where `List.splitOn` has its laws.
From it: what follows a `/` adds its own components after those before it
(`components_append_slash_cons`), and a trailing `/` adds none (`components_append_slash`).

A path lies lexically under a root when its components are the root's followed by components
that neither climb nor start again at the root (`LexicallyUnder`).  The main statement,
`lexicallyUnder_join`: a relative path with no `..` joined onto any root lies under it.
-/

namespace Gatehouse.Files

namespace Path

theorem pieces_eq (p : String) : pieces p = (p.toList.splitOn '/').map String.ofList :=
  Text.splitOn_singleton p '/'

theorem isAbsolute_iff (p : String) : isAbsolute p = true ↔ p.toList.head? = some '/' := by
  rw [isAbsolute, String.startsWith_string_iff]
  cases p.toList with
  | nil => simp
  | cons c cs => simp [eq_comm]

/-- The component a name between separators stands for: none for an empty name or `.`, the
parent for `..`, and the name itself otherwise. -/
def nameComponent? (name : String) : Option Component :=
  if name.isEmpty || name == "." then none
  else if name == ".." then some .parent
  else some (.normal name)

/-- The components of a path by its first name: the root or a leading `.` first, then what the
names stand for. -/
theorem components_of_pieces {p first : String} {rest : List String}
    (split : pieces p = first :: rest) :
    components p =
      (if isAbsolute p then [.root] else if first = "." then [.current] else []) ++
        (if isAbsolute p || first == "." then rest else first :: rest).filterMap nameComponent? := by
  unfold components
  simp only [split]
  cases isAbsolute p
  · by_cases dot : first = "."
    · subst dot
      rfl
    · have notDot : (first == ".") = false := by simpa using dot
      simp only [Bool.false_eq_true, if_false, if_neg dot, Bool.false_or, notDot]
      split
      · next tail equal => exact absurd (List.cons.inj equal).1 dot
      · rfl
  · rfl

theorem isAbsolute_append_slash_cons (a b : List Char) :
    isAbsolute (String.ofList (a ++ '/' :: b)) = isAbsolute (String.ofList (a ++ ['/'])) := by
  rw [Bool.eq_iff_iff, isAbsolute_iff, isAbsolute_iff, String.toList_ofList, String.toList_ofList,
    List.head?_append, List.head?_append]
  rfl

theorem components_of_pieces_append {p first : String} {rest extra : List String}
    (split : pieces p = first :: (rest ++ extra)) :
    components p =
      (if isAbsolute p then [.root] else if first = "." then [.current] else []) ++
        (if isAbsolute p || first == "." then rest else first :: rest).filterMap nameComponent? ++
          extra.filterMap nameComponent? := by
  rw [components_of_pieces split, List.append_assoc]
  congr 1
  split_ifs
  · exact List.filterMap_append
  · rw [← List.cons_append, List.filterMap_append]

theorem pieces_append_slash_cons (a b : List Char) :
    pieces (String.ofList (a ++ '/' :: b)) =
      (a.splitOn '/').map String.ofList ++ (b.splitOn '/').map String.ofList := by
  rw [pieces_eq, String.toList_ofList, List.splitOn_append_cons_self, List.map_append]

theorem components_append_slash_cons (a b : List Char) :
    components (String.ofList (a ++ '/' :: b)) =
      components (String.ofList (a ++ ['/'])) ++
        ((b.splitOn '/').map String.ofList).filterMap nameComponent? := by
  obtain ⟨first, rest, split⟩ := List.exists_cons_of_ne_nil (List.splitOn_ne_nil '/' a)
  have whole : pieces (String.ofList (a ++ '/' :: b)) =
      String.ofList first :: (rest.map String.ofList ++ (b.splitOn '/').map String.ofList) := by
    rw [pieces_append_slash_cons, split]
    simp
  have short : pieces (String.ofList (a ++ ['/'])) =
      String.ofList first :: (rest.map String.ofList ++ [""]) := by
    rw [pieces_append_slash_cons, split, List.splitOn_nil]
    simp
  have blank : nameComponent? "" = none := rfl
  rw [components_of_pieces_append whole, components_of_pieces_append short,
    isAbsolute_append_slash_cons]
  simp [blank]

theorem components_append_slash {a : List Char} (nonempty : a ≠ []) :
    components (String.ofList (a ++ ['/'])) = components (String.ofList a) := by
  obtain ⟨first, rest, split⟩ := List.exists_cons_of_ne_nil (List.splitOn_ne_nil '/' a)
  have whole : pieces (String.ofList (a ++ ['/'])) =
      String.ofList first :: (rest.map String.ofList ++ [""]) := by
    rw [pieces_append_slash_cons, split, List.splitOn_nil]
    simp
  have short : pieces (String.ofList a) = String.ofList first :: (rest.map String.ofList ++ []) := by
    rw [pieces_eq, String.toList_ofList, split]
    simp
  have same : isAbsolute (String.ofList (a ++ ['/'])) = isAbsolute (String.ofList a) := by
    rw [Bool.eq_iff_iff, isAbsolute_iff, isAbsolute_iff, String.toList_ofList,
      String.toList_ofList, List.head?_append_of_ne_nil _ nonempty]
  have blank : nameComponent? "" = none := rfl
  rw [components_of_pieces_append whole, components_of_pieces_append short, same]
  simp [blank]

/-- What the names of a path stand for, a leading `.` and a root aside. -/
def nameComponents (p : String) : List Component :=
  (pieces p).filterMap nameComponent?

theorem root_not_mem_nameComponents (p : String) : Component.root ∉ nameComponents p := by
  intro member
  obtain ⟨name, -, named⟩ := List.mem_filterMap.mp member
  unfold nameComponent? at named
  split_ifs at named <;> cases named

/-- A relative path's components are what its names stand for, after a `.` it may start with. -/
theorem components_of_relative {p : String} (relative : isAbsolute p = false) :
    components p = nameComponents p ∨ components p = .current :: nameComponents p := by
  obtain ⟨first, rest, split⟩ := List.exists_cons_of_ne_nil
    (List.ne_nil_of_length_pos (by simp [pieces_eq, List.length_pos_iff]) : pieces p ≠ [])
  have dotName : nameComponent? "." = none := rfl
  rw [nameComponents, split, components_of_pieces split, relative]
  by_cases dot : first = "."
  · subst dot
    simp [dotName]
  · simp [dot]

theorem components_empty : components "" = [] := by
  have split : pieces "" = "" :: [] := by
    rw [pieces_eq]
    rfl
  rw [components_of_pieces split]
  rfl

theorem pieces_of_no_slash {p : String} (noSlash : '/' ∉ p.toList) : pieces p = [p] := by
  rw [pieces_eq, List.splitOn_eq_singleton noSlash]
  simp

theorem endsWith_slash_iff (p : String) : p.endsWith "/" = true ↔ ∃ a, p.toList = a ++ ['/'] := by
  simp only [← String.endsWith_toSlice, String.Slice.endsWith_string_iff, List.IsSuffix,
    String.copy_toSlice]
  exact exists_congr fun a => eq_comm

/-- A path lies lexically under a root when its components are the root's followed by
components that neither go up nor start again at the root. -/
def LexicallyUnder (root path : String) : Prop :=
  ∃ below, components path = components root ++ below ∧
    ∀ component ∈ below, component ≠ .parent ∧ component ≠ .root

theorem LexicallyUnder.trans {root middle path : String} (first : LexicallyUnder root middle)
    (second : LexicallyUnder middle path) : LexicallyUnder root path := by
  obtain ⟨upper, middleParts, upperSafe⟩ := first
  obtain ⟨lower, pathParts, lowerSafe⟩ := second
  refine ⟨upper ++ lower, by rw [pathParts, middleParts, List.append_assoc], ?_⟩
  intro component member
  rcases List.mem_append.mp member with upperMember | lowerMember
  · exact upperSafe component upperMember
  · exact lowerSafe component lowerMember

/-- A relative path with no `..` joined onto a root lies lexically under it. -/
theorem lexicallyUnder_join (root : String) {rel : String} (relative : isAbsolute rel = false)
    (noParent : hasParent rel = false) : LexicallyUnder root (join root rel) := by
  have relSafe : ∀ component ∈ components rel, component ≠ .parent ∧ component ≠ .root := by
    intro component member
    refine ⟨fun parent => ?_, fun isRoot => ?_⟩
    · subst parent
      simp [hasParent, member] at noParent
    · subst isRoot
      rcases components_of_relative relative with names | named <;>
        rw [‹components rel = _›] at member
      · exact root_not_mem_nameComponents rel member
      · rcases List.mem_cons.mp member with current | later
        · cases current
        · exact root_not_mem_nameComponents rel later
  have namesSafe : ∀ component ∈ nameComponents rel, component ≠ .parent ∧ component ≠ .root := by
    intro component member
    apply relSafe
    rcases components_of_relative relative with names | named
    · rw [names]
      exact member
    · rw [named]
      exact List.mem_cons_of_mem _ member
  have restNames : ((rel.toList.splitOn '/').map String.ofList).filterMap nameComponent? =
      nameComponents rel := by
    rw [nameComponents, pieces_eq]
  unfold join
  rw [if_neg (by simp [relative])]
  by_cases edge : (root.isEmpty || root.endsWith "/") = true
  · rw [if_pos edge]
    rcases Bool.or_eq_true _ _ |>.mp edge with empty | slash
    · -- an empty root: the path is `rel` itself
      have rootEmpty : root = "" := by simpa using empty
      subst rootEmpty
      refine ⟨components rel, ?_, relSafe⟩
      rw [String.empty_append, components_empty, List.nil_append]
    · -- a root that ends with `/`: the names of `rel` follow it
      obtain ⟨a, ends⟩ := (endsWith_slash_iff root).mp slash
      have rootChars : root = String.ofList (a ++ ['/']) := by
        rw [← ends, String.ofList_toList]
      have joined : root ++ rel = String.ofList (a ++ '/' :: rel.toList) := by
        apply String.toList_injective
        simp [ends]
      refine ⟨nameComponents rel, ?_, namesSafe⟩
      rw [joined, components_append_slash_cons, restNames, ← rootChars]
  · rw [if_neg edge]
    have nonempty : root.toList ≠ [] := by
      intro empty
      apply edge
      simp [String.isEmpty_iff, ← String.toList_inj, empty]
    have joined : root ++ "/" ++ rel = String.ofList (root.toList ++ '/' :: rel.toList) := by
      apply String.toList_injective
      simp
    refine ⟨nameComponents rel, ?_, namesSafe⟩
    rw [joined, components_append_slash_cons, components_append_slash nonempty, restNames,
      String.ofList_toList]

theorem isAbsolute_dropLeadingSlashes (p : String) : isAbsolute (dropLeadingSlashes p) = false := by
  rw [Bool.eq_false_iff, ne_eq, isAbsolute_iff, dropLeadingSlashes, String.toList_ofList]
  intro slash
  have stops := List.head?_dropWhile_not (· == '/') p.toList
  rw [slash] at stops
  simp at stops

theorem isAbsolute_index : isAbsolute "index.html" = false := by
  rw [Bool.eq_false_iff, ne_eq, isAbsolute_iff]
  simp

theorem hasParent_index : hasParent "index.html" = false := by
  have split : pieces "index.html" = "index.html" :: [] := pieces_of_no_slash (by simp)
  rw [hasParent, components_of_pieces split, isAbsolute_index]
  decide

end Path

end Gatehouse.Files
