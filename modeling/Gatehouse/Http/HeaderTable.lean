/-!
# Header tables

The headers of a response: named values in order of first insertion.  Setting a name that is
present replaces its value where it stands; setting a new name appends it.  So the names stay
pairwise distinct, and each holds the value of its latest assignment.
-/

namespace Gatehouse.Http

/-- Named header values, in order of first insertion. -/
structure HeaderTable where
  entries : List (String × String) := []
  deriving DecidableEq, Repr

namespace HeaderTable

/-- Replaces the value of the first entry named `name`, or appends the entry. -/
def setEntry (name value : String) : List (String × String) → List (String × String)
  | [] => [(name, value)]
  | (n, v) :: rest =>
    if n = name then (n, value) :: rest else (n, v) :: setEntry name value rest

/-- Sets a header. -/
def set (t : HeaderTable) (name value : String) : HeaderTable :=
  ⟨setEntry name value t.entries⟩

/-- The value of the header named `name`. -/
def get? (t : HeaderTable) (name : String) : Option String :=
  (t.entries.find? (·.1 == name)).map (·.2)

/-- The names of the headers, in order. -/
def names (t : HeaderTable) : List String :=
  t.entries.map (·.1)

theorem find?_setEntry_self (name value : String) (entries : List (String × String)) :
    (setEntry name value entries).find? (·.1 == name) = some (name, value) := by
  induction entries with
  | nil => simp [setEntry]
  | cons entry entries induction =>
    rw [setEntry]
    by_cases same : entry.1 = name
    · simp [same]
    · simp [same, induction]

theorem find?_setEntry_of_ne {name other : String} (differ : other ≠ name) (value : String)
    (entries : List (String × String)) :
    (setEntry name value entries).find? (·.1 == other) = entries.find? (·.1 == other) := by
  induction entries with
  | nil => simp [setEntry, Ne.symm differ]
  | cons entry entries induction =>
    rw [setEntry]
    by_cases same : entry.1 = name
    · simp [same, Ne.symm differ]
    · rw [if_neg same, List.find?_cons, List.find?_cons, induction]

theorem get?_set_self (t : HeaderTable) (name value : String) :
    (t.set name value).get? name = some value := by
  simp [get?, set, find?_setEntry_self]

theorem get?_set_of_ne (t : HeaderTable) {name other : String} (differ : other ≠ name)
    (value : String) : (t.set name value).get? other = t.get? other := by
  simp only [get?, set, find?_setEntry_of_ne differ]

theorem head?_set_of_ne {t : HeaderTable} {first : String × String}
    (head : t.entries.head? = some first) (name value : String) (differ : first.1 ≠ name) :
    (t.set name value).entries.head? = some first := by
  obtain ⟨entries⟩ := t
  cases entries with
  | nil => cases head
  | cons entry entries =>
    cases head
    simp [set, setEntry, differ]

theorem names_set (t : HeaderTable) (name value : String) :
    (t.set name value).names = if name ∈ t.names then t.names else t.names ++ [name] := by
  obtain ⟨entries⟩ := t
  simp only [set, names]
  induction entries with
  | nil => simp [setEntry]
  | cons entry entries induction =>
    rw [setEntry]
    by_cases same : entry.1 = name
    · simp [same]
    · simp only [same, if_false, List.map_cons, induction, List.mem_cons, Ne.symm same,
        false_or]
      by_cases member : name ∈ entries.map (·.1) <;> simp [member]

theorem get?_set (t : HeaderTable) (name value other : String) :
    (t.set name value).get? other = if other = name then some value else t.get? other := by
  by_cases same : other = name
  · rw [if_pos same, same, get?_set_self]
  · rw [if_neg same]
    exact get?_set_of_ne t same value

theorem nodup_names_set {t : HeaderTable} (nodup : t.names.Nodup) (name value : String) :
    (t.set name value).names.Nodup := by
  rw [names_set]
  by_cases member : name ∈ t.names
  · rw [if_pos member]
    exact nodup
  · rw [if_neg member, List.nodup_append]
    refine ⟨nodup, List.nodup_cons.mpr ⟨List.not_mem_nil, List.nodup_nil⟩, ?_⟩
    intro old inNames new inNew same
    rw [List.mem_singleton] at inNew
    exact member (inNew ▸ same ▸ inNames)

theorem get?_of_mem {t : HeaderTable} (nodup : t.names.Nodup) {entry : String × String}
    (member : entry ∈ t.entries) : t.get? entry.1 = some entry.2 := by
  obtain ⟨entries⟩ := t
  simp only [names] at nodup
  simp only [get?]
  induction entries with
  | nil => cases member
  | cons first entries induction =>
    rw [List.map_cons, List.nodup_cons] at nodup
    rcases List.mem_cons.mp member with rfl | later
    · simp
    · have differ : first.1 ≠ entry.1 := fun same =>
        nodup.1 (same ▸ List.mem_map_of_mem later)
      simp [differ, induction nodup.2 later]

end HeaderTable

end Gatehouse.Http
