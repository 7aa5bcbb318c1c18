import Mathlib
import Gatehouse.Proofs.ConnectionAnswers

/-!
# Response headers as an insertion-ordered map

A header table is changed only by `HeaderTable.set`, which replaces the value of a name in place
or appends a new name.  Setting a list of assignments one after another from the empty table
(`HeaderTable.setAll`) therefore gives a map with an order: the names are the names assigned,
each once, in order of first assignment (`List.eraseDups`), and each holds the value of its
latest assignment (a look-up in the reversed list).

A response built from `Response.new` by setting headers and bodies is such a table: `new`
assigns `Server`, a header step assigns its header, and a body step assigns `Content-Length` the
length of the body (`Step.assignment`).

Main statement: `Response.build_headers_insertion_ordered`.
-/

namespace Gatehouse.Http

theorem eraseDups_append_singleton {α : Type} [BEq α] [LawfulBEq α] (l : List α) (x : α) :
    (l ++ [x]).eraseDups = if x ∈ l then l.eraseDups else l.eraseDups ++ [x] := by
  rw [List.eraseDups_append]
  by_cases member : x ∈ l
  · simp [member, List.removeAll]
  · simp [member, List.removeAll, List.eraseDups_cons]

namespace HeaderTable

/-- Setting the headers of a list one after another, from the empty table. -/
def setAll (assignments : List (String × String)) : HeaderTable :=
  assignments.foldl (fun t a => t.set a.1 a.2) {}

theorem setAll_append_singleton (assignments : List (String × String)) (last : String × String) :
    setAll (assignments ++ [last]) = (setAll assignments).set last.1 last.2 := by
  simp [setAll, List.foldl_append]

/-- The names of the table are the names assigned, each at its first assignment. -/
theorem names_setAll (assignments : List (String × String)) :
    (setAll assignments).names = (assignments.map Prod.fst).eraseDups := by
  induction assignments using List.reverseRecOn with
  | nil => rfl
  | append_singleton assignments last induction =>
    rw [setAll_append_singleton, names_set, List.map_append, List.map_singleton,
      eraseDups_append_singleton, induction]
    simp only [List.mem_eraseDups]

theorem nodup_names_setAll (assignments : List (String × String)) :
    (setAll assignments).names.Nodup := by
  induction assignments using List.reverseRecOn with
  | nil => exact List.nodup_nil
  | append_singleton assignments last induction =>
    rw [setAll_append_singleton]
    exact nodup_names_set induction last.1 last.2

/-- Each name holds the value of its latest assignment. -/
theorem get?_setAll (assignments : List (String × String)) (name : String) :
    (setAll assignments).get? name = assignments.reverse.lookup name := by
  induction assignments using List.reverseRecOn with
  | nil => rfl
  | append_singleton assignments last induction =>
    rw [setAll_append_singleton, get?_set, List.reverse_append, List.reverse_singleton,
      List.singleton_append, List.lookup_cons, induction]
    by_cases same : name = last.1
    · rw [if_pos same, same, beq_self_eq_true]
    · rw [if_neg same, beq_false_of_ne same]

end HeaderTable

namespace Response

open Gatehouse.Text

/-- The header a step assigns: the one it names, or `Content-Length` with the length of the body
it sets. -/
def Step.assignment : Step → String × String
  | .header name value => (name, value)
  | .body text => ("Content-Length", toString (Utf8.encode text).length)
  | .bodyBytes bytes => ("Content-Length", toString bytes.length)

/-- The body a step sets, if it sets one. -/
def Step.body? : Step → Option (List UInt8)
  | .header _ _ => none
  | .body text => some (Utf8.encode text)
  | .bodyBytes bytes => some bytes

/-- Every header assignment that building a response makes, in order: `Server` first, then one
for each step. -/
def assignments (steps : List Step) : List (String × String) :=
  ("Server", serverSoftware) :: steps.map Step.assignment

theorem headers_apply (r : Response) (step : Step) :
    (step.apply r).headers = r.headers.set step.assignment.1 step.assignment.2 := by
  cases step <;> rfl

theorem body_apply (r : Response) (step : Step) :
    (step.apply r).body = step.body?.getD r.body := by
  cases step <;> rfl

theorem assignment_of_body? {step : Step} {bytes : List UInt8} (sets : step.body? = some bytes) :
    step.assignment = ("Content-Length", toString bytes.length) := by
  cases step <;> cases sets <;> rfl

theorem assignment_ne_contentLength {step : Step} (noBody : step.body? = none)
    (noLength : ∀ value, step ≠ .header "Content-Length" value) :
    step.assignment.1 ≠ "Content-Length" := by
  cases step with
  | header name value =>
    rintro rfl
    exact noLength value rfl
  | body text => cases noBody
  | bodyBytes bytes => cases noBody

theorem headers_build (status : Status) (steps : List Step) :
    (build status steps).headers = HeaderTable.setAll (assignments steps) := by
  suffices run : ∀ r : Response, (steps.foldl Step.apply r).headers =
      (steps.map Step.assignment).foldl (fun t a => t.set a.1 a.2) r.headers from
    run (new status)
  induction steps with
  | nil => exact fun r => rfl
  | cons step steps induction =>
    intro r
    rw [List.foldl_cons, induction, headers_apply, List.map_cons, List.foldl_cons]

theorem body_foldl_of_no_body {steps : List Step} (noBody : ∀ step ∈ steps, step.body? = none)
    (r : Response) : (steps.foldl Step.apply r).body = r.body := by
  induction steps generalizing r with
  | nil => rfl
  | cons step steps induction =>
    rw [List.foldl_cons, induction (fun other member => noBody other (List.mem_cons_of_mem _ member)),
      body_apply, noBody step List.mem_cons_self, Option.getD_none]

theorem header?_build (status : Status) (steps : List Step) (name : String) :
    (build status steps).header? name = (assignments steps).reverse.lookup name := by
  rw [header?, headers_build, HeaderTable.get?_setAll]

/-- After the last body is set, and with no `Content-Length` set after it, the response has that
body and `Content-Length` is its length. -/
theorem contentLength_build_of_last_body (status : Status) (pre : List Step) {post : List Step}
    {setter : Step} {bytes : List UInt8} (sets : setter.body? = some bytes)
    (noBody : ∀ step ∈ post, step.body? = none)
    (noLength : ∀ value, Step.header "Content-Length" value ∉ post) :
    (build status (pre ++ setter :: post)).body = bytes ∧
      (build status (pre ++ setter :: post)).header? "Content-Length" =
        some (toString bytes.length) := by
  constructor
  · rw [build, List.foldl_append, List.foldl_cons, body_foldl_of_no_body noBody, body_apply, sets,
      Option.getD_some]
  · have later : (post.map Step.assignment).reverse.lookup "Content-Length" = none := by
      rw [List.lookup_eq_none_iff]
      intro assignment member
      obtain ⟨step, stepMember, rfl⟩ := List.mem_map.mp (List.mem_reverse.mp member)
      have differ := assignment_ne_contentLength (noBody step stepMember)
        (fun value same => noLength value (same ▸ stepMember))
      simpa using Ne.symm differ
    rw [header?_build, assignments, List.map_append, List.map_cons, List.reverse_cons,
      List.reverse_append, List.reverse_cons, List.append_assoc, List.append_assoc,
      List.lookup_append, later, Option.none_or, List.singleton_append, assignment_of_body? sets,
      List.lookup_cons_self]

theorem entries_error (status : Status) (cause : String) :
    (error status cause).headers.entries =
      [("Server", serverSoftware), ("Content-Type", "text/html"),
        ("Content-Length", toString (error status cause).body.length)] := by
  simp [error, withBody, withBodyBytes, withHeader, new, HeaderTable.set, HeaderTable.setEntry]

/-- Built from `Response.new` by setting headers and bodies, a response's header list is an
insertion-ordered map over the assignments made: the names are distinct and in order of first
assignment, `Server` first, and each name holds its latest value, which is what a lookup
gives.  So after the last body, unless `Content-Length` is set again, it holds the body's
length.  An error response has exactly `Server`, `Content-Type` and `Content-Length`, in that
order. -/
theorem build_headers_insertion_ordered (status : Status) (steps : List Step) :
    let r := build status steps
    r.headers.names.Nodup ∧
      r.headers.names = ((assignments steps).map Prod.fst).eraseDups ∧
      r.headers.names.head? = some "Server" ∧
      (∀ entry ∈ r.headers.entries, (assignments steps).reverse.lookup entry.1 = some entry.2) ∧
      (∀ name, r.header? name = (assignments steps).reverse.lookup name) ∧
      (∀ pre setter post bytes, steps = pre ++ setter :: post → setter.body? = some bytes →
        (∀ step ∈ post, step.body? = none) → (∀ value, Step.header "Content-Length" value ∉ post) →
        r.body = bytes ∧ r.header? "Content-Length" = some (toString r.body.length)) ∧
      ∀ cause, (error status cause).headers.entries =
        [("Server", serverSoftware), ("Content-Type", "text/html"),
          ("Content-Length", toString (error status cause).body.length)] := by
  intro r
  have nodup : r.headers.names.Nodup := by
    rw [headers_build]
    exact HeaderTable.nodup_names_setAll _
  have names : r.headers.names = ((assignments steps).map Prod.fst).eraseDups := by
    rw [headers_build, HeaderTable.names_setAll]
  refine ⟨nodup, names, ?_, fun entry member => ?_, header?_build status steps, ?_,
    entries_error status⟩
  · rw [names, assignments, List.map_cons, List.eraseDups_cons]
    rfl
  · rw [← header?_build]
    exact HeaderTable.get?_of_mem nodup member
  · rintro pre setter post bytes rfl sets noBody noLength
    obtain ⟨body, length⟩ := contentLength_build_of_last_body status pre sets
      noBody noLength
    exact ⟨body, by rw [length, body]⟩

end Response

end Gatehouse.Http
