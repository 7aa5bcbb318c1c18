import Mathlib
import Gatehouse.Routing.Registry

/-!
# Runs of registrations

A run makes registration calls one after another on one registry and skips each call that
fails. A call reads, besides the registry, the files as they stand when it is made or the module
catalog it is given, so a run covers any order of calls, any changes to the files between them and
any catalog.

Each call is decided by the registry before it (`attempt_eq_ok_iff`): a failed call leaves every
table as it was, and an accepted call appends its one entry to its own table. From that step
follows what a whole run does (`runCalls_outcome`): the tables hold the entries of the accepted
calls in order, the paths of each table stay distinct, a request path is looked up by preferring
the earliest accepted CGI program at it, then the earliest worker endpoint at it, then the
earliest module at a prefix of it, and the registry is empty exactly when no call succeeded.
-/

namespace Gatehouse.Routing

open Gatehouse.Files
open Gatehouse.Gateway

/-- A registration call with what it reads besides the registry. -/
inductive Call where
  | cgi (files : FileSystem) (path executable : String)
  | worker (files : Tree) (path endpoint : String)
  | module (catalog : String → Option Module) (path name : String)

namespace Call

/-- What the call returns on a registry. -/
def attempt (r : Registry) : Call → Except RegistrationError Registry
  | .cgi files path executable => r.registerCgi files path executable
  | .worker files path endpoint => (r.registerWorker files path endpoint).map Prod.fst
  | .module catalog path name => r.registerModuleFrom catalog path name

/-- The CGI entry a call makes. -/
def cgiRoute? : Call → Option CgiRoute
  | .cgi _ path executable => some ⟨path, executable⟩
  | _ => none

/-- The worker entry a call makes. -/
def workerRoute? : Call → Option WorkerRoute
  | .worker _ path endpoint => some ⟨path, endpoint⟩
  | _ => none

/-- The module entry a call makes, when its catalog has the name. -/
def moduleRoute? : Call → Option ModuleRoute
  | .module catalog path name => (catalog name).map (⟨path, ·⟩)
  | _ => none

/-- Whether a registry accepts a call: the path is free in the call's own table and what the
call names is there. -/
def Admitted (r : Registry) : Call → Prop
  | .cgi files path executable =>
    path ∉ r.cgi.map (·.path) ∧ checkExecutable files executable = .ready
  | .worker files path endpoint =>
    path ∉ r.workers.map (·.path) ∧ ∃ files', bindEndpoint files endpoint = .ok files'
  | .module catalog path name =>
    path ∉ r.modules.map (·.path) ∧ (catalog name).isSome

end Call

namespace Registry

/-- The registry with the entries of some calls appended to their tables, in order. -/
def extend (r : Registry) (calls : List Call) : Registry where
  cgi := r.cgi ++ calls.filterMap Call.cgiRoute?
  workers := r.workers ++ calls.filterMap Call.workerRoute?
  modules := r.modules ++ calls.filterMap Call.moduleRoute?

/-- How many handlers are registered. -/
def size (r : Registry) : Nat :=
  r.cgi.length + r.workers.length + r.modules.length

/-- Makes the calls in order, skipping each that fails: the registry at the end and the calls
accepted, in order. -/
def runCalls (r : Registry) : List Call → Registry × List Call
  | [] => (r, [])
  | call :: calls =>
    match call.attempt r with
    | .ok r' => ((r'.runCalls calls).1, call :: (r'.runCalls calls).2)
    | .error _ => r.runCalls calls

/-- The paths of each table are distinct. -/
structure Distinct (r : Registry) : Prop where
  cgi : (r.cgi.map (·.path)).Nodup
  workers : (r.workers.map (·.path)).Nodup
  modules : (r.modules.map (·.path)).Nodup

end Registry

/-- The route the accepted calls give a request path: the earliest CGI program placed at it,
else the earliest worker endpoint placed at it, else the earliest module placed at a prefix of
it, else static files. -/
def preferredRoute (accepted : List Call) (path : String) : Route :=
  match accepted.findSome? fun call => call.cgiRoute?.filter (·.path == path) with
  | some c => .cgi c
  | none =>
    match accepted.findSome? fun call => call.workerRoute?.filter (·.path == path) with
    | some w => .worker w
    | none =>
      match accepted.findSome? fun call =>
          call.moduleRoute?.filter fun m => decide (m.path.toList <+: path.toList) with
      | some m => .module m
      | none => .static

namespace Registry

variable {r r' : Registry} {call : Call}

@[simp]
theorem extend_nil (r : Registry) : r.extend [] = r := by
  simp [extend]

theorem extend_append (r : Registry) (xs ys : List Call) :
    (r.extend xs).extend ys = r.extend (xs ++ ys) := by
  simp [extend, List.filterMap_append]

theorem extend_cgi (r : Registry) (files : FileSystem) (path executable : String) :
    r.extend [.cgi files path executable] =
      { r with cgi := r.cgi ++ [⟨path, executable⟩] } := by
  simp [extend, Call.cgiRoute?, Call.workerRoute?, Call.moduleRoute?]

theorem extend_worker (r : Registry) (files : Tree) (path endpoint : String) :
    r.extend [.worker files path endpoint] =
      { r with workers := r.workers ++ [⟨path, endpoint⟩] } := by
  simp [extend, Call.cgiRoute?, Call.workerRoute?, Call.moduleRoute?]

theorem extend_module {catalog : String → Option Module} {name : String} {m : Module}
    (found : catalog name = some m) (r : Registry) (path : String) :
    r.extend [.module catalog path name] = { r with modules := r.modules ++ [⟨path, m⟩] } := by
  simp [extend, Call.cgiRoute?, Call.workerRoute?, Call.moduleRoute?, found]

theorem any_path_beq {α : Type} (pathOf : α → String) (table : List α) (path : String) :
    table.any (fun entry => pathOf entry == path) = decide (path ∈ table.map pathOf) := by
  rw [Bool.eq_iff_iff]
  simp only [List.any_eq_true, beq_iff_eq, decide_eq_true_eq, List.mem_map]

/-- The step: a registry accepts a call exactly when the call is admitted, and the registry it
returns then is the old one with the call's entry appended. -/
theorem attempt_eq_ok_iff :
    call.attempt r = .ok r' ↔ call.Admitted r ∧ r' = r.extend [call] := by
  cases call with
  | cgi files path executable =>
    simp only [Call.attempt, registerCgi, Call.Admitted, extend_cgi, any_path_beq]
    by_cases taken : path ∈ r.cgi.map (·.path)
    · simp [taken]
    · cases checkExecutable files executable with
      | ready => simpa [taken] using eq_comm
      | missing | notRunnable => simp [taken]
  | worker files path endpoint =>
    simp only [Call.attempt, registerWorker, Call.Admitted, extend_worker, any_path_beq]
    by_cases taken : path ∈ r.workers.map (·.path)
    · simp [taken, Except.map]
    · cases bindEndpoint files endpoint with
      | error => simp [taken, Except.map]
      | ok => simpa [taken, Except.map] using eq_comm
  | module catalog path name =>
    simp only [Call.attempt, registerModuleFrom, Call.Admitted, any_path_beq]
    by_cases taken : path ∈ r.modules.map (·.path)
    · simp [taken]
    · cases resolved : catalog name with
      | none => simp [taken]
      | some m => simpa [taken, extend_module resolved] using eq_comm

theorem size_extend_of_admitted (admitted : call.Admitted r) :
    (r.extend [call]).size = r.size + 1 := by
  cases call with
  | cgi files path executable =>
    simp [extend_cgi, size]
    omega
  | worker files path endpoint =>
    simp [extend_worker, size]
    omega
  | module catalog path name =>
    obtain ⟨m, resolved⟩ := Option.isSome_iff_exists.1 admitted.2
    simp [extend_module resolved, size]
    omega

theorem nodup_map_append_singleton {α : Type} {f : α → String} {l : List α} {x : α}
    (nodup : (l.map f).Nodup) (fresh : f x ∉ l.map f) : ((l ++ [x]).map f).Nodup := by
  rw [List.map_append, List.map_singleton, ← List.concat_eq_append]
  exact nodup.concat fresh

/-- An admitted call keeps the paths of each table distinct: its path is free in its table. -/
theorem Distinct.extend (distinct : r.Distinct) (admitted : call.Admitted r) :
    (r.extend [call]).Distinct := by
  cases call with
  | cgi files path executable =>
    rw [extend_cgi]
    exact ⟨nodup_map_append_singleton distinct.cgi admitted.1, distinct.workers,
      distinct.modules⟩
  | worker files path endpoint =>
    rw [extend_worker]
    exact ⟨distinct.cgi, nodup_map_append_singleton distinct.workers admitted.1,
      distinct.modules⟩
  | module catalog path name =>
    obtain ⟨m, resolved⟩ := Option.isSome_iff_exists.1 admitted.2
    rw [extend_module resolved]
    exact ⟨distinct.cgi, distinct.workers,
      nodup_map_append_singleton distinct.modules admitted.1⟩

theorem distinct_empty : ({} : Registry).Distinct :=
  ⟨List.nodup_nil, List.nodup_nil, List.nodup_nil⟩

theorem runCalls_cons_of_ok (accepted : call.attempt r = .ok r') (calls : List Call) :
    r.runCalls (call :: calls) = ((r'.runCalls calls).1, call :: (r'.runCalls calls).2) := by
  simp only [runCalls, accepted]

theorem runCalls_cons_of_error (failed : call.attempt r = .error e) (calls : List Call) :
    r.runCalls (call :: calls) = r.runCalls calls := by
  simp only [runCalls, failed]

theorem runCalls_sublist (r : Registry) (calls : List Call) :
    (r.runCalls calls).2.Sublist calls := by
  fun_induction runCalls r calls with
  | case1 r => exact .slnil
  | case2 r call calls r' accepted ih => exact ih.cons_cons call
  | case3 r call calls e failed ih => exact ih.cons call

theorem runCalls_fst (r : Registry) (calls : List Call) :
    (r.runCalls calls).1 = r.extend (r.runCalls calls).2 := by
  fun_induction runCalls r calls with
  | case1 r => simp
  | case2 r call calls r' accepted ih =>
    obtain ⟨-, rfl⟩ := attempt_eq_ok_iff.1 accepted
    rw [ih, extend_append]
    rfl
  | case3 r call calls e failed ih => exact ih

theorem size_runCalls (r : Registry) (calls : List Call) :
    (r.runCalls calls).1.size = r.size + (r.runCalls calls).2.length := by
  fun_induction runCalls r calls with
  | case1 r => simp
  | case2 r call calls r' accepted ih =>
    obtain ⟨admitted, rfl⟩ := attempt_eq_ok_iff.1 accepted
    rw [List.length_cons, ih, size_extend_of_admitted admitted]
    omega
  | case3 r call calls e failed ih => exact ih

theorem Distinct.runCalls (distinct : r.Distinct) (calls : List Call) :
    (r.runCalls calls).1.Distinct := by
  fun_induction Registry.runCalls r calls with
  | case1 r => exact distinct
  | case2 r call calls r' accepted ih =>
    obtain ⟨admitted, rfl⟩ := attempt_eq_ok_iff.1 accepted
    exact ih (distinct.extend admitted)
  | case3 r call calls e failed ih => exact ih distinct

/-- A failed call has no effect on the rest of a run: making only the accepted calls ends in
the same registry, and accepts them all. -/
theorem runCalls_accepted (r : Registry) (calls : List Call) :
    r.runCalls (r.runCalls calls).2 = r.runCalls calls := by
  fun_induction runCalls r calls with
  | case1 r => rfl
  | case2 r call calls r' accepted ih => rw [runCalls_cons_of_ok accepted, ih]
  | case3 r call calls e failed ih => exact ih

/-- A run of two lists of calls is the run of the first, then the run of the second from where
it ended. -/
theorem runCalls_append (r : Registry) (xs ys : List Call) :
    r.runCalls (xs ++ ys) =
      (((r.runCalls xs).1.runCalls ys).1,
        (r.runCalls xs).2 ++ ((r.runCalls xs).1.runCalls ys).2) := by
  fun_induction runCalls r xs with
  | case1 r => rfl
  | case2 r call xs r' accepted ih =>
    rw [List.cons_append, runCalls_cons_of_ok accepted, ih]
    rfl
  | case3 r call xs e failed ih => rw [List.cons_append, runCalls_cons_of_error failed, ih]

theorem isEmpty_iff_size : r.isEmpty = true ↔ r.size = 0 := by
  simp [isEmpty, size, List.isEmpty_iff]

theorem runCalls_singleton (r : Registry) (call : Call) :
    (∀ e, call.attempt r = .error e → (r.runCalls [call]).1 = r) ∧
      ∀ r', call.attempt r = .ok r' →
        (r.runCalls [call]).1 = r' ∧ r' = r.extend [call] ∧ r'.size = r.size + 1 := by
  constructor
  · intro e failed
    simp only [runCalls, failed]
  · intro r' accepted
    obtain ⟨admitted, rfl⟩ := attempt_eq_ok_iff.1 accepted
    refine ⟨?_, rfl, size_extend_of_admitted admitted⟩
    simp only [runCalls, accepted]

theorem find?_filterMap_eq_findSome? {α β : Type} (l : List α) (f : α → Option β)
    (p : β → Bool) : (l.filterMap f).find? p = l.findSome? fun a => (f a).filter p := by
  induction l with
  | nil => rfl
  | cons a l ih =>
    simp only [List.filterMap_cons, List.findSome?_cons]
    cases entry : f a with
    | none => simp [ih]
    | some b => cases holds : p b <;> simp [holds, ih, Option.filter]

/-- Looking up a path in the entries of some calls prefers them as `preferredRoute` says. -/
theorem lookup_extend_empty (accepted : List Call) (path : String) :
    (Registry.extend {} accepted).lookup path = preferredRoute accepted path := by
  have prefixTest : (fun m : ModuleRoute => m.path.toList.isPrefixOf path.toList) =
      fun m => decide (m.path.toList <+: path.toList) := by
    funext m
    exact Bool.eq_iff_iff.2 (by simp [List.isPrefixOf_iff_prefix])
  unfold preferredRoute
  split
  · rename_i c cgiFound
    simp only [lookup, extend, List.nil_append, find?_filterMap_eq_findSome?, cgiFound]
  · rename_i noCgi
    split
    · rename_i w workerFound
      simp only [lookup, extend, List.nil_append, find?_filterMap_eq_findSome?, noCgi,
        workerFound]
    · rename_i noWorker
      split
      · rename_i m moduleFound
        simp only [lookup, extend, List.nil_append, find?_filterMap_eq_findSome?, noCgi,
          noWorker, prefixTest, moduleFound]
      · rename_i noModule
        simp only [lookup, extend, List.nil_append, find?_filterMap_eq_findSome?, noCgi,
          noWorker, prefixTest, noModule]

/-- Every run of registrations from an empty registry: each call either fails and changes no
table or appends its one entry to its own table; the failed calls could be left out; the tables
hold the accepted calls' entries in order, with distinct paths in each; a lookup prefers as
`preferredRoute` says; and the registry is empty exactly when no call was accepted. -/
theorem runCalls_outcome (calls : List Call) :
    let run := Registry.runCalls {} calls
    (∀ pre call post, calls = pre ++ call :: post →
      let before := (Registry.runCalls {} pre).1
      let after := (Registry.runCalls {} (pre ++ [call])).1
      (∀ e, call.attempt before = .error e → after = before) ∧
        ∀ r, call.attempt before = .ok r →
          after = r ∧ r = before.extend [call] ∧ r.size = before.size + 1) ∧
      run.2.Sublist calls ∧
      Registry.runCalls {} run.2 = run ∧
      run.1 = Registry.extend {} run.2 ∧
      run.1.Distinct ∧
      (∀ path, run.1.lookup path = preferredRoute run.2 path) ∧
      (run.1.isEmpty = true ↔ run.2 = []) := by
  dsimp only
  refine ⟨fun pre call _ _ => ?_, runCalls_sublist {} calls, runCalls_accepted {} calls,
    runCalls_fst {} calls, distinct_empty.runCalls calls, fun path => ?_, ?_⟩
  · simp only [runCalls_append]
    exact runCalls_singleton _ call
  · rw [runCalls_fst {} calls]
    exact lookup_extend_empty _ path
  · rw [isEmpty_iff_size, size_runCalls]
    simp [size]

/-- A refused duplicate and an unknown name are skipped; the earliest module at a prefix wins,
even over a longer prefix registered later. -/
example : (runCalls {} [.module Module.byName? "/" "echo", .module Module.byName? "/" "adder",
    .module Module.byName? "/x" "nope", .module Module.byName? "/add" "adder"]).1.lookup "/add/x" =
      .module ⟨"/", .echo⟩ := by
  decide

end Registry

end Gatehouse.Routing
