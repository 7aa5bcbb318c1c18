import Mathlib
import Gatehouse.Proofs.RequestRoundTrip

/-!
# How a request target splits

A target is read in three cuts: everything up to the first `://` is dropped as a scheme, the
authority runs up to the first `/` or `?`, and the rest is the path, with the query after its
first `?` (`SplitsAtQuery`).

The first cut looks for `://` anywhere in the target, not only where a scheme can stand.  A
target in origin form — one that starts with `/` — that holds no `://` is therefore all path and
query: it is valid, names no host and the default port, and splits at its first `?`.  A target
`proto://authority rest` names the authority up to its first `:` as its host, is valid exactly
when what follows that `:` is absent or reads as a 16-bit port, and then splits `rest` the same
way; a port that does not read leaves every other field at its default (`parse_splits_target`).

An origin-form target whose query holds a URL is read as though that URL began it: in
`/a?next=http://x/y` the host is `x`, the path `/y`, and there is no query
(`parse_scheme_in_query`).
-/

namespace Gatehouse.Http

open Gatehouse.Text

namespace Uri

/-- The fields a path-and-query part `rest` gives a target: the path is the part of `rest`
before its first `?`, or `/` when that part is empty; the query is the part after that `?`,
empty when there is none; and the target is dynamic exactly when `rest` holds a `?`. -/
structure SplitsAtQuery (uri : Uri) (rest : List Char) : Prop where
  path : uri.path =
    if rest.takeWhile (· != '?') = [] then "/" else String.ofList (rest.takeWhile (· != '?'))
  query : uri.query = String.ofList ((rest.dropWhile (· != '?')).drop 1)
  dynamic : uri.isDynamic = decide ('?' ∈ rest)

/-! ## The path and query part -/

@[simp]
theorem host_withPathAndQuery (base : Uri) (rest : List Char) :
    (withPathAndQuery base rest).host = base.host := by
  unfold withPathAndQuery
  split <;> rfl

@[simp]
theorem port_withPathAndQuery (base : Uri) (rest : List Char) :
    (withPathAndQuery base rest).port = base.port := by
  unfold withPathAndQuery
  split <;> rfl

@[simp]
theorem valid_withPathAndQuery (base : Uri) (rest : List Char) :
    (withPathAndQuery base rest).valid = true := by
  unfold withPathAndQuery
  split <;> rfl

theorem splitsAtQuery_withPathAndQuery {base : Uri} (static : base.isDynamic = false)
    (noQuery : base.query = "") (rest : List Char) :
    SplitsAtQuery (withPathAndQuery base rest) rest := by
  unfold withPathAndQuery
  rw [List.span_eq_takeWhile_dropWhile]
  cases after : rest.dropWhile (· != '?') with
  | nil =>
    have absent : '?' ∉ rest := by
      intro member
      have kept := List.dropWhile_eq_nil_iff.mp after '?' member
      simp at kept
    refine ⟨?_, ?_, ?_⟩
    · by_cases empty : rest.takeWhile (· != '?') = [] <;> simp [empty]
    · simp [after, noQuery]
    · simp [absent, static]
  | cons first query =>
    have isQuery : first = '?' := by
      have stops := List.head?_dropWhile_not (fun char => char != '?') rest
      rw [after] at stops
      simpa using stops
    subst isQuery
    have present : '?' ∈ rest :=
      (List.dropWhile_suffix _).subset (after ▸ List.mem_cons_self)
    refine ⟨?_, ?_, ?_⟩
    · by_cases empty : rest.takeWhile (· != '?') = [] <;> simp [empty]
    · simp [after]
    · simp [present]

/-! ## The scheme -/

theorem afterScheme?_eq_none_iff (chars : List Char) :
    afterScheme? chars = none ↔ ¬ [':', '/', '/'] <:+: chars := by
  fun_induction afterScheme? chars with
  | case1 rest => simp [List.infix_cons_iff]
  | case2 char rest notScheme induction =>
    have notPrefix : ¬ [':', '/', '/'] <+: char :: rest := by
      rintro ⟨tail, equal⟩
      simp only [List.cons_append, List.nil_append, List.cons.injEq] at equal
      exact notScheme tail equal.1.symm equal.2.symm
    rw [induction, List.infix_cons_iff, or_iff_right notPrefix]
  | case3 => simp

theorem afterScheme?_scheme {proto : List Char} (noSlash : '/' ∉ proto) (rest : List Char) :
    afterScheme? (proto ++ ':' :: '/' :: '/' :: rest) = some rest := by
  induction proto with
  | nil => rfl
  | cons char proto induction =>
    have tailFree : '/' ∉ proto := fun member => noSlash (List.mem_cons_of_mem char member)
    cases proto with
    | nil => simp [afterScheme?]
    | cons next proto =>
      have notSlash : next ≠ '/' := fun same => noSlash (by simp [same])
      rw [List.cons_append, afterScheme?]
      · exact induction tailFree
      · intro after _ equal
        rw [List.cons_append, List.cons.injEq] at equal
        exact notSlash equal.1

theorem span_authority {authority rest : List Char}
    (within : ∀ char ∈ authority, endsAuthority char = false)
    (ends : ∀ char ∈ rest.head?, endsAuthority char = true) :
    (authority ++ rest).span (fun char => !endsAuthority char) = (authority, rest) := by
  have kept : ∀ char ∈ authority, (!endsAuthority char) = true := by
    intro char member
    simp [within char member]
  rw [List.span_eq_takeWhile_dropWhile, List.takeWhile_append_of_pos kept,
    List.dropWhile_append_of_pos kept]
  cases rest with
  | nil => simp
  | cons char rest =>
    have stops := ends char rfl
    simp [stops]

/-! ## The two forms of a target -/

/-- A target in origin form with no `://` is all path and query. -/
theorem parse_origin {target : String} (slash : target.toList.head? = some '/')
    (noScheme : ¬ [':', '/', '/'] <:+: target.toList) :
    parse target = withPathAndQuery {} target.toList := by
  obtain ⟨tail, starts⟩ : ∃ tail, target.toList = '/' :: tail := by
    cases chars : target.toList with
    | nil => simp [chars] at slash
    | cons first tail =>
      rw [chars, List.head?_cons, Option.some.injEq] at slash
      exact ⟨tail, by rw [slash]⟩
  exact parse_of_slash starts ((afterScheme?_eq_none_iff _).mpr noScheme)

/-- A target after a scheme, by what follows the host in the authority: nothing, a port that
reads, or a port that does not. -/
theorem parse_absolute_cases {proto authority rest : List Char} (noSlash : '/' ∉ proto)
    (within : ∀ char ∈ authority, endsAuthority char = false)
    (ends : ∀ char ∈ rest.head?, endsAuthority char = true) :
    let target := parse (String.ofList (proto ++ ':' :: '/' :: '/' :: authority ++ rest))
    let host := String.ofList (authority.takeWhile (· != ':'))
    (authority.dropWhile (· != ':') = [] ∧ target = withPathAndQuery { host := host } rest) ∨
    (∃ port number, authority.dropWhile (· != ':') = ':' :: port ∧
      Numeral.readU16 (String.ofList port) = .ok number ∧
      target = withPathAndQuery { host := host, port := number } rest) ∨
    (∃ port error, authority.dropWhile (· != ':') = ':' :: port ∧
      Numeral.readU16 (String.ofList port) = .error error ∧ target = { host := host }) := by
  intro target host
  have scheme : target = parse (String.ofList (proto ++ ':' :: '/' :: '/' :: authority ++ rest)) :=
    rfl
  unfold parse at scheme
  simp only [String.toList_ofList, List.append_assoc, List.cons_append] at scheme
  rw [if_neg (by simp), afterScheme?_scheme noSlash, Option.getD_some,
    span_authority within ends, List.span_eq_takeWhile_dropWhile] at scheme
  dsimp only at scheme
  cases after : authority.dropWhile (· != ':') with
  | nil =>
    have whole : authority.takeWhile (· != ':') = authority := by
      have split := List.takeWhile_append_dropWhile (p := (· != ':')) (l := authority)
      rwa [after, List.append_nil] at split
    rw [after] at scheme
    dsimp only at scheme
    refine .inl ⟨rfl, ?_⟩
    rw [scheme]
    simp only [host, whole]
  | cons colon port =>
    have isColon : colon = ':' := by
      have stops := List.head?_dropWhile_not (fun char => char != ':') authority
      rw [after] at stops
      simpa using stops
    subst isColon
    rw [after] at scheme
    dsimp only at scheme
    cases reads : Numeral.readU16 (String.ofList port) with
    | ok number =>
      rw [reads] at scheme
      exact .inr (.inl ⟨port, number, rfl, reads, scheme⟩)
    | error error =>
      rw [reads] at scheme
      exact .inr (.inr ⟨port, error, rfl, reads, scheme⟩)

/-- How a target splits.  A target in origin form that holds no `://` is valid, names no host
and the default port, and splits at its first `?`.  A target `proto://authority rest`, with no
`/` in its scheme, no `/` or `?` in its authority, and a rest that is empty or starts with one of
them, has as host the authority up to its first `:`; it is valid exactly when what follows that
`:` is absent or reads as a 16-bit port, and then its rest splits at its first `?`; otherwise
every field but the host keeps its default. -/
theorem parse_splits_target (target : String) :
    (target.toList.head? = some '/' → ¬ [':', '/', '/'] <:+: target.toList →
      (parse target).valid = true ∧ (parse target).host = "" ∧
        (parse target).port = defaultPort ∧ SplitsAtQuery (parse target) target.toList) ∧
    (∀ proto authority rest : List Char,
      target.toList = proto ++ ':' :: '/' :: '/' :: authority ++ rest → '/' ∉ proto →
      (∀ char ∈ authority, char ≠ '/' ∧ char ≠ '?') →
      (∀ char ∈ rest.head?, char = '/' ∨ char = '?') →
      (parse target).host = String.ofList (authority.takeWhile (· != ':')) ∧
      ((parse target).valid = true ↔ ∀ port, authority.dropWhile (· != ':') = ':' :: port →
        ∃ number, Numeral.readU16 (String.ofList port) = .ok number) ∧
      ((parse target).valid = true → SplitsAtQuery (parse target) rest) ∧
      ((parse target).valid = false →
        parse target = { host := String.ofList (authority.takeWhile (· != ':')) })) := by
  constructor
  · intro slash noScheme
    rw [parse_origin slash noScheme]
    exact ⟨valid_withPathAndQuery _ _, host_withPathAndQuery _ _, port_withPathAndQuery _ _,
      splitsAtQuery_withPathAndQuery rfl rfl _⟩
  · intro proto authority rest split noSlash plain starts
    obtain rfl : target = String.ofList (proto ++ ':' :: '/' :: '/' :: authority ++ rest) := by
      rw [← split, String.ofList_toList]
    have within : ∀ char ∈ authority, endsAuthority char = false := by
      intro char member
      simp [endsAuthority, (plain char member).1, (plain char member).2]
    have ends : ∀ char ∈ rest.head?, endsAuthority char = true := by
      intro char first
      rcases starts char first with slash | query <;> simp [endsAuthority, *]
    rcases parse_absolute_cases noSlash within ends with
      ⟨noPort, parsed⟩ | ⟨port, number, hasPort, reads, parsed⟩ |
        ⟨port, error, hasPort, fails, parsed⟩
    · rw [parsed]
      refine ⟨host_withPathAndQuery _ _, ⟨fun _ port colon => ?_, fun _ => valid_withPathAndQuery _ _⟩,
        fun _ => splitsAtQuery_withPathAndQuery rfl rfl rest, fun invalid => ?_⟩
      · rw [noPort] at colon
        cases colon
      · rw [valid_withPathAndQuery] at invalid
        cases invalid
    · rw [parsed]
      refine ⟨host_withPathAndQuery _ _, ⟨fun _ other colon => ?_, fun _ => valid_withPathAndQuery _ _⟩,
        fun _ => splitsAtQuery_withPathAndQuery rfl rfl rest, fun invalid => ?_⟩
      · rw [hasPort, List.cons.injEq] at colon
        rw [← colon.2]
        exact ⟨number, reads⟩
      · rw [valid_withPathAndQuery] at invalid
        cases invalid
    · rw [parsed]
      refine ⟨rfl, ⟨fun valid => ?_, fun reading => ?_⟩, fun valid => ?_, fun _ => rfl⟩
      · cases valid
      · obtain ⟨number, reads⟩ := reading port hasPort
        rw [fails] at reads
        cases reads
      · cases valid

/-- The test targets: `/search?q=a?b&c=d` splits at its first `?`, and
`http://localhost:8080/cgi/add?value=1&value=2` names the host `localhost` and is valid. -/
theorem parse_splits_target_search_and_adder :
    ("/search?q=a?b&c=d".toList.head? = some '/' ∧
      ¬ [':', '/', '/'] <:+: "/search?q=a?b&c=d".toList ∧
      (parse "/search?q=a?b&c=d").valid = true ∧ (parse "/search?q=a?b&c=d").host = "" ∧
      (parse "/search?q=a?b&c=d").port = defaultPort ∧
      SplitsAtQuery (parse "/search?q=a?b&c=d") "/search?q=a?b&c=d".toList) ∧
    ("http://localhost:8080/cgi/add?value=1&value=2".toList =
        "http".toList ++ ':' :: '/' :: '/' :: "localhost:8080".toList ++
          "/cgi/add?value=1&value=2".toList ∧
      '/' ∉ "http".toList ∧ (∀ char ∈ "localhost:8080".toList, char ≠ '/' ∧ char ≠ '?') ∧
      (∀ char ∈ "/cgi/add?value=1&value=2".toList.head?, char = '/' ∨ char = '?') ∧
      (parse "http://localhost:8080/cgi/add?value=1&value=2").host =
        String.ofList ("localhost:8080".toList.takeWhile (· != ':')) ∧
      (parse "http://localhost:8080/cgi/add?value=1&value=2").valid = true) := by
  have slash : "/search?q=a?b&c=d".toList.head? = some '/' := by decide +kernel
  have noScheme : ¬ [':', '/', '/'] <:+: "/search?q=a?b&c=d".toList := by decide +kernel
  have split : "http://localhost:8080/cgi/add?value=1&value=2".toList =
      "http".toList ++ ':' :: '/' :: '/' :: "localhost:8080".toList ++
        "/cgi/add?value=1&value=2".toList := by
    simp
  have noSlash : '/' ∉ "http".toList := by decide +kernel
  have plain : ∀ char ∈ "localhost:8080".toList, char ≠ '/' ∧ char ≠ '?' := by simp
  have starts : ∀ char ∈ "/cgi/add?value=1&value=2".toList.head?, char = '/' ∨ char = '?' := by
    simp
  have absolute := (parse_splits_target "http://localhost:8080/cgi/add?value=1&value=2").2 _ _ _
    split noSlash plain starts
  have reads : ∀ port, "localhost:8080".toList.dropWhile (· != ':') = ':' :: port →
      ∃ number, Numeral.readU16 (String.ofList port) = .ok number := by
    intro port colon
    have eight : port = "8080".toList := by
      have same : "localhost:8080".toList.dropWhile (· != ':') = ':' :: "8080".toList := by
        simp
      rw [same, List.cons.injEq] at colon
      exact colon.2.symm
    subst eight
    exact ⟨8080, by decide +kernel⟩
  exact ⟨⟨slash, noScheme, (parse_splits_target "/search?q=a?b&c=d").1 slash noScheme⟩,
    ⟨split, noSlash, plain, starts, absolute.1, absolute.2.1.mpr reads⟩⟩

/-- A query that holds a URL is read as a scheme: the origin-form target `/a?next=http://x/y`,
which holds a `?`, is read with the host `x`, the path `/y`, no query, and as not dynamic. -/
theorem parse_scheme_in_query :
    "/a?next=http://x/y".toList.head? = some '/' ∧ '?' ∈ "/a?next=http://x/y".toList ∧
      parse "/a?next=http://x/y" = { host := "x", path := "/y", valid := true } := by
  decide +kernel

end Uri

end Gatehouse.Http
