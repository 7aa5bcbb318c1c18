import Mathlib
import Gatehouse.Proofs.RequestEquality

/-!
# Cache equivalence of requests

`Request.cacheEquivalent a b` decides whether a response cached for `a` may answer `b`.  It
compares the methods and the targets as structural equality does (host, port, path and validity:
the query is not compared), and then looks at the content-negotiation headers of `a` only
(`Accept`, `Accept-Language`, `Accept-Encoding`): each of them must agree with the first value
that `b` gives its key, if `b` has one.

So an equivalence always means the same method, host, port and path, and agreement of the first
values of every negotiation key the two share.  When `a` carries each negotiation key at most once
(`NegotiatesOnce`), that is exactly what it means, and the comparison is symmetric between two
such requests.  A request that repeats a negotiation key is compared on all its values against
the other's first one, which breaks the symmetry; and requests that differ in their query alone
are equivalent (`cacheEquivalent_ignores_query_and_repeats`).

Main statement: `Request.cacheEquivalent_matches_resource`.
-/

namespace Gatehouse.Http

open Gatehouse.Text

namespace Request

/-- The headers of a request whose key is a content-negotiation key, in order. -/
def negotiationHeaders (r : Request) : List Header :=
  r.headers.filter fun h => negotiationKeys.contains h.key

/-- A request carries each content-negotiation key at most once. -/
def NegotiatesOnce (r : Request) : Prop :=
  (r.negotiationHeaders.map Header.key).Nodup

instance (r : Request) : Decidable r.NegotiatesOnce :=
  inferInstanceAs (Decidable (List.Nodup _))

/-- The first values two requests give each content-negotiation key agree, where both have
one. -/
def FirstValuesAgree (a b : Request) : Prop :=
  ∀ key ∈ negotiationKeys, ∀ v w, a.header? key = some v → b.header? key = some w → v = w

theorem FirstValuesAgree.symm {a b : Request} (agree : FirstValuesAgree a b) :
    FirstValuesAgree b a :=
  fun key negotiates v w first second => (agree key negotiates w v second first).symm

theorem mem_negotiationHeaders {r : Request} {h : Header} :
    h ∈ r.negotiationHeaders ↔ h ∈ r.headers ∧ h.key ∈ negotiationKeys := by
  simp [negotiationHeaders]

theorem exists_mem_of_header? {r : Request} {key v : String} (found : r.header? key = some v) :
    ∃ h ∈ r.headers, h.key = key ∧ h.value = v := by
  obtain ⟨h, first, rfl⟩ := Option.map_eq_some_iff.mp found
  exact ⟨h, List.mem_of_find?_eq_some first, by simpa using List.find?_some first, rfl⟩

theorem header?_of_mem {r : Request} (once : r.NegotiatesOnce) {h : Header}
    (member : h ∈ r.headers) (negotiates : h.key ∈ negotiationKeys) :
    r.header? h.key = some h.value := by
  obtain ⟨first, found⟩ : ∃ first, r.headers.find? (·.key == h.key) = some first :=
    Option.isSome_iff_exists.mp (List.find?_isSome.mpr ⟨h, member, by simp⟩)
  have sameKey : first.key = h.key := by simpa using List.find?_some found
  have same : first = h :=
    List.inj_on_of_nodup_map once
      (mem_negotiationHeaders.mpr ⟨List.mem_of_find?_eq_some found, sameKey ▸ negotiates⟩)
      (mem_negotiationHeaders.mpr ⟨member, negotiates⟩) sameKey
  simp [header?, found, same]

/-- What cache equivalence checks: the method and the target agree, and every negotiation header
of the first request agrees with the first value the second gives its key. -/
theorem cacheEquivalent_iff (a b : Request) :
    cacheEquivalent a b = true ↔
      a.method = b.method ∧ sameTarget a.uri b.uri = true ∧
        ∀ h ∈ a.negotiationHeaders, ∀ v, b.header? h.key = some v → v = h.value := by
  simp only [cacheEquivalent, negotiationHeaders, Bool.and_eq_true, beq_iff_eq,
    List.all_eq_true, and_assoc]
  refine and_congr_right fun _ => and_congr_right fun _ => forall₂_congr fun h _ => ?_
  cases b.header? h.key <;> simp

theorem firstValuesAgree_of_cacheEquivalent {a b : Request}
    (equivalent : cacheEquivalent a b = true) : FirstValuesAgree a b := by
  intro key negotiates v w first second
  obtain ⟨-, -, agree⟩ := (cacheEquivalent_iff a b).mp equivalent
  obtain ⟨h, member, rfl, rfl⟩ := exists_mem_of_header? first
  exact (agree h (mem_negotiationHeaders.mpr ⟨member, negotiates⟩) w second).symm

/-- When the first request carries each negotiation key once, cache equivalence is agreement
of method, target and the first values of the shared negotiation keys. -/
theorem cacheEquivalent_iff_of_once {a b : Request} (once : a.NegotiatesOnce) :
    cacheEquivalent a b = true ↔
      a.method = b.method ∧ sameTarget a.uri b.uri = true ∧ FirstValuesAgree a b := by
  constructor
  · intro equivalent
    obtain ⟨method, target, -⟩ := (cacheEquivalent_iff a b).mp equivalent
    exact ⟨method, target, firstValuesAgree_of_cacheEquivalent equivalent⟩
  · rintro ⟨method, target, agree⟩
    refine (cacheEquivalent_iff a b).mpr ⟨method, target, fun h negotiation v second => ?_⟩
    obtain ⟨member, negotiates⟩ := mem_negotiationHeaders.mp negotiation
    exact (agree h.key negotiates h.value v (header?_of_mem once member negotiates) second).symm

theorem sameTarget_comm (a b : Uri) : sameTarget a b = sameTarget b a := by
  rw [Bool.eq_iff_iff, sameTarget_iff, sameTarget_iff]
  constructor
  all_goals
    rintro ⟨host, port, path, valid⟩
    exact ⟨host.symm, port.symm, path.symm, valid.symm⟩

theorem cacheEquivalent_comm_of_once {a b : Request} (onceA : a.NegotiatesOnce)
    (onceB : b.NegotiatesOnce) : cacheEquivalent a b = cacheEquivalent b a := by
  rw [Bool.eq_iff_iff, cacheEquivalent_iff_of_once onceA, cacheEquivalent_iff_of_once onceB,
    sameTarget_comm]
  constructor
  all_goals
    rintro ⟨method, target, agree⟩
    exact ⟨method.symm, target, agree.symm⟩

/-- Cache equivalence of read requests means the same method, host, port and path, and
agreement of the first values of every negotiation key both carry.  When the first request
carries each negotiation key once, the converse holds too, and between two such requests the
comparison is symmetric. -/
theorem cacheEquivalent_matches_resource (x y : List UInt8) :
    let a : Request := parse x
    let b : Request := parse y
    (cacheEquivalent a b = true →
      a.method = b.method ∧ a.uri.host = b.uri.host ∧ a.uri.port = b.uri.port ∧
        a.uri.path = b.uri.path ∧ FirstValuesAgree a b) ∧
      (a.NegotiatesOnce → (cacheEquivalent a b = true ↔
        a.method = b.method ∧ a.uri.host = b.uri.host ∧ a.uri.port = b.uri.port ∧
          a.uri.path = b.uri.path ∧ FirstValuesAgree a b)) ∧
      (a.NegotiatesOnce → b.NegotiatesOnce → cacheEquivalent a b = cacheEquivalent b a) := by
  dsimp only
  have target := sameTarget_iff_of_path (uri_valid_parse_iff x) (uri_valid_parse_iff y)
  refine ⟨fun equivalent => ?_, fun once => ?_, cacheEquivalent_comm_of_once⟩
  · obtain ⟨method, sameUri, -⟩ := (cacheEquivalent_iff _ _).mp equivalent
    obtain ⟨host, port, path⟩ := target.mp sameUri
    exact ⟨method, host, port, path, firstValuesAgree_of_cacheEquivalent equivalent⟩
  · rw [cacheEquivalent_iff_of_once once, target]
    simp only [and_assoc]

/-- Two requests that send one `Accept` header each are equivalent both ways, whatever their
query and their other headers. -/
theorem cacheEquivalent_matches_resource_accept :
    (parse (Utf8.encode "GET /a?x=1 HTTP/1.0\r\nUser-Agent: one\r\nAccept: y\r\n\r\n")).NegotiatesOnce ∧
      (parse (Utf8.encode "GET /a HTTP/1.0\r\nAccept: y\r\nUser-Agent: two\r\n\r\n")).NegotiatesOnce ∧
      cacheEquivalent
          (parse (Utf8.encode "GET /a?x=1 HTTP/1.0\r\nUser-Agent: one\r\nAccept: y\r\n\r\n"))
          (parse (Utf8.encode "GET /a HTTP/1.0\r\nAccept: y\r\nUser-Agent: two\r\n\r\n")) =
        cacheEquivalent
          (parse (Utf8.encode "GET /a HTTP/1.0\r\nAccept: y\r\nUser-Agent: two\r\n\r\n"))
          (parse (Utf8.encode "GET /a?x=1 HTTP/1.0\r\nUser-Agent: one\r\nAccept: y\r\n\r\n")) := by
  have onceA : (parse (Utf8.encode
      "GET /a?x=1 HTTP/1.0\r\nUser-Agent: one\r\nAccept: y\r\n\r\n")).NegotiatesOnce := by
    decide +kernel
  have onceB : (parse (Utf8.encode
      "GET /a HTTP/1.0\r\nAccept: y\r\nUser-Agent: two\r\n\r\n")).NegotiatesOnce := by
    decide +kernel
  exact ⟨onceA, onceB, (cacheEquivalent_matches_resource
    (Utf8.encode "GET /a?x=1 HTTP/1.0\r\nUser-Agent: one\r\nAccept: y\r\n\r\n")
    (Utf8.encode "GET /a HTTP/1.0\r\nAccept: y\r\nUser-Agent: two\r\n\r\n")).2.2 onceA onceB⟩

/-- Requests that differ only in their query are equivalent, though they name different
resources; and a request with two `Accept` values is not equivalent to one with the first of
them, while the converse holds. -/
theorem cacheEquivalent_ignores_query_and_repeats :
    cacheEquivalent (parse (Utf8.encode "GET /a?x=1 HTTP/1.0\r\nHost: h\r\n\r\n"))
        (parse (Utf8.encode "GET /a?x=22 HTTP/1.0\r\nHost: h\r\n\r\n")) = true ∧
      (parse (Utf8.encode "GET /a?x=1 HTTP/1.0\r\nHost: h\r\n\r\n")).query ≠
        (parse (Utf8.encode "GET /a?x=22 HTTP/1.0\r\nHost: h\r\n\r\n")).query ∧
      cacheEquivalent (parse (Utf8.encode "GET /a HTTP/1.0\r\nAccept: x\r\nAccept: y\r\n\r\n"))
        (parse (Utf8.encode "GET /a HTTP/1.0\r\nAccept: x\r\n\r\n")) = false ∧
      cacheEquivalent (parse (Utf8.encode "GET /a HTTP/1.0\r\nAccept: x\r\n\r\n"))
        (parse (Utf8.encode "GET /a HTTP/1.0\r\nAccept: x\r\nAccept: y\r\n\r\n")) = true := by
  decide +kernel

end Request

end Gatehouse.Http
