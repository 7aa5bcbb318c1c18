import Mathlib
import Gatehouse.Proofs.RequestReading
import Gatehouse.Proofs.TargetSplitting

/-!
# Structural equality of requests

`Request.structurallyEqual` compares the methods, versions and validity, the targets' host, port,
path and validity, asks both requests for a `Host` header, and compares the headers by their
number and by `headersAgree` both ways: every two headers of the two that share a key have one
value.  A key that only one request carries is never compared.

On read requests the target's validity follows its path (`uri_valid_parse_iff`), so the targets
compare by host, port and path.  The comparison is symmetric.  When the two carry the same keys,
each once (`SameKeysOnce`), agreeing on shared keys is being equal up to order, so structural
equality is equality of the heads and of the header lists as multisets; there it is reflexive and
transitive.  Without that condition it is neither: `X: 1` and `Y: 2` compare equal, and a request
with two values for one key is not equal to itself (`structurallyEqual_not_multiset_equality`).

Main statement: `Request.structurallyEqual_heads_and_shared_keys`.
-/

namespace Gatehouse.Http

open Gatehouse.Text

namespace Uri

theorem path_withPathAndQuery_ne_empty (base : Uri) (rest : List Char) :
    (withPathAndQuery base rest).path ≠ "" := by
  unfold withPathAndQuery
  split
  all_goals
    dsimp only
    split_ifs with empty
    · decide
    · exact String.ofList_eq_empty_iff.not.mpr (by simpa using empty)

theorem valid_parse_iff (raw : String) : (parse raw).valid = true ↔ (parse raw).path ≠ "" := by
  suffices shaped : ∀ u : Uri, u = parse raw → (u.valid = true ↔ u.path ≠ "") from shaped _ rfl
  intro u parsed
  unfold parse at parsed
  dsimp only at parsed
  split at parsed
  · subst parsed
    simp
  · split at parsed
    · subst parsed
      simp [valid_withPathAndQuery, path_withPathAndQuery_ne_empty]
    · split at parsed
      · subst parsed
        simp [valid_withPathAndQuery, path_withPathAndQuery_ne_empty]
      · subst parsed
        simp

end Uri

theorem Header.ext_of {h h' : Header} (key : h.key = h'.key) (value : h.value = h'.value) :
    h = h' := by
  cases h
  cases h'
  simp_all

/-- Two header lists with the same keys, each key once: they are permutations of each other
exactly when they agree in value on every key. -/
theorem perm_iff_agree_of_keys {hs hs' : List Header} (nodup : (hs.map Header.key).Nodup)
    (keys : (hs.map Header.key).Perm (hs'.map Header.key)) :
    hs.Perm hs' ↔ ∀ h ∈ hs, ∀ h' ∈ hs', h.key = h'.key → h.value = h'.value := by
  have nodup' : (hs'.map Header.key).Nodup := keys.nodup_iff.mp nodup
  constructor
  · intro perm h member h' member' same
    have inFirst : h' ∈ hs := perm.symm.subset member'
    rw [List.inj_on_of_nodup_map nodup member inFirst same]
  · intro agree
    rw [List.perm_ext_iff_of_nodup (nodup.of_map _) (nodup'.of_map _)]
    intro h
    constructor
    · intro member
      obtain ⟨h', member', same⟩ := List.mem_map.mp (keys.subset (List.mem_map_of_mem member))
      rw [← Header.ext_of same (agree h member h' member' same.symm).symm]
      exact member'
    · intro member'
      obtain ⟨h', member, same⟩ :=
        List.mem_map.mp (keys.symm.subset (List.mem_map_of_mem member'))
      rw [← Header.ext_of same (agree h' member h member' same)]
      exact member

namespace Request

/-- Two requests carry the same header keys, each key once. -/
def SameKeysOnce (a b : Request) : Prop :=
  (a.headers.map Header.key).Nodup ∧ (a.headers.map Header.key).Perm (b.headers.map Header.key)

instance (a b : Request) : Decidable (SameKeysOnce a b) :=
  inferInstanceAs (Decidable (_ ∧ _))

theorem SameKeysOnce.trans {a b c : Request} (first : SameKeysOnce a b)
    (second : SameKeysOnce b c) : SameKeysOnce a c :=
  ⟨first.1, first.2.trans second.2⟩

theorem headersAgree_iff (first second : List Header) :
    headersAgree first second = true ↔
      ∀ a ∈ first, ∀ b ∈ second, b.key = a.key → b.value = a.value := by
  simp [headersAgree, imp_iff_not_or]

theorem sameTarget_iff (a b : Uri) :
    sameTarget a b = true ↔ a.host = b.host ∧ a.port = b.port ∧ a.path = b.path ∧ a.valid = b.valid := by
  simp [sameTarget, and_assoc]

theorem structurallyEqual_iff (a b : Request) :
    structurallyEqual a b = true ↔
      a.method = b.method ∧ sameTarget a.uri b.uri = true ∧ a.hasHost = true ∧ b.hasHost = true ∧
        a.version = b.version ∧ a.headers.length = b.headers.length ∧
        headersAgree a.headers b.headers = true ∧ headersAgree b.headers a.headers = true ∧
        a.valid = b.valid := by
  simp [structurallyEqual, and_assoc]

theorem structurallyEqual_comm (a b : Request) : structurallyEqual a b = structurallyEqual b a := by
  rw [Bool.eq_iff_iff, structurallyEqual_iff, structurallyEqual_iff, sameTarget_iff,
    sameTarget_iff]
  constructor
  all_goals
    rintro ⟨method, ⟨host, port, path, uriValid⟩, hostA, hostB, version, length, agree, agree',
      valid⟩
    exact ⟨method.symm, ⟨host.symm, port.symm, path.symm, uriValid.symm⟩, hostB, hostA,
      version.symm, length.symm, agree', agree, valid.symm⟩

theorem structurallyEqual_self {a : Request} (host : a.hasHost = true)
    (nodup : (a.headers.map Header.key).Nodup) : structurallyEqual a a = true := by
  have agree : headersAgree a.headers a.headers = true := by
    rw [headersAgree_iff]
    intro h member h' member' same
    rw [List.inj_on_of_nodup_map nodup member' member same]
  rw [structurallyEqual_iff, sameTarget_iff]
  exact ⟨rfl, ⟨rfl, rfl, rfl, rfl⟩, host, host, rfl, rfl, agree, agree, rfl⟩

theorem uri_valid_parse_iff (bytes : List UInt8) :
    (parse bytes).uri.valid = true ↔ (parse bytes).uri.path ≠ "" := by
  have target : (parse bytes).uri =
      Uri.parse ((Text.Blank.fields ((Line.textLines bytes).headD ""))[1]?.getD "") := by
    rw [parse_eq_ofLines, ofLines, ofRequestLine]
  rw [target]
  exact Uri.valid_parse_iff _

theorem sameTarget_iff_of_path {a b : Uri} (validA : a.valid = true ↔ a.path ≠ "")
    (validB : b.valid = true ↔ b.path ≠ "") :
    sameTarget a b = true ↔ a.host = b.host ∧ a.port = b.port ∧ a.path = b.path := by
  rw [sameTarget_iff]
  constructor
  · exact fun ⟨host, port, path, _⟩ => ⟨host, port, path⟩
  · rintro ⟨host, port, path⟩
    refine ⟨host, port, path, ?_⟩
    rw [Bool.eq_iff_iff, validA, validB, path]

section PathDecidesValidity

variable {a b : Request} (validA : a.uri.valid = true ↔ a.uri.path ≠ "")
  (validB : b.uri.valid = true ↔ b.uri.path ≠ "")
include validA validB

/-- What structural equality compares: both have `Host`, the method, version, validity, host,
port and path agree, the header lists have one length, and any two headers of the two with one
key have one value. -/
theorem structurallyEqual_iff_agree :
    structurallyEqual a b = true ↔
      a.hasHost = true ∧ b.hasHost = true ∧ a.method = b.method ∧ a.version = b.version ∧
        a.valid = b.valid ∧ a.uri.host = b.uri.host ∧ a.uri.port = b.uri.port ∧
        a.uri.path = b.uri.path ∧ a.headers.length = b.headers.length ∧
        ∀ h ∈ a.headers, ∀ h' ∈ b.headers, h.key = h'.key → h.value = h'.value := by
  rw [structurallyEqual_iff, sameTarget_iff_of_path validA validB, headersAgree_iff,
    headersAgree_iff]
  constructor
  · rintro ⟨method, ⟨host, port, path⟩, hostA, hostB, version, length, agree, -, valid⟩
    exact ⟨hostA, hostB, method, version, valid, host, port, path, length,
      fun h member h' member' same => (agree h member h' member' same.symm).symm⟩
  · rintro ⟨hostA, hostB, method, version, valid, host, port, path, length, agree⟩
    exact ⟨method, ⟨host, port, path⟩, hostA, hostB, version, length,
      fun h member h' member' same => (agree h member h' member' same.symm).symm,
      fun h' member' h member same => agree h member h' member' same, valid⟩

/-- With the same header keys, each once, structural equality is equality of the heads, both
with `Host`, and of the header lists up to order. -/
theorem structurallyEqual_iff_perm (same : SameKeysOnce a b) :
    structurallyEqual a b = true ↔
      a.hasHost = true ∧ b.hasHost = true ∧ a.method = b.method ∧ a.version = b.version ∧
        a.valid = b.valid ∧ a.uri.host = b.uri.host ∧ a.uri.port = b.uri.port ∧
        a.uri.path = b.uri.path ∧ a.headers.Perm b.headers := by
  have length : a.headers.length = b.headers.length := by
    simpa using same.2.length_eq
  rw [structurallyEqual_iff_agree validA validB, perm_iff_agree_of_keys same.1 same.2]
  simp only [length, true_and]

end PathDecidesValidity

/-- Structural equality of read requests compares the heads, that both carry `Host`, the
lengths of the header lists, and the values of headers that share a key; it is symmetric.  When
the two carry the same header keys, each once, it is equality of the heads, both with `Host`,
and of the header lists up to order: reflexive on such requests with `Host`, and transitive
among requests with the same keys. -/
theorem structurallyEqual_heads_and_shared_keys (x y : List UInt8) :
    let a : Request := parse x
    let b : Request := parse y
    (structurallyEqual a b = true ↔
      a.hasHost = true ∧ b.hasHost = true ∧ a.method = b.method ∧ a.version = b.version ∧
        a.valid = b.valid ∧ a.uri.host = b.uri.host ∧ a.uri.port = b.uri.port ∧
        a.uri.path = b.uri.path ∧ a.headers.length = b.headers.length ∧
        ∀ h ∈ a.headers, ∀ h' ∈ b.headers, h.key = h'.key → h.value = h'.value) ∧
      structurallyEqual a b = structurallyEqual b a ∧
      (SameKeysOnce a b → (structurallyEqual a b = true ↔
        a.hasHost = true ∧ b.hasHost = true ∧ a.method = b.method ∧ a.version = b.version ∧
          a.valid = b.valid ∧ a.uri.host = b.uri.host ∧ a.uri.port = b.uri.port ∧
          a.uri.path = b.uri.path ∧ a.headers.Perm b.headers)) ∧
      (a.hasHost = true → (a.headers.map Header.key).Nodup → structurallyEqual a a = true) ∧
      ∀ z, SameKeysOnce a b → SameKeysOnce b (parse z) → structurallyEqual a b = true →
        structurallyEqual b (parse z) = true → structurallyEqual a (parse z) = true := by
  intro a b
  have validA := uri_valid_parse_iff x
  have validB := uri_valid_parse_iff y
  refine ⟨structurallyEqual_iff_agree validA validB, structurallyEqual_comm a b,
    structurallyEqual_iff_perm validA validB, structurallyEqual_self,
    fun z first second equalAB equalBC => ?_⟩
  have validC := uri_valid_parse_iff z
  obtain ⟨hostA, -, method, version, valid, host, port, path, perm⟩ :=
    (structurallyEqual_iff_perm validA validB first).mp equalAB
  obtain ⟨-, hostC, method', version', valid', host', port', path', perm'⟩ :=
    (structurallyEqual_iff_perm validB validC second).mp equalBC
  exact (structurallyEqual_iff_perm validA validC (first.trans second)).mpr
    ⟨hostA, hostC, method.trans method', version.trans version', valid.trans valid',
      host.trans host', port.trans port', path.trans path', perm.trans perm'⟩

/-- Two requests whose headers, in another order, are the same. -/
theorem structurallyEqual_reordered_headers :
    SameKeysOnce (parse (Utf8.encode "GET /a HTTP/1.0\r\nHost: x\r\nAccept: y\r\n\r\n"))
        (parse (Utf8.encode "GET /a HTTP/1.0\r\nAccept: y\r\nHost: x\r\n\r\n")) ∧
      structurallyEqual (parse (Utf8.encode "GET /a HTTP/1.0\r\nHost: x\r\nAccept: y\r\n\r\n"))
        (parse (Utf8.encode "GET /a HTTP/1.0\r\nAccept: y\r\nHost: x\r\n\r\n")) = true := by
  have same : SameKeysOnce (parse (Utf8.encode "GET /a HTTP/1.0\r\nHost: x\r\nAccept: y\r\n\r\n"))
      (parse (Utf8.encode "GET /a HTTP/1.0\r\nAccept: y\r\nHost: x\r\n\r\n")) := by
    decide +kernel
  refine ⟨same, ((structurallyEqual_heads_and_shared_keys
    (Utf8.encode "GET /a HTTP/1.0\r\nHost: x\r\nAccept: y\r\n\r\n")
    (Utf8.encode "GET /a HTTP/1.0\r\nAccept: y\r\nHost: x\r\n\r\n")).2.2.1 same).mpr ?_⟩
  decide +kernel

/-- Structural equality is not equality of header multisets: a request with `X: 1` equals one
with `Y: 2` instead, and a request with two values for `A` is not equal to itself. -/
theorem structurallyEqual_not_multiset_equality :
    structurallyEqual (parse (Utf8.encode "GET /a HTTP/1.0\r\nHost: x\r\nX: 1\r\n\r\n"))
        (parse (Utf8.encode "GET /a HTTP/1.0\r\nHost: x\r\nY: 2\r\n\r\n")) = true ∧
      ¬ (parse (Utf8.encode "GET /a HTTP/1.0\r\nHost: x\r\nX: 1\r\n\r\n")).headers.Perm
        (parse (Utf8.encode "GET /a HTTP/1.0\r\nHost: x\r\nY: 2\r\n\r\n")).headers ∧
      (parse (Utf8.encode "GET /a HTTP/1.0\r\nHost: x\r\nA: 1\r\nA: 2\r\n\r\n")).hasHost = true ∧
      structurallyEqual (parse (Utf8.encode "GET /a HTTP/1.0\r\nHost: x\r\nA: 1\r\nA: 2\r\n\r\n"))
        (parse (Utf8.encode "GET /a HTTP/1.0\r\nHost: x\r\nA: 1\r\nA: 2\r\n\r\n")) = false := by
  decide +kernel

end Request

end Gatehouse.Http
