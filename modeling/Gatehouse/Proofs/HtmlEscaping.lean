import Mathlib.Logic.Function.Basic
import Gatehouse.Http.Response

/-!
# Escaped text

`Html.escape` puts each of `&`, `<`, `>`, `"` and the apostrophe as its entity and leaves every
other character.  Three things follow, and make the escaped text safe inside an HTML page and
inside a quoted attribute: no `<`, `>`, `"` or apostrophe is left; every `&` begins one of the
five entities; and replacing the entities from left to right gives the text back, so two texts
never escape alike.

The error page of a status is a fixed template around the escaped cause: the cause reaches the
page only through `escape`.

Main statement: `escape_safe_and_injective`.
-/

namespace Gatehouse.Text.Html

theorem entity?_shape {c : Char} {e : String} (escaped : entity? c = some e) :
    ∃ body, e.toList = '&' :: body ∧ ∀ x ∈ body, entity? x = none := by
  unfold entity? at escaped
  split at escaped <;> cases escaped
  · exact ⟨['a', 'm', 'p', ';'], rfl, by simp [entity?]⟩
  · exact ⟨['l', 't', ';'], rfl, by simp [entity?]⟩
  · exact ⟨['g', 't', ';'], rfl, by simp [entity?]⟩
  · exact ⟨['q', 'u', 'o', 't', ';'], rfl, by simp [entity?]⟩
  · exact ⟨['#', '3', '9', ';'], rfl, by simp [entity?]⟩

theorem entity?_eq_none_iff (c : Char) :
    entity? c = none ↔ c ≠ '&' ∧ c ≠ '<' ∧ c ≠ '>' ∧ c ≠ '"' ∧ c ≠ '\x27' := by
  unfold entity?
  split <;> simp_all

theorem escapeChar_cases (c : Char) :
    (entity? c = none ∧ escapeChar c = [c]) ∨
      ∃ e, entity? c = some e ∧ escapeChar c = e.toList := by
  unfold escapeChar
  cases escaped : entity? c with
  | none => exact .inl ⟨rfl, rfl⟩
  | some e => exact .inr ⟨e, rfl, rfl⟩

theorem escapeChars_cons (c : Char) (cs : List Char) :
    escapeChars (c :: cs) = escapeChar c ++ escapeChars cs :=
  List.flatMap_cons

theorem not_mem_escapeChar {x : Char} (escaped : (entity? x).isSome) (notAmp : x ≠ '&')
    (c : Char) : x ∉ escapeChar c := by
  intro member
  rcases escapeChar_cases c with ⟨plain, written⟩ | ⟨e, entity, written⟩
  · rw [written, List.mem_singleton] at member
    subst member
    simp [plain] at escaped
  · obtain ⟨body, shape, bodyPlain⟩ := entity?_shape entity
    rw [written, shape, List.mem_cons] at member
    rcases member with rfl | inBody
    · exact notAmp rfl
    · simp [bodyPlain x inBody] at escaped

theorem escapeChar_eq_append_amp {c : Char} {pre rest : List Char}
    (split : escapeChar c = pre ++ '&' :: rest) :
    pre = [] ∧ ∃ e, entity? c = some e ∧ e.toList = '&' :: rest := by
  rcases escapeChar_cases c with ⟨plain, written⟩ | ⟨e, entity, written⟩
  · rw [written] at split
    cases pre with
    | nil =>
      obtain ⟨rfl, -⟩ := List.cons_eq_cons.mp split
      simp [entity?] at plain
    | cons y pre => simp at split
  · obtain ⟨body, shape, bodyPlain⟩ := entity?_shape entity
    rw [written, shape] at split
    cases pre with
    | nil => exact ⟨rfl, e, entity, by rw [shape, split, List.nil_append]⟩
    | cons y pre =>
      have ampInBody : '&' ∈ body := by
        rw [(List.cons_eq_cons.mp split).2]
        simp
      have ampPlain := bodyPlain '&' ampInBody
      simp [entity?] at ampPlain

theorem entity_isPrefix_of_escapeChars {cs pre post : List Char}
    (split : escapeChars cs = pre ++ '&' :: post) :
    ∃ c e, entity? c = some e ∧ e.toList <+: '&' :: post := by
  induction cs generalizing pre with
  | nil => simp [escapeChars] at split
  | cons c cs induction =>
    rw [escapeChars_cons, List.append_eq_append_iff] at split
    rcases split with ⟨later, -, rest⟩ | ⟨inside, first, rest⟩
    · exact induction rest
    · cases inside with
      | nil =>
        have later : escapeChars cs = [] ++ '&' :: post := by simpa using rest.symm
        exact induction later
      | cons x inside =>
        obtain ⟨rfl, post⟩ := List.cons_eq_cons.mp rest
        obtain ⟨-, e, entity, shape⟩ := escapeChar_eq_append_amp first
        exact ⟨c, e, entity, by rw [shape, post]; exact List.prefix_append _ _⟩

theorem unescapeChars_cons_of_ne {c : Char} (notAmp : c ≠ '&') (rest : List Char) :
    unescapeChars (c :: rest) = c :: unescapeChars rest :=
  unescapeChars.eq_6 c rest (fun _ amp _ => notAmp amp) (fun _ amp _ => notAmp amp)
    (fun _ amp _ => notAmp amp) (fun _ amp _ => notAmp amp) (fun _ amp _ => notAmp amp)

theorem unescapeChars_escapeChar_append (c : Char) (rest : List Char) :
    unescapeChars (escapeChar c ++ rest) = c :: unescapeChars rest := by
  rcases escapeChar_cases c with ⟨plain, written⟩ | ⟨e, entity, written⟩
  · rw [written, List.singleton_append]
    exact unescapeChars_cons_of_ne ((entity?_eq_none_iff c).mp plain).1 rest
  · rw [written]
    unfold entity? at entity
    split at entity <;> cases entity <;> simp [unescapeChars]

theorem unescapeChars_escapeChars (cs : List Char) : unescapeChars (escapeChars cs) = cs := by
  induction cs with
  | nil => simp [escapeChars, unescapeChars]
  | cons c cs induction => rw [escapeChars_cons, unescapeChars_escapeChar_append, induction]

theorem unescape_escape (s : String) : unescape (escape s) = s := by
  simp [unescape, escape, unescapeChars_escapeChars]

theorem escape_injective : Function.Injective escape :=
  Function.LeftInverse.injective unescape_escape

theorem toList_escape (s : String) : (escape s).toList = escapeChars s.toList :=
  String.toList_ofList

/-- The characters that escaping removes never appear in an escaped text, but for `&`. -/
theorem not_mem_escape {x : Char} (escaped : (entity? x).isSome) (notAmp : x ≠ '&')
    (s : String) : x ∉ (escape s).toList := by
  rw [toList_escape, escapeChars, List.mem_flatMap]
  rintro ⟨c, -, member⟩
  exact not_mem_escapeChar escaped notAmp c member

end Gatehouse.Text.Html

namespace Gatehouse.Http.Response

open Gatehouse.Text

theorem body_error (status : Status) (cause : String) :
    (error status cause).body = Utf8.encode (errorPage status cause) := by
  simp [error, withBody, withBodyBytes, withHeader]

/-- The page of a status: fixed text that names the status, the escaped cause, and fixed text
that names the server. -/
theorem errorPage_eq (status : Status) (cause : String) :
    errorPage status cause =
      ("<html><title>Spade Error</title><body bgcolor=\"ffffff\">\r\n" ++ toString status.code
        ++ ": " ++ status.reason ++ "\r\n" ++ "<p>" ++ status.description ++ ": ")
      ++ Html.escape cause ++ ("\r\n" ++ "<hr><em>" ++ serverSoftware ++ "</em>\r\n"
        ++ "</body></html>\r\n") := by
  unfold errorPage
  simp only [String.append_assoc]

theorem exists_body_error_template (status : Status) :
    ∃ before after, ∀ cause,
      (error status cause).body = Utf8.encode (before ++ Html.escape cause ++ after) :=
  ⟨_, _, fun cause => by rw [body_error, errorPage_eq]⟩

end Gatehouse.Http.Response

namespace Gatehouse.Text.Html

/-- Escaped text holds no `<`, `>`, `"` or apostrophe, and each of its `&` begins one of the five
entities; replacing the entities from left to right gives the text back, so no two texts escape
alike.  The error page of a status is one text around the escaped cause. -/
theorem escape_safe_and_injective :
    (∀ s, '<' ∉ (escape s).toList ∧ '>' ∉ (escape s).toList ∧ '"' ∉ (escape s).toList ∧
        '\x27' ∉ (escape s).toList) ∧
      (∀ s pre post, (escape s).toList = pre ++ '&' :: post →
        ∃ c e, entity? c = some e ∧ e.toList <+: '&' :: post) ∧
      (∀ s, unescape (escape s) = s) ∧
      Function.Injective escape ∧
      ∀ status, ∃ before after, ∀ cause,
        (Http.Response.error status cause).body = Utf8.encode (before ++ escape cause ++ after) := by
  refine ⟨fun s => ⟨?_, ?_, ?_, ?_⟩, fun s pre post split => ?_, unescape_escape,
    escape_injective, Http.Response.exists_body_error_template⟩
  · exact not_mem_escape rfl (by decide) s
  · exact not_mem_escape rfl (by decide) s
  · exact not_mem_escape rfl (by decide) s
  · exact not_mem_escape rfl (by decide) s
  · rw [toList_escape] at split
    exact entity_isPrefix_of_escapeChars split

end Gatehouse.Text.Html
