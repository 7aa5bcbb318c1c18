/-!
# HTML escaping

Text placed in an HTML page is escaped so that it can neither open markup nor end an
attribute: `&`, `<`, `>`, `"` and the apostrophe become the entities `&amp;`, `&lt;`, `&gt;`,
`&quot;` and `&#39;`, and every other character stays.  `unescape` replaces those five entities
back, from left to right.
-/

namespace Gatehouse.Text.Html

/-- The entity that stands for a character, if it is escaped. -/
def entity? : Char → Option String
  | '&' => some "&amp;"
  | '<' => some "&lt;"
  | '>' => some "&gt;"
  | '"' => some "&quot;"
  | '\x27' => some "&#39;"
  | _ => none

/-- The escaped characters of one character. -/
def escapeChar (c : Char) : List Char :=
  match entity? c with
  | some e => e.toList
  | none => [c]

/-- Escapes a list of characters. -/
def escapeChars (cs : List Char) : List Char :=
  cs.flatMap escapeChar

/-- Escapes a text for an HTML page. -/
def escape (s : String) : String :=
  String.ofList (escapeChars s.toList)

/-- Replaces the five entities by their characters, from left to right. -/
def unescapeChars : List Char → List Char
  | '&' :: 'a' :: 'm' :: 'p' :: ';' :: rest => '&' :: unescapeChars rest
  | '&' :: 'l' :: 't' :: ';' :: rest => '<' :: unescapeChars rest
  | '&' :: 'g' :: 't' :: ';' :: rest => '>' :: unescapeChars rest
  | '&' :: 'q' :: 'u' :: 'o' :: 't' :: ';' :: rest => '"' :: unescapeChars rest
  | '&' :: '#' :: '3' :: '9' :: ';' :: rest => '\x27' :: unescapeChars rest
  | c :: rest => c :: unescapeChars rest
  | [] => []

/-- Replaces the five entities of a text by their characters. -/
def unescape (s : String) : String :=
  String.ofList (unescapeChars s.toList)

end Gatehouse.Text.Html
