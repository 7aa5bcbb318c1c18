/-!
# Writing JSON text

Compact JSON text, with no blank between tokens.  A string is written between double quotes;
the quote and the backslash are escaped by a backslash, the control characters with a short
escape (`\b`, `\f`, `\n`, `\r`, `\t`) use it, the other control characters are written as
`\u00xx` with lower-case hex digits, and every other character stands as itself.

A record whose fields all hold text is an object of quoted names and quoted values, in the
order given.
-/

namespace Gatehouse.Json

/-- The lower-case hex digit of a number below 16. -/
def hexDigit (n : Nat) : Char :=
  if n < 10 then Char.ofNat (48 + n) else Char.ofNat (87 + n)

/-- How one character is written inside a quoted string. -/
def escapeChar (c : Char) : List Char :=
  if c = '"' then ['\\', '"']
  else if c = '\\' then ['\\', '\\']
  else if c = '\n' then ['\\', 'n']
  else if c = '\r' then ['\\', 'r']
  else if c = '\t' then ['\\', 't']
  else if c.toNat = 8 then ['\\', 'b']
  else if c.toNat = 12 then ['\\', 'f']
  else if c.toNat < 32 then
    ['\\', 'u', '0', '0', hexDigit (c.toNat / 16), hexDigit (c.toNat % 16)]
  else [c]

/-- A text as a JSON string, quotes included. -/
def quote (s : String) : String :=
  String.ofList ('"' :: s.toList.flatMap escapeChar ++ ['"'])

/-- An object whose values are all texts, fields in the given order. -/
def textObject (fields : List (String × String)) : String :=
  "\x7b" ++ ",".intercalate (fields.map fun (k, v) => quote k ++ ":" ++ quote v) ++ "\x7d"

@[simp]
theorem escapeChar_of_plain (c : Char) (h : 32 ≤ c.toNat) (hq : c ≠ '"') (hb : c ≠ '\\') :
    escapeChar c = [c] := by
  have h1 : c ≠ '\n' := fun e => by subst e; simp at h
  have h2 : c ≠ '\r' := fun e => by subst e; simp at h
  have h3 : c ≠ '\t' := fun e => by subst e; simp at h
  have h4 : c.toNat ≠ 8 := by omega
  have h5 : c.toNat ≠ 12 := by omega
  have h6 : ¬ c.toNat < 32 := by omega
  simp [escapeChar, hq, hb, h1, h2, h3, h4, h5, h6]

end Gatehouse.Json
