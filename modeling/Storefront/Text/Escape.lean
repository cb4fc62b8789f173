/-!
# Escaped text

Messages show a refused identifier or key in printable ASCII: the three common control characters,
quotes and the backslash behind a backslash, all else outside printable ASCII as `\u{hex}`.
-/

namespace Storefront.Text

/-- A code point as `\u{hex}` in lower case without padding. -/
def codePointEscape (c : Char) : List Char :=
  ['\\', 'u', '\x7b'] ++ Nat.toDigits 16 c.toNat ++ ['\x7d']

/-- A character as it is shown in a message. -/
def escapeChar (c : Char) : List Char :=
  if c = '\t' then ['\\', 't']
  else if c = '\r' then ['\\', 'r']
  else if c = '\n' then ['\\', 'n']
  else if c = '\'' ∨ c = '"' ∨ c = '\\' then ['\\', c]
  else if 0x20 ≤ c.toNat ∧ c.toNat ≤ 0x7E then [c]
  else codePointEscape c

/-- A text as it is shown in a message. -/
def escape (s : String) : String := String.ofList (s.toList.flatMap escapeChar)

end Storefront.Text
