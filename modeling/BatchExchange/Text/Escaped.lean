import BatchExchange.Text.Hexadecimal
import BatchExchange.Text.Mark
import BatchExchange.Text.Printable

/-!
# Escaped text

A form of text that is safe to quote in a message: quotes, backslashes and the common controls behind a
backslash, other characters that cannot be shown as their number.
-/

namespace BatchExchange.Text

/-- The number of a character between braces. -/
def escapeNumber (c : Char) : Text := "\\u\x7b".toList ++ Hexadecimal.write c.toNat ++ "\x7d".toList

def escapeChar (c : Char) : Text :=
  if c = '\x00' then "\\0".toList
  else if c = '\t' then "\\t".toList
  else if c = '\r' then "\\r".toList
  else if c = '\n' then "\\n".toList
  else if c ∈ "\\\"'".toList then ['\\', c]
  else if isPrintable c then [c]
  else escapeNumber c

/-- Escapes a text.  At its start, a character that would extend the quote in front of it is escaped
too. -/
def escape : Text → Text
  | [] => []
  | c :: t => (if isExtending c then escapeNumber c else escapeChar c) ++ t.flatMap escapeChar

end BatchExchange.Text
