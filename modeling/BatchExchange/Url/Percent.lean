import BatchExchange.Text.Hexadecimal
import BatchExchange.Text.Utf8

/-!
# Percent encoding

The octets of a character as `%` and two hexadecimal digits each, and back.
-/

namespace BatchExchange.Url.Percent

def encodeOctet (b : UInt8) : Text := '%' :: Hexadecimal.octet Hexadecimal.upper b

/-- Encodes the characters that `escaped` picks. -/
def encode (escaped : Char → Bool) (t : Text) : Text :=
  t.flatMap fun c => if escaped c then (Utf8.encodeChar c).flatMap encodeOctet else [c]

/-- Controls and everything beyond ASCII. -/
def isControl (c : Char) : Bool := c.toNat < 0x20 || 0x7F ≤ c.toNat

/-- What does not stand in a path as it is. -/
def isPathEscaped (c : Char) : Bool := isControl c || c ∈ " \"#<>?`\x7b\x7d".toList

/-- The octet that two digits stand for. -/
def octet? (high low : UInt8) : Option UInt8 :=
  match Hexadecimal.value? (Char.ofUInt8 high), Hexadecimal.value? (Char.ofUInt8 low) with
  | some h, some l => some (.ofNat (16 * h + l))
  | _, _ => none

/-- Replaces each `%` with two digits by its octet. -/
def decode : Bytes → Bytes
  | [] => []
  | b :: bytes =>
    match b, bytes with
    | 37, high :: low :: rest =>
      match octet? high low with
      | some octet => octet :: decode rest
      | none => 37 :: decode (high :: low :: rest)
    | b, bytes => b :: decode bytes
termination_by bytes => bytes.length

end BatchExchange.Url.Percent
