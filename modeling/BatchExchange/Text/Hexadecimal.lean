import BatchExchange.Text

/-!
# Hexadecimal digits

Digits are read in either case.  Identifiers and escapes are written in lower case, percent encoding in
upper case.
-/

namespace BatchExchange.Hexadecimal

/-- The value of a digit. -/
def value? (c : Char) : Option Nat :=
  if c.isDigit then some (c.toNat - 48)
  else if 'a' ≤ c ∧ c ≤ 'f' then some (c.toNat - 87)
  else if 'A' ≤ c ∧ c ≤ 'F' then some (c.toNat - 55)
  else none

/-- The lower-case digit of a number below sixteen. -/
def lower (n : Nat) : Char := Char.ofNat (if n < 10 then 48 + n else 87 + n)

/-- The upper-case digit of a number below sixteen. -/
def upper (n : Nat) : Char := Char.ofNat (if n < 10 then 48 + n else 55 + n)

/-- The number that digits of a base up to sixteen write after `n`. -/
def readBase (base n : Nat) : Text → Option Nat
  | [] => some n
  | c :: t =>
    match (value? c).filter (· < base) with
    | some d => readBase base (base * n + d) t
    | none => none

/-- Two digits for an octet, which `digit` writes. -/
def octet (digit : Nat → Char) (b : UInt8) : Text := [digit (b.toNat / 16), digit (b.toNat % 16)]

/-- A number in lower case without leading zeros. -/
def write (n : Nat) : Text := if n < 16 then [lower n] else write (n / 16) ++ [lower (n % 16)]

end BatchExchange.Hexadecimal
