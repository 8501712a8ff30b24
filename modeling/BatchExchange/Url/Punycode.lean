import BatchExchange.Text

/-!
# Punycode

How a label of a domain writes characters beyond ASCII: its ASCII characters, a hyphen, and numbers in
base 36 that say which character comes next and where it stands.  The least significant digit comes
first, and a digit below the threshold of its place ends a number.  The thresholds follow the size of the
numbers before.  All numbers are words of 32 bits.
-/

namespace BatchExchange.Url.Punycode

def digit? (c : Char) : Option Nat :=
  if 'a' ≤ c ∧ c ≤ 'z' then some (c.toNat - 97)
  else if 'A' ≤ c ∧ c ≤ 'Z' then some (c.toNat - 65)
  else if c.isDigit then some (c.toNat - 22)
  else none

/-- The least digit that does not end a number at a place; places count by 36. -/
def threshold (bias place : Nat) : Nat := max 1 (min 26 (place - bias))

/-- The bias for numbers about as large as `n`, which counts places from `place`. -/
def scale (place n : Nat) : Nat :=
  if 455 < n then scale (place + 36) (n / 35) else place + 36 * n / (n + 38)
termination_by n
decreasing_by exact Nat.div_lt_self (by omega) (by omega)

/-- The bias after the number `n` made a text of `length` characters. -/
def adapt (first : Bool) (n length : Nat) : Nat :=
  let n := if first then n / 700 else n / 2
  scale 0 (n + n / length)

/-- A text as far as it is decoded: the character inserted last, the place behind it, and of the number
under way what it is so far, and place and weight of its next digit. -/
structure State where
  text : Text
  code : Nat := 128
  index : Nat := 0
  bias : Nat := 72
  number : Nat := 0
  place : Nat := 36
  weight : Nat := 1

namespace State

/-- Moves on by a whole number and inserts the character reached. -/
def insert? (s : State) (number : Nat) : Option State :=
  let length := s.text.length + 1
  let code := s.code + (s.index + number) / length
  let index := (s.index + number) % length
  if code.isValidChar then
    some {
      text := s.text.insertIdx index (Char.ofNat code)
      code
      index := index + 1
      bias := adapt (s.index = 0) number length }
  else none

/-- Takes one more digit, unless the number or the weight of the next digit is too large. -/
def step (s : State) (c : Char) : Option State := do
  let d ← digit? c
  let t := threshold s.bias s.place
  let number := s.number + d * s.weight
  let weight := s.weight * (36 - t)
  if UInt32.size ≤ s.index + number then none
  else if d < t then s.insert? number
  else if UInt32.size ≤ weight then none
  else some { s with number, place := s.place + 36, weight }

end State

/-- Splits at the last hyphen, unless it stands first. -/
def cutBasic (t : Text) : Text × Text :=
  match cut? '-' t.reverse with
  | some (digits, c :: basic) => ((c :: basic).reverse, digits.reverse)
  | _ => ([], t)

/-- The text that an ASCII text writes. -/
def decode? (t : Text) : Option Text := do
  let (basic, digits) := cutBasic t
  let s ← digits.foldlM State.step { text := basic }
  if s.place = 36 then some s.text else none

end BatchExchange.Url.Punycode
