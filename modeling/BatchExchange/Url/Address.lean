import BatchExchange.Text.Hexadecimal

/-!
# Numeric hosts

Dotted numbers of up to four parts, in base eight, ten or sixteen, and groups of hexadecimal digits
between colons, one run of which may be left out.
-/

namespace BatchExchange.Url.Address

open Hexadecimal (readBase)

/-- A part of a dotted number: `0x` announces base sixteen and a leading zero base eight. -/
def part? : Text → Option Nat
  | [] => none
  | '0' :: 'x' :: t => readBase 16 0 t
  | '0' :: 'X' :: t => readBase 16 0 t
  | '0' :: c :: t => readBase 8 0 (c :: t)
  | t => readBase 10 0 t

/-- The dot-separated labels, without the empty one after a final dot. -/
def labels (host : Text) : List Text :=
  let parts := host.splitOn '.'
  if 1 < parts.length ∧ parts.getLast? = some [] then parts.dropLast else parts

/-- Whether a host has to be read as a dotted number. -/
def isDotted (host : Text) : Bool :=
  (labels host).getLast?.any fun label =>
    label ≠ [] && (label.all Char.isDigit || (part? label).isSome)

/-- Whether a dotted number fits into four octets, the last part filling what the others leave. -/
def isDottedAddress (host : Text) : Bool :=
  let parts := (labels host).map part?
  parts.length ≤ 4 && parts.dropLast.all (fun p => p.any (· < 256))
    && parts.getLast?.any fun p => p.any (· < Nat.pow 256 (5 - parts.length))

/-- Whether a text is four decimal octets without leading zeros. -/
def isQuad (t : Text) : Bool :=
  let parts := t.splitOn '.'
  parts.length = 4 && parts.all fun p =>
    p ≠ [] && (p.length = 1 || p.head? ≠ some '0') && (readBase 10 0 p).any (· < 256)

def isGroup (t : Text) : Bool :=
  t ≠ [] && t.length ≤ 4 && t.all fun c => (Hexadecimal.value? c).isSome

/-- How many groups the colon-separated pieces make, where a quad at the end counts for two. -/
def countGroups? (quadAllowed : Bool) : List Text → Option Nat
  | [] => some 0
  | [p] => if isGroup p then some 1 else if quadAllowed && isQuad p then some 2 else none
  | p :: ps => if isGroup p then (countGroups? quadAllowed ps).map (· + 1) else none

/-- The pieces between colons; an empty text has none. -/
def pieces (t : Text) : List Text := if t = [] then [] else t.splitOn ':'

/-- Splits at the first two colons in a row. -/
def cutGap? : Text → Option (Text × Text)
  | ':' :: ':' :: t => some ([], t)
  | c :: t => (cutGap? t).map fun (x, y) => (c :: x, y)
  | [] => none

/-- Whether a text is eight groups, or fewer with a gap. -/
def isGrouped (t : Text) : Bool :=
  match cutGap? t with
  | none => countGroups? true (pieces t) = some 8
  | some (left, right) =>
    match countGroups? false (pieces left), countGroups? true (pieces right) with
    | some m, some n => m + n ≤ 7
    | _, _ => false

end BatchExchange.Url.Address
