import BatchExchange.Text.Hexadecimal

/-!
# Tables of characters

A table gives characters a text each.  It is written in words of hexadecimal code points: what the word is
about, a colon, and the text that goes with it, its characters apart by full stops.  A word is about one
character, all those from `a` to `b`, written `a-b`, or every second one of them, written `a/b`; from one to
the next the text moves along.
-/

namespace BatchExchange.Text

/-- What one word of a table says. -/
structure Entry where
  first : Nat
  last : Nat
  step : Nat
  text : List Nat

namespace Entry

/-- The code points that a word is about: the first, the last and how far they are apart. -/
def span? (t : Text) : Option (Nat × Nat × Nat) :=
  match cut? '-' t, cut? '/' t with
  | some (a, b), _ => do some (← Hexadecimal.readBase 16 0 a, ← Hexadecimal.readBase 16 0 b, 1)
  | none, some (a, b) => do some (← Hexadecimal.readBase 16 0 a, ← Hexadecimal.readBase 16 0 b, 2)
  | none, none => do
    let n ← Hexadecimal.readBase 16 0 t
    some (n, n, 1)

def ofWord? (word : Text) : Option Entry := do
  let (span, text) ← cut? ':' word
  let (first, last, step) ← span? span
  some { first, last, step, text := ← (text.splitOn '.').mapM (Hexadecimal.readBase 16 0) }

def isAbout (e : Entry) (n : Nat) : Bool :=
  e.first ≤ n && n ≤ e.last && (n - e.first) % e.step = 0

/-- The text that a code point gets. -/
def textOf (e : Entry) (n : Nat) : Text := e.text.map fun m => Char.ofNat (m + (n - e.first))

end Entry

/-- The entries that a text writes. -/
def readTable (s : String) : List Entry := (words s.toList).filterMap Entry.ofWord?

/-- The text that a table gives a character. -/
def lookup? (table : List Entry) (c : Char) : Option Text :=
  (table.find? (·.isAbout c.toNat)).map (·.textOf c.toNat)

/-- The character that a table gives a text. -/
def reverseLookup? (table : List Entry) (t : Text) : Option Char :=
  (table.find? (·.text = t.map Char.toNat)).map (Char.ofNat ·.first)

end BatchExchange.Text
