import BatchExchange.Text.Hexadecimal

/-!
# JSON documents

Reads a JSON text to its value.  Of numbers only the form matters here.  A string may hold half of a
surrogate pair; it is then no text, but still a string.
-/

namespace BatchExchange

inductive Json where
  | null
  | bool (b : Bool)
  | number
  | string (text : Option Text)
  | array (items : List Json)
  | object (entries : List (Option Text × Json))

namespace Json

inductive Token where
  | openArray
  | closeArray
  | openObject
  | closeObject
  | comma
  | colon
  | null
  | bool (b : Bool)
  | number
  | string (text : Option Text)
deriving DecidableEq, Repr

/-- A unit of a string: a character, or a number from an escape. -/
inductive Unit16 where
  | char (c : Char)
  | code (n : Nat)

/-- The number of four hexadecimal digits. -/
def hex4? : Text → Option Nat
  | [a, b, c, d] => do
    let a ← Hexadecimal.value? a
    let b ← Hexadecimal.value? b
    let c ← Hexadecimal.value? c
    let d ← Hexadecimal.value? d
    some (((16 * a + b) * 16 + c) * 16 + d)
  | _ => none

def escape? : Char → Option Char
  | '"' => some '"'
  | '\\' => some '\\'
  | '/' => some '/'
  | 'b' => some '\x08'
  | 'f' => some '\x0c'
  | 'n' => some '\n'
  | 'r' => some '\r'
  | 't' => some '\t'
  | _ => none

/-- The units of a string up to its closing quote, and what follows it. -/
def stringUnits? : Text → Option (List Unit16 × Text)
  | [] => none
  | '"' :: t => some ([], t)
  | '\\' :: 'u' :: a :: b :: c :: d :: t => do
    let n ← hex4? [a, b, c, d]
    let (units, rest) ← stringUnits? t
    some (.code n :: units, rest)
  | '\\' :: e :: t => do
    let c ← escape? e
    let (units, rest) ← stringUnits? t
    some (.char c :: units, rest)
  | c :: t =>
    if c.toNat < 0x20 then none
    else (stringUnits? t).map fun (units, rest) => (.char c :: units, rest)

/-- The text of a string, unless a surrogate stands alone. -/
def textOfUnits? : List Unit16 → Option Text
  | [] => some []
  | .char c :: units => (textOfUnits? units).map (c :: ·)
  | .code n :: units =>
    if n < 0xD800 ∨ 0xDFFF < n then (textOfUnits? units).map (Char.ofNat n :: ·)
    else match units with
      | .code m :: units =>
        if n < 0xDC00 ∧ 0xDC00 ≤ m ∧ m ≤ 0xDFFF then
          (textOfUnits? units).map (Char.ofNat (0x10000 + 0x400 * (n - 0xD800) + (m - 0xDC00)) :: ·)
        else none
      | _ => none

/-- What follows one or more digits. -/
def dropDigits? (t : Text) : Option Text :=
  if t.head?.any Char.isDigit then some (t.dropWhile Char.isDigit) else none

/-- What follows a number. -/
def dropNumber? (t : Text) : Option Text := do
  let t := (after? ['-'] t).getD t
  let t ← match t with
    | '0' :: t => some t
    | t => dropDigits? t
  let t ← match t with
    | '.' :: t => dropDigits? t
    | t => some t
  match t with
  | c :: t =>
    if c = 'e' ∨ c = 'E' then
      dropDigits? (((after? ['+'] t).or (after? ['-'] t)).getD t)
    else some (c :: t)
  | [] => some []

def isSpace (c : Char) : Bool := c = ' ' || c = '\t' || c = '\n' || c = '\r'

/-- The token that a text without space in front begins with, and what follows it. -/
def token? (t : Text) : Option (Token × Text) :=
  match t with
  | '[' :: t => some (.openArray, t)
  | ']' :: t => some (.closeArray, t)
  | '\x7b' :: t => some (.openObject, t)
  | '\x7d' :: t => some (.closeObject, t)
  | ',' :: t => some (.comma, t)
  | ':' :: t => some (.colon, t)
  | '"' :: t => (stringUnits? t).map fun (units, rest) => (.string (textOfUnits? units), rest)
  | t =>
    ((after? "null".toList t).map fun rest => (.null, rest)).or <|
    ((after? "true".toList t).map fun rest => (.bool true, rest)).or <|
    ((after? "false".toList t).map fun rest => (.bool false, rest)).or <|
    (dropNumber? t).map fun rest => (.number, rest)

/-- The tokens of a text; each costs one of `fuel`. -/
def tokensFrom : Nat → Text → Option (List Token)
  | 0, _ => none
  | fuel + 1, t =>
    match t.dropWhile isSpace with
    | [] => some []
    | t => do
      let (token, rest) ← token? t
      let tokens ← tokensFrom fuel rest
      some (token :: tokens)

def tokens? (t : Text) : Option (List Token) := tokensFrom (t.length + 1) t

mutual

/-- The value that tokens begin with. -/
def value? : Nat → List Token → Option (Json × List Token)
  | 0, _ => none
  | fuel + 1, tokens =>
    match tokens with
    | .null :: rest => some (.null, rest)
    | .bool b :: rest => some (.bool b, rest)
    | .number :: rest => some (.number, rest)
    | .string t :: rest => some (.string t, rest)
    | .openArray :: .closeArray :: rest => some (.array [], rest)
    | .openArray :: rest => (items? fuel rest).map fun (items, rest) => (.array items, rest)
    | .openObject :: .closeObject :: rest => some (.object [], rest)
    | .openObject :: rest => (entries? fuel rest).map fun (entries, rest) => (.object entries, rest)
    | _ => none

/-- The values of an array up to its end. -/
def items? : Nat → List Token → Option (List Json × List Token)
  | 0, _ => none
  | fuel + 1, tokens => do
    let (item, rest) ← value? fuel tokens
    match rest with
    | .closeArray :: rest => some ([item], rest)
    | .comma :: rest => (items? fuel rest).map fun (items, rest) => (item :: items, rest)
    | _ => none

/-- The entries of an object up to its end. -/
def entries? : Nat → List Token → Option (List (Option Text × Json) × List Token)
  | 0, _ => none
  | fuel + 1, tokens =>
    match tokens with
    | .string key :: .colon :: tokens => do
      let (item, rest) ← value? fuel tokens
      match rest with
      | .closeObject :: rest => some ([(key, item)], rest)
      | .comma :: rest =>
        (entries? fuel rest).map fun (entries, rest) => ((key, item) :: entries, rest)
      | _ => none
    | _ => none

end

/-- The value of a JSON text. -/
def parse? (t : Text) : Option Json := do
  let tokens ← tokens? t
  match ← value? (2 * tokens.length) tokens with
  | (value, []) => some value
  | _ => none

end Json

end BatchExchange
