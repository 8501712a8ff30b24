import BatchExchange.Rejection
import BatchExchange.Text.Utf8

/-!
# Answers

The HTTP response around a batch.  Its headers are kept in the order of their exact spelling; building it
puts them on the wire in lower case and adds the length of the body.
-/

namespace BatchExchange.Outer

/-- A response as it goes on the wire. -/
structure WireResponse where
  status : UInt16
  headers : List (Text × Text) := []
  body : Bytes := []
deriving DecidableEq, Repr

structure Answer where
  status : UInt16 := 200
  headers : List (Text × Text) := []
  body : Bytes := []
deriving DecidableEq, Repr

namespace Answer

/-- Puts an entry at its place in the order of keys, or in the place of the one with its key. -/
def insert (key value : Text) : List (Text × Text) → List (Text × Text)
  | [] => [(key, value)]
  | (k, v) :: entries =>
    if key = k then (key, value) :: entries
    else if key < k then (key, value) :: (k, v) :: entries
    else (k, v) :: insert key value entries

def withHeader (a : Answer) (name value : Text) : Answer :=
  { a with headers := insert name value a.headers }

/-- The value of the first header of that name in any spelling. -/
def header? (a : Answer) (name : Text) : Option Text :=
  (a.headers.find? fun h => Text.same h.1 name).map Prod.snd

/-- Whether a text can name a header on the wire. -/
def isWireName (name : Text) : Bool :=
  name ≠ [] && name.length < 65536
    && name.all fun c => c.isAlphanum || c ∈ "!#$%&'*+-.^_`|~".toList

/-- Whether a text can be the value of a header on the wire. -/
def isWireValue (value : Text) : Bool :=
  value.all fun c => (32 ≤ c.toNat && c.toNat ≠ 127) || c = '\t'

/-- The media type of texts. -/
def plainText : Text := "text/plain; charset=utf-8".toList

/-- The name of the first header that cannot go on the wire. -/
def faulty? (a : Answer) : Option Text :=
  (a.headers.find? fun h => !(isWireName h.1 && isWireValue h.2)).map Prod.fst

/-- Builds the response.  A header that cannot go on the wire, and a status that is none, make it a server
error. -/
def build (a : Answer) : WireResponse :=
  match a.faulty? with
  | some name =>
    { status := 500
      headers := [("content-type".toList, plainText)]
      body := Utf8.encode ("Invalid response header '".toList ++ name ++ "'".toList) }
  | none =>
    { status := if 100 ≤ a.status ∧ a.status ≤ 999 then a.status else 500
      headers := a.headers.map (fun h => (Text.foldCase h.1, h.2))
        ++ [("content-length".toList, Decimal.write a.body.length)]
      body := a.body }

/-- The answer to a batch that failed: its message as text. -/
def ofFailure (f : Failure) : Answer :=
  ({ status := f.status, body := Utf8.encode f.message } : Answer).withHeader
    "content-type".toList plainText

end Answer

end BatchExchange.Outer
