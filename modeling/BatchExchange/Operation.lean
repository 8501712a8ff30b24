import BatchExchange.HeaderBlock

/-!
# Operations

A request as it stands in a part: its request line, its header block and the lines of its body.  Lenient
reading skips blank lines in front of the request line.
-/

namespace BatchExchange

structure Operation where
  requestLine : Line
  headers : Headers
  body : List Line
deriving DecidableEq, Repr

namespace Operation

def read (strict : Bool) (context : Nat) (lines : List Line) : Except Rejection Operation :=
  match if strict then lines else lines.dropWhile Line.isBlank with
  | [] => Cause.missingRequestLine.at context
  | l :: rest =>
    if l.isBlank then Cause.missingRequestLine.at l.number
    else do
      let (headers, body) ← HeaderBlock.read strict l.number rest
      return ⟨l, headers, body⟩

end Operation

end BatchExchange
