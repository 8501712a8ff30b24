import BatchExchange.Line
import BatchExchange.Method
import BatchExchange.Target

/-!
# Request lines

`METHOD target HTTP/1.1`, the three separated by white space.
-/

namespace BatchExchange

structure RequestLine where
  method : Method
  target : Text
  line : Nat
deriving DecidableEq, Repr

namespace RequestLine

/-- The one version that requests name. -/
def version : Text := "HTTP/1.1".toList

def read (l : Line) : Except Rejection RequestLine :=
  match Text.words l.text with
  | [method, target, version'] =>
    match Method.ofToken? method with
    | none => (Cause.unsupportedMethod method).at l.number
    | some method =>
      if version' = version then .ok ⟨method, target, l.number⟩
      else (Cause.unsupportedVersion version').at l.number
  | _ => (Cause.malformedRequestLine (Text.trimEnd l.text)).at l.number

/-- Refuses methods that have no place in a change set. -/
def checkInChangeSet (r : RequestLine) : Except Rejection Unit :=
  if r.method = .get then Cause.getInChangeSet.at r.line else .ok ()

def resolve (r : RequestLine) (base : Text) (parse : Text → Option Url := Url.parse?) :
    Except Rejection Target :=
  (Target.resolve r.target base parse).mapError (Rejection.orAt r.line)

end RequestLine

end BatchExchange
