import BatchExchange.Headers
import BatchExchange.Part
import BatchExchange.Request
import BatchExchange.Response.Status

/-!
# Responses

What a processor answers to a request of a batch.
-/

namespace BatchExchange

structure Response where
  status : UInt16 := 200
  headers : Headers := .atLine 0
  body : Bytes := []
deriving DecidableEq, Repr

namespace Response

def reason (r : Response) : Text := Status.reason r.status

def isSuccess (r : Response) : Bool := Status.isSuccess r.status

def isError (r : Response) : Bool := Status.isError r.status

/-- The joined values of Content-ID. -/
def contentId? (r : Response) : Option Text := r.headers.value? HeaderName.contentId

/-- Marks a response with the Content-ID of its request. -/
def tag (id : Option Text) (r : Response) : Response :=
  match id with
  | none => r
  | some id => { r with headers := r.headers.set HeaderName.contentId id }

end Response

/-- Whether a part contains an error. -/
def Part.isError (p : Part Response) : Bool := p.items.any Response.isError

end BatchExchange
