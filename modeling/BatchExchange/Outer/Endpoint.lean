import BatchExchange.Service

/-!
# Endpoints

A service on the web: it answers POST requests at one path and no others.
-/

namespace BatchExchange.Outer

/-- An HTTP request. -/
structure WireRequest where
  method : Method := .post
  uri : Uri
  headers : List (Text × Bytes) := []
  body : Bytes := []

namespace Endpoint

/-- The path of the endpoint below `mount`. -/
def path (mount : Text) : Text :=
  (if mount.getLast? = some '/' then mount else mount ++ ['/']) ++ Envelope.segment

def notFound : WireResponse := { status := 404 }

def methodNotAllowed : WireResponse :=
  { status := 405
    headers := [("allow".toList, "POST".toList), ("content-length".toList, "0".toList)] }

/-- The envelope that an HTTP request puts around its body. -/
def envelope (r : WireRequest) : Envelope := (Envelope.ofHeaders r.headers).withUri r.uri r.headers

/-- Answers an HTTP request. -/
def serve {σ β : Type} (service : Service σ β) (mount : Text) (r : WireRequest) (s : σ) (b : β) :
    WireResponse × σ × β :=
  if r.uri.path ≠ path mount then (notFound, s, b)
  else if r.method ≠ .post then (methodNotAllowed, s, b)
  else
    match service.handle (envelope r) r.body s b with
    | (.ok answer, s, b) => (answer.build, s, b)
    | (.error f, s, b) => ((Answer.ofFailure f).build, s, b)

end Endpoint

end BatchExchange.Outer
