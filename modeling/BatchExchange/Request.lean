import BatchExchange.HeaderName
import BatchExchange.Headers
import BatchExchange.Method
import BatchExchange.Text.Utf8

/-!
# Requests

A request of a batch, ready to be processed.  Its URI comes in raw pieces and as a whole.
-/

namespace BatchExchange

structure Request where
  method : Method
  /-- The service root. -/
  base : Text
  /-- The resource path within the service. -/
  path : Text
  /-- The query, without its question mark. -/
  query : Text := []
  uri : Text
  /-- The service root that references in the body resolve against. -/
  resolution : Text := []
  headers : Headers := .atLine 0
  body : Bytes := []
deriving DecidableEq, Repr

namespace Request

/-- The URI that base, path and query make. -/
def assemble (base path query : Text) : Text :=
  base ++ path ++ if query = [] then [] else '?' :: query

/-- A request without headers and body. -/
def of (method : Method) (base path : Text) (query : Text := []) : Request :=
  { method, base, path, query, uri := assemble base path query }

/-- Makes the URI follow the pieces. -/
def refresh (r : Request) : Request := { r with uri := assemble r.base r.path r.query }

/-- The Content-ID, if the request has exactly one. -/
def contentId? (r : Request) : Option Text := (r.headers.get? HeaderName.contentId).bind Field.single?

end Request

end BatchExchange
