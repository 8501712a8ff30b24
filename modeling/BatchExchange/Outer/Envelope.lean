import BatchExchange.HeaderName
import BatchExchange.MediaType
import BatchExchange.Outer.Uri
import BatchExchange.Preference
import BatchExchange.Target

/-!
# Envelopes

What the HTTP request around a batch says about it: how the body is delimited, whether to go on after an
error, and where the service is.
-/

namespace BatchExchange.Outer

structure Envelope where
  contentType : Option Text := none
  boundary : Option Text := none
  continueOnError : Option Bool := none
  /-- The service root. -/
  base : Text := []
deriving DecidableEq, Repr

namespace Envelope

/-- The last segment of the path of an endpoint. -/
def segment : Text := "$batch".toList

/-- The text of a header value that is all visible ASCII, spaces and tabs. -/
def visible? (value : Bytes) : Option Text :=
  if value.all fun b => (32 ≤ b && b < 127) || b == 9 then some (value.map Char.ofUInt8) else none

/-- The values of a header, in order. -/
def values (headers : List (Text × Bytes)) (name : Text) : List Bytes :=
  (headers.filter fun h => Text.same h.1 name).map Prod.snd

/-- The first value of a header, if it can be read. -/
def first? (headers : List (Text × Bytes)) (name : Text) : Option Text :=
  (values headers name).head?.bind visible?

def ofHeaders (headers : List (Text × Bytes)) : Envelope :=
  let contentType := first? headers HeaderName.contentType
  { contentType
    boundary := contentType.bind MediaType.boundary?
    continueOnError :=
      Preference.ofValues ((values headers HeaderName.prefer).filterMap visible?) }

/-- The path of the service whose endpoint has that path. -/
def rootOf (path : Text) : Text :=
  let path := Target.trimSlashes path
  Target.trimSlashes ((before? segment path).getD path)

/-- Sets the service root by the URI of the endpoint, or by the host that the headers name. -/
def withUri (e : Envelope) (uri : Uri) (headers : List (Text × Bytes)) : Envelope :=
  let root := rootOf uri.path
  { e with
    base := match uri.authority.or (first? headers HeaderName.host) with
      | some authority => uri.scheme.getD "http".toList ++ "://".toList ++ authority ++ root
      | none => root }

end Envelope

end BatchExchange.Outer
