import BatchExchange.Text

/-!
# Content types and transfer encodings

The values that decide how a part is read: its media type, the boundary parameter of a multipart type and
the transfer encoding.
-/

namespace BatchExchange.MediaType

/-- The media type of a content type, without its parameters. -/
def essence (value : Text) : Text := Text.trim (value.takeWhile (· ≠ ';'))

/-- Whether the value announces an embedded request or response. -/
def isHttp (value : Text) : Bool := Text.same (essence value) "application/http".toList

/-- Whether the value announces parts. -/
def isMultipart (value : Text) : Bool := Text.same (essence value) "multipart/mixed".toList

/-- Whether a transfer encoding is binary. -/
def isBinary (value : Text) : Bool := Text.same (Text.trim value) "binary".toList

/-- A value without the quotes around it, if there are two. -/
def unquote (value : Text) : Text :=
  ((after? ['"'] value).bind (before? ['"'])).getD value

/-- The value that a parameter gives to `boundary`, if it is not empty. -/
def boundaryOfParameter? (parameter : Text) : Option Text :=
  match cut? '=' parameter with
  | none => none
  | some (name, value) =>
    if Text.same (Text.trim name) "boundary".toList then
      some (unquote (Text.trim value)) |>.filter (· ≠ [])
    else none

/-- The boundary that a multipart content type names first. -/
def boundary? (value : Text) : Option Text :=
  if isMultipart value then (value.splitOn ';').tail.findSome? boundaryOfParameter? else none

end BatchExchange.MediaType
