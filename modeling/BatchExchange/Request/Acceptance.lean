import BatchExchange.BodyPart
import BatchExchange.ContentLength
import BatchExchange.Part
import BatchExchange.Request
import BatchExchange.RequestLine

/-!
# Accepting body parts

The rules of the batch format that go beyond its structure: types and encodings of parts, Content-IDs,
methods, targets, forbidden headers, bodies of GET requests and content lengths.  A part that keeps them
becomes the requests it holds.
-/

namespace BatchExchange

/-- How bodies and addresses are read, and what targets resolve against. -/
structure Options where
  strict : Bool := true
  base : Text := []
  resolution : Text := []
  parse : Text → Option Url := Url.parse?

namespace Acceptance

/-- Refuses a part whose content type is missing or not the `expected` one. -/
def checkContentType (expected : Text → Bool) (mime : Headers) : Except Rejection Unit :=
  match mime.get? HeaderName.contentType with
  | none => Cause.missingContentType.at mime.line
  | some f => if expected f.value then .ok () else (Cause.unexpectedContentType f.value).at f.line

def checkTransferEncoding (mime : Headers) : Except Rejection Unit :=
  match mime.get? HeaderName.contentTransferEncoding with
  | none => Cause.missingTransferEncoding.at mime.line
  | some f =>
    if MediaType.isBinary f.value then .ok ()
    else (Cause.unexpectedTransferEncoding f.value).at f.line

/-- The Content-ID field and its one value, if a block has the field. -/
def contentIdField (h : Headers) : Except Rejection (Option (Field × Text)) :=
  match h.get? HeaderName.contentId with
  | none => .ok none
  | some f =>
    match f.single? with
    | some id => .ok (some (f, id))
    | none => Cause.ambiguousContentId.at f.line

def checkForbidden (h : Headers) : Except Rejection Unit :=
  match HeaderName.forbidden.findSome? h.get? with
  | none => .ok ()
  | some f => (Cause.forbiddenHeader f.name).at f.line

/-- Whether the lines behind a GET request make a body: all do but a single blank one. -/
def isBody : List Line → Bool
  | [] => false
  | [l] => !l.isBlank
  | _ => true

/-- The octets of a body, cut to its content length. -/
def bodyOctets (h : Headers) (lines : List Line) : Except Rejection Bytes :=
  let octets := Line.join lines
  match h.get? HeaderName.contentLength with
  | none => .ok octets
  | some f =>
    match ContentLength.ofField? f with
    | none => (Cause.malformedContentLength f.value).at f.line
    | some n =>
      if octets.length < n then (Cause.excessiveContentLength n octets.length).at f.line
      else .ok (octets.take n)

/-- The request that an operation describes. -/
def request (options : Options) (inChangeSet : Bool) (op : Operation) : Except Rejection Request := do
  let line ← RequestLine.read op.requestLine
  if inChangeSet then line.checkInChangeSet
  let target ← line.resolve options.base options.parse
  checkForbidden op.headers
  let body ←
    if line.method = .get then
      if isBody op.body then Cause.bodyOnGet.at line.line else .ok []
    else bodyOctets op.headers op.body
  return {
    method := line.method
    base := target.base
    path := target.path
    query := target.query
    uri := Request.assemble target.base target.path target.query
    resolution := options.resolution
    headers := op.headers
    body }

/-- An operation outside change sets, with the Content-ID of its part if it has none of its own. -/
def withPartId (e : Embedded) : Except Rejection Operation := do
  match ← contentIdField e.mime with
  | none => return e.operation
  | some (f, _) =>
    match ← contentIdField e.operation.headers with
    | some _ => return e.operation
    | none => return { e.operation with headers := e.operation.headers.put f }

/-- A member of a change set with its Content-ID and the line of it: that of the part, or else that of the
operation. -/
def withMemberId (e : Embedded) : Except Rejection (Text × Nat × Operation) := do
  match ← contentIdField e.mime with
  | some (f, id) =>
    return (id, f.line, { e.operation with headers := e.operation.headers.put f })
  | none =>
    match ← contentIdField e.operation.headers with
    | some (f, id) => return (id, f.line, e.operation)
    | none => Cause.missingContentId.at e.mime.line

/-- The requests of the members of a change set; `seen` are the Content-IDs of those before. -/
def members (options : Options) (seen : List Text) : List Embedded → Except Rejection (List Request)
  | [] => .ok []
  | e :: rest => do
    checkContentType MediaType.isHttp e.mime
    checkTransferEncoding e.mime
    let (id, line, op) ← withMemberId e
    if id ∈ seen then (Cause.duplicateContentId id).at line
    let r ← request options true op
    return r :: (← members options (id :: seen) rest)

/-- The requests that a body part holds. -/
def part (options : Options) : BodyPart → Except Rejection (Part Request)
  | .single e => do
    checkContentType MediaType.isHttp e.mime
    checkTransferEncoding e.mime
    let op ← withPartId e
    return .single (← request options false op)
  | .changeSet mime _ es => do
    checkContentType MediaType.isMultipart mime
    return .changeSet (← members options [] es)

end Acceptance

end BatchExchange
