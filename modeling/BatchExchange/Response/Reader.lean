import BatchExchange.Boundary
import BatchExchange.ContentLength
import BatchExchange.HeaderBlock
import BatchExchange.MediaType
import BatchExchange.Response
import BatchExchange.Segment

/-!
# Reading batches of responses

The client's side: parts are cut as in a batch of requests and their header blocks read leniently.  The
Content-ID of a part moves onto the response.
-/

namespace BatchExchange.Response

/-- The status that a status line states. -/
def readStatus (l : Line) : Except Rejection UInt16 :=
  let line := Text.trimEnd l.text
  let status := do
    let (version, rest) ← cut? ' ' line
    let code ← Decimal.read? 65536 (rest.takeWhile (· ≠ ' '))
    if (after? "HTTP/".toList version).isSome then some (UInt16.ofNat code) else none
  match status with
  | some status => .ok status
  | none => (Cause.malformedStatusLine line).at l.number

/-- The octets of a body, cut to its content length. -/
def bodyOctets (h : Headers) (lines : List Line) : Except Rejection Bytes :=
  let octets := Line.join lines
  match h.get? HeaderName.contentLength with
  | none => .ok octets
  | some f =>
    match (ContentLength.ofField? f).filter (· ≤ octets.length) with
    | none => (Cause.malformedContentLength f.value).at f.line
    | some n => .ok (octets.take n)

/-- Reads a response behind the header block of its part. -/
def readAfter (mime : Headers) (lines : List Line) : Except Rejection Response :=
  match lines.dropWhile Line.isBlank with
  | [] => Cause.missingStatusLine.at mime.line
  | l :: rest => do
    let status ← readStatus l
    let (headers, body) ← HeaderBlock.read false l.number rest
    let body ← bodyOctets headers body
    let headers := match mime.value? HeaderName.contentId with
      | none => headers
      | some id => headers.set HeaderName.contentId id
    return { status, headers, body }

/-- Reads a member of a change set. -/
def readMember (context : Nat) (lines : List Line) : Except Rejection Response := do
  let (mime, rest) ← HeaderBlock.read false (Line.firstNumber context lines) lines
  readAfter mime rest

/-- The boundary of a nested multipart body, if the part has one. -/
def nested? (mime : Headers) : Option Text :=
  (mime.get? HeaderName.contentType).bind fun f => MediaType.boundary? f.value

def readPart (lines : List Line) : Except Rejection (Part Response) := do
  let (mime, rest) ← HeaderBlock.read false (Line.firstNumber 1 lines) lines
  match nested? mime with
  | none => return .single (← readAfter mime rest)
  | some boundary =>
    let segments ← Segment.ofLines boundary mime.line rest
    return .changeSet (← segments.mapM (readMember mime.line))

/-- Reads a batch of responses whose parts are delimited by `boundary`. -/
def readBatch (boundary : Text) (body : Bytes) : Except Rejection (List (Part Response)) := do
  Boundary.check boundary
  let segments ← Segment.ofLines boundary 1 (Line.readAll body)
  segments.mapM readPart

end BatchExchange.Response
