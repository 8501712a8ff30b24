import BatchExchange.Boundary
import BatchExchange.BoundarySource
import BatchExchange.Response

/-!
# Writing batches of responses

Each part stands behind a delimiter of the batch; a change set is a multipart body of its own, with a
boundary from the source.  The content length is always that of the body, and Content-ID stands on the
part and not on the response.
-/

namespace BatchExchange.Response

def crlf : Bytes := [13, 10]

/-- The stem of boundaries of change sets, if none is configured. -/
def changeSetStem : Text := "changeset_".toList

def writeLine (t : Text) : Bytes := Utf8.encode t ++ crlf

def writeDelimiter (boundary : Text) : Bytes := writeLine ("--".toList ++ boundary)

def writeClose (boundary : Text) : Bytes := writeLine ("--".toList ++ boundary ++ "--".toList)

def writeHeader (name value : Text) : Bytes := writeLine (name ++ ": ".toList ++ value)

def statusLine (r : Response) : Text :=
  Text.trimEnd ("HTTP/1.1 ".toList ++ Decimal.write r.status.toNat ++ ' ' :: r.reason)

/-- The fields that are written as they are. -/
def ownFields (r : Response) : List Field :=
  r.headers.fields.filter fun f =>
    !f.named HeaderName.contentId && !f.named HeaderName.contentLength

/-- The headers of the part that holds a response. -/
def writePartHeaders (r : Response) : Bytes :=
  writeHeader HeaderName.contentType "application/http".toList
    ++ writeHeader HeaderName.contentTransferEncoding "binary".toList
    ++ match r.contentId? with
      | none => []
      | some id => writeHeader HeaderName.contentIdOfPart id

/-- Writes a response with the headers of its part. -/
def write (r : Response) : Bytes :=
  writePartHeaders r ++ crlf
    ++ writeLine (statusLine r)
    ++ (ownFields r).flatMap (fun f => writeHeader f.name f.value)
    ++ writeHeader HeaderName.contentLength (Decimal.write r.body.length)
    ++ crlf ++ r.body ++ crlf

/-- Writes the members of a change set. -/
def writeMembers (boundary : Text) (members : List Response) : Bytes :=
  members.flatMap (fun r => writeDelimiter boundary ++ write r) ++ writeClose boundary

/-- Writes the inside of a part. -/
def writePart {σ : Type} (source : BoundarySource σ) (stem : Text) (part : Part Response) (s : σ) :
    Bytes × σ :=
  match part with
  | .single r => (write r, s)
  | .changeSet rs =>
    let (nested, s) := source.draw stem s
    (writeHeader HeaderName.contentType (Boundary.contentType nested) ++ crlf
      ++ writeMembers nested rs, s)

/-- Writes parts, each behind a delimiter. -/
def writeParts {σ : Type} (source : BoundarySource σ) (stem boundary : Text) :
    List (Part Response) → σ → Bytes × σ
  | [], s => ([], s)
  | part :: parts, s =>
    let (bytes, s) := writePart source stem part s
    let (rest, s) := writeParts source stem boundary parts s
    (writeDelimiter boundary ++ bytes ++ rest, s)

/-- Writes a batch of responses. -/
def writeBatch {σ : Type} (source : BoundarySource σ) (stem boundary : Text)
    (parts : List (Part Response)) (s : σ) : Bytes × σ :=
  let (bytes, s) := writeParts source stem boundary parts s
  (bytes ++ writeClose boundary, s)

end BatchExchange.Response
