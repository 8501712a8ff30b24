import BatchExchange.Request.Acceptance

/-!
# Batches of requests

A batch body is read part by part; the first fault refuses the whole of it.
-/

namespace BatchExchange.Request

/-- The requests of one part of a batch. -/
def readPart (options : Options) (lines : List Line) : Except Rejection (Part Request) := do
  let part ← BodyPart.read options.strict (Line.firstNumber 1 lines) lines
  Acceptance.part options part

/-- The parts of a batch body whose parts are delimited by `boundary`. -/
def readBatch (options : Options) (boundary : Text) (body : Bytes) :
    Except Rejection (List (Part Request)) := do
  Boundary.check boundary
  let lines := Line.readAll body
  let segments ← Segment.ofLines boundary 1 lines
  let parts ← segments.mapM (readPart options)
  if parts = [] then Cause.noParts.at ((Segment.firstDelimiter? boundary lines).getD 1)
  return parts

end BatchExchange.Request
