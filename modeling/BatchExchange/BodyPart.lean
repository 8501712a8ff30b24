import BatchExchange.Boundary
import BatchExchange.HeaderName
import BatchExchange.MediaType
import BatchExchange.Operation
import BatchExchange.Segment

/-!
# Body parts

A part of a batch body as it is written: either one embedded operation, or a change set whose members are
embedded operations.  Nothing is checked here but the structure.
-/

namespace BatchExchange

/-- An operation with the header block of the part around it. -/
structure Embedded where
  mime : Headers
  operation : Operation
deriving DecidableEq, Repr

inductive BodyPart where
  | single (member : Embedded)
  | changeSet (mime : Headers) (boundary : Text) (members : List Embedded)
deriving DecidableEq, Repr

namespace Embedded

/-- Reads the operation of a part whose header block is read. -/
def readAfter (strict : Bool) (mime : Headers) (rest : List Line) : Except Rejection Embedded := do
  let operation ← Operation.read strict mime.line rest
  return ⟨mime, operation⟩

/-- Reads a part that holds an operation. -/
def read (strict : Bool) (context : Nat) (lines : List Line) : Except Rejection Embedded := do
  let (mime, rest) ← HeaderBlock.read strict context lines
  readAfter strict mime rest

end Embedded

namespace BodyPart

/-- The members of a change set whose header block is read. -/
def readMembers (strict : Bool) (boundary : Text) (context : Nat) (lines : List Line) :
    Except Rejection (List Embedded) := do
  let segments ← Segment.ofLines boundary context lines
  if segments = [] then Cause.noMembers.at context
  else segments.mapM fun segment => Embedded.read strict (Line.firstNumber context segment) segment

/-- Reads a part.  A multipart content type makes it a change set. -/
def read (strict : Bool) (context : Nat) (lines : List Line) : Except Rejection BodyPart := do
  let (mime, rest) ← HeaderBlock.read strict context lines
  match (mime.get? HeaderName.contentType).filter fun f => MediaType.isMultipart f.value with
  | none => return .single (← Embedded.readAfter strict mime rest)
  | some f =>
    match MediaType.boundary? f.value with
    | none => Cause.changeSetWithoutBoundary.at f.line
    | some boundary =>
      (Boundary.check boundary).mapError (Rejection.orAt f.line)
      return .changeSet mime boundary (← readMembers strict boundary mime.line rest)

end BodyPart

end BatchExchange
