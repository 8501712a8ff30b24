import BatchExchange.Text.Decimal

/-!
# Rejections

Why a batch is refused.  A `Cause` says what is wrong, and fixes the construct it concerns and the wording;
a `Rejection` adds the line, where the construct has one.
-/

namespace BatchExchange

/-- The construct of a batch that is at fault. -/
inductive Construct where
  | content
  | missingContentId
  | header
  | forbiddenHeader
  | bodyPartHeader
  | boundary
  | boundaryDelimiter
  | closeDelimiter
  | blankLine
  | statusLine
  | httpVersion
  | method
  | uri
  | contentLength
  | duplicateContentId
  | emptyChangeSet
deriving DecidableEq, Repr

/-- The key under which clients know the construct. -/
def Construct.key : Construct → Text
  | content => "INVALID_CONTENT".toList
  | missingContentId => "MISSING_CONTENT_ID".toList
  | header => "INVALID_HEADER".toList
  | forbiddenHeader => "FORBIDDEN_HEADER".toList
  | bodyPartHeader => "INVALID_BODY_PART_HEADER".toList
  | boundary => "INVALID_BOUNDARY".toList
  | boundaryDelimiter => "MISSING_BOUNDARY_DELIMITER".toList
  | closeDelimiter => "MISSING_CLOSE_DELIMITER".toList
  | blankLine => "MISSING_BLANK_LINE".toList
  | statusLine => "INVALID_STATUS_LINE".toList
  | httpVersion => "INVALID_HTTP_VERSION".toList
  | method => "INVALID_METHOD".toList
  | uri => "INVALID_URI".toList
  | contentLength => "INVALID_CONTENT_LENGTH".toList
  | duplicateContentId => "DUPLICATE_CONTENT_ID".toList
  | emptyChangeSet => "EMPTY_CHANGE_SET".toList

/-- What is wrong with a batch.  Texts are quoted from it. -/
inductive Cause where
  | unexpectedDelimiter (line : Text)
  | missingRequestLine
  | missingStatusLine
  | bodyOnGet
  | malformedHeader (line : Text)
  | ambiguousContentId
  | missingContentId
  | duplicateContentId (id : Text)
  | forbiddenHeader (name : Text)
  | missingContentType
  | unexpectedContentType (value : Text)
  | missingTransferEncoding
  | unexpectedTransferEncoding (value : Text)
  | changeSetWithoutBoundary
  | batchWithoutBoundary (contentType : Text)
  | invalidBoundary (boundary : Text)
  | missingDelimiter (boundary : Text)
  | missingCloseDelimiter (boundary : Text)
  | noParts
  | noMembers
  | unterminatedHeaders
  | malformedRequestLine (line : Text)
  | malformedStatusLine (line : Text)
  | unsupportedMethod (method : Text)
  | getInChangeSet
  | unsupportedVersion (version : Text)
  | foreignTarget (target : Text)
  | malformedContentLength (value : Text)
  | excessiveContentLength (length available : Nat)
  /-- A fault that the caller puts into words. -/
  | stated (construct : Construct) (message : Text)
deriving DecidableEq, Repr

namespace Cause

def construct : Cause → Construct
  | unexpectedDelimiter _ | missingRequestLine | missingStatusLine | bodyOnGet => .content
  | malformedHeader _ | ambiguousContentId => .header
  | missingContentId => .missingContentId
  | duplicateContentId _ => .duplicateContentId
  | forbiddenHeader _ => .forbiddenHeader
  | missingContentType | unexpectedContentType _ | missingTransferEncoding
  | unexpectedTransferEncoding _ | changeSetWithoutBoundary | batchWithoutBoundary _ =>
    .bodyPartHeader
  | invalidBoundary _ => .boundary
  | missingDelimiter _ | noParts => .boundaryDelimiter
  | missingCloseDelimiter _ => .closeDelimiter
  | noMembers => .emptyChangeSet
  | unterminatedHeaders => .blankLine
  | malformedRequestLine _ | malformedStatusLine _ => .statusLine
  | unsupportedMethod _ | getInChangeSet => .method
  | unsupportedVersion _ => .httpVersion
  | foreignTarget _ => .uri
  | malformedContentLength _ | excessiveContentLength _ _ => .contentLength
  | stated c _ => c

def message : Cause → Text
  | unexpectedDelimiter l => "Unexpected boundary delimiter '".toList ++ l ++ "'".toList
  | missingRequestLine => "Missing request line".toList
  | missingStatusLine => "Missing status line".toList
  | bodyOnGet => "GET requests must not carry a body".toList
  | malformedHeader l => "Invalid header line '".toList ++ l ++ "'".toList
  | ambiguousContentId => "Content-ID must have exactly one value".toList
  | missingContentId => "Change set member without Content-ID".toList
  | duplicateContentId id =>
    "Content-ID '".toList ++ id ++ "' is used twice in one change set".toList
  | forbiddenHeader n => "Header '".toList ++ n ++ "' is not allowed in a batch request".toList
  | missingContentType => "Missing Content-Type on body part".toList
  | unexpectedContentType v => "Unexpected Content-Type '".toList ++ v ++ "'".toList
  | missingTransferEncoding => "Missing Content-Transfer-Encoding: binary".toList
  | unexpectedTransferEncoding v =>
    "Unexpected Content-Transfer-Encoding '".toList ++ v ++ "'".toList
  | changeSetWithoutBoundary => "Change set content type without boundary".toList
  | batchWithoutBoundary v =>
    "Batch request needs a multipart/mixed content type with boundary, got '".toList ++ v
      ++ "'".toList
  | invalidBoundary b => "Invalid boundary: '".toList ++ b ++ "'".toList
  | missingDelimiter b => "Missing boundary delimiter '--".toList ++ b ++ "'".toList
  | missingCloseDelimiter b => "Missing close delimiter '--".toList ++ b ++ "--'".toList
  | noParts => "Batch contains no body parts".toList
  | noMembers => "Change set has no members".toList
  | unterminatedHeaders => "Header block is not terminated by a blank line".toList
  | malformedRequestLine l => "Invalid request line '".toList ++ l ++ "'".toList
  | malformedStatusLine l => "Invalid status line '".toList ++ l ++ "'".toList
  | unsupportedMethod m => "Unsupported method '".toList ++ m ++ "'".toList
  | getInChangeSet => "GET requests are not allowed inside a change set".toList
  | unsupportedVersion v => "Unsupported HTTP version '".toList ++ v ++ "'".toList
  | foreignTarget t => "Request target '".toList ++ t ++ "' is not part of the service".toList
  | malformedContentLength v => "Invalid Content-Length '".toList ++ v ++ "'".toList
  | excessiveContentLength n m =>
    "Content-Length ".toList ++ Decimal.write n ++ " exceeds the ".toList ++ Decimal.write m
      ++ " available bytes".toList
  | stated _ m => m

end Cause

/-- A cause and the line it was found on, counted from one. -/
structure Rejection where
  cause : Cause
  line : Option Nat
deriving DecidableEq, Repr

namespace Rejection

/-- Gives a line to a rejection that has none. -/
def orAt (line : Nat) (r : Rejection) : Rejection :=
  { r with line := some (r.line.getD line) }

def message (r : Rejection) : Text :=
  let place := match r.line with
    | some line => " at line ".toList ++ Decimal.write line
    | none => []
  r.cause.construct.key ++ place ++ ": ".toList ++ r.cause.message

end Rejection

/-- Refuses at a line. -/
def Cause.at {α : Type} (cause : Cause) (line : Nat) : Except Rejection α :=
  .error ⟨cause, some line⟩

/-- Refuses without a line. -/
def Cause.anywhere {α : Type} (cause : Cause) : Except Rejection α :=
  .error ⟨cause, none⟩

/-- What can go wrong with a whole exchange. -/
inductive Failure where
  | rejected (rejection : Rejection)
  /-- The body could not be read from its source. -/
  | source (message : Text)
  /-- A change-set strategy gave up without a response. -/
  | processor (message : Text)
  | configuration (message : Text)
deriving DecidableEq, Repr

namespace Failure

def message : Failure → Text
  | rejected r => "Batch deserializer error: ".toList ++ r.message
  | source m => "I/O error: ".toList ++ m
  | processor m => "Processor error: ".toList ++ m
  | configuration m => "Configuration error: ".toList ++ m

/-- The status of the outer answer: a refused batch is the client's fault, all else the server's. -/
def status : Failure → UInt16
  | rejected _ => 400
  | source _ | processor _ | configuration _ => 500

/-- Gives a line to a rejection that has none. -/
def orAt (line : Nat) : Failure → Failure
  | rejected r => rejected (r.orAt line)
  | f => f

end Failure

end BatchExchange
