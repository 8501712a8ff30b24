import BatchExchange.Line
import BatchExchange.Rejection

/-!
# Segments

A multipart body is cut at its delimiter lines: `--boundary` opens a segment, `--boundary--` closes the
body, both with any spaces and tabs behind.  What stands before the first opening and after the first
closing delimiter belongs to no segment.  The terminator in front of a delimiter is part of the
delimiter, so the last line of a segment loses its own.
-/

namespace BatchExchange

namespace Line

/-- What a line writes after `--boundary`, without spaces and tabs at the end. -/
def delimiterTail? (boundary : Text) (l : Line) : Option Bytes :=
  after? (Utf8.encode ("--".toList ++ boundary)) (dropTail (fun b => b = 32 || b = 9) l.content)

def opens (boundary : Text) (l : Line) : Bool := l.delimiterTail? boundary == some []

def closes (boundary : Text) (l : Line) : Bool :=
  l.delimiterTail? boundary == some (Utf8.encode "--".toList)

def delimits (boundary : Text) (l : Line) : Bool := l.opens boundary || l.closes boundary

end Line

namespace Segment

/-- Takes the terminator of the last line off. -/
def trimEnding : List Line → List Line
  | [] => []
  | [l] => [l.withoutEnding]
  | l :: lines => l :: trimEnding lines

/-- The line of the first delimiter. -/
def firstDelimiter? (boundary : Text) (lines : List Line) : Option Nat :=
  (lines.find? (Line.delimits boundary)).map Line.number

/-- The lines in front of the first closing delimiter. -/
def untilClose (boundary : Text) (lines : List Line) : List Line :=
  lines.takeWhile fun l => !l.closes boundary

/-- The segments of `lines`.  Errors that have no line of their own are placed at `context`. -/
def ofLines (boundary : Text) (context : Nat) (lines : List Line) :
    Except Rejection (List (List Line)) :=
  if lines.any (Line.closes boundary) then
    .ok (((untilClose boundary lines).splitOnP (Line.opens boundary)).tail.map trimEnding)
  else if lines.any (Line.opens boundary) then
    (Cause.missingCloseDelimiter boundary).at (Line.lastNumber context lines)
  else
    (Cause.missingDelimiter boundary).at context

end Segment

end BatchExchange
