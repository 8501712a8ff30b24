import BatchExchange.Headers
import BatchExchange.Line
import BatchExchange.Rejection

/-!
# Reading header blocks

A block is read line by line up to and with its blank line.  Strict reading refuses malformed lines and a
block without blank line; lenient reading skips the one and accepts the other.  Neither reads past a line
that looks like a delimiter.
-/

namespace BatchExchange.HeaderBlock

/-- Whether a name is visible ASCII without a colon. -/
def isName (name : Text) : Bool :=
  name ≠ [] && name.all fun c => 0x21 ≤ c.toNat && c.toNat ≤ 0x7E && c ≠ ':'

/-- Whether a line continues the one before. -/
def isContinuation (t : Text) : Bool := t.head?.any fun c => c = ' ' || c = '\t'

/-- The name and the value that a header line gives. -/
def field? (t : Text) : Option (Text × Text) :=
  ((cut? ':' t).filter fun (name, _) => isName name).map fun (name, value) => (name, Text.trim value)

/-- Adds one line to a block, if it has a place there. -/
def addLine? (h : Headers) (l : Line) : Option Headers :=
  if isContinuation l.text then
    if h.fields = [] then none else some (h.extendLast (Text.trim l.text))
  else
    (field? l.text).map fun (name, value) => h.add name value l.number

/-- Adds `lines` to the block `h`; `last` is the line read before. -/
def readFrom (strict : Bool) (h : Headers) (last : Nat) :
    List Line → Except Rejection (Headers × List Line)
  | [] => if strict then Cause.unterminatedHeaders.at last else .ok (h, [])
  | l :: lines =>
    if l.isBlank then .ok (h, lines)
    else if (after? "--".toList l.text).isSome then
      (Cause.unexpectedDelimiter (Text.trimEnd l.text)).at l.number
    else
      match addLine? h l with
      | some h => readFrom strict h l.number lines
      | none =>
        if strict then (Cause.malformedHeader (Text.trimEnd l.text)).at l.number
        else readFrom strict h l.number lines

/-- The block that `lines` begin with and the lines after it.  A block without lines is placed at
`context`. -/
def read (strict : Bool) (context : Nat) (lines : List Line) :
    Except Rejection (Headers × List Line) :=
  readFrom strict (.atLine (Line.firstNumber context lines)) context lines

end BatchExchange.HeaderBlock
