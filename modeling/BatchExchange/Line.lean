import BatchExchange.Text.Utf8

/-!
# Lines

A body is a sequence of lines, each with the terminator it was read with, so that the lines together are
the body again.  `\r\n`, `\n` and a bare `\r` end a line.
-/

namespace BatchExchange

/-- How a line ends; `missing` marks a last line without terminator. -/
inductive Ending where
  | crlf
  | lf
  | cr
  | missing
deriving DecidableEq, Repr

namespace Ending

def octets : Ending → Bytes
  | crlf => [13, 10]
  | lf => [10]
  | cr => [13]
  | missing => []

@[simp] theorem octets_crlf : crlf.octets = [13, 10] := rfl

@[simp] theorem octets_lf : lf.octets = [10] := rfl

@[simp] theorem octets_cr : cr.octets = [13] := rfl

@[simp] theorem octets_missing : missing.octets = [] := rfl

end Ending

/-- A line with its terminator and its place in the body, counted from one. -/
structure Line where
  content : Bytes
  ending : Ending
  number : Nat
deriving DecidableEq, Repr

namespace Line

def octets (l : Line) : Bytes := l.content ++ l.ending.octets

def text (l : Line) : Text := Utf8.decode l.content

/-- White space of ASCII, without the vertical tab. -/
def isSpace (b : UInt8) : Bool := b == 32 || b == 9 || b == 10 || b == 12 || b == 13

/-- Whether the content is empty or ASCII white space. -/
def isBlank (l : Line) : Bool := l.content.all isSpace

def withoutEnding (l : Line) : Line := { l with ending := .missing }

/-- The contents and terminators in `bytes`. -/
def split : Bytes → List (Bytes × Ending)
  | [] => []
  | 10 :: bytes => ([], .lf) :: split bytes
  | 13 :: 10 :: bytes => ([], .crlf) :: split bytes
  | 13 :: bytes => ([], .cr) :: split bytes
  | b :: bytes =>
    match split bytes with
    | [] => [([b], .missing)]
    | (content, ending) :: lines => (b :: content, ending) :: lines

/-- Numbers lines from `n`. -/
def numberFrom (n : Nat) : List (Bytes × Ending) → List Line
  | [] => []
  | (content, ending) :: lines => ⟨content, ending, n⟩ :: numberFrom (n + 1) lines

/-- The lines of a body. -/
def readAll (bytes : Bytes) : List Line := numberFrom 1 (split bytes)

/-- The number of the first line, or `default` if there is none. -/
def firstNumber (default : Nat) (lines : List Line) : Nat := (lines.head?.map number).getD default

/-- The number of the last line, or `default` if there is none. -/
def lastNumber (default : Nat) (lines : List Line) : Nat := (lines.getLast?.map number).getD default

/-- The body that consists of `lines`. -/
def join (lines : List Line) : Bytes := lines.flatMap octets

@[simp] theorem join_nil : join [] = [] := rfl

@[simp] theorem join_cons (l : Line) (lines : List Line) :
    join (l :: lines) = l.octets ++ join lines := rfl

@[simp] theorem join_append (s t : List Line) : join (s ++ t) = join s ++ join t := by
  simp [join]

theorem join_numberFrom (n : Nat) (s : List (Bytes × Ending)) :
    join (numberFrom n s) = s.flatMap fun (content, ending) => content ++ ending.octets := by
  induction s generalizing n with
  | nil => rfl
  | cons p s ih => simp [numberFrom, ih, octets]

/-- Reading loses nothing. -/
@[simp] theorem join_readAll (bytes : Bytes) : join (readAll bytes) = bytes := by
  rw [readAll, join_numberFrom]
  fun_induction split bytes with
  | case1 => rfl
  | case2 bytes ih => simp [ih]
  | case3 bytes ih => simp [ih]
  | case4 bytes _ ih => simp [ih]
  | case5 b bytes _ _ _ h ih => simp [h] at ih; simp [← ih]
  | case6 b bytes _ _ _ content ending lines h ih => simp [h] at ih; simp [← ih]

end Line

end BatchExchange
