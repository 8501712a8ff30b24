import BatchExchange.Url.Percent

/-!
# Paths

A path is read segment by segment.  A single dot is dropped and a double dot takes the segment before with
it, each leaving an empty segment where it stands last; a drive letter is never taken away.  The path of a
file may begin with a drive letter, which gets a segment of its own.
-/

namespace BatchExchange.Url.Path

/-- Tabs and line ends, which do not belong to what they stand in. -/
def isBreak (c : Char) : Bool := c ∈ ['\t', '\n', '\r']

def dropBreaks (t : Text) : Text := t.filter (!isBreak ·)

theorem dropBreaks_eq_self {t : Text} (h : ∀ c ∈ t, isBreak c = false) : dropBreaks t = t :=
  List.filter_eq_self.2 fun c hc => by simp [h c hc]

def isSingleDot (s : Text) : Bool := s.foldCase ∈ [".".toList, "%2e".toList]

def isDoubleDot (s : Text) : Bool :=
  s.foldCase ∈ ["..".toList, ".%2e".toList, "%2e.".toList, "%2e%2e".toList]

def isDrive : Text → Bool
  | [letter, c] => letter.isAlpha && (c = ':' || c = '|')
  | _ => false

/-- A drive letter and what follows it, if a break stands between them. -/
def cutDrive? (segment : Text) : Option (Text × Text) :=
  match segment.dropWhile isBreak with
  | [] => none
  | letter :: t =>
    match t.dropWhile isBreak with
    | ':' :: c :: t =>
      if letter.isAlpha && isBreak c && dropBreaks t ≠ [] then some ([letter, ':'], dropBreaks t)
      else none
    | _ => none

/-- Takes the last segment away, unless it is a drive letter. -/
def shorten (segments : List Text) : List Text :=
  if segments.getLast?.any isDrive then segments else segments.dropLast

def encode (segment : Text) : Text := Percent.encode Percent.isPathEscaped segment

/-- The segments that the first segment of a file's path makes: a drive letter gets its colon, and a break
behind it ends it. -/
def first (segment : Text) : List Text :=
  if isDrive (dropBreaks segment) then [(dropBreaks segment).take 1 ++ [':']]
  else
    match cutDrive? segment with
    | some (drive, rest) => [drive, encode rest]
    | none => [encode (dropBreaks segment)]

/-- The segments that a path has after `rest` is read behind `done`. -/
def resolve (file : Bool) (done : List Text) : List Text → List Text
  | [] => done
  | segment :: rest =>
    let stop : List Text := if rest = [] then [[]] else []
    if isDoubleDot (dropBreaks segment) then resolve file (shorten done ++ stop) rest
    else if isSingleDot (dropBreaks segment) then resolve file (done ++ stop) rest
    else if file ∧ done = [] then resolve file (first segment) rest
    else resolve file (done ++ [encode (dropBreaks segment)]) rest

/-- Each segment behind a slash. -/
def render (segments : List Text) : Text := segments.flatMap ('/' :: ·)

/-- Splits at slashes and, where `special`, at backslashes too; a first slash opens the path. -/
def segments (special : Bool) (t : Text) : List Text :=
  let isSlash (c : Char) : Bool := c = '/' || (special && c = '\\')
  match (t.dropWhile isBreak).splitOnP isSlash with
  | [] :: first :: rest => first :: rest
  | parts => parts

/-- The path that a text writes. -/
def read (special : Bool) (t : Text) : Text := render (resolve false [] (segments special t))

/-- The path that a text writes for a file, in which no empty segment comes first. -/
def readFile (t : Text) : Text :=
  '/' :: (render (resolve true [] (segments true t))).dropWhile (· = '/')

end BatchExchange.Url.Path
