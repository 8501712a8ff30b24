import BatchExchange.Url.Host
import BatchExchange.Url.Path

/-!
# Absolute URLs

Reads an absolute URL as browsers do and keeps what the service needs of it, the scheme and the path.
The special schemes have a host, take backslashes for slashes and have a path that is never empty.
-/

namespace BatchExchange

structure Url where
  scheme : Text
  path : Text
deriving DecidableEq, Repr

namespace Url

/-- How a scheme is read. -/
inductive Kind where
  | file
  | special
  | general
deriving DecidableEq, Repr

def Kind.ofScheme (scheme : Text) : Kind :=
  if scheme = "file".toList then .file
  else if scheme ∈ ["http", "https", "ws", "wss", "ftp"].map String.toList then .special
  else .general

/-- Whether a character ends a segment, given that backslashes do or do not. -/
def isSlash (special : Bool) (c : Char) : Bool := c = '/' || (special && c = '\\')

/-- Whether a character ends what stands in front of the path. -/
def endsAuthority (special : Bool) (c : Char) : Bool := isSlash special c || c = '?' || c = '#'

/-- Drops spaces and controls around a text. -/
def trimControls (t : Text) : Text := dropTail (·.toNat ≤ 0x20) (t.dropWhile (·.toNat ≤ 0x20))

/-- The scheme in lower case and what follows its colon. -/
def scheme? (t : Text) : Option (Text × Text) := do
  let (scheme, rest) ← cut? ':' t
  let scheme := Path.dropBreaks scheme
  if scheme.head?.any Char.isAlpha && scheme.all fun c => c.isAlphanum || c ∈ ['+', '-', '.'] then
    some (Text.foldCase scheme, rest)
  else none

/-- The part of a text in front of query and fragment. -/
def pathPart (t : Text) : Text := t.takeWhile fun c => c ≠ '?' && c ≠ '#'

/-- Drops user name and password, and says whether there was either. -/
def dropUser? (special : Bool) (t : Text) : Option (Bool × Text) :=
  let authority := t.takeWhile (!endsAuthority special ·)
  let rest := t.dropWhile (!endsAuthority special ·)
  match cut? '@' authority.reverse with
  | none => some (false, t)
  | some (host, user) =>
    if user = [] ∧ host = [] ∧ rest ≠ [] then none
    else some (user ≠ [] && user ≠ [':'], host.reverse ++ rest)

/-- The length of the host that a text begins with; colons in brackets belong to it. -/
def hostLength (special : Bool) (inBrackets : Bool) : Text → Nat
  | [] => 0
  | c :: t =>
    if endsAuthority special c || (c = ':' && !inBrackets) then 0
    else hostLength special (if c = '[' then true else if c = ']' then false else inBrackets) t + 1

/-- Drops a colon and a number of sixteen bits behind it, which may be left out. -/
def dropNumber? (t : Text) : Option Text :=
  match after? [':'] t with
  | none => some t
  | some t =>
    let rest := t.dropWhile Char.isDigit
    if rest.head?.all (fun c => endsAuthority true c)
        && (Hexadecimal.readBase 10 0 (t.takeWhile Char.isDigit)).any (· ≤ 65535) then
      some rest
    else none

/-- What follows user, host and number behind the two slashes, if they are well formed. -/
def dropAuthority? (special : Bool) (t : Text) : Option Text := do
  let (hasUser, t) ← dropUser? special t
  let n := hostLength special false t
  let host := t.take n
  let rest := t.drop n
  if host = [] then
    if special || hasUser || rest.head? = some ':' then none else dropNumber? rest
  else if if special then Host.isDomain host else Host.isOpaque host then dropNumber? rest
  else none

/-- What follows the slash that a text begins with, breaks apart. -/
def afterSlash? (t : Text) : Option Text :=
  match t.dropWhile Path.isBreak with
  | [] => none
  | c :: rest => if isSlash true c then some rest else none

/-- The path behind the scheme of a file, with the breaks that the text has.  A drive letter may stand in
place of the host; where there is no other host than the local one, an empty segment leads the path. -/
def filePath? (t : Text) : Option Text :=
  match (afterSlash? t).bind afterSlash? with
  | none => some (Path.readFile (pathPart t))
  | some t =>
    let host := Path.dropBreaks (t.takeWhile (!endsAuthority true ·))
    let path := pathPart (t.dropWhile (!endsAuthority true ·))
    if Path.isDrive host then some (Path.readFile (pathPart t))
    else if host = [] || Host.isLocal host then some (Path.readFile ('/' :: path))
    else if Host.isDomain host then some (Path.readFile path)
    else none

/-- The path behind a scheme without rules of its own: a text that does not begin with a slash is taken as
it is. -/
def generalPath? (t : Text) : Option Text :=
  match after? "//".toList t with
  | some t => do
    let rest ← dropAuthority? false t
    let path := pathPart rest
    if path = [] then some [] else some (Path.read false path)
  | none =>
    if t.head? = some '/' then some (Path.read false (pathPart t))
    else some (Percent.encode Percent.isControl (pathPart t))

/-- Reads an absolute URL. -/
def parse? (t : Text) : Option Url := do
  let (scheme, rest) ← scheme? (trimControls t)
  let path ← match Kind.ofScheme scheme with
    | .file => filePath? rest
    | .special => do
      let rest ← dropAuthority? true ((Path.dropBreaks rest).dropWhile (isSlash true))
      some (Path.read true (pathPart rest))
    | .general => generalPath? (Path.dropBreaks rest)
  some { scheme, path }

end Url

end BatchExchange
