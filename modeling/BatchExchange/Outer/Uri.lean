import BatchExchange.Text.Utf8

/-!
# URIs of outer requests

What an HTTP request names as its target: a path with or without query, an authority alone, an asterisk,
or all of it behind a scheme.
-/

namespace BatchExchange.Outer

structure Uri where
  scheme : Option Text := none
  authority : Option Text := none
  path : Text := []
deriving DecidableEq, Repr

namespace Uri

/-- Characters of an authority that have no meaning there. -/
def isAuthorityChar (c : Char) : Bool := c.isAlphanum || c ∈ "!$&'()*+,-.;=_~".toList

/-- What is known of an authority as far as it is read: colons and percent signs since the last `@` or
bracket, whether brackets were opened and closed, and whether an `@` stands last. -/
structure AuthorityState where
  colons : Nat := 0
  opened : Bool := false
  closed : Bool := false
  percent : Bool := false
  atEnd : Bool := false

namespace AuthorityState

def step (s : AuthorityState) (c : Char) : Option AuthorityState :=
  let s := { s with atEnd := false }
  if c = ':' then if 8 ≤ s.colons then none else some { s with colons := s.colons + 1 }
  else if c = '[' then if s.percent || s.opened then none else some { s with opened := true }
  else if c = ']' then
    if !s.opened || s.closed then none
    else some { s with closed := true, colons := 0, percent := false }
  else if c = '@' then some { s with colons := 0, percent := false, atEnd := true }
  else if c = '%' then some { s with percent := true }
  else if isAuthorityChar c then some s
  else none

/-- Whether an authority may end here. -/
def isFinal (s : AuthorityState) : Bool :=
  s.opened == s.closed && s.colons ≤ 1 && !s.percent && !s.atEnd

end AuthorityState

/-- Splits off the authority that a text begins with, if it is well formed. -/
def cutAuthority? (t : Text) : Option (Text × Text) := do
  let inside (c : Char) : Bool := c ≠ '/' && c ≠ '?' && c ≠ '#'
  let authority := t.takeWhile inside
  let s ← authority.foldlM AuthorityState.step {}
  if s.isFinal then some (authority, t.dropWhile inside) else none

def isPathChar (c : Char) : Bool :=
  let n := c.toNat
  n == 0x21 || (0x24 ≤ n && n ≤ 0x3B) || n == 0x3D || (0x40 ≤ n && n ≤ 0x5F)
    || (0x61 ≤ n && n ≤ 0x7A) || n == 0x7C || 0x7E ≤ n || c ∈ "\"\x7b\x7d".toList

def isQueryChar (c : Char) : Bool :=
  let n := c.toNat
  n == 0x21 || (0x24 ≤ n && n ≤ 0x3B) || n == 0x3D || 0x3F ≤ n

/-- The path of a text that may have a query and a fragment behind it. -/
def path? (t : Text) : Option Text :=
  let t := t.takeWhile (· ≠ '#')
  let path := t.takeWhile (· ≠ '?')
  let query := (t.dropWhile (· ≠ '?')).drop 1
  if path.all isPathChar && query.all isQueryChar then some path else none

/-- The scheme that a text begins with, and what follows its two slashes.  The well-known schemes are
written in lower case. -/
def cutScheme? (t : Text) : Option (Text × Text) := do
  let (scheme, rest) ← cut? ':' t
  let rest ← after? "//".toList rest
  if Text.foldCase scheme ∈ ["http".toList, "https".toList] then some (Text.foldCase scheme, rest)
  else if scheme.all fun c => c.isAlphanum || c ∈ "+-.~".toList then some (scheme, rest)
  else none

/-- Reads a request target. -/
def parse? (t : Text) : Option Uri :=
  if t = [] ∨ 65534 < (Utf8.encode t).length then none
  else if t = ['*'] then some { path := t }
  else if t.head? = some '/' then (path? t).map fun path => { path := path }
  else match cutScheme? t with
    | none =>
      match cutAuthority? t with
      | some (authority, []) => some { authority := some authority }
      | _ => none
    | some (scheme, rest) => do
      if 64 < scheme.length then none
      let (authority, rest) ← cutAuthority? rest
      if authority = [] then none
      let path ← path? rest
      some { scheme := some scheme, authority := some authority, path := if path = [] then ['/'] else path }

end Uri

end BatchExchange.Outer
