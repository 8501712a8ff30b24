import BatchExchange.Rejection
import BatchExchange.Url

/-!
# Request targets

A target is an absolute URL of the service, a path that begins with the path of the service root, or a
path relative to the root.  Resolving it gives the root, the resource path within it and the query.  How
addresses are read is left to a reader of them, `parse`, which is `Url.parse?` unless another one is named.
-/

namespace BatchExchange

structure Target where
  /-- The service root, without slashes at the end. -/
  base : Text
  /-- The resource path, which begins with a slash unless it is empty. -/
  path : Text
  query : Text
deriving DecidableEq, Repr

namespace Target

def trimSlashes (t : Text) : Text := dropTail (· = '/') t

def withSlash (path : Text) : Text :=
  if path = [] ∨ path.head? = some '/' then path else '/' :: path

/-- Splits at the first question mark. -/
def cutQuery (t : Text) : Text × Text := (cut? '?' t).getD (t, [])

/-- Whether a text contains `://`. -/
def isAbsolute : Text → Bool
  | [] => false
  | c :: t => (after? "://".toList (c :: t)).isSome || isAbsolute t

/-- What follows `root` in `path`, if a segment of `path` ends there. -/
def within? (root path : Text) : Option Text :=
  (after? root path).filter fun rest => rest = [] ∨ rest.head? = some '/'

/-- The resource path that `path` names under `base`, which has no slash at the end.  `whole` is the text
that a refusal quotes. -/
def resourcePath (parse : Text → Option Url) (whole base path : Text) : Except Rejection Text :=
  let foreign (t : Text) : Except Rejection Text := (Cause.foreignTarget t).anywhere
  if isAbsolute path then
    match parse path with
    | none => foreign whole
    | some url =>
      if base = [] then .ok url.path
      else match within? base path with
        | none => foreign whole
        | some rest => .ok rest
  else if path.head? = some '/' then
    match if base = [] then some [] else (parse base).map fun url => trimSlashes url.path with
    | none => foreign base
    | some root =>
      match within? root path with
      | none => foreign whole
      | some rest => .ok rest
  else .ok (withSlash path)

def resolve (target base : Text) (parse : Text → Option Url := Url.parse?) : Except Rejection Target := do
  let base := trimSlashes base
  let (path, query) := cutQuery target
  return { base, path := ← resourcePath parse target base path, query }

end Target

end BatchExchange
