import BatchExchange.Response
import BatchExchange.Target

/-!
# References between the members of a change set

A member may name the resource that an earlier member made: `$` and the Content-ID of that member, as the
first segment of the path or anywhere in the body.  A table holds the location of each such resource; the
first location recorded for a Content-ID stays.  Expanding a request puts locations in the place of the
references that the table knows.
-/

namespace BatchExchange

/-- Locations by Content-ID, in the order they were recorded. -/
structure ReferenceTable where
  entries : List (Text × Text) := []
  distinct : (entries.map Prod.fst).Nodup := by simp
deriving DecidableEq, Repr

namespace ReferenceTable

def get? (table : ReferenceTable) (id : Text) : Option Text := table.entries.lookup id

/-- Records a location, unless there is one already. -/
def record (table : ReferenceTable) (id location : Text) : ReferenceTable :=
  if h : id ∈ table.entries.map Prod.fst then table
  else {
    entries := table.entries ++ [(id, location)]
    distinct := by
      rw [List.map_append, List.nodup_append]
      refine ⟨table.distinct, by simp, ?_⟩
      intro a ha b hb e
      simp only [List.map_cons, List.map_nil, List.mem_singleton] at hb
      exact h (hb ▸ e ▸ ha) }

/-- Where the resource of an answered request is: a created one at the location its response names, any
other at its own path. -/
def location? (request : Request) (response : Response) : Option Text :=
  if request.method = .post then
    (response.headers.value? HeaderName.location).or (response.headers.value? HeaderName.entityId)
  else if request.path = [] then none
  else some request.path

/-- Records where the resource of an answered request is, if it was not refused and has a Content-ID. -/
def learn (table : ReferenceTable) (request : Request) (response : Response) : ReferenceTable :=
  if 400 ≤ response.status then table
  else match request.contentId?, location? request response with
    | some id, some location => table.record id location
    | _, _ => table

end ReferenceTable

namespace Reference

/-- The characters of a Content-ID that can be referred to. -/
def isIdChar (c : Char) : Bool := c.isAlphanum || c ∈ "._~-".toList

/-- A piece of a body: a character on its own, or `$` with the longest run of `isIdChar` behind it. -/
inductive Piece where
  | plain (c : Char)
  | token (id : Text)
deriving DecidableEq, Repr

/-- The pieces of a text. -/
def pieces : Text → List Piece
  | [] => []
  | c :: t =>
    if c = '$' ∧ t.takeWhile isIdChar ≠ [] then
      .token (t.takeWhile isIdChar) :: pieces (t.dropWhile isIdChar)
    else .plain c :: pieces t
termination_by t => t.length
decreasing_by
  · exact Nat.lt_succ_of_le (List.dropWhile_sublist _).length_le
  · exact Nat.lt_succ_self _

namespace Piece

def text : Piece → Text
  | plain c => [c]
  | token id => '$' :: id

/-- What stands in the place of a piece, if it is a known reference.  Periods at the end of a token that is
not known itself belong to the sentence. -/
def resolve? (table : ReferenceTable) : Piece → Option Text
  | plain _ => none
  | token id =>
    match table.get? id with
    | some location => some location
    | none =>
      let stem := dropTail (· = '.') id
      if stem = [] ∨ stem.length = id.length then none
      else (table.get? stem).map (· ++ id.drop stem.length)

def expand (table : ReferenceTable) (p : Piece) : Text := (p.resolve? table).getD p.text

end Piece

/-- The path of a location within the service of `base`, or else the location as a path. -/
def relativeTo (base location : Text) : Text :=
  let base := Target.trimSlashes base
  let path := if base = [] then location else (after? base location).getD location
  if path.head? = some '/' then path else '/' :: path

/-- The first segment of a path and what follows it. -/
def cutSegment (path : Text) : Text × Text :=
  let path := path.dropWhile (· = '/')
  (path.takeWhile (· ≠ '/'), path.dropWhile (· ≠ '/'))

end Reference

namespace Request

open Reference

/-- The location that the first segment of the path refers to, and the rest of the path. -/
def pathReference? (table : ReferenceTable) (r : Request) : Option (Text × Text) :=
  let (segment, rest) := cutSegment r.path
  ((after? ['$'] segment).bind table.get?).map fun location => (location, rest)

/-- Replaces a reference at the head of the path. -/
def expandPath (table : ReferenceTable) (r : Request) : Request :=
  match r.pathReference? table with
  | none => r
  | some (location, rest) => refresh { r with path := relativeTo r.base location ++ rest }

/-- The body with its references replaced, if it is text and has one that is known. -/
def expandedBody? (table : ReferenceTable) (r : Request) : Option Bytes :=
  match (Utf8.decode? r.body).map pieces with
  | none => none
  | some ps =>
    if ps.any fun p => (p.resolve? table).isSome then
      some (Utf8.encode (ps.flatMap (Piece.expand table)))
    else none

/-- Replaces the references in the body, and keeps a content length right. -/
def expandBody (table : ReferenceTable) (r : Request) : Request :=
  match r.expandedBody? table with
  | none => r
  | some body =>
    { r with
      body
      headers :=
        if r.headers.contains HeaderName.contentLength then
          r.headers.set HeaderName.contentLength (Decimal.write body.length)
        else r.headers }

/-- Replaces all references that the table knows. -/
def expand (table : ReferenceTable) (r : Request) : Request :=
  if table.entries = [] then r else (r.expandPath table).expandBody table

end Request

end BatchExchange
