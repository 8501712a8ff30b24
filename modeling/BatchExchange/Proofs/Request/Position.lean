import BatchExchange.Proofs.Outcome
import BatchExchange.Proofs.Position
import BatchExchange.Request.Batch

/-!
# Where batches are refused

The lines that a part was read from are a region, and accepting the part stays within it: each check refuses at
a field, at the start of a header block, at a request line, or without a line of its own, and then takes one of
these.  For a part between two delimiters the region is what stands between them.  A part without lines has no
such region, and is refused at line one wherever it is.

* `Acceptance.part_within`, `Request.readPart_within`: a part is refused within its region.
* `Request.readBatch_within`: a batch is refused at one of its lines.
* `Request.refused_between_delimiters`: the place of a refused part among the delimiters.
-/

namespace BatchExchange

open Outcome (Within within_at within_ite_bind within_mapM within_mapError)

variable {region : Set Nat}

/-! ### Request lines -/

/-- A target that is refused has no line of its own. -/
theorem Target.line_of_resolve {target base : Text} {parse : Text → Option Url} {r : Rejection}
    (h : resolve target base parse = .error r) : r.line = none := by
  rw [resolve] at h
  dsimp only at h
  cases hpath : resourcePath parse target (trimSlashes base) (cutQuery target).1 with
  | ok path =>
    rw [hpath] at h
    cases h
  | error r' =>
    rw [hpath] at h
    cases h
    rw [resourcePath] at hpath
    dsimp only at hpath
    repeat' split at hpath
    all_goals cases hpath
    all_goals rfl

theorem RequestLine.read_within {l : Line} (hl : l.number ∈ region) :
    Within region (fun line => line.line ∈ region) (read l) := by
  rw [read]
  split
  · split
    · exact within_at hl
    split
    · exact hl
    · exact within_at hl
  · exact within_at hl

theorem RequestLine.checkInChangeSet_within {line : RequestLine} (hl : line.line ∈ region) :
    Within region (fun _ => True) line.checkInChangeSet := by
  rw [checkInChangeSet]
  split
  · exact within_at hl
  · trivial

namespace Acceptance

/-! ### Header blocks -/

section Headers

variable {h : Headers} (hh : h.PlacedIn region)

include hh

theorem checkContentType_within (expected : Text → Bool) :
    Within region (fun _ => True) (checkContentType expected h) := by
  rw [checkContentType]
  split
  · exact within_at hh.start
  · rename_i f hf
    split
    · trivial
    · exact within_at (hh.line_of_get? hf)

theorem checkTransferEncoding_within : Within region (fun _ => True) (checkTransferEncoding h) := by
  rw [checkTransferEncoding]
  split
  · exact within_at hh.start
  · rename_i f hf
    split
    · trivial
    · exact within_at (hh.line_of_get? hf)

theorem checkForbidden_within : Within region (fun _ => True) (checkForbidden h) := by
  rw [checkForbidden]
  split
  · trivial
  · rename_i f hf
    obtain ⟨name, -, hname⟩ := List.exists_of_findSome?_eq_some hf
    exact within_at (hh.line_of_get? hname)

theorem contentIdField_within :
    Within region (fun found => ∀ p ∈ found, p.1.line ∈ region) (contentIdField h) := by
  rw [contentIdField]
  split
  · intro p hp
    cases hp
  · rename_i f hf
    have hline := hh.line_of_get? hf
    split
    · intro p hp
      obtain rfl := Option.mem_some_iff.1 hp
      exact hline
    · exact within_at hline

theorem bodyOctets_within (lines : List Line) : Within region (fun _ => True) (bodyOctets h lines) := by
  rw [bodyOctets]
  split
  · trivial
  · rename_i f hf
    have hline := hh.line_of_get? hf
    split
    · exact within_at hline
    · split
      · exact within_at hline
      · trivial

end Headers

/-! ### Operations and parts -/

theorem request_within {op : Operation} (hop : op.PlacedIn region) (options : Options) (member : Bool) :
    Within region (fun _ => True) (request options member op) := by
  refine (RequestLine.read_within hop.requestLine).bind fun line hline => ?_
  refine within_ite_bind (fun _ => RequestLine.checkInChangeSet_within hline) ?_
  refine (within_mapError (fun _ => Target.line_of_resolve) hline).bind fun target _ => ?_
  refine (checkForbidden_within hop.headers).bind fun _ _ => ?_
  split
  · split
    · exact within_at hline
    · trivial
  · exact (bodyOctets_within hop.headers op.body).bind fun _ _ => trivial

theorem withPartId_within {e : Embedded} (he : e.PlacedIn region) :
    Within region (Operation.PlacedIn region) (withPartId e) := by
  refine (contentIdField_within he.mime).bind fun found hfound => ?_
  split
  · exact he.operation
  · rename_i f id
    refine (contentIdField_within he.operation.headers).bind fun own _ => ?_
    split
    · exact he.operation
    · exact ⟨he.operation.requestLine, he.operation.headers.put (hfound (f, id) rfl)⟩

theorem withMemberId_within {e : Embedded} (he : e.PlacedIn region) :
    Within region (fun p => p.2.1 ∈ region ∧ p.2.2.PlacedIn region) (withMemberId e) := by
  refine (contentIdField_within he.mime).bind fun found hfound => ?_
  split
  · rename_i f id
    have hline : f.line ∈ region := hfound (f, id) rfl
    exact ⟨hline, he.operation.requestLine, he.operation.headers.put hline⟩
  · refine (contentIdField_within he.operation.headers).bind fun own hown => ?_
    split
    · rename_i f id
      exact ⟨hown (f, id) rfl, he.operation⟩
    · exact within_at he.mime.start

theorem members_within {es : List Embedded} (hes : ∀ e ∈ es, e.PlacedIn region) (options : Options)
    (seen : List Text) : Within region (fun _ => True) (members options seen es) := by
  induction es generalizing seen with
  | nil => trivial
  | cons e es ih =>
    rw [List.forall_mem_cons] at hes
    rw [members]
    refine (checkContentType_within hes.1.mime _).bind fun _ _ => ?_
    refine (checkTransferEncoding_within hes.1.mime).bind fun _ _ => ?_
    refine (withMemberId_within hes.1).bind fun p ⟨hline, hop⟩ => ?_
    dsimp only
    refine within_ite_bind (fun _ => within_at hline) ?_
    refine (request_within hop options true).bind fun _ _ => ?_
    exact (ih hes.2 _).bind fun _ _ => trivial

/-- **A part is refused within the region that it was read from.** -/
theorem part_within {part : BodyPart} (hpart : part.PlacedIn region) (options : Options) :
    Within region (fun _ => True) (Acceptance.part options part) := by
  cases part with
  | single e =>
    refine (checkContentType_within hpart.mime _).bind fun _ _ => ?_
    refine (checkTransferEncoding_within hpart.mime).bind fun _ _ => ?_
    refine (withPartId_within hpart).bind fun op hop => ?_
    exact (request_within hop options false).bind fun _ _ => trivial
  | changeSet mime boundary es =>
    refine (checkContentType_within hpart.1 _).bind fun _ _ => ?_
    exact (members_within hpart.2 options []).bind fun _ _ => trivial

end Acceptance

/-! ### Batches -/

namespace Request

/-- **A part is refused at one of its lines**, or at the place that stands in for them. -/
theorem readPart_within {lines : List Line} (hfirst : Line.firstNumber 1 lines ∈ region)
    (hlines : ∀ l ∈ lines, l.number ∈ region) (options : Options) :
    Within region (fun _ => True) (readPart options lines) :=
  (BodyPart.read_within hfirst hlines options.strict).bind fun _ hpart =>
    Acceptance.part_within hpart options

theorem readBatch_within {body : Bytes} (hone : 1 ∈ region)
    (hlines : ∀ l ∈ Line.readAll body, l.number ∈ region) {boundary : Text}
    (hb : Boundary.isValid boundary) (options : Options) :
    Within region (fun _ => True) (readBatch options boundary body) := by
  rw [readBatch, Boundary.check_eq_ok_iff.2 hb]
  refine (Segment.ofLines_within hone hlines boundary).bind fun segments hsegments => ?_
  refine (within_mapM (Q := fun _ => True) fun segment hs => ?_).bind fun parts _ => ?_
  · have hplaced := hsegments segment hs
    exact readPart_within (Line.firstNumber_mem hone hplaced) hplaced options
  · refine within_ite_bind (fun _ => within_at ?_) trivial
    -- the first delimiter is a line, and `1` stands in for it
    rw [Segment.firstDelimiter?]
    cases hfind : (Line.readAll body).find? (Line.delimits boundary) with
    | none => exact hone
    | some l => exact hlines l (List.mem_of_find?_eq_some hfind)

/-- **A batch is refused for its first part that is.** -/
theorem readBatch_eq_error {options : Options} {boundary : Text} {body : Bytes} {before after : List (List Line)}
    {lines : List Line} {r : Rejection} (hboundary : Boundary.isValid boundary)
    (hsegments : Segment.ofLines boundary 1 (Line.readAll body) = .ok (before ++ lines :: after))
    (hbefore : ∀ earlier ∈ before, ∃ p, readPart options earlier = .ok p)
    (hrefused : readPart options lines = .error r) : readBatch options boundary body = .error r := by
  have hparts : (before ++ lines :: after).mapM (readPart options) = .error r :=
    Outcome.mapM_eq_error hbefore hrefused
  rw [readBatch, Boundary.check_eq_ok_iff.2 hboundary]
  dsimp only
  rw [hsegments]
  show (before ++ lines :: after).mapM (readPart options) >>= _ = _
  rw [hparts]
  rfl

/-- **The place of a refused part among the delimiters.**  If all parts in front of the `k`-th are accepted and
the `k`-th is refused, then so is the batch.  The line of the rejection is strictly between the delimiter in
front of the part and the next one if the part has lines, and line one if it has none. -/
theorem refused_between_delimiters {options : Options} {boundary : Text} {body : Bytes}
    {segments : List (List Line)} {k : Nat} {lines : List Line} {r : Rejection}
    (hboundary : Boundary.isValid boundary)
    (hsegments : Segment.ofLines boundary 1 (Line.readAll body) = .ok segments)
    (hk : segments[k]? = some lines)
    (hbefore : ∀ earlier ∈ segments.take k, ∃ p, readPart options earlier = .ok p)
    (hrefused : readPart options lines = .error r) :
    readBatch options boundary body = .error r ∧
      ∃ opening ending n, (Segment.delimiters boundary (Line.readAll body))[k]? = some opening ∧
        (Segment.delimiters boundary (Line.readAll body))[k + 1]? = some ending ∧ r.line = some n ∧
        (lines ≠ [] → opening.number < n ∧ n < ending.number) ∧ (lines = [] → n = 1) := by
  obtain ⟨before, opening, inner, ending, after, hbody, hinner, hopening, hending⟩ :=
    Segment.exists_between hsegments hk
  obtain ⟨front, rest, rfl, rfl⟩ := Segment.exists_eq_append_of_getElem? hk
  rw [List.take_left] at hbefore
  refine ⟨readBatch_eq_error hboundary hsegments hbefore hrefused, opening, ending, ?_⟩
  cases lines with
  | nil =>
    have hfirst : Line.firstNumber 1 [] ∈ ({1} : Set Nat) := rfl
    obtain ⟨n, rfl, hn⟩ :=
      (readPart_within hfirst (fun _ hl => absurd hl List.not_mem_nil) options).pointsInto hrefused
    exact ⟨1, hopening, hending, hn, fun hlines => absurd rfl hlines, fun _ => rfl⟩
  | cons l lines =>
    have hplaced : ∀ m ∈ l :: lines, m.number ∈ Set.Ioo opening.number ending.number := by
      intro m hm
      rw [hinner] at hm
      -- only the ending of the last line is another one
      obtain ⟨m', hm', -, hnumber⟩ := Segment.exists_of_mem_trimEnding hm
      rw [hnumber]
      exact Line.number_mem_of_between hbody m' hm'
    obtain ⟨n, hbetween, hn⟩ :=
      (readPart_within (hplaced l List.mem_cons_self) hplaced options).pointsInto hrefused
    exact ⟨n, hopening, hending, hn, fun _ => hbetween, fun hlines => (nomatch hlines)⟩

/-- A query, and a change set whose member has no Content-ID: it is refused where the headers of the member
start, between the delimiters on the lines 8 and 19. -/
theorem refused_between_delimiters_member :
    let mime : Text := "Content-Type: application/http\r\nContent-Transfer-Encoding: binary\r\n\r\n".toList
    let body : Bytes := Utf8.encode ("--b\r\n".toList ++ mime ++ "GET Items HTTP/1.1\r\n\r\n\r\n".toList
      ++ "--b\r\nContent-Type: multipart/mixed; boundary=c\r\n\r\n--c\r\n".toList ++ mime
      ++ "POST Items HTTP/1.1\r\n\r\n\r\n--c--\r\n--b--\r\n".toList)
    let query := Segment.trimEnding (((Line.readAll body).take 7).drop 1)
    let set := Segment.trimEnding (((Line.readAll body).take 18).drop 8)
    let delimiters := Segment.delimiters "b".toList (Line.readAll body)
    Segment.ofLines "b".toList 1 (Line.readAll body) = .ok [query, set] ∧ (readPart {} query).isOk ∧
      readPart {} set = .error ⟨.missingContentId, some 12⟩ ∧
      delimiters.map Line.number = [1, 8, 19] ∧
      readBatch {} "b".toList body = .error ⟨.missingContentId, some 12⟩ ∧
      ∃ opening ending, delimiters[1]? = some opening ∧ delimiters[2]? = some ending ∧
        opening.number < 12 ∧ 12 < ending.number := by
  intro mime body query set delimiters
  have hsegments : Segment.ofLines "b".toList 1 (Line.readAll body) = .ok [query, set] := by decide +kernel
  have haccepted : (readPart {} query).isOk := by decide +kernel
  have hrefused : readPart {} set = .error ⟨.missingContentId, some 12⟩ := by decide +kernel
  have hbefore : ∀ earlier ∈ [query, set].take 1, ∃ p, readPart {} earlier = .ok p := by
    intro earlier hearlier
    obtain rfl := List.mem_singleton.1 hearlier
    cases hquery : readPart {} query with
    | ok p => exact ⟨p, rfl⟩
    | error r =>
      rw [hquery] at haccepted
      cases haccepted
  have hlines : set ≠ [] := by decide +kernel
  obtain ⟨hbatch, opening, ending, n, hopening, hending, hn, hbetween, -⟩ :=
    refused_between_delimiters (by decide) hsegments rfl hbefore hrefused
  cases hn
  exact ⟨hsegments, haccepted, hrefused, by decide +kernel, hbatch, opening, ending, hopening, hending,
    hbetween hlines⟩

/-- A query, and a part without lines between the delimiters on the lines 8 and 9: it is refused at line one,
which the query stands behind, read strictly or not. -/
theorem refused_outside_empty_part :
    let mime : Text := "Content-Type: application/http\r\nContent-Transfer-Encoding: binary\r\n\r\n".toList
    let body : Bytes := Utf8.encode ("--b\r\n".toList ++ mime
      ++ "GET Items HTTP/1.1\r\n\r\n\r\n--b\r\n--b--\r\n".toList)
    let query := Segment.trimEnding (((Line.readAll body).take 7).drop 1)
    Segment.ofLines "b".toList 1 (Line.readAll body) = .ok [query, []] ∧
      (Segment.delimiters "b".toList (Line.readAll body)).map Line.number = [1, 8, 9] ∧
      (readPart {} query).isOk ∧ (readPart { strict := false } query).isOk ∧
      readPart {} [] = .error ⟨.unterminatedHeaders, some 1⟩ ∧
      readPart { strict := false } [] = .error ⟨.missingRequestLine, some 1⟩ ∧
      readBatch {} "b".toList body = .error ⟨.unterminatedHeaders, some 1⟩ ∧
      readBatch { strict := false } "b".toList body = .error ⟨.missingRequestLine, some 1⟩ := by
  decide +kernel

end Request

end BatchExchange
