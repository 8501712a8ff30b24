import BatchExchange.Proofs.BodyPart
import BatchExchange.Proofs.Ending
import BatchExchange.Proofs.Extent
import BatchExchange.Proofs.Folding
import BatchExchange.Proofs.Request.Acceptance

/-!
# Batches with line feeds only

Where each `\r` of a batch stands in front of an `\n`, the `\r` may as well be left out: the batch is refused as
before, or accepted with the same requests but for the line ends in their bodies.  Only a content length could tell
the two apart, since it counts the octets of a body.

* `HeaderBlock.get?_read`: a header block has no field whose name begins none of its lines.
* `Operation.IsFed`: an operation without content length whose body has no other `\r`.
* `Operation.isFed_of_read`, `BodyPart.isFed_of_read`: what is read from such lines.
* `Acceptance.request_feed`, `Acceptance.part_feed`: what is accepted differs in the bodies.
* `Request.readBatch_feeds`: whole batches.
-/

namespace BatchExchange

open Outcome (bind_eq_map ite_bind_eq_map mapM_eq_map same_bind_eq_map)

/-! ### Fields and the lines that name them -/

/-- The line begins with the name, in any case. -/
def Line.Names (name : Text) (l : Line) : Prop := name.foldCase <+: l.text.foldCase

instance (name : Text) (l : Line) : Decidable (l.Names name) := inferInstanceAs (Decidable (_ <+: _))

theorem Headers.get?_extendLast_eq_none {h : Headers} {name : Text} (hh : h.get? name = none) (more : Text) :
    (h.extendLast more).get? name = none := by
  rw [get?_eq_none_iff_keys, keys_eq_names] at hh ⊢
  rwa [names_extendLast]

namespace HeaderBlock

variable {name : Text}

theorem get?_addLine? {h h' : Headers} {l : Line} (hh : h.get? name = none) (hl : ¬l.Names name)
    (hadd : addLine? h l = some h') : h'.get? name = none := by
  rw [addLine?] at hadd
  split_ifs at hadd with hcontinues hnil
  · cases hadd
    exact Headers.get?_extendLast_eq_none hh _
  · obtain ⟨⟨name', value⟩, hfield, rfl⟩ := Option.map_eq_some_iff.1 hadd
    obtain ⟨v, hcut, -, -⟩ := field?_eq_some_iff.1 hfield
    rw [Headers.get?_add, if_neg, hh]
    intro hsame
    apply hl
    rw [Line.Names, (cut?_eq_some_iff.1 hcut).1, ← hsame]
    exact (List.prefix_append name' (':' :: v)).map Char.toLower

/-- **A name that begins no line of a header block is the name of none of its fields.** -/
theorem get?_read {strict : Bool} {context : Nat} {h : Headers} {lines rest : List Line}
    (hlines : ∀ l ∈ lines, ¬l.Names name) (hread : read strict context lines = .ok (h, rest)) :
    h.get? name = none := by
  refine read_preserves (I := fun h => h.get? name = none) (fun _ => rfl) ?_ hread
  exact fun l hl _ _ hh => get?_addLine? hh (hlines l hl)

end HeaderBlock

/-! ### What is read -/

/-- A line that ends with `\r\n` or `\n`, if at all, and states no content length. -/
structure Line.IsPlain (l : Line) : Prop extends l.IsFed where
  unmeasured : ¬l.Names HeaderName.contentLength

theorem Line.IsPlain.withoutEnding {l : Line} (h : l.IsPlain) : l.withoutEnding.IsPlain :=
  ⟨⟨h.content, nofun⟩, h.unmeasured⟩

/-- An operation without content length, with a body of lines that end with `\r\n` or `\n`, if at all. -/
structure Operation.IsFed (op : Operation) : Prop where
  unmeasured : op.headers.get? HeaderName.contentLength = none
  body : ∀ l ∈ op.body, l.IsFed

theorem Operation.isFed_of_read {strict : Bool} {context : Nat} {lines : List Line} {op : Operation}
    (hlines : ∀ l ∈ lines, l.IsPlain) (h : read strict context lines = .ok op) : op.IsFed := by
  obtain ⟨blanks, rest, rfl, -, -, hread⟩ := exists_of_read h
  have hrest : ∀ l ∈ rest, l.IsPlain :=
    fun l hl => hlines l (List.mem_append_right _ (List.mem_cons_of_mem _ hl))
  exact ⟨HeaderBlock.get?_read (fun l hl => (hrest l hl).unmeasured) hread,
    fun l hl => (hrest l (HeaderBlock.subset_of_read hread hl)).toIsFed⟩

theorem Embedded.isFed_of_readAfter {strict : Bool} {mime : Headers} {rest : List Line} {e : Embedded}
    (hrest : ∀ l ∈ rest, l.IsPlain) (h : readAfter strict mime rest = .ok e) : e.operation.IsFed := by
  obtain ⟨op, hop, h⟩ := Outcome.bind_eq_ok.1 h
  obtain rfl := Except.ok.inj h
  exact Operation.isFed_of_read hrest hop

theorem Embedded.isFed_of_read {strict : Bool} {context : Nat} {lines : List Line} {e : Embedded}
    (hlines : ∀ l ∈ lines, l.IsPlain) (h : read strict context lines = .ok e) : e.operation.IsFed := by
  obtain ⟨⟨mime, rest⟩, hmime, h⟩ := Outcome.bind_eq_ok.1 h
  exact isFed_of_readAfter (fun l hl => hlines l (HeaderBlock.subset_of_read hmime hl)) h

def BodyPart.IsFed : BodyPart → Prop
  | single e => e.operation.IsFed
  | changeSet _ _ es => ∀ e ∈ es, e.operation.IsFed

theorem BodyPart.isFed_of_read {strict : Bool} {context : Nat} {lines : List Line} {part : BodyPart}
    (hlines : ∀ l ∈ lines, l.IsPlain) (h : read strict context lines = .ok part) : part.IsFed := by
  obtain ⟨mime, rest, hmime, hpart⟩ := read_eq_ok_iff.1 h
  have hrest : ∀ l ∈ rest, l.IsPlain := fun l hl => hlines l (HeaderBlock.subset_of_read hmime hl)
  rcases hpart with ⟨-, e, he, rfl⟩ | ⟨nested, es, -, -, hes, rfl⟩
  · exact Embedded.isFed_of_readAfter hrest he
  · obtain ⟨segments, hsegments, -, hall⟩ := readMembers_eq_ok_iff.1 hes
    intro e he
    obtain ⟨segment, hs, hread⟩ := Outcome.exists_of_mem_right hall he
    have hsegment := Segment.forall_mem_ofLines (P := Line.IsPlain) (fun _ => Line.IsPlain.withoutEnding) hrest
      hsegments segment hs
    exact Embedded.isFed_of_read hsegment hread

/-! ### What is accepted -/

/-- The same parts of changed items. -/
def Part.map {α β : Type} (f : α → β) : Part α → Part β
  | single a => single (f a)
  | changeSet as => changeSet (as.map f)

/-- A request whose body has `\n` in the place of each `\r\n`. -/
def Request.withFeeds (r : Request) : Request := { r with body := Line.feeds r.body }

namespace Acceptance

theorem isBody_mapEnding (change : Ending → Ending) (lines : List Line) :
    isBody (lines.map (Line.mapEnding change)) = isBody lines := by
  rcases lines with _ | ⟨l, _ | ⟨m, lines⟩⟩ <;> rfl

theorem bodyOctets_feed {h : Headers} {lines : List Line} (hh : h.get? HeaderName.contentLength = none)
    (hlines : ∀ l ∈ lines, l.IsFed) :
    bodyOctets h (lines.map (Line.mapEnding .feed)) = (bodyOctets h lines).map Line.feeds := by
  rw [bodyOctets, bodyOctets, hh, Line.join_map_feed hlines]
  rfl

/-- **A request is accepted alike**, but for its body. -/
theorem request_feed {options : Options} {member : Bool} {op : Operation} (h : op.IsFed) :
    request options member (op.mapEnding .feed) = (request options member op).map Request.withFeeds := by
  refine same_bind_eq_map (RequestLine.read op.requestLine) fun line _ => ?_
  dsimp only
  refine ite_bind_eq_map ?_
  refine same_bind_eq_map _ fun target _ => ?_
  refine same_bind_eq_map (checkForbidden op.headers) fun _ _ => ?_
  by_cases hget : line.method = .get
  · have hbody : isBody (op.mapEnding .feed).body = isBody op.body := isBody_mapEnding _ op.body
    rw [if_pos hget, if_pos hget, hbody]
    split <;> rfl
  · rw [if_neg hget, if_neg hget]
    exact bind_eq_map (bodyOctets_feed h.unmeasured h.body) fun _ _ => rfl

theorem withPartId_mapEnding (change : Ending → Ending) (e : Embedded) :
    withPartId (e.mapEnding change) = (withPartId e).map (Operation.mapEnding change) := by
  refine same_bind_eq_map (contentIdField e.mime) fun found _ => ?_
  rcases found with _ | ⟨f, id⟩
  · rfl
  · refine same_bind_eq_map (contentIdField e.operation.headers) fun own _ => ?_
    cases own <;> rfl

theorem withMemberId_mapEnding (change : Ending → Ending) (e : Embedded) :
    withMemberId (e.mapEnding change)
      = (withMemberId e).map fun (id, line, op) => (id, line, op.mapEnding change) := by
  refine same_bind_eq_map (contentIdField e.mime) fun found _ => ?_
  rcases found with _ | ⟨f, id⟩
  · refine same_bind_eq_map (contentIdField e.operation.headers) fun own _ => ?_
    rcases own with _ | ⟨f, id⟩ <;> rfl
  · rfl

/-- A Content-ID says nothing about the body. -/
theorem isFed_of_identified {op op' : Operation} (hop : op.IsFed) (h : op.Identified op') : op'.IsFed where
  unmeasured := by rw [h.get?_eq (by decide), hop.unmeasured]
  body := by
    rw [h.body_eq]
    exact hop.body

theorem members_feed {options : Options} {seen : List Text} {es : List Embedded}
    (hes : ∀ e ∈ es, e.operation.IsFed) :
    members options seen (es.map (Embedded.mapEnding .feed))
      = (members options seen es).map (List.map Request.withFeeds) := by
  induction es generalizing seen with
  | nil => rfl
  | cons e es ih =>
    rw [List.forall_mem_cons] at hes
    rw [List.map_cons, members, members]
    refine same_bind_eq_map (checkContentType MediaType.isHttp e.mime) fun _ _ => ?_
    refine same_bind_eq_map (checkTransferEncoding e.mime) fun _ _ => ?_
    refine bind_eq_map (withMemberId_mapEnding _ e) fun found hfound => ?_
    obtain ⟨id, line, op⟩ := found
    have hop : op.IsFed := isFed_of_identified hes.1 (identified_of_withMemberId hfound)
    refine ite_bind_eq_map (bind_eq_map (request_feed hop) fun r _ => ?_)
    exact bind_eq_map (ih hes.2) fun _ _ => rfl

/-- **A part is accepted alike**, but for the bodies in it. -/
theorem part_feed {options : Options} {part : BodyPart} (h : part.IsFed) :
    Acceptance.part options (part.mapEnding .feed)
      = (Acceptance.part options part).map (Part.map Request.withFeeds) := by
  cases part with
  | single e =>
    refine same_bind_eq_map (checkContentType MediaType.isHttp e.mime) fun _ _ => ?_
    refine same_bind_eq_map (checkTransferEncoding e.mime) fun _ _ => ?_
    refine bind_eq_map (withPartId_mapEnding _ e) fun op hop => ?_
    have hop : op.IsFed := isFed_of_identified h (identified_of_withPartId hop)
    exact bind_eq_map (request_feed hop) fun _ _ => rfl
  | changeSet mime boundary es =>
    refine same_bind_eq_map (checkContentType MediaType.isMultipart mime) fun _ _ => ?_
    exact bind_eq_map (members_feed h) fun _ _ => rfl

end Acceptance

/-! ### Batches -/

namespace Request

theorem readPart_feed {options : Options} {lines : List Line} (hlines : ∀ l ∈ lines, l.IsPlain) :
    readPart options (lines.map (Line.mapEnding .feed))
      = (readPart options lines).map (Part.map Request.withFeeds) := by
  rw [readPart, Line.firstNumber_mapEnding]
  refine bind_eq_map (BodyPart.read_mapEnding rfl options.strict _ lines) fun part hpart => ?_
  exact Acceptance.part_feed (BodyPart.isFed_of_read hlines hpart)

/-- **A carriage return in front of a line feed makes no difference but in bodies.**  Where each `\r` is such a one
and no line states a content length, the batch without them is refused with the same rejection, at the same line,
or it gives the same parts with the same requests, the bodies without them. -/
theorem readBatch_feeds {options : Options} {boundary : Text} {body : Bytes} (hpaired : Line.Paired body)
    (hlength : ∀ l ∈ Line.readAll body, ¬l.Names HeaderName.contentLength) :
    readBatch options boundary (Line.feeds body)
      = (readBatch options boundary body).map (List.map (Part.map Request.withFeeds)) := by
  have hplain : ∀ l ∈ Line.readAll body, l.IsPlain :=
    fun l hl => ⟨Line.isFed_of_mem_readAll hpaired hl, hlength l hl⟩
  rw [readBatch, readBatch]
  refine same_bind_eq_map (Boundary.check boundary) fun _ _ => ?_
  dsimp only
  rw [Line.readAll_feeds hpaired, Segment.firstDelimiter?_mapEnding]
  refine bind_eq_map (Segment.ofLines_mapEnding rfl boundary 1 _) fun segments hsegments => ?_
  have hparts := mapM_eq_map (f := readPart options) (g := readPart options) (l := segments) fun lines hl =>
    readPart_feed (Segment.forall_mem_ofLines (P := Line.IsPlain) (fun _ => Line.IsPlain.withoutEnding) hplain
      hsegments lines hl)
  refine bind_eq_map hparts fun parts _ => ?_
  simp only [List.map_eq_nil_iff]
  exact ite_bind_eq_map rfl

/-- A query and a change set whose body has lines of both kinds, and a query that is refused for its body. -/
theorem readBatch_feeds_mixed :
    let part (content : Text) : Text :=
      "--b\r\nContent-Type: application/http\r\n".toList
        ++ "Content-Transfer-Encoding: binary\r\n\r\n".toList ++ content
    let accepted : Bytes := Utf8.encode (part "GET Items?top=1 HTTP/1.1\r\n".toList
      ++ "Accept: a,\r\n b\r\n\r\n\r\n".toList
      ++ "--b\r\nContent-Type: multipart/mixed; boundary=c\r\n\r\n".toList
      ++ "--c\r\nContent-Type: application/http\r\nContent-Transfer-Encoding: binary\r\n".toList
      ++ "Content-ID: 1\r\n\r\nPOST Items HTTP/1.1\r\n\r\none\r\ntwo\nthree\r\n".toList
      ++ "--c--\r\n--b--\r\n".toList)
    let refused : Bytes := Utf8.encode (part "GET Items HTTP/1.1\r\n\r\nbody\r\n--b--\r\n".toList)
    (∃ parts, readBatch {} "b".toList accepted = .ok parts ∧
        (parts.flatMap fun p => p.items.map Request.body) = [[], Utf8.encode "one\r\ntwo\nthree".toList] ∧
        readBatch {} "b".toList (Line.feeds accepted) = .ok (parts.map (Part.map Request.withFeeds))) ∧
      readBatch {} "b".toList refused = Cause.bodyOnGet.at 5 ∧
      readBatch {} "b".toList (Line.feeds refused) = Cause.bodyOnGet.at 5 := by
  intro part accepted refused
  have hfeeds : readBatch {} "b".toList (Line.feeds accepted) = _ :=
    readBatch_feeds (by decide +kernel) (by decide +kernel)
  have hfeeds' : readBatch {} "b".toList (Line.feeds refused) = _ :=
    readBatch_feeds (by decide +kernel) (by decide +kernel)
  have hbodies : (readBatch {} "b".toList accepted).toOption.map
      (fun parts => parts.flatMap fun p => p.items.map Request.body)
        = some [[], Utf8.encode "one\r\ntwo\nthree".toList] := by
    decide +kernel
  have hrefused : readBatch {} "b".toList refused = Cause.bodyOnGet.at 5 := by decide +kernel
  refine ⟨?_, hrefused, by rw [hfeeds', hrefused]; rfl⟩
  cases h : readBatch {} "b".toList accepted with
  | error r =>
    rw [h] at hbodies
    cases hbodies
  | ok parts =>
    rw [h] at hbodies hfeeds
    exact ⟨parts, rfl, Option.some.inj hbodies, hfeeds⟩

end Request

end BatchExchange
