import BatchExchange.Proofs.Extent
import BatchExchange.Proofs.Request.ContentLength

/-!
# Bodies are slices of the batch

Bodies are put together from lines that were cut twice, at the delimiters of the batch and at those of a change
set, and each cut takes a terminator away.  Still the body of an accepted request is the octets that stand in the
batch behind the blank line of its headers and in front of the terminator that precedes the next delimiter, or as
many of them as the content length says.

* `Line.Cut`: lines as octets and the last terminator behind them.
* `Request.Region`: the lines of a part, or of a member of a change set, within all lines of a batch.
* `Request.CutFrom`: a body that is cut to the content length.
* `Request.bodies_are_slices`: all bodies of an accepted batch.
-/

namespace BatchExchange

/-! ### The last terminator -/

namespace Line

/-- Lines as octets and the terminator of the last line behind them. -/
inductive Cut : List Line → Bytes → Bytes → Prop
  | nil : Cut [] [] []
  | concat (lines : List Line) (l : Line) : Cut (lines ++ [l]) (join lines ++ l.content) l.ending.octets

theorem exists_cut (lines : List Line) : ∃ octets terminator, Cut lines octets terminator := by
  rcases List.eq_nil_or_concat' lines with rfl | ⟨init, l, rfl⟩
  · exact ⟨[], [], .nil⟩
  · exact ⟨_, _, .concat init l⟩

variable {lines : List Line} {octets terminator : Bytes} (h : Cut lines octets terminator)

include h

theorem Cut.join_eq : join lines = octets ++ terminator := by
  cases h with
  | nil => rfl
  | concat lines l =>
    rw [join_append, join_cons, join_nil, List.append_nil, List.append_assoc]
    rfl

/-- Lines that lose the last terminator are the octets in front of it. -/
theorem Cut.join_trimEnding : join (Segment.trimEnding lines) = octets := by
  cases h with
  | nil => rfl
  | concat lines l =>
    rw [Segment.trimEnding_concat, join_append, join_cons, join_nil, List.append_nil]
    simp [Line.octets, Line.withoutEnding]

end Line

namespace Request

/-! ### Places in a batch -/

/-- A request that is the `k`-th part, or the `j`-th member of the change set that this part is. -/
inductive StandsAt (parts : List (Part Request)) : Nat → Option Nat → Request → Prop
  | single {k : Nat} {r : Request} (h : parts[k]? = some (.single r)) : StandsAt parts k none r
  | member {k j : Nat} {rs : List Request} {r : Request} (h : parts[k]? = some (.changeSet rs))
      (hr : rs[j]? = some r) : StandsAt parts k (some j) r

/-- The lines `inner` of the `k`-th part of a batch, or of the `j`-th member of the change set that it announces,
between the lines `front` and `back`.  The last line of `front` and the first one of `back` are the delimiters
around it. -/
inductive Region (strict : Bool) (boundary : Text) (lines : List Line) :
    Nat → Option Nat → List Line → List Line → List Line → Prop
  | part {k : Nat} {before inner after : List Line} {opening ending : Line}
      (h : Segment.Between boundary k lines before opening inner ending after) :
      Region strict boundary lines k none (before ++ [opening]) inner (ending :: after)
  | member {k j : Nat} {before block rest after before' inner after' : List Line}
      {opening ending opening' ending' : Line} {mime : Headers} {nested : Text}
      (h : Segment.Between boundary k lines before opening (block ++ rest) ending after)
      (hmime : HeaderBlock.read strict (Line.firstNumber 1 (block ++ rest)) (block ++ rest) = .ok (mime, rest))
      (hannounces : BodyPart.Announces mime nested)
      (hinner : Segment.Between nested j rest before' opening' inner ending' after') :
      Region strict boundary lines k (some j) (before ++ opening :: (block ++ before' ++ [opening'])) inner
        (ending' :: (after' ++ ending :: after))

theorem Region.eq_append {strict : Bool} {boundary : Text} {lines front inner back : List Line} {k : Nat}
    {place : Option Nat} (h : Region strict boundary lines k place front inner back) :
    lines = front ++ inner ++ back := by
  cases h with
  | part h =>
    rw [h.lines_eq]
    simp
  | member h hmime hannounces hinner =>
    rw [h.lines_eq, hinner.lines_eq]
    simp

/-! ### Bodies -/

/-- The body of a request is some octets, or as many of them as its content length says. -/
structure CutFrom (r : Request) (octets : Bytes) : Prop where
  whole : r.headers.get? HeaderName.contentLength = none → r.body = octets
  cut : ∀ f, r.headers.get? HeaderName.contentLength = some f →
    ∃ n, f.States n ∧ n ≤ octets.length ∧ r.body = octets.take n

/-- **A body is cut from the lines of the operation** that becomes the request. -/
theorem cutFrom_of_accepted {options : Options} {member : Bool} {e : Embedded} {r : Request}
    (h : e.Accepted options member r) (hmethod : r.method ≠ .get) : r.CutFrom (Line.join e.operation.body) := by
  obtain ⟨op, hid, hr⟩ := h
  obtain ⟨line, target, octets, -, -, -, -, hbody, rfl⟩ := Acceptance.request_eq_ok_iff.1 hr
  rw [if_neg hmethod, Acceptance.bodyOctets_eq_ok_iff, hid.body_eq] at hbody
  constructor
  · intro hnone
    rcases hbody with ⟨-, hwhole⟩ | ⟨f, n, hf, -⟩
    · exact hwhole
    · cases hf.symm.trans hnone
  · intro f hf
    rcases hbody with ⟨hnone, -⟩ | ⟨g, n, hg, hn, hle, hcut⟩
    · cases hf.symm.trans hnone
    · cases hf.symm.trans hg
      exact ⟨n, ContentLength.states_of_ofField? hn, hle, hcut⟩

section Places

variable {options : Options} {inner : List Line} {r : Request}

/-- A part that becomes a request is read as the operation of this request. -/
theorem exists_read_of_single (h : readPart options (Segment.trimEnding inner) = .ok (.single r)) :
    ∃ context e, Embedded.read options.strict context (Segment.trimEnding inner) = .ok e ∧
      e.Accepted options false r := by
  obtain ⟨part, hread, hpart⟩ := readPart_eq_ok_iff.1 h
  obtain ⟨mime, rest, hmime, ⟨-, e, he, rfl⟩ | ⟨nested, es, -, -, -, rfl⟩⟩ := BodyPart.read_eq_ok_iff.1 hread
  · obtain ⟨r', heq, haccepted⟩ := Acceptance.accepted_of_single hpart
    cases heq
    exact ⟨_, e, Outcome.bind_eq_ok.2 ⟨(mime, rest), hmime, he⟩, haccepted⟩
  · obtain ⟨-, rs, -, heq⟩ := Acceptance.part_changeSet_eq_ok_iff.1 hpart
    cases heq

/-- A part that becomes a change set is cut once more, at the delimiters that it announces, and each piece is read
as the operation of a request. -/
theorem exists_read_of_changeSet {rs : List Request}
    (h : readPart options (Segment.trimEnding inner) = .ok (.changeSet rs)) :
    ∃ mime rest nested segments,
      HeaderBlock.read options.strict (Line.firstNumber 1 inner) inner = .ok (mime, rest) ∧
      BodyPart.Announces mime nested ∧ Segment.ofLines nested mime.line rest = .ok segments ∧
      List.Forall₂ (fun s r => ∃ context e, Embedded.read options.strict context s = .ok e ∧
        e.Accepted options true r) segments rs := by
  obtain ⟨part, hread, hpart⟩ := readPart_eq_ok_iff.1 h
  obtain ⟨mime, rest, hmime, ⟨-, e, he, rfl⟩ | ⟨nested, es, hannounces, -, hmembers, rfl⟩⟩ :=
    BodyPart.read_eq_ok_iff.1 hread
  · obtain ⟨r', heq, -⟩ := Acceptance.accepted_of_single hpart
    cases heq
  obtain ⟨-, rs', hrs, heq⟩ := Acceptance.part_changeSet_eq_ok_iff.1 hpart
  cases heq
  obtain ⟨segments, hsegments, -, hall⟩ := BodyPart.readMembers_eq_ok_iff.1 hmembers
  rw [Segment.firstNumber_trimEnding] at hmime
  obtain ⟨rest, hrest, rfl⟩ := HeaderBlock.exists_read_of_trimEnding hmime
  -- a closing delimiter was found, so the ending that the last line of the part lost is behind all members
  have hclosed : rest.any (Line.closes nested) := by
    rw [← Segment.any_closes_trimEnding, List.any_eq_true]
    obtain ⟨front, framed, close, after, hpartition, -⟩ := Segment.ofLines_eq_ok_iff.1 hsegments
    rw [hpartition.lines_eq]
    exact ⟨close, by simp, hpartition.closes⟩
  rw [Segment.ofLines_trimEnding hclosed] at hsegments
  refine ⟨mime, rest, nested, segments, hrest, hannounces, hsegments, ?_⟩
  exact Outcome.forall₂_trans (fun s e r he hr => ⟨_, e, he, hr⟩) hall (Acceptance.accepted_of_members hrs)

end Places

/-- **Each request of an accepted batch has a region**, whose lines are read as its operation. -/
theorem exists_region {options : Options} {boundary : Text} {body : Bytes} {parts : List (Part Request)}
    (h : readBatch options boundary body = .ok parts) {k : Nat} {place : Option Nat} {r : Request}
    (hr : StandsAt parts k place r) :
    ∃ front inner back context member e,
      Region options.strict boundary (Line.readAll body) k place front inner back ∧
      Embedded.read options.strict context (Segment.trimEnding inner) = .ok e ∧ e.Accepted options member r := by
  obtain ⟨-, -, segments, hsegments, hparts⟩ := readBatch_eq_ok_iff.1 h
  cases hr with
  | single hk =>
    obtain ⟨segment, hsegment, hread⟩ := Outcome.exists_getElem?_eq_some hparts hk
    obtain ⟨before, opening, inner, ending, after, hbetween, rfl⟩ :=
      Segment.exists_segment_between hsegments hsegment
    obtain ⟨context, e, he, haccepted⟩ := exists_read_of_single hread
    exact ⟨_, inner, _, context, false, e, .part hbetween, he, haccepted⟩
  | member hk hj =>
    obtain ⟨segment, hsegment, hread⟩ := Outcome.exists_getElem?_eq_some hparts hk
    obtain ⟨before, opening, inner, ending, after, hbetween, rfl⟩ :=
      Segment.exists_segment_between hsegments hsegment
    obtain ⟨mime, rest, nested, members, hmime, hannounces, hmembers, hall⟩ := exists_read_of_changeSet hread
    obtain ⟨block, hblock⟩ := HeaderBlock.extent_of_read hmime
    obtain rfl := hblock.eq_append
    obtain ⟨member, hmember, context, e, he, haccepted⟩ := Outcome.exists_getElem?_eq_some hall hj
    obtain ⟨before', opening', inner', ending', after', hnested, rfl⟩ :=
      Segment.exists_segment_between hmembers hmember
    exact ⟨_, inner', _, context, true, e, .member hbetween hmime hannounces hnested, he, haccepted⟩

/-- **Bodies are slices of the batch.**  The body of an accepted request that is no GET is cut from the octets that
stand in the batch behind the blank line of its headers and in front of the terminator that precedes the next
delimiter of its part, or of its change set; and from none if no line stands there. -/
theorem bodies_are_slices {options : Options} {boundary : Text} {body : Bytes} {parts : List (Part Request)}
    (h : readBatch options boundary body = .ok parts) {k : Nat} {place : Option Nat} {r : Request}
    (hr : StandsAt parts k place r) (hmethod : r.method ≠ .get) :
    ∃ front head lines back octets terminator,
      Region options.strict boundary (Line.readAll body) k place front (head ++ lines) back ∧
      Embedded.HasBody options.strict (head ++ lines) head lines ∧ Line.Cut lines octets terminator ∧
      body = Line.join (front ++ head) ++ octets ++ terminator ++ Line.join back ∧ r.CutFrom octets := by
  obtain ⟨front, inner, back, context, member, e, hregion, hread, haccepted⟩ := exists_region h hr
  obtain ⟨head, lines, hhas, hlines⟩ := Embedded.hasBody_of_read hread
  obtain rfl := hhas.eq_append
  obtain ⟨octets, terminator, hcut⟩ := Line.exists_cut lines
  refine ⟨front, head, lines, back, octets, terminator, hregion, hhas, hcut, ?_, ?_⟩
  · calc body = Line.join (Line.readAll body) := (Line.join_readAll body).symm
      _ = Line.join (front ++ (head ++ lines) ++ back) := by rw [hregion.eq_append]
      _ = Line.join (front ++ head) ++ Line.join lines ++ Line.join back := by simp
      _ = Line.join (front ++ head) ++ octets ++ terminator ++ Line.join back := by
        rw [hcut.join_eq, ← List.append_assoc]
  · have hbody := cutFrom_of_accepted haccepted hmethod
    rwa [hlines, hcut.join_trimEnding] at hbody

/-- A part whose body has terminators of all kinds, and a member of a change set whose body is cut between a line
feed and a carriage return. -/
theorem bodies_are_slices_mixed :
    let part : Text := "Content-Type: application/http\nContent-Transfer-Encoding: binary\r".toList
    let input : Bytes := Utf8.encode ("--b\r\n".toList
      ++ part ++ "\r\nPOST Items HTTP/1.1\r\n\na\rb\n\r\nc\r\n--b\r".toList
      ++ "Content-Type: multipart/mixed; boundary=c\r\n\r\n--c\r\n".toList
      ++ part ++ "Content-ID: 1\r\n\r\nPUT Items HTTP/1.1\nContent-Length: 2\r\n\n\n\rx\n--c--\r\n--b--".toList)
    let first : Request := {
      method := .post, base := [], path := "/Items".toList, uri := "/Items".toList
      headers := .atLine 6
      body := Utf8.encode "a\rb\n\r\nc".toList }
    let second : Request := {
      method := .put, base := [], path := "/Items".toList, uri := "/Items".toList
      headers := {
        fields := [⟨"Content-Length".toList, "2".toList, [], 20⟩, ⟨"Content-ID".toList, "1".toList, [], 17⟩]
        line := 20
        distinct := by decide }
      body := Utf8.encode "\n\r".toList }
    let isSlice (k : Nat) (place : Option Nat) (r : Request) : Prop :=
      ∃ front head lines back octets terminator,
        Region true "b".toList (Line.readAll input) k place front (head ++ lines) back ∧
        Embedded.HasBody true (head ++ lines) head lines ∧ Line.Cut lines octets terminator ∧
        input = Line.join (front ++ head) ++ octets ++ terminator ++ Line.join back ∧ r.CutFrom octets
    readBatch {} "b".toList input = .ok [.single first, .changeSet [second]] ∧
      isSlice 0 none first ∧ isSlice 1 (some 0) second := by
  intro part input first second isSlice
  have hread : readBatch {} "b".toList input = .ok [.single first, .changeSet [second]] := by decide +kernel
  refine ⟨hread, ?_, ?_⟩
  · exact bodies_are_slices hread (.single rfl) (by decide)
  · exact bodies_are_slices hread (.member rfl rfl) (by decide)

end Request

end BatchExchange
