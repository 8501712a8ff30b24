import BatchExchange.Proofs.Request.ContentId
import BatchExchange.Proofs.Request.Position

/-!
# Content-IDs of plain parts

A plain part has its Content-ID from its request, or else from its own header block.  Both fields have to have one
value, but the one of the request is looked at only if the part has one: where the part has none, a request that
has several is accepted, and then goes without Content-ID.

* `Field.IsAmbiguous`: fields with several values.
* `Embedded.Disputes`: the field that a plain part is refused for (`Acceptance.withPartId_eq_error_iff`).
* `Request.Tagged`: the Content-ID of the request that a plain part becomes.
* `Request.contentIds_of_plain_parts`: accepted batches, and batches that are refused.
* `Request.untagged_plain_part`: a request that loses its Content-ID.
-/

namespace BatchExchange

/-! ### Ambiguous fields -/

/-- The field has several values, or a list for its value. -/
def Field.IsAmbiguous (f : Field) : Prop := 1 < f.values.length ∨ ∃ v ∈ f.values, ',' ∈ v

theorem Field.single?_eq_none_iff {f : Field} : f.single? = none ↔ f.IsAmbiguous := by
  have hmore : 1 < f.values.length ↔ f.others ≠ [] := by
    rw [Field.values, List.length_cons, Nat.lt_add_left_iff_pos, List.length_pos_iff]
  rw [Field.IsAmbiguous, hmore, Field.single?]
  constructor
  · intro h
    by_cases hothers : f.others = []
    · by_cases hcomma : ',' ∈ f.first
      · exact .inr ⟨f.first, List.mem_cons_self, hcomma⟩
      · rw [if_pos ⟨hothers, hcomma⟩] at h
        cases h
    · exact .inl hothers
  · rintro (hothers | ⟨v, hv, hcomma⟩)
    · exact if_neg fun h => hothers h.1
    · rw [if_neg]
      rintro ⟨hothers, hfirst⟩
      rw [Field.values, hothers, List.mem_singleton] at hv
      exact hfirst (hv ▸ hcomma)

namespace Embedded

/-- The field that a plain part has its Content-ID from: that of the request, or else that of the part. -/
def taggingField? (e : Embedded) : Option Field :=
  (e.operation.headers.get? HeaderName.contentId).or (e.mime.get? HeaderName.contentId)

/-- The field that a plain part is refused for: an ambiguous one of the part, or one of the request if the part has
one that is not ambiguous. -/
inductive Disputes (e : Embedded) : Field → Prop
  | part {f : Field} (hf : e.mime.get? HeaderName.contentId = some f) (h : f.IsAmbiguous) : Disputes e f
  | request {f g : Field} (hg : e.mime.get? HeaderName.contentId = some g) (hclear : ¬g.IsAmbiguous)
      (hf : e.operation.headers.get? HeaderName.contentId = some f) (h : f.IsAmbiguous) : Disputes e f

end Embedded

/-! ### The check -/

namespace Acceptance

theorem contentIdField_eq_error_iff {h : Headers} {r : Rejection} :
    contentIdField h = .error r ↔
      ∃ f, h.get? HeaderName.contentId = some f ∧ f.IsAmbiguous ∧ r = ⟨.ambiguousContentId, some f.line⟩ := by
  rw [contentIdField]
  cases h.get? HeaderName.contentId with
  | none =>
    constructor
    · intro h
      cases h
    · rintro ⟨f, hf, -⟩
      cases hf
  | some f =>
    dsimp only
    cases hsingle : f.single? with
    | none =>
      rw [Field.single?_eq_none_iff] at hsingle
      constructor
      · intro h
        exact ⟨f, rfl, hsingle, (Except.error.inj h).symm⟩
      · rintro ⟨g, hg, -, rfl⟩
        cases hg
        rfl
    | some id =>
      constructor
      · intro h
        cases h
      · rintro ⟨g, hg, hambiguous, -⟩
        cases hg
        rw [← Field.single?_eq_none_iff, hsingle] at hambiguous
        cases hambiguous

/-- **The Content-ID of a plain part is refused** for the field that the part disputes. -/
theorem withPartId_eq_error_iff {e : Embedded} {r : Rejection} :
    withPartId e = .error r ↔ ∃ f, e.Disputes f ∧ r = ⟨.ambiguousContentId, some f.line⟩ := by
  rw [withPartId]
  constructor
  · intro h
    cases hmime : contentIdField e.mime with
    | error r' =>
      rw [hmime] at h
      cases h
      obtain ⟨f, hf, hambiguous, rfl⟩ := contentIdField_eq_error_iff.1 hmime
      exact ⟨f, .part hf hambiguous, rfl⟩
    | ok found =>
      rw [hmime] at h
      cases found with
      | none => cases h
      | some p =>
        obtain ⟨hg, hsingle⟩ := contentIdField_eq_some_iff.1 hmime
        have hclear : ¬p.1.IsAmbiguous := by
          rw [← Field.single?_eq_none_iff, hsingle]
          exact Option.some_ne_none _
        cases hown : contentIdField e.operation.headers with
        | error r' =>
          simp only [bind, Except.bind, hown] at h
          cases h
          obtain ⟨f, hf, hambiguous, rfl⟩ := contentIdField_eq_error_iff.1 hown
          exact ⟨f, .request hg hclear hf hambiguous, rfl⟩
        | ok own =>
          simp only [bind, Except.bind, hown] at h
          cases own <;> cases h
  · rintro ⟨f, hdisputes, rfl⟩
    cases hdisputes with
    | part hf hambiguous =>
      rw [contentIdField_eq_error_iff.2 ⟨f, hf, hambiguous, rfl⟩]
      rfl
    | @request g hg hclear hf hambiguous =>
      obtain ⟨id, hsingle⟩ := Option.ne_none_iff_exists'.1 (mt Field.single?_eq_none_iff.1 hclear)
      rw [contentIdField_eq_some_iff.2 ⟨hg, hsingle⟩]
      show (contentIdField e.operation.headers >>= _) = _
      rw [contentIdField_eq_error_iff.2 ⟨f, hf, hambiguous, rfl⟩]
      rfl

/-- **A plain part that disputes a field is not accepted**, and refused for this field if its type and encoding are
as they should be. -/
theorem part_of_disputes {e : Embedded} {f : Field} (hf : e.Disputes f) (options : Options) :
    (∀ p, part options (.single e) ≠ .ok p) ∧
      (checkContentType MediaType.isHttp e.mime = .ok () → checkTransferEncoding e.mime = .ok () →
        part options (.single e) = .error ⟨.ambiguousContentId, some f.line⟩) := by
  have hrefused := withPartId_eq_error_iff.2 ⟨f, hf, rfl⟩
  constructor
  · intro p hp
    obtain ⟨-, -, op, r, hop, -⟩ := part_single_eq_ok_iff.1 hp
    cases hrefused.symm.trans hop
  · intro htype hencoding
    rw [part, htype]
    show (checkTransferEncoding e.mime >>= _) = _
    rw [hencoding]
    show (withPartId e >>= _) = _
    rw [hrefused]
    rfl

end Acceptance

/-! ### Requests -/

namespace Request

/-- The Content-ID of the request that a plain part becomes is the only value of the field that the part has it
from, and there is none if the part has no such field.  But a request whose own field is ambiguous has no
Content-ID, if the part has no field to go with it. -/
structure Tagged (e : Embedded) (r : Request) : Prop where
  tagged : ∀ f, e.taggingField? = some f →
    (∃ id, f.values = [id] ∧ ',' ∉ id ∧ r.contentId? = some id) ∨
      (e.mime.get? HeaderName.contentId = none ∧ f.IsAmbiguous ∧ r.contentId? = none)
  untagged : e.taggingField? = none → r.contentId? = none
  undisputed : ∀ f, ¬e.Disputes f

/-- Plain parts are tagged; change sets are free. -/
def PartTagged : BodyPart → Part Request → Prop := BodyPart.Becomes Tagged fun _ _ => True

/-- The request has the Content-ID field that its part has it from. -/
theorem get?_of_withPartId {e : Embedded} {op : Operation} (h : Acceptance.withPartId e = .ok op) :
    op.headers.get? HeaderName.contentId = e.taggingField? := by
  rw [Embedded.taggingField?]
  rcases Acceptance.withPartId_eq_ok_iff.1 h with ⟨hmime, rfl⟩ | ⟨f, id, hmime, ⟨hown, rfl⟩ | ⟨⟨g, own⟩, hown, rfl⟩⟩
  · rw [Acceptance.contentIdField_eq_none_iff.1 hmime, Option.or_none]
  · have hf := (Acceptance.contentIdField_eq_some_iff.1 hmime).1
    rw [Acceptance.contentIdField_eq_none_iff.1 hown, hf, Option.none_or]
    show (e.operation.headers.put f).get? HeaderName.contentId = some f
    rw [Headers.get?_put, if_pos (Headers.key_of_get? hf)]
  · rw [(Acceptance.contentIdField_eq_some_iff.1 hown).1, Option.some_or]

/-- **A plain part that is accepted** is tagged. -/
theorem tagged_of_withPartId {options : Options} {e : Embedded} {op : Operation} {r : Request}
    (hop : Acceptance.withPartId e = .ok op) (hr : Acceptance.request options false op = .ok r) : Tagged e r := by
  have hid : r.contentId? = e.taggingField?.bind Field.single? := by
    rw [contentId?_of_request hr, get?_of_withPartId hop]
  have hundisputed : ∀ f, ¬e.Disputes f := by
    intro f hf
    cases (Acceptance.withPartId_eq_error_iff.2 ⟨f, hf, rfl⟩).symm.trans hop
  refine ⟨?_, ?_, hundisputed⟩
  · intro f hf
    rw [hf, Option.bind_some] at hid
    cases hsingle : f.single? with
    | some id =>
      obtain ⟨hvalues, hcomma⟩ := Field.single?_eq_some_iff.1 hsingle
      exact .inl ⟨id, hvalues, hcomma, hid.trans hsingle⟩
    | none =>
      have hambiguous := Field.single?_eq_none_iff.1 hsingle
      refine .inr ⟨?_, hambiguous, hid.trans hsingle⟩
      cases hmime : e.mime.get? HeaderName.contentId with
      | none => rfl
      | some g =>
        -- with a field of the part in hand, whichever field is ambiguous would be disputed
        have hclear : ¬g.IsAmbiguous := fun hg => hundisputed g (.part hmime hg)
        rw [Embedded.taggingField?, hmime, Option.or_eq_some_iff] at hf
        rcases hf with hown | ⟨-, hg⟩
        · exact absurd (.request hmime hclear hown hambiguous) (hundisputed f)
        · cases hg
          exact absurd hambiguous hclear
  · intro hnone
    rw [hid, hnone, Option.bind_none]

/-- **Content-IDs of plain parts**: in an accepted batch every plain part is tagged.  A batch with a plain part that
disputes a field is refused, and for this field if the parts in front of it are accepted and its type and encoding
are as they should be. -/
theorem contentIds_of_plain_parts (options : Options) (boundary : Text) (body : Bytes) :
    (∀ parts, readBatch options boundary body = .ok parts →
      ∃ bodyParts, BodyPart.readAll options.strict boundary body = .ok bodyParts ∧
        List.Forall₂ PartTagged bodyParts parts) ∧
    ∀ before lines after e f,
      Segment.ofLines boundary 1 (Line.readAll body) = .ok (before ++ lines :: after) →
      BodyPart.read options.strict (Line.firstNumber 1 lines) lines = .ok (.single e) → e.Disputes f →
        (∃ rejection, readBatch options boundary body = .error rejection) ∧
        (Boundary.isValid boundary → (∀ earlier ∈ before, ∃ p, readPart options earlier = .ok p) →
          Acceptance.checkContentType MediaType.isHttp e.mime = .ok () →
          Acceptance.checkTransferEncoding e.mime = .ok () →
          readBatch options boundary body = .error ⟨.ambiguousContentId, some f.line⟩) := by
  constructor
  · intro parts h
    refine exists_readAll h fun _ part p _ haccept => BodyPart.becomes_of_part ?_ ?_ haccept
    · intro e op r hop hr
      exact tagged_of_withPartId hop hr
    · intro _ _ _ _ _ _
      trivial
  intro before lines after e f hsegments hread hf
  have hpart : readPart options lines = Acceptance.part options (.single e) := by
    rw [readPart, hread]
    rfl
  obtain ⟨hnever, hrefused⟩ := Acceptance.part_of_disputes hf options
  rw [← hpart] at hnever hrefused
  refine ⟨exists_rejection_of_readPart hsegments (by simp) hnever, ?_⟩
  intro hboundary hbefore htype hencoding
  exact readBatch_eq_error hboundary hsegments hbefore (hrefused htype hencoding)

/-- A query whose request has the Content-ID `1` though its part has another one, and a part with a Content-ID whose
request repeats its own, which is refused for the field on line seven. -/
theorem contentIds_of_plain_parts_twice :
    let part : Text := "--b\r\nContent-Type: application/http\r\nContent-Transfer-Encoding: binary\r\n".toList
    let tagged : Bytes := Utf8.encode (part
      ++ "Content-ID: 2\r\n\r\nGET Items HTTP/1.1\r\ncontent-id: 1\r\n\r\n\r\n--b--\r\n".toList)
    let disputed : Bytes := Utf8.encode (part
      ++ "Content-ID: 2\r\n\r\nGET Items HTTP/1.1\r\nContent-ID: 1\r\ncontent-id: 1\r\n\r\n\r\n--b--\r\n".toList)
    let r : Request := {
      method := .get, base := [], path := "/Items".toList, uri := "/Items".toList
      headers := { fields := [⟨"content-id".toList, "1".toList, [], 7⟩], line := 7, distinct := by decide } }
    (readBatch {} "b".toList tagged = .ok [.single r] ∧ r.contentId? = some "1".toList ∧
      ∃ bodyParts, BodyPart.readAll true "b".toList tagged = .ok bodyParts ∧
        List.Forall₂ PartTagged bodyParts [.single r]) ∧
    ∃ lines e f, Segment.ofLines "b".toList 1 (Line.readAll disputed) = .ok [lines] ∧
      BodyPart.read true (Line.firstNumber 1 lines) lines = .ok (.single e) ∧ e.Disputes f ∧ f.line = 7 ∧
      readBatch {} "b".toList disputed = .error ⟨.ambiguousContentId, some f.line⟩ := by
  intro part tagged disputed r
  constructor
  · have hread : readBatch {} "b".toList tagged = .ok [.single r] := by decide +kernel
    exact ⟨hread, by decide, (contentIds_of_plain_parts {} "b".toList tagged).1 _ hread⟩
  · let lines := Segment.trimEnding (((Line.readAll disputed).drop 1).take 9)
    let f : Field := ⟨"Content-ID".toList, "1".toList, ["1".toList], 7⟩
    let e : Embedded := {
      mime := {
        fields := [
          ⟨"Content-Type".toList, "application/http".toList, [], 2⟩,
          ⟨"Content-Transfer-Encoding".toList, "binary".toList, [], 3⟩,
          ⟨"Content-ID".toList, "2".toList, [], 4⟩]
        line := 2
        distinct := by decide }
      operation := {
        requestLine := ⟨Utf8.encode "GET Items HTTP/1.1".toList, .crlf, 6⟩
        headers := { fields := [f], line := 7, distinct := by decide }
        body := lines.drop 8 } }
    have hsegments : Segment.ofLines "b".toList 1 (Line.readAll disputed) = .ok ([] ++ [lines]) := by
      decide +kernel
    have hread : BodyPart.read true (Line.firstNumber 1 lines) lines = .ok (.single e) := by decide +kernel
    have hf : e.Disputes f := by
      refine .request (g := ⟨"Content-ID".toList, "2".toList, [], 4⟩) rfl ?_ rfl (.inl (by decide))
      rw [← Field.single?_eq_none_iff]
      decide
    have hrefused := ((contentIds_of_plain_parts {} "b".toList disputed).2 [] lines [] e f hsegments hread hf).2
      (by decide) (fun _ hl => (nomatch hl)) (by decide) (by decide)
    exact ⟨lines, e, f, hsegments, hread, hf, rfl, hrefused⟩

/-- A part without Content-ID whose request has a list for its own, and one whose request repeats it: both are
accepted, with no Content-ID. -/
theorem untagged_plain_part :
    let part : Text := "--b\r\nContent-Type: application/http\r\nContent-Transfer-Encoding: binary\r\n\r\n".toList
    let list : Bytes := Utf8.encode (part ++ "GET Items HTTP/1.1\r\nContent-ID: 1, 2\r\n\r\n\r\n--b--\r\n".toList)
    let twice : Bytes := Utf8.encode (part
      ++ "GET Items HTTP/1.1\r\nContent-ID: 1\r\ncontent-id: 1\r\n\r\n\r\n--b--\r\n".toList)
    let r (f : Field) : Request := {
      method := .get, base := [], path := "/Items".toList, uri := "/Items".toList
      headers := { fields := [f], line := 6 } }
    let isUntagged (strict : Bool) (body : Bytes) (f : Field) : Prop :=
      readBatch { strict } "b".toList body = .ok [.single (r f)] ∧
        (r f).headers.get? HeaderName.contentId = some f ∧ f.IsAmbiguous ∧ (r f).contentId? = none
    let listed : Field := ⟨"Content-ID".toList, "1, 2".toList, [], 6⟩
    let repeated : Field := ⟨"Content-ID".toList, "1".toList, ["1".toList], 6⟩
    isUntagged true list listed ∧ isUntagged false list listed ∧
      isUntagged true twice repeated ∧ isUntagged false twice repeated := by
  intro part list twice r isUntagged listed repeated
  have hlisted : listed.IsAmbiguous := Field.single?_eq_none_iff.1 (by decide)
  have hrepeated : repeated.IsAmbiguous := Field.single?_eq_none_iff.1 (by decide)
  refine ⟨⟨?_, by decide, hlisted, by decide⟩, ⟨?_, by decide, hlisted, by decide⟩,
    ⟨?_, by decide, hrepeated, by decide⟩, ⟨?_, by decide, hrepeated, by decide⟩⟩
  all_goals decide +kernel

end Request

end BatchExchange
