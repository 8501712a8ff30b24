import BatchExchange.Proofs.Headers
import BatchExchange.Proofs.Outcome
import BatchExchange.Request.Batch

/-!
# What is accepted

For each rule of acceptance, exactly when it lets its subject pass, and what comes of it.

* `Acceptance.bodyOctets_eq_ok_iff`: the octets that pass as a body.
* `Acceptance.request_eq_ok_iff`: the requests that operations become.
* `Acceptance.withPartId_eq_ok_iff`, `Acceptance.withMemberId_eq_ok_iff`: the place of the Content-ID.
* `Acceptance.members_cons_eq_ok_iff`: the members of a change set, one after the other.
* `Acceptance.part_single_eq_ok_iff`, `Acceptance.part_changeSet_eq_ok_iff`: the parts.
* `BodyPart.Becomes`: body parts and the requests that their operations become (`BodyPart.becomes_of_part`).
* `Request.readBatch_eq_ok_iff`: whole batches.
* `Embedded.Accepted`: an operation and the request that it becomes, whatever its Content-ID
  (`Acceptance.accepted_of_members`, `Acceptance.accepted_of_single`).
-/

namespace BatchExchange.Acceptance

open Outcome (bind_eq_ok ite_eq_ok_iff ite_bind_eq_ok)

theorem checkContentType_eq_ok_iff {expected : Text → Bool} {mime : Headers} :
    checkContentType expected mime = .ok ()
      ↔ ∃ f, mime.get? HeaderName.contentType = some f ∧ expected f.value := by
  unfold checkContentType
  cases mime.get? HeaderName.contentType with
  | none => exact ⟨fun h => (nomatch h), fun ⟨_, h, _⟩ => (nomatch h)⟩
  | some f =>
    refine ite_eq_ok_iff.trans ?_
    exact ⟨fun hf => ⟨f, rfl, hf⟩, fun ⟨g, hg, hf⟩ => Option.some.inj hg ▸ hf⟩

theorem checkTransferEncoding_eq_ok_iff {mime : Headers} :
    checkTransferEncoding mime = .ok ()
      ↔ ∃ f, mime.get? HeaderName.contentTransferEncoding = some f ∧ MediaType.isBinary f.value := by
  unfold checkTransferEncoding
  cases mime.get? HeaderName.contentTransferEncoding with
  | none => exact ⟨fun h => (nomatch h), fun ⟨_, h, _⟩ => (nomatch h)⟩
  | some f =>
    refine ite_eq_ok_iff.trans ?_
    exact ⟨fun hf => ⟨f, rfl, hf⟩, fun ⟨g, hg, hf⟩ => Option.some.inj hg ▸ hf⟩

theorem checkForbidden_eq_ok_iff {h : Headers} :
    checkForbidden h = .ok () ↔ ∀ name ∈ HeaderName.forbidden, h.get? name = none := by
  rw [← List.findSome?_eq_none_iff, checkForbidden]
  cases HeaderName.forbidden.findSome? h.get? with
  | none => exact ⟨fun _ => rfl, fun _ => rfl⟩
  | some f => exact ⟨fun h => (nomatch h), fun h => (nomatch h)⟩

theorem checkInChangeSet_eq_ok_iff {line : RequestLine} :
    line.checkInChangeSet = .ok () ↔ line.method ≠ .get := by
  unfold RequestLine.checkInChangeSet
  by_cases hget : line.method = .get
  · rw [if_pos hget]
    exact ⟨fun h => (nomatch h), fun h => absurd hget h⟩
  · rw [if_neg hget]
    exact ⟨fun _ => hget, fun _ => rfl⟩

/-- **The octets that pass as a body**: all there are, or as many as the content length says. -/
theorem bodyOctets_eq_ok_iff {h : Headers} {lines : List Line} {body : Bytes} :
    bodyOctets h lines = .ok body ↔
      (h.get? HeaderName.contentLength = none ∧ body = Line.join lines) ∨
        ∃ f n, h.get? HeaderName.contentLength = some f ∧ ContentLength.ofField? f = some n ∧
          n ≤ (Line.join lines).length ∧ body = (Line.join lines).take n := by
  unfold bodyOctets
  cases h.get? HeaderName.contentLength with
  | none =>
    refine ⟨fun h => .inl ⟨rfl, (Except.ok.inj h).symm⟩, ?_⟩
    rintro (⟨-, rfl⟩ | ⟨_, _, hf, -⟩)
    · rfl
    · cases hf
  | some f =>
    dsimp only
    constructor
    · intro h
      cases hn : ContentLength.ofField? f with
      | none =>
        rw [hn] at h
        cases h
      | some n =>
        rw [hn] at h
        dsimp only at h
        split at h
        · cases h
        · rename_i hle
          exact .inr ⟨f, n, rfl, hn, Nat.le_of_not_lt hle, (Except.ok.inj h).symm⟩
    · rintro (⟨hf, -⟩ | ⟨g, n, hg, hn, hle, rfl⟩)
      · cases hf
      · cases hg
        rw [hn]
        exact if_neg (Nat.not_lt_of_le hle)

/-- **The request that an operation becomes.** -/
theorem request_eq_ok_iff {options : Options} {member : Bool} {op : Operation} {r : Request} :
    request options member op = .ok r ↔
      ∃ line target body, RequestLine.read op.requestLine = .ok line ∧
        (member → line.method ≠ .get) ∧ line.resolve options.base options.parse = .ok target ∧
        checkForbidden op.headers = .ok () ∧
        (if line.method = .get then isBody op.body = false ∧ body = []
          else bodyOctets op.headers op.body = .ok body) ∧
        r = {
          method := line.method
          base := target.base
          path := target.path
          query := target.query
          uri := Request.assemble target.base target.path target.query
          resolution := options.resolution
          headers := op.headers
          body := body } := by
  rw [request, bind_eq_ok]
  refine exists_congr fun line => ?_
  dsimp only
  rw [ite_bind_eq_ok, checkInChangeSet_eq_ok_iff, bind_eq_ok]
  constructor
  · rintro ⟨hline, hmember, target, htarget, h⟩
    obtain ⟨_, hforbidden, h⟩ := bind_eq_ok.1 h
    by_cases hget : line.method = .get
    · rw [if_pos hget] at h
      split at h
      · cases h
      · rename_i hbody
        refine ⟨target, [], hline, hmember, htarget, hforbidden, ?_, (Except.ok.inj h).symm⟩
        rw [if_pos hget]
        exact ⟨Bool.eq_false_iff.2 hbody, rfl⟩
    · rw [if_neg hget] at h
      obtain ⟨body, hbody, h⟩ := bind_eq_ok.1 h
      refine ⟨target, body, hline, hmember, htarget, hforbidden, ?_, (Except.ok.inj h).symm⟩
      rw [if_neg hget]
      exact hbody
  · rintro ⟨target, body, hline, hmember, htarget, hforbidden, hbody, rfl⟩
    refine ⟨hline, hmember, target, htarget, bind_eq_ok.2 ⟨_, hforbidden, ?_⟩⟩
    by_cases hget : line.method = .get
    · rw [if_pos hget] at hbody ⊢
      rw [hbody.1, hbody.2]
      rfl
    · rw [if_neg hget] at hbody ⊢
      exact bind_eq_ok.2 ⟨body, hbody, rfl⟩

/-! ### Content-IDs -/

theorem contentIdField_eq_none_iff {h : Headers} :
    contentIdField h = .ok none ↔ h.get? HeaderName.contentId = none := by
  rw [contentIdField]
  cases h.get? HeaderName.contentId with
  | none => exact ⟨fun _ => rfl, fun _ => rfl⟩
  | some f =>
    dsimp only
    cases f.single? with
    | none => exact ⟨fun h => (nomatch h), fun h => (nomatch h)⟩
    | some id => exact ⟨fun h => (nomatch h), fun h => (nomatch h)⟩

theorem contentIdField_eq_some_iff {h : Headers} {f : Field} {id : Text} :
    contentIdField h = .ok (some (f, id))
      ↔ h.get? HeaderName.contentId = some f ∧ f.single? = some id := by
  rw [contentIdField]
  cases h.get? HeaderName.contentId with
  | none => exact ⟨fun h => (nomatch h), fun h => (nomatch h.1)⟩
  | some g =>
    dsimp only
    cases hg : g.single? with
    | none =>
      refine ⟨fun h => (nomatch h), ?_⟩
      rintro ⟨hgf, hf⟩
      rw [← Option.some.inj hgf, hg] at hf
      cases hf
    | some own =>
      constructor
      · intro h
        cases h
        exact ⟨rfl, hg⟩
      · rintro ⟨hgf, hf⟩
        cases hgf
        rw [hg] at hf
        cases hf
        rfl

/-- **An operation outside change sets** takes the Content-ID field of its part where it has none. -/
theorem withPartId_eq_ok_iff {e : Embedded} {op : Operation} :
    withPartId e = .ok op ↔
      (contentIdField e.mime = .ok none ∧ op = e.operation) ∨
        ∃ f id, contentIdField e.mime = .ok (some (f, id)) ∧
          ((contentIdField e.operation.headers = .ok none ∧
              op = { e.operation with headers := e.operation.headers.put f }) ∨
            ∃ own, contentIdField e.operation.headers = .ok (some own) ∧ op = e.operation) := by
  rw [withPartId, bind_eq_ok]
  constructor
  · rintro ⟨found, hfound, h⟩
    cases found with
    | none => exact .inl ⟨hfound, (Except.ok.inj h).symm⟩
    | some p =>
      obtain ⟨f, id⟩ := p
      obtain ⟨own, hown, h⟩ := bind_eq_ok.1 h
      cases own with
      | none => exact .inr ⟨f, id, hfound, .inl ⟨hown, (Except.ok.inj h).symm⟩⟩
      | some own => exact .inr ⟨f, id, hfound, .inr ⟨own, hown, (Except.ok.inj h).symm⟩⟩
  · rintro (⟨hfound, rfl⟩ | ⟨f, id, hfound, ⟨hown, rfl⟩ | ⟨own, hown, rfl⟩⟩)
    · exact ⟨none, hfound, rfl⟩
    · exact ⟨some (f, id), hfound, bind_eq_ok.2 ⟨none, hown, rfl⟩⟩
    · exact ⟨some (f, id), hfound, bind_eq_ok.2 ⟨some own, hown, rfl⟩⟩

/-- **A member of a change set** takes the Content-ID field of its part if there is one. -/
theorem withMemberId_eq_ok_iff {e : Embedded} {id : Text} {line : Nat} {op : Operation} :
    withMemberId e = .ok (id, line, op) ↔
      (∃ f, contentIdField e.mime = .ok (some (f, id)) ∧ line = f.line ∧
          op = { e.operation with headers := e.operation.headers.put f }) ∨
        (contentIdField e.mime = .ok none ∧
          ∃ f, contentIdField e.operation.headers = .ok (some (f, id)) ∧ line = f.line ∧
            op = e.operation) := by
  rw [withMemberId, bind_eq_ok]
  constructor
  · rintro ⟨found, hfound, h⟩
    cases found with
    | some p =>
      obtain ⟨f, own⟩ := p
      cases h
      exact .inl ⟨f, hfound, rfl, rfl⟩
    | none =>
      obtain ⟨own, hown, h⟩ := bind_eq_ok.1 h
      cases own with
      | none => cases h
      | some p =>
        obtain ⟨f, own⟩ := p
        cases h
        exact .inr ⟨hfound, f, hown, rfl, rfl⟩
  · rintro (⟨f, hfound, rfl, rfl⟩ | ⟨hfound, f, hown, rfl, rfl⟩)
    · exact ⟨some (f, id), hfound, rfl⟩
    · exact ⟨none, hfound, bind_eq_ok.2 ⟨some (f, id), hown, rfl⟩⟩

end BatchExchange.Acceptance

/-! ### Operations and their requests -/

namespace BatchExchange

/-- The operation itself, or the operation with a Content-ID field put in the place of its own. -/
inductive Operation.Identified (op : Operation) : Operation → Prop
  | own : Identified op op
  | given {f : Field} (hf : f.key = HeaderName.contentId.foldCase) :
      Identified op { op with headers := op.headers.put f }

namespace Operation.Identified

variable {op op' : Operation} (h : op.Identified op')

include h

theorem requestLine_eq : op'.requestLine = op.requestLine := by
  cases h <;> rfl

theorem body_eq : op'.body = op.body := by
  cases h <;> rfl

/-- Under any other name the operation has what it had. -/
theorem get?_eq {name : Text} (hname : HeaderName.contentId.foldCase ≠ name.foldCase) :
    op'.headers.get? name = op.headers.get? name := by
  cases h with
  | own => rfl
  | given hf => rw [Headers.get?_put, if_neg (hf ▸ hname)]

end Operation.Identified

/-- The operation of a part becomes a request, with the Content-ID that it has or is given. -/
def Embedded.Accepted (options : Options) (member : Bool) (e : Embedded) (r : Request) : Prop :=
  ∃ op, e.operation.Identified op ∧ Acceptance.request options member op = .ok r

end BatchExchange

namespace BatchExchange.Acceptance

open Outcome (bind_eq_ok ite_eq_ok_iff ite_bind_eq_ok)

theorem key_of_contentIdField {h : Headers} {f : Field} {id : Text}
    (hf : contentIdField h = .ok (some (f, id))) : f.key = HeaderName.contentId.foldCase :=
  Headers.key_of_get? (contentIdField_eq_some_iff.1 hf).1

theorem identified_of_withPartId {e : Embedded} {op : Operation} (h : withPartId e = .ok op) :
    e.operation.Identified op := by
  rcases withPartId_eq_ok_iff.1 h with ⟨-, rfl⟩ | ⟨f, id, hf, ⟨-, rfl⟩ | ⟨own, -, rfl⟩⟩
  · exact .own
  · exact .given (key_of_contentIdField hf)
  · exact .own

theorem identified_of_withMemberId {e : Embedded} {id : Text} {line : Nat} {op : Operation}
    (h : withMemberId e = .ok (id, line, op)) : e.operation.Identified op := by
  rcases withMemberId_eq_ok_iff.1 h with ⟨f, hf, -, rfl⟩ | ⟨-, f, -, -, rfl⟩
  · exact .given (key_of_contentIdField hf)
  · exact .own

/-! ### Parts -/

/-- **The first member of a change set is accepted on its own**, but for its Content-ID. -/
theorem members_cons_eq_ok_iff {options : Options} {seen : List Text} {e : Embedded}
    {rest : List Embedded} {rs : List Request} :
    members options seen (e :: rest) = .ok rs ↔
      checkContentType MediaType.isHttp e.mime = .ok () ∧ checkTransferEncoding e.mime = .ok () ∧
        ∃ id line op r rs', withMemberId e = .ok (id, line, op) ∧ id ∉ seen ∧
          request options true op = .ok r ∧ members options (id :: seen) rest = .ok rs' ∧
          rs = r :: rs' := by
  rw [members, bind_eq_ok]
  constructor
  · rintro ⟨_, htype, h⟩
    obtain ⟨_, hencoding, h⟩ := bind_eq_ok.1 h
    obtain ⟨⟨id, line, op⟩, hid, h⟩ := bind_eq_ok.1 h
    dsimp only at h
    rw [ite_bind_eq_ok] at h
    have hseen : id ∉ seen := fun hs => (nomatch h.1 hs)
    obtain ⟨r, hr, h⟩ := bind_eq_ok.1 h.2
    obtain ⟨rs', hrs, h⟩ := bind_eq_ok.1 h
    exact ⟨htype, hencoding, id, line, op, r, rs', hid, hseen, hr, hrs, (Except.ok.inj h).symm⟩
  · rintro ⟨htype, hencoding, id, line, op, r, rs', hid, hseen, hr, hrs, rfl⟩
    refine ⟨(), htype, bind_eq_ok.2 ⟨(), hencoding, bind_eq_ok.2 ⟨_, hid, ?_⟩⟩⟩
    dsimp only
    rw [ite_bind_eq_ok]
    exact ⟨fun hs => absurd hs hseen, bind_eq_ok.2 ⟨r, hr, bind_eq_ok.2 ⟨rs', hrs, rfl⟩⟩⟩

theorem part_single_eq_ok_iff {options : Options} {e : Embedded} {p : Part Request} :
    part options (.single e) = .ok p ↔
      checkContentType MediaType.isHttp e.mime = .ok () ∧ checkTransferEncoding e.mime = .ok () ∧
        ∃ op r, withPartId e = .ok op ∧ request options false op = .ok r ∧ p = .single r := by
  rw [part, bind_eq_ok]
  constructor
  · rintro ⟨_, htype, h⟩
    obtain ⟨_, hencoding, h⟩ := bind_eq_ok.1 h
    obtain ⟨op, hop, h⟩ := bind_eq_ok.1 h
    obtain ⟨r, hr, h⟩ := bind_eq_ok.1 h
    exact ⟨htype, hencoding, op, r, hop, hr, (Except.ok.inj h).symm⟩
  · rintro ⟨htype, hencoding, op, r, hop, hr, rfl⟩
    exact ⟨(), htype, bind_eq_ok.2 ⟨(), hencoding, bind_eq_ok.2 ⟨op, hop, bind_eq_ok.2 ⟨r, hr, rfl⟩⟩⟩⟩

/-- **The members of an accepted change set become its requests**, each on its own. -/
theorem accepted_of_members {options : Options} {seen : List Text} {es : List Embedded}
    {rs : List Request} (h : members options seen es = .ok rs) :
    List.Forall₂ (Embedded.Accepted options true) es rs := by
  induction es generalizing seen rs with
  | nil =>
    cases h
    exact .nil
  | cons e es ih =>
    obtain ⟨-, -, id, line, op, r, rs', hid, -, hr, hrs, rfl⟩ := members_cons_eq_ok_iff.1 h
    exact .cons ⟨op, identified_of_withMemberId hid, hr⟩ (ih hrs)

/-- An accepted part outside change sets becomes its request. -/
theorem accepted_of_single {options : Options} {e : Embedded} {p : Part Request}
    (h : part options (.single e) = .ok p) : ∃ r, p = .single r ∧ e.Accepted options false r := by
  obtain ⟨-, -, op, r, hop, hr, rfl⟩ := part_single_eq_ok_iff.1 h
  exact ⟨r, rfl, op, identified_of_withPartId hop, hr⟩

theorem part_changeSet_eq_ok_iff {options : Options} {mime : Headers} {boundary : Text}
    {es : List Embedded} {p : Part Request} :
    part options (.changeSet mime boundary es) = .ok p ↔
      checkContentType MediaType.isMultipart mime = .ok () ∧
        ∃ rs, members options [] es = .ok rs ∧ p = .changeSet rs := by
  rw [part, bind_eq_ok]
  constructor
  · rintro ⟨_, htype, h⟩
    obtain ⟨rs, hrs, h⟩ := bind_eq_ok.1 h
    exact ⟨htype, rs, hrs, (Except.ok.inj h).symm⟩
  · rintro ⟨htype, rs, hrs, rfl⟩
    exact ⟨(), htype, bind_eq_ok.2 ⟨rs, hrs, rfl⟩⟩

end BatchExchange.Acceptance

namespace BatchExchange

/-- A body part becomes a part of requests: its one operation the request that `R` relates it to, or the members of
a change set those that `S` relates them to. -/
inductive BodyPart.Becomes (R : Embedded → Request → Prop) (S : List Embedded → List Request → Prop) :
    BodyPart → Part Request → Prop
  | single {e : Embedded} {r : Request} (h : R e r) : Becomes R S (.single e) (.single r)
  | changeSet (mime : Headers) (boundary : Text) {es : List Embedded} {rs : List Request} (h : S es rs) :
      Becomes R S (.changeSet mime boundary es) (.changeSet rs)

/-- **An accepted part becomes what its operations are accepted as.** -/
theorem BodyPart.becomes_of_part {options : Options} {R : Embedded → Request → Prop}
    {S : List Embedded → List Request → Prop}
    (hR : ∀ e op r, Acceptance.withPartId e = .ok op → Acceptance.request options false op = .ok r → R e r)
    {part : BodyPart} (hS : ∀ mime boundary es rs, part = .changeSet mime boundary es →
      Acceptance.members options [] es = .ok rs → S es rs) {p : Part Request}
    (h : Acceptance.part options part = .ok p) : Becomes R S part p := by
  cases part with
  | single e =>
    obtain ⟨-, -, op, r, hop, hr, rfl⟩ := Acceptance.part_single_eq_ok_iff.1 h
    exact .single (hR e op r hop hr)
  | changeSet mime boundary es =>
    obtain ⟨-, rs, hrs, rfl⟩ := Acceptance.part_changeSet_eq_ok_iff.1 h
    exact .changeSet mime boundary (hS mime boundary es rs rfl hrs)

end BatchExchange

namespace BatchExchange.Request

open Outcome (bind_eq_ok ite_bind_eq_ok)

theorem readPart_eq_ok_iff {options : Options} {lines : List Line} {p : Part Request} :
    readPart options lines = .ok p ↔
      ∃ part, BodyPart.read options.strict (Line.firstNumber 1 lines) lines = .ok part ∧
        Acceptance.part options part = .ok p :=
  bind_eq_ok

/-- **A batch is accepted when each of its parts is**, and there is one. -/
theorem readBatch_eq_ok_iff {options : Options} {boundary : Text} {body : Bytes}
    {parts : List (Part Request)} :
    readBatch options boundary body = .ok parts ↔
      Boundary.isValid boundary ∧ parts ≠ [] ∧
        ∃ segments, Segment.ofLines boundary 1 (Line.readAll body) = .ok segments ∧
          List.Forall₂ (fun lines p => readPart options lines = .ok p) segments parts := by
  rw [readBatch, bind_eq_ok]
  constructor
  · rintro ⟨_, hboundary, h⟩
    obtain ⟨segments, hsegments, h⟩ := bind_eq_ok.1 h
    obtain ⟨parts', hparts, h⟩ := bind_eq_ok.1 h
    dsimp only at h
    rw [ite_bind_eq_ok] at h
    obtain rfl : parts' = parts := Except.ok.inj h.2
    refine ⟨Boundary.check_eq_ok_iff.1 hboundary, fun hnil => (nomatch h.1 hnil), segments, hsegments, ?_⟩
    exact Outcome.mapM_eq_ok_iff.1 hparts
  · rintro ⟨hboundary, hne, segments, hsegments, hparts⟩
    refine ⟨(), Boundary.check_eq_ok_iff.2 hboundary, bind_eq_ok.2 ⟨segments, hsegments, ?_⟩⟩
    refine bind_eq_ok.2 ⟨parts, Outcome.mapM_eq_ok_iff.2 hparts, ?_⟩
    dsimp only
    rw [ite_bind_eq_ok]
    exact ⟨fun hnil => absurd hnil hne, rfl⟩

/-- A batch with a part that is not accepted is refused. -/
theorem exists_rejection_of_readPart {options : Options} {boundary : Text} {body : Bytes}
    {segments : List (List Line)} (hsegments : Segment.ofLines boundary 1 (Line.readAll body) = .ok segments)
    {lines : List Line} (hlines : lines ∈ segments) (hnever : ∀ p, readPart options lines ≠ .ok p) :
    ∃ rejection, readBatch options boundary body = .error rejection := by
  cases h : readBatch options boundary body with
  | error rejection => exact ⟨rejection, rfl⟩
  | ok parts =>
    obtain ⟨-, -, segments', hcut, hparts⟩ := readBatch_eq_ok_iff.1 h
    obtain rfl := Except.ok.inj (hsegments.symm.trans hcut)
    obtain ⟨p, -, hp⟩ := Outcome.exists_of_mem_left hparts hlines
    exact absurd hp (hnever p)

/-- Each part of an accepted batch comes from a body part that was accepted. -/
theorem exists_part_of_readBatch {options : Options} {boundary : Text} {body : Bytes}
    {parts : List (Part Request)} (h : readBatch options boundary body = .ok parts) {p : Part Request}
    (hp : p ∈ parts) : ∃ part, Acceptance.part options part = .ok p := by
  obtain ⟨-, -, segments, -, hparts⟩ := readBatch_eq_ok_iff.1 h
  obtain ⟨lines, -, hread⟩ := Outcome.exists_of_mem_right hparts hp
  obtain ⟨part, -, hpart⟩ := readPart_eq_ok_iff.1 hread
  exact ⟨part, hpart⟩

/-- **Each request of an accepted batch comes from an operation that was accepted.** -/
theorem exists_accepted_of_readBatch {options : Options} {boundary : Text} {body : Bytes}
    {parts : List (Part Request)} (h : readBatch options boundary body = .ok parts) :
    (∀ r, .single r ∈ parts → ∃ e : Embedded, e.Accepted options false r) ∧
      ∀ rs, .changeSet rs ∈ parts → ∀ r ∈ rs, ∃ e : Embedded, e.Accepted options true r := by
  constructor
  · intro r hr
    obtain ⟨part, hpart⟩ := exists_part_of_readBatch h hr
    cases part with
    | single e =>
      obtain ⟨r', heq, he⟩ := Acceptance.accepted_of_single hpart
      cases heq
      exact ⟨e, he⟩
    | changeSet mime nested es =>
      obtain ⟨-, rs, -, heq⟩ := Acceptance.part_changeSet_eq_ok_iff.1 hpart
      cases heq
  · intro rs hrs r hr
    obtain ⟨part, hpart⟩ := exists_part_of_readBatch h hrs
    cases part with
    | single e =>
      obtain ⟨r', heq, -⟩ := Acceptance.accepted_of_single hpart
      cases heq
    | changeSet mime nested es =>
      obtain ⟨-, rs', hmembers, heq⟩ := Acceptance.part_changeSet_eq_ok_iff.1 hpart
      cases heq
      obtain ⟨e, -, he⟩ := Outcome.exists_of_mem_right (Acceptance.accepted_of_members hmembers) hr
      exact ⟨e, he⟩

end BatchExchange.Request
