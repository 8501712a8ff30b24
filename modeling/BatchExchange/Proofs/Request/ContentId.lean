import BatchExchange.Proofs.BodyPart
import BatchExchange.Proofs.Headers
import BatchExchange.Proofs.Request.Acceptance

/-!
# Content-IDs of change sets

In an accepted batch each change set has members, each member has the one value of the Content-ID field that
decides, and no two members have the same.  Change sets that are otherwise are refused.

* `Embedded.decidingField?`: the field of the part, or else that of the operation.
* `Request.disciplined_of_members`: the members of a change set that are accepted.
* `Request.exists_readAll`: the body parts of an accepted batch and what they become.
* `Request.contentIds_of_changeSets`: accepted batches, and batches that are refused.
-/

namespace BatchExchange

/-! ### The Content-ID of a member -/

namespace Embedded

/-- The field that decides the Content-ID of a member: that of the part, or else that of the operation. -/
def decidingField? (e : Embedded) : Option Field :=
  (e.mime.get? HeaderName.contentId).or (e.operation.headers.get? HeaderName.contentId)

/-- The Content-ID that a member resolves to. -/
def contentId? (e : Embedded) : Option Text := e.decidingField?.bind Field.single?

end Embedded

/-- A member that becomes `r` gives it the one value of its deciding field. -/
def Identifies (e : Embedded) (r : Request) : Prop :=
  ∃ f id, e.decidingField? = some f ∧ f.values = [id] ∧ ',' ∉ id ∧ r.contentId? = some id

theorem Identifies.contentId?_eq {e : Embedded} {r : Request} (h : Identifies e r) :
    e.contentId? = r.contentId? := by
  obtain ⟨f, id, hf, hvalues, hcomma, hid⟩ := h
  rw [Embedded.contentId?, hf, hid]
  exact Field.single?_eq_some_iff.2 ⟨hvalues, hcomma⟩

/-- Members of a change set that become `rs` with Content-IDs of their own. -/
structure Disciplined (es : List Embedded) (rs : List Request) : Prop where
  nonempty : rs ≠ []
  identified : List.Forall₂ Identifies es rs
  distinct : (rs.map Request.contentId?).Nodup

/-- Single parts are free; change sets are disciplined. -/
def PartDisciplined : BodyPart → Part Request → Prop := BodyPart.Becomes (fun _ _ => True) Disciplined

namespace Request

theorem contentId?_of_request {options : Options} {member : Bool} {op : Operation} {r : Request}
    (h : Acceptance.request options member op = .ok r) :
    r.contentId? = (op.headers.get? HeaderName.contentId).bind Field.single? := by
  obtain ⟨_, _, _, -, -, -, -, -, rfl⟩ := Acceptance.request_eq_ok_iff.1 h
  rfl

/-- The Content-ID that a member is checked with is that of its deciding field, and of its request. -/
theorem identifies_of_withMemberId {options : Options} {e : Embedded} {id : Text} {line : Nat}
    {op : Operation} {r : Request} (hid : Acceptance.withMemberId e = .ok (id, line, op))
    (hr : Acceptance.request options true op = .ok r) :
    Identifies e r ∧ r.contentId? = some id := by
  rw [Identifies, contentId?_of_request hr, Embedded.decidingField?]
  rcases Acceptance.withMemberId_eq_ok_iff.1 hid with ⟨f, hf, -, rfl⟩ | ⟨hnone, f, hf, -, rfl⟩
  · obtain ⟨hget, hsingle⟩ := Acceptance.contentIdField_eq_some_iff.1 hf
    obtain ⟨hvalues, hcomma⟩ := Field.single?_eq_some_iff.1 hsingle
    have hput : (e.operation.headers.put f).get? HeaderName.contentId = some f := by
      rw [Headers.get?_put, if_pos (Headers.key_of_get? hget)]
    rw [hget, hput]
    exact ⟨⟨f, id, rfl, hvalues, hcomma, hsingle⟩, hsingle⟩
  · obtain ⟨hget, hsingle⟩ := Acceptance.contentIdField_eq_some_iff.1 hf
    obtain ⟨hvalues, hcomma⟩ := Field.single?_eq_some_iff.1 hsingle
    rw [Acceptance.contentIdField_eq_none_iff.1 hnone, hget]
    exact ⟨⟨f, id, rfl, hvalues, hcomma, hsingle⟩, hsingle⟩

/-- **Accepted members** are identified, with Content-IDs that are new and pairwise different. -/
theorem identified_of_members {options : Options} {seen : List Text} {es : List Embedded}
    {rs : List Request} (h : Acceptance.members options seen es = .ok rs) :
    List.Forall₂ Identifies es rs ∧ (rs.map contentId?).Nodup ∧
      ∀ r ∈ rs, ∀ id ∈ seen, r.contentId? ≠ some id := by
  induction es generalizing seen rs with
  | nil =>
    cases h
    exact ⟨.nil, List.nodup_nil, fun _ hr => (nomatch hr)⟩
  | cons e es ih =>
    obtain ⟨-, -, id, line, op, r, rs', hid, hnew, hr, hrs, rfl⟩ :=
      Acceptance.members_cons_eq_ok_iff.1 h
    obtain ⟨hall, hdistinct, hseen⟩ := ih hrs
    obtain ⟨hidentifies, hrid⟩ := identifies_of_withMemberId hid hr
    refine ⟨.cons hidentifies hall, ?_, ?_⟩
    · rw [List.map_cons, List.nodup_cons, hrid]
      refine ⟨?_, hdistinct⟩
      intro hmem
      obtain ⟨r', hr', heq⟩ := List.mem_map.1 hmem
      exact hseen r' hr' id List.mem_cons_self heq
    · intro r' hr' id' hid'
      rcases List.mem_cons.1 hr' with rfl | hr'
      · rw [hrid]
        rintro ⟨⟩
        exact hnew hid'
      · exact hseen r' hr' id' (List.mem_cons_of_mem id hid')

theorem disciplined_of_members {options : Options} {es : List Embedded} {rs : List Request}
    (hne : es ≠ []) (h : Acceptance.members options [] es = .ok rs) : Disciplined es rs := by
  obtain ⟨hall, hdistinct, -⟩ := identified_of_members h
  refine ⟨?_, hall, hdistinct⟩
  rintro rfl
  exact hne (List.forall₂_nil_right_iff.1 hall)

end Request

/-! ### Parts of a batch -/

/-- The structure of a batch body. -/
def BodyPart.readAll (strict : Bool) (boundary : Text) (body : Bytes) :
    Except Rejection (List BodyPart) := do
  let segments ← Segment.ofLines boundary 1 (Line.readAll body)
  segments.mapM fun lines => BodyPart.read strict (Line.firstNumber 1 lines) lines

/-- The lines of the members of a change set in a batch; `context` is the line of its header block. -/
inductive HasChangeSet (strict : Bool) (boundary : Text) (body : Bytes) :
    Nat → List (List Line) → Prop
  | intro {parts members : List (List Line)} {lines rest : List Line} {mime : Headers} {nested : Text}
      (hparts : Segment.ofLines boundary 1 (Line.readAll body) = .ok parts) (hlines : lines ∈ parts)
      (hmime : HeaderBlock.read strict (Line.firstNumber 1 lines) lines = .ok (mime, rest))
      (hannounces : BodyPart.Announces mime nested)
      (hmembers : Segment.ofLines nested mime.line rest = .ok members) :
      HasChangeSet strict boundary body mime.line members

/-- The operation that the lines of a member are read as. -/
def ReadsAs (strict : Bool) (context : Nat) (lines : List Line) (e : Embedded) : Prop :=
  Embedded.read strict (Line.firstNumber context lines) lines = .ok e

/-- The Content-ID that the lines of a member resolve to. -/
def contentIdOf? (strict : Bool) (context : Nat) (lines : List Line) : Option Text :=
  (Embedded.read strict (Line.firstNumber context lines) lines).toOption.bind Embedded.contentId?

theorem contentIdOf?_of_readsAs {strict : Bool} {context : Nat} {lines : List Line} {e : Embedded}
    (h : ReadsAs strict context lines e) : contentIdOf? strict context lines = e.contentId? := by
  rw [contentIdOf?, show Embedded.read strict _ lines = _ from h]
  rfl

/-- What is wrong with the Content-IDs of a change set. -/
inductive Undisciplined (strict : Bool) (context : Nat) (members : List (List Line)) : Prop
  | empty (h : members = [])
  | missing {lines : List Line} {e : Embedded} (hmem : lines ∈ members)
      (he : ReadsAs strict context lines e) (hf : e.decidingField? = none)
  | ambiguous {lines : List Line} {e : Embedded} {f : Field} (hmem : lines ∈ members)
      (he : ReadsAs strict context lines e) (hf : e.decidingField? = some f)
      (hvalues : 1 < f.values.length ∨ ∃ v ∈ f.values, ',' ∈ v)
  | duplicate {lines lines' : List Line} {id : Text} (hmem : [lines, lines'].Sublist members)
      (hid : contentIdOf? strict context lines = some id)
      (hid' : contentIdOf? strict context lines' = some id)

namespace Request

theorem partDisciplined_of_part {options : Options} {lines : List Line} {part : BodyPart}
    {p : Part Request}
    (hread : BodyPart.read options.strict (Line.firstNumber 1 lines) lines = .ok part)
    (h : Acceptance.part options part = .ok p) : PartDisciplined part p := by
  refine BodyPart.becomes_of_part ?_ ?_ h
  · intro _ _ _ _ _
    trivial
  · rintro mime nested es rs rfl hrs
    exact disciplined_of_members (BodyPart.ne_nil_of_read hread) hrs

/-- **An accepted batch is read part by part**, and each of its parts is accepted. -/
theorem exists_readAll {options : Options} {boundary : Text} {body : Bytes} {parts : List (Part Request)}
    (h : readBatch options boundary body = .ok parts) {P : BodyPart → Part Request → Prop}
    (hP : ∀ lines part p, BodyPart.read options.strict (Line.firstNumber 1 lines) lines = .ok part →
      Acceptance.part options part = .ok p → P part p) :
    ∃ bodyParts, BodyPart.readAll options.strict boundary body = .ok bodyParts ∧
      List.Forall₂ P bodyParts parts := by
  obtain ⟨-, -, segments, hsegments, hparts⟩ := readBatch_eq_ok_iff.1 h
  have hread : List.Forall₂ (fun lines p => ∃ part,
      BodyPart.read options.strict (Line.firstNumber 1 lines) lines = .ok part ∧ P part p) segments parts := by
    refine hparts.imp fun lines p hp => ?_
    obtain ⟨part, hpart, haccept⟩ := readPart_eq_ok_iff.1 hp
    exact ⟨part, hpart, hP lines part p hpart haccept⟩
  obtain ⟨bodyParts, hall, hrelated⟩ := Outcome.exists_mapM_eq_ok (R := fun p part => P part p) hread
  exact ⟨bodyParts, Outcome.bind_eq_ok.2 ⟨segments, hsegments, hall⟩, hrelated.flip⟩

theorem readAll_of_readBatch {options : Options} {boundary : Text} {body : Bytes}
    {parts : List (Part Request)} (h : readBatch options boundary body = .ok parts) :
    ∃ bodyParts, BodyPart.readAll options.strict boundary body = .ok bodyParts ∧
      List.Forall₂ PartDisciplined bodyParts parts :=
  exists_readAll h fun _ _ _ hread haccept => partDisciplined_of_part hread haccept

/-- In an accepted batch the members of each change set are read, and accepted. -/
theorem members_of_hasChangeSet {options : Options} {boundary : Text} {body : Bytes}
    {parts : List (Part Request)} (h : readBatch options boundary body = .ok parts) {context : Nat}
    {members : List (List Line)} (hset : HasChangeSet options.strict boundary body context members) :
    members ≠ [] ∧ ∃ es rs, List.Forall₂ (ReadsAs options.strict context) members es ∧
      Acceptance.members options [] es = .ok rs := by
  obtain ⟨-, -, segments, hsegments, hparts⟩ := readBatch_eq_ok_iff.1 h
  obtain ⟨hcut, hlines, hmime, hannounces, hmembers⟩ := hset
  obtain rfl := Except.ok.inj (hcut.symm.trans hsegments)
  obtain ⟨p, -, hp⟩ := Outcome.exists_of_mem_left hparts hlines
  obtain ⟨part, hpart, haccept⟩ := readPart_eq_ok_iff.1 hp
  obtain ⟨mime', rest', hmime', hcase⟩ := BodyPart.read_eq_ok_iff.1 hpart
  cases Except.ok.inj (hmime.symm.trans hmime')
  rcases hcase with ⟨hno, -⟩ | ⟨nested', es, hannounces', -, hread, rfl⟩
  · obtain ⟨f, hf, hmulti, -⟩ := hannounces
    exact absurd hmulti (hno f hf)
  · obtain rfl := hannounces.unique hannounces'
    obtain ⟨segs, hsegs, hne, hall⟩ := BodyPart.readMembers_eq_ok_iff.1 hread
    obtain rfl := Except.ok.inj (hmembers.symm.trans hsegs)
    obtain ⟨-, rs, hrs, rfl⟩ := Acceptance.part_changeSet_eq_ok_iff.1 haccept
    exact ⟨hne, es, rs, hall, hrs⟩

/-- In an accepted batch the members of each change set are read, and disciplined. -/
theorem disciplined_of_hasChangeSet {options : Options} {boundary : Text} {body : Bytes}
    {parts : List (Part Request)} (h : readBatch options boundary body = .ok parts) {context : Nat}
    {members : List (List Line)} (hset : HasChangeSet options.strict boundary body context members) :
    members ≠ [] ∧ ∃ es rs, List.Forall₂ (ReadsAs options.strict context) members es ∧
      Disciplined es rs := by
  obtain ⟨hne, es, rs, hall, hrs⟩ := members_of_hasChangeSet h hset
  have hes : es ≠ [] := by
    rintro rfl
    exact hne (List.forall₂_nil_right_iff.1 hall)
  exact ⟨hne, es, rs, hall, disciplined_of_members hes hrs⟩

/-- The members of an accepted change set are not undisciplined. -/
theorem not_undisciplined {strict : Bool} {context : Nat} {members : List (List Line)}
    {es : List Embedded} {rs : List Request} (hne : members ≠ [])
    (hall : List.Forall₂ (ReadsAs strict context) members es) (h : Disciplined es rs) :
    ¬Undisciplined strict context members := by
  have identified : ∀ lines ∈ members, ∀ e, ReadsAs strict context lines e →
      ∃ f id, e.decidingField? = some f ∧ f.values = [id] ∧ ',' ∉ id := by
    intro lines hlines e he
    obtain ⟨e', he', hread⟩ := Outcome.exists_of_mem_left hall hlines
    obtain rfl : e = e' := Except.ok.inj (he.symm.trans hread)
    obtain ⟨r, -, f, id, hf, hvalues, hcomma, -⟩ := Outcome.exists_of_mem_left h.identified he'
    exact ⟨f, id, hf, hvalues, hcomma⟩
  intro hwrong
  cases hwrong with
  | empty hnil => exact hne hnil
  | missing hmem he hf =>
    obtain ⟨f, id, hf', -⟩ := identified _ hmem _ he
    rw [hf] at hf'
    cases hf'
  | ambiguous hmem he hf hvalues =>
    obtain ⟨f, id, hf', hone, hcomma⟩ := identified _ hmem _ he
    rw [hf] at hf'
    cases hf'
    rw [hone] at hvalues
    rcases hvalues with hlength | ⟨v, hv, hvcomma⟩
    · exact absurd hlength (by simp)
    · rw [List.mem_singleton.1 hv] at hvcomma
      exact hcomma hvcomma
  | duplicate hmem hid hid' =>
    have hids : members.map (contentIdOf? strict context) = rs.map contentId? := by
      rw [Outcome.map_eq_map_of_forall₂ hall fun _ _ he => contentIdOf?_of_readsAs he]
      exact Outcome.map_eq_map_of_forall₂ h.identified fun _ _ hr => hr.contentId?_eq
    have hnodup := List.Nodup.sublist (hmem.map (contentIdOf? strict context)) (hids ▸ h.distinct)
    rw [List.map_cons, List.map_singleton, hid, hid'] at hnodup
    simp at hnodup

/-- **Content-IDs of change sets**: in an accepted batch every change set has members, which are identified by
the one value of their deciding field, each by another one; and a batch with a change set that is otherwise is
refused. -/
theorem contentIds_of_changeSets (options : Options) (boundary : Text) (body : Bytes) :
    (∀ parts, readBatch options boundary body = .ok parts →
      ∃ bodyParts, BodyPart.readAll options.strict boundary body = .ok bodyParts ∧
        List.Forall₂ PartDisciplined bodyParts parts) ∧
    ∀ context members, HasChangeSet options.strict boundary body context members →
      Undisciplined options.strict context members →
        ∃ rejection, readBatch options boundary body = .error rejection := by
  refine ⟨fun parts h => readAll_of_readBatch h, fun context members hset hwrong => ?_⟩
  cases h : readBatch options boundary body with
  | error rejection => exact ⟨rejection, rfl⟩
  | ok parts =>
    obtain ⟨hne, es, rs, hall, hdisciplined⟩ := disciplined_of_hasChangeSet h hset
    exact absurd hwrong (not_undisciplined hne hall hdisciplined)

/-- A change set whose second member has a Content-ID of its own, and one whose second request repeats the
Content-ID of the first part. -/
theorem contentIds_of_changeSets_twice :
    let batch (part request : Text) : Bytes := Utf8.encode (
      "--b\r\nContent-Type: multipart/mixed; boundary=c\r\n\r\n".toList
        ++ "--c\r\nContent-Type: application/http\r\nContent-Transfer-Encoding: binary\r\n".toList
        ++ "Content-ID: 1\r\n\r\nPOST Items HTTP/1.1\r\n\r\n\r\n".toList
        ++ "--c\r\nContent-Type: application/http\r\nContent-Transfer-Encoding: binary\r\n".toList
        ++ part ++ "\r\nPUT Items HTTP/1.1\r\n".toList ++ request ++ "\r\n\r\n".toList
        ++ "--c--\r\n--b--\r\n".toList)
    let own := batch "content-id: 2\r\n".toList "Content-ID: 1\r\ncontent-id: 3\r\n".toList
    let shared := batch [] "content-ID: 1\r\n".toList
    let members := [
      Segment.trimEnding (((Line.readAll shared).drop 4).take 7),
      Segment.trimEnding (((Line.readAll shared).drop 12).take 7)]
    (∃ parts, readBatch {} "b".toList own = .ok parts ∧
      ∃ bodyParts, BodyPart.readAll true "b".toList own = .ok bodyParts ∧
        List.Forall₂ PartDisciplined bodyParts parts) ∧
    HasChangeSet true "b".toList shared 2 members ∧ Undisciplined true 2 members ∧
      ∃ rejection, readBatch {} "b".toList shared = .error rejection := by
  intro batch own shared members
  have hok : (readBatch {} "b".toList own).isOk := by decide +kernel
  have hset : HasChangeSet true "b".toList shared 2 members := by
    let part := Segment.trimEnding (((Line.readAll shared).drop 1).take 19)
    let mime : Headers := {
      fields := [⟨"Content-Type".toList, "multipart/mixed; boundary=c".toList, [], 2⟩]
      line := 2 }
    have hparts : Segment.ofLines "b".toList 1 (Line.readAll shared) = .ok [part] := by decide +kernel
    have hmime : HeaderBlock.read true (Line.firstNumber 1 part) part = .ok (mime, part.drop 2) := by
      decide +kernel
    have hannounces : BodyPart.Announces mime "c".toList := ⟨_, rfl, by decide, by decide⟩
    have hmembers : Segment.ofLines "c".toList 2 (part.drop 2) = .ok members := by decide +kernel
    exact .intro hparts (List.mem_singleton_self part) hmime hannounces hmembers
  have hwrong : Undisciplined true 2 members := by
    have hid : members.map (contentIdOf? true 2) = [some "1".toList, some "1".toList] := by
      decide +kernel
    obtain ⟨hfirst, hsecond⟩ := List.cons.inj hid
    exact .duplicate (List.Sublist.refl members) hfirst (List.cons.inj hsecond).1
  refine ⟨?_, hset, hwrong, (contentIds_of_changeSets {} "b".toList shared).2 2 members hset hwrong⟩
  cases h : readBatch {} "b".toList own with
  | error e =>
    rw [h] at hok
    cases hok
  | ok parts => exact ⟨parts, rfl, (contentIds_of_changeSets {} "b".toList own).1 parts h⟩

end Request

end BatchExchange
