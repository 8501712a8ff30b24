import BatchExchange.Proofs.Recording
import BatchExchange.Proofs.Request.Acceptance
import BatchExchange.Proofs.Request.Expansion

/-!
# Only valid requests are dispatched

A request that was accepted has what a processor may rely on, and keeps it when its references are replaced.
So each request that a processor is given while an accepted batch is handled has it.

* `Request.Dispatchable`: what a processor may rely on.
* `Request.dispatchable_of_request`, `Request.Dispatchable.expand`: accepted requests have it and keep it.
* `Request.forall_recorded`: what accepted requests have and keep, all that a processor is given has.
* `Request.dispatchable_of_readBatch`: so it has what it may rely on.
-/

namespace BatchExchange.Request

/-- What a processor may rely on of a request that it is given. -/
structure Dispatchable (inChangeSet : Bool) (r : Request) : Prop where
  method : r.method ∈ Method.supported
  member : inChangeSet → r.method ≠ .get
  allowed : ∀ f ∈ r.headers.fields, ∀ name ∈ HeaderName.forbidden, ¬Text.same f.name name
  bodyless : r.method = .get → r.body = []
  distinct : (r.headers.fields.map fun f => f.name.foldCase).Nodup
  uri : r.uri = r.base ++ r.path ++ if r.query = [] then [] else '?' :: r.query

theorem mem_supported_of_read {l : Line} {line : RequestLine} (h : RequestLine.read l = .ok line) :
    line.method ∈ Method.supported := by
  rw [RequestLine.read] at h
  split at h
  · split at h
    · cases h
    · rename_i method hmethod
      split at h
      · cases h
        exact List.mem_of_find?_eq_some hmethod
      · cases h
  · cases h

theorem forall_not_same_iff {h : Headers} :
    (∀ f ∈ h.fields, ∀ name ∈ HeaderName.forbidden, ¬Text.same f.name name)
      ↔ ∀ name ∈ HeaderName.forbidden, h.get? name = none := by
  simp only [Headers.get?_eq_none_iff, List.mem_map, not_exists, not_and, Text.same_iff]
  exact ⟨fun hf name hname f hmem => hf f hmem name hname, fun hf f hmem name hname => hf name hname f hmem⟩

/-! ### Acceptance -/

/-- **An accepted request has what a processor may rely on.** -/
theorem dispatchable_of_request {options : Options} {inChangeSet : Bool} {op : Operation} {r : Request}
    (h : Acceptance.request options inChangeSet op = .ok r) : r.Dispatchable inChangeSet := by
  obtain ⟨line, target, body, hline, hmember, -, hforbidden, hbody, rfl⟩ :=
    Acceptance.request_eq_ok_iff.1 h
  refine ⟨mem_supported_of_read hline, hmember, ?_, ?_, op.headers.distinct, rfl⟩
  · exact forall_not_same_iff.2 (Acceptance.checkForbidden_eq_ok_iff.1 hforbidden)
  · intro hget
    rw [if_pos hget] at hbody
    exact hbody.2

/-! ### References -/

theorem Dispatchable.expandPath {inChangeSet : Bool} {r : Request} (h : r.Dispatchable inChangeSet)
    (table : ReferenceTable) : (r.expandPath table).Dispatchable inChangeSet := by
  obtain heq | ⟨path, heq⟩ := expandPath_eq table r
  · rw [heq]
    exact h
  · rw [heq]
    exact ⟨h.method, h.member, h.allowed, h.bodyless, h.distinct, rfl⟩

theorem Dispatchable.expandBody {inChangeSet : Bool} {r : Request} (h : r.Dispatchable inChangeSet)
    (table : ReferenceTable) : (r.expandBody table).Dispatchable inChangeSet := by
  obtain heq | ⟨body, hbody, heq⟩ := expandBody_eq table r
  · rw [heq]
    exact h
  · have hne : r.method ≠ .get := by
      intro hget
      rw [expandedBody?_of_nil table (h.bodyless hget)] at hbody
      cases hbody
    have hother : ∀ name ∈ HeaderName.forbidden, HeaderName.contentLength.foldCase ≠ name.foldCase := by decide
    have hallowed : ∀ name ∈ HeaderName.forbidden, (r.expandBody table).headers.get? name = none := by
      intro name hname
      rw [(agreeBut_expandBody table r).get?_eq (hother name hname)]
      exact forall_not_same_iff.1 h.allowed name hname
    rw [heq, withBody] at hallowed ⊢
    exact ⟨h.method, h.member, forall_not_same_iff.2 hallowed, fun hget => absurd hget hne, Headers.distinct _, h.uri⟩

/-- **Replacing references keeps what a processor may rely on.** -/
theorem Dispatchable.expand {inChangeSet : Bool} {r : Request} (h : r.Dispatchable inChangeSet)
    (table : ReferenceTable) : (r.expand table).Dispatchable inChangeSet :=
  expand_induction (P := Dispatchable inChangeSet) table h (fun _ hr => hr.expandPath table)
    fun _ hr => hr.expandBody table

/-! ### Batches -/

/-- **What accepted requests have and keep when references are replaced, all that a processor is given has**,
while the parts of an accepted batch are handled. -/
theorem forall_recorded {P : Bool → Request → Prop} {options : Options}
    (haccept : ∀ member e r, Embedded.Accepted options member e r → P member r)
    (hexpand : ∀ r table, P true r → P true (r.expand table)) {boundary : Text} {body : Bytes}
    {parts : List (Part Request)} (h : readBatch options boundary body = .ok parts) {σ : Type}
    (answer : Request → σ → Response × σ) (continueOnError : Bool) (s : σ) :
    ((recording answer).parts continueOnError parts (s, [])).1
        = (({ answer } : Processor σ).parts continueOnError parts s).1 ∧
      ((recording answer).parts continueOnError parts (s, [])).2.1
        = (({ answer } : Processor σ).parts continueOnError parts s).2 ∧
      ∀ p ∈ ((recording answer).parts continueOnError parts (s, [])).2.2, P p.1 p.2 := by
  obtain ⟨hsingle, hmember⟩ := exists_accepted_of_readBatch h
  obtain ⟨record, hrun, hstems⟩ := Processor.parts_recorded answer continueOnError parts s []
  rw [hrun]
  refine ⟨rfl, rfl, fun p hp => ?_⟩
  rcases hstems p hp with ⟨r, hr, rfl⟩ | ⟨rs, hrs, r, hr, table, rfl⟩
  · obtain ⟨e, he⟩ := hsingle r hr
    exact haccept false e r he
  · obtain ⟨e, he⟩ := hmember rs hrs r hr
    exact hexpand r table (haccept true e r he)

/-- **All that a processor is given has what it may rely on**, while the parts of an accepted batch are
handled, and there is at least one part. -/
theorem dispatchable_of_readBatch {options : Options} {boundary : Text} {body : Bytes}
    {parts : List (Part Request)} (h : readBatch options boundary body = .ok parts) :
    parts ≠ [] ∧ ∀ (σ : Type) (answer : Request → σ → Response × σ) (continueOnError : Bool) (s : σ),
      ((recording answer).parts continueOnError parts (s, [])).1
          = (({ answer } : Processor σ).parts continueOnError parts s).1 ∧
        ((recording answer).parts continueOnError parts (s, [])).2.1
          = (({ answer } : Processor σ).parts continueOnError parts s).2 ∧
        ∀ p ∈ ((recording answer).parts continueOnError parts (s, [])).2.2, p.2.Dispatchable p.1 := by
  obtain ⟨-, hne, -⟩ := readBatch_eq_ok_iff.1 h
  refine ⟨hne, fun σ answer continueOnError s => ?_⟩
  refine forall_recorded (P := fun member r => r.Dispatchable member) ?_ ?_ h answer continueOnError s
  · rintro member e r ⟨op, -, hr⟩
    exact dispatchable_of_request hr
  · intro r table hr
    exact hr.expand table

/-- A query and a change set whose second member refers to the first one and has a content length. -/
theorem dispatchable_of_readBatch_mixed :
    let body : Bytes := Utf8.encode ("--b\r\nContent-Type: application/http\r\n".toList
      ++ "Content-Transfer-Encoding: binary\r\n\r\nGET Items?top=1 HTTP/1.1\r\n\r\n\r\n".toList
      ++ "--b\r\nContent-Type: multipart/mixed; boundary=c\r\n\r\n".toList
      ++ "--c\r\nContent-Type: application/http\r\nContent-Transfer-Encoding: binary\r\n".toList
      ++ "Content-ID: 1\r\n\r\nPOST Items HTTP/1.1\r\n\r\n\r\n".toList
      ++ "--c\r\nContent-Type: application/http\r\nContent-Transfer-Encoding: binary\r\n".toList
      ++ "Content-ID: 2\r\n\r\nPATCH $1 HTTP/1.1\r\nContent-Length: 2\r\n\r\n$1\r\n".toList
      ++ "--c--\r\n--b--\r\n".toList)
    ∃ parts, readBatch {} "b".toList body = .ok parts ∧ parts ≠ [] ∧
      ∀ (σ : Type) (answer : Request → σ → Response × σ) (continueOnError : Bool) (s : σ),
        ((recording answer).parts continueOnError parts (s, [])).1
            = (({ answer } : Processor σ).parts continueOnError parts s).1 ∧
          ((recording answer).parts continueOnError parts (s, [])).2.1
            = (({ answer } : Processor σ).parts continueOnError parts s).2 ∧
          ∀ p ∈ ((recording answer).parts continueOnError parts (s, [])).2.2, p.2.Dispatchable p.1 := by
  intro body
  have hok : (readBatch {} "b".toList body).isOk := by decide +kernel
  cases h : readBatch {} "b".toList body with
  | error e =>
    rw [h] at hok
    cases hok
  | ok parts => exact ⟨parts, rfl, dispatchable_of_readBatch h⟩

end BatchExchange.Request
