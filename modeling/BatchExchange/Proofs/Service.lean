import BatchExchange.Proofs.Correlation
import BatchExchange.Proofs.ReferenceTable
import BatchExchange.Proofs.Request.OneLine
import BatchExchange.Proofs.Response.Numbered
import BatchExchange.Service

/-!
# A batch from end to end

A service reads a batch, has its parts handled, and writes the outcomes under boundaries that it draws.  Who
asks for the batch finds the boundary in the content type of the answer, reads the outcomes with it, and knows
by their Content-IDs which requests they answer.

* `Service.numbered`: a service of the default configuration that numbers its boundaries.
* `Service.drawn`: the boundaries of an answer.
* `Service.answer_carries`: what an answer is made of.
* `Service.handle_of_read`: what handling an accepted batch comes to.
* `Service.answers_correlate`: the way from the batch to the responses that are read.
-/

namespace BatchExchange

/-- A request that reaches a processor has the Content-ID of an item of some part. -/
theorem ComesFrom.exists_item {σ : Type} {answer : Request → σ → Response × σ}
    {parts : List (Part Request)} {r : Request} (h : ComesFrom answer parts r) :
    ∃ q ∈ parts, ∃ item ∈ q.items, r.contentId? = item.contentId? := by
  cases h with
  | single h => exact ⟨_, h, _, List.mem_singleton_self _, rfl⟩
  | member s h => exact ⟨_, h, _, by simp [Part.items], Request.contentId?_expand _ _⟩

namespace Service

section Source

variable {σ β : Type} (service : Service σ β)

/-- The boundaries of an answer with these outcomes: that of the batch, and then those of its change sets. -/
def drawn (outcomes : List (Part Response)) (b : β) : List Text :=
  let (boundary, b) := service.source.draw service.config.responseStem b
  boundary :: Response.drawn service.source service.config.changeSetStem outcomes b

/-- **An answer carries its body and announces its boundary**, with or without other headers. -/
theorem answer_carries (preference : Option Bool) (boundary : Text) (body : Bytes) :
    (answer preference boundary body).status = 202 ∧
      (answer preference boundary body).header? HeaderName.contentType
        = some (Boundary.contentType boundary) ∧
      (answer preference boundary body).body = body := by
  rw [answer]
  split
  · exact ⟨rfl, rfl, rfl⟩
  · exact ⟨rfl, rfl, rfl⟩

/-- **A batch that is accepted is answered with its outcomes**, if no part fails. -/
theorem handle_of_read {envelope : Outer.Envelope} {body : Bytes} {parts : List (Part Request)} {s s' : σ}
    (hread : service.read envelope body = .ok parts) {outcomes : List (Part Response)}
    (hparts : service.handleParts (service.continues envelope.continueOnError) parts s
      = (.ok outcomes, s')) (b : β) :
    service.handle envelope body s b
      = (.ok (answer envelope.continueOnError (service.write outcomes b).1.1
          (service.write outcomes b).1.2), s', (service.write outcomes b).2) := by
  rw [handle, hread]
  dsimp only
  rw [hparts]

/-- What is read in an envelope is read as a batch of requests. -/
theorem exists_readBatch_of_read {envelope : Outer.Envelope} {body : Bytes} {parts : List (Part Request)}
    (hread : service.read envelope body = .ok parts) :
    ∃ options boundary, Request.readBatch options boundary body = .ok parts := by
  rw [read] at hread
  split at hread
  · cases hread
  · exact ⟨_, _, hread⟩

end Source

section Answer

variable {σ : Type} (answer : Request → σ → Response × σ)

/-- A service of the default configuration that numbers its boundaries. -/
def numbered (parse : Text → Option Url := Url.parse?) : Service σ Nat where
  processor := { answer }
  source := .sequential
  parse := parse

variable (parse : Text → Option Url)

/-- The Content-IDs that reach a processor can be written as headers. -/
theorem writable_contentId {envelope : Outer.Envelope} {body : Bytes} {parts : List (Part Request)}
    (hread : (numbered answer parse).read envelope body = .ok parts)
    (hids : ∀ q ∈ parts, ∀ r ∈ q.items, ∀ id, r.contentId? = some id → Text.trim id = id) {r : Request}
    (hr : ComesFrom answer parts r) :
    ∀ id, r.contentId? = some id → Line.IsOneLine id ∧ Text.trim id = id := by
  intro id hid
  obtain ⟨options, boundary, hbatch⟩ := exists_readBatch_of_read _ hread
  obtain ⟨q, hq, item, hitem, heq⟩ := hr.exists_item
  rw [heq] at hid
  exact ⟨Request.isOneLine_of_readBatch hbatch q hq item hitem id hid, hids q hq item hitem id hid⟩

/-- **From the batch to the responses that are read.**  The parts of an accepted batch are handled without a
failure.  If the boundaries that are drawn for the answer, behind the `n` that were drawn before, can be numbered in
64 bits, then it is answered with status 202.  If what the processor answered can be sent between these boundaries,
then the one that the content type names is the one to read the outcomes with.  They come in order and shape, each
response as it was passed on, and each with the Content-ID of the request that it answers. -/
theorem answers_correlate {envelope : Outer.Envelope} {body : Bytes} {parts : List (Part Request)}
    (hread : (numbered answer parse).read envelope body = .ok parts)
    (hids : ∀ q ∈ parts, ∀ r ∈ q.items, ∀ id, r.contentId? = some id → Text.trim id = id) (n : Nat) (s : σ) :
    let continueOnError := (numbered answer parse).continues envelope.continueOnError
    ∃ outcomes s' exchanges,
      (numbered answer parse).handleParts continueOnError parts s = (.ok outcomes, s') ∧
      (numbered (exchanging answer) parse).handleParts continueOnError parts (s, [])
        = (.ok outcomes, s', exchanges) ∧
      (n + ((numbered answer parse).drawn outcomes n).length < UInt64.size →
        ∃ a m, (numbered answer parse).handle envelope body s n = (.ok a, s', m) ∧ a.status = 202 ∧
          ∃ boundary, (a.header? HeaderName.contentType).bind MediaType.boundary? = some boundary ∧
            ((∀ x ∈ exchanges, x.response.Sendable ((numbered answer parse).drawn outcomes n)) →
              ∃ received, Response.readBatch boundary a.body = .ok received ∧
                List.Forall₂ (Part.Rel Response.ReadAs) outcomes received ∧
                AnsweredInOrder parts exchanges received)) := by
  intro continueOnError
  obtain ⟨outcomes, s', exchanges, hplain, hkept, hanswered, hitems⟩ :=
    Processor.exists_answeredInOrder answer continueOnError parts s []
  rw [List.nil_append] at hkept
  have hhandled : (numbered answer parse).handleParts continueOnError parts s = (.ok outcomes, s') := hplain
  refine ⟨outcomes, s', exchanges, hhandled, hkept, fun hsize => ?_⟩
  -- the first boundary is that of the batch, and the others are those of its change sets
  have hnumbers : n + 1 + (Response.drawn .sequential Response.changeSetStem outcomes (n + 1)).length
      < UInt64.size := by
    rw [Nat.add_assoc, Nat.add_comm 1]
    exact hsize
  have hvalid : Boundary.isValid (Response.batchStem ++ Decimal.write (n + 1)) :=
    Boundary.isValid_numbered (by decide) (by decide) (Nat.lt_of_le_of_lt (Nat.le_add_right _ _) hnumbers)
  have hhead : (Response.batchStem ++ Decimal.write (n + 1)).head? ≠ some ' ' := by
    show some 'b' ≠ some ' '
    decide
  have hdrawn : ((numbered answer parse).write outcomes n).1.1
      = Response.batchStem ++ Decimal.write (n + 1) := rfl
  obtain ⟨hstatus, hheader, hcarried⟩ := answer_carries envelope.continueOnError
    ((numbered answer parse).write outcomes n).1.1 ((numbered answer parse).write outcomes n).1.2
  refine ⟨_, _, handle_of_read _ hread hhandled n, hstatus,
    Response.batchStem ++ Decimal.write (n + 1), ?_, ?_⟩
  · rw [hheader, hdrawn, Option.bind_some]
    exact MediaType.boundary?_contentType hvalid hhead
  · intro hsendable
    have hfits : ∀ part ∈ outcomes, ∀ r ∈ part.items,
        r.Fits ((numbered answer parse).drawn outcomes n) := by
      intro part hpart r hr
      obtain ⟨x, hx, rfl⟩ := hitems part hpart r hr
      have hfrom : ComesFrom answer parts x.request := by
        apply Processor.comesFrom_of_mem_parts answer continueOnError parts s
        rw [hkept]
        exact hx
      exact (hsendable x hx).fits_tag (writable_contentId answer parse hread hids hfrom)
    obtain ⟨received, hreceived, has⟩ := Response.exists_readBatch_numbered hnumbers hfits
    have hids : ∀ r r', Response.ReadAs r r' → r'.contentId? = r.contentId? :=
      fun r r' h => h.values HeaderName.contentId (by decide)
    refine ⟨received, ?_, has, hanswered.of_rel hids has⟩
    rw [hcarried]
    exact hreceived

end Answer

/-- A query, a change set whose second member refers to the first, and a change set whose first member fails.
The bodies of the responses have lines that look like delimiters of other answers. -/
theorem answers_correlate_mixed :
    let answer : Request → List UInt16 → Response × List UInt16 := fun _ statuses =>
      ({ status := statuses.headD 204
         headers := .ofList [("content-id".toList, "own".toList), ("ETag".toList, "W".toList)]
         body := Utf8.encode "--batch_2\r\n--changeset_1--\n".toList }, statuses.tail)
    let member (id target : String) : Text :=
      "--c\r\nContent-Type: application/http\r\nContent-Transfer-Encoding: binary\r\n".toList
        ++ "Content-ID: ".toList ++ id.toList ++ "\r\n\r\nPOST ".toList ++ target.toList
        ++ " HTTP/1.1\r\n\r\n\r\n".toList
    let set (members : Text) : Text :=
      "--b\r\nContent-Type: multipart/mixed; boundary=c\r\n\r\n".toList ++ members
        ++ "--c--\r\n".toList
    let body : Bytes := Utf8.encode ("--b\r\nContent-Type: application/http\r\n".toList
      ++ "Content-Transfer-Encoding: binary\r\n\r\nGET Items HTTP/1.1\r\n\r\n\r\n".toList
      ++ set (member "1" "Items" ++ member "2" "$1") ++ set (member "1" "Items" ++ member "2" "$1")
      ++ "--b--\r\n".toList)
    let envelope : Outer.Envelope := { boundary := some ['b'], continueOnError := some true }
    let statuses : List UInt16 := [200, 201, 600, 404]
    ∃ parts, (numbered answer).read envelope body = .ok parts ∧
      (∀ q ∈ parts, ∀ r ∈ q.items, ∀ id, r.contentId? = some id → Text.trim id = id) ∧
      ∃ outcomes s' exchanges a m,
        (numbered (exchanging answer)).handleParts true parts (statuses, [])
          = (.ok outcomes, s', exchanges) ∧
        0 + ((numbered answer).drawn outcomes 0).length < UInt64.size ∧
        (∀ x ∈ exchanges, x.response.Sendable ((numbered answer).drawn outcomes 0)) ∧
        (numbered answer).handle envelope body statuses 0 = (.ok a, s', m) ∧ a.status = 202 ∧
        ∃ boundary received, (a.header? HeaderName.contentType).bind MediaType.boundary? = some boundary ∧
          Response.readBatch boundary a.body = .ok received ∧
          List.Forall₂ (Part.Rel Response.ReadAs) outcomes received ∧
          AnsweredInOrder parts exchanges received := by
  intro answer member set body envelope statuses
  have htrimmed : ((numbered answer).read envelope body).toOption.any fun parts =>
      parts.all fun q => q.items.all fun r => r.contentId?.all fun id => Text.trim id = id := by
    decide +kernel
  have hsendable : ((numbered answer).read envelope body).toOption.any fun parts =>
      let run := (numbered (exchanging answer)).handleParts true parts (statuses, [])
      run.1.toOption.any fun outcomes =>
        let drawn := (numbered answer).drawn outcomes 0
        decide (0 + drawn.length < UInt64.size) && run.2.2.all fun x => decide (x.response.Sendable drawn) := by
    decide +kernel
  cases hread : (numbered answer).read envelope body with
  | error r =>
    rw [hread] at htrimmed
    cases htrimmed
  | ok parts =>
    rw [hread] at htrimmed hsendable
    have hids : ∀ q ∈ parts, ∀ r ∈ q.items, ∀ id, r.contentId? = some id → Text.trim id = id := by
      intro q hq r hr id hid
      have hq := List.all_eq_true.1 htrimmed q hq
      have hr := List.all_eq_true.1 hq r hr
      rw [hid] at hr
      exact of_decide_eq_true hr
    obtain ⟨outcomes, s', exchanges, -, hkept, hanswer⟩ :=
      answers_correlate answer Url.parse? hread hids 0 statuses
    have hkept : (numbered (exchanging answer)).handleParts true parts (statuses, [])
        = (.ok outcomes, s', exchanges) := hkept
    simp only [Except.toOption, Option.any_some, hkept, Bool.and_eq_true] at hsendable
    have hsize : 0 + ((numbered answer).drawn outcomes 0).length < UInt64.size := of_decide_eq_true hsendable.1
    have hsend : ∀ x ∈ exchanges, x.response.Sendable ((numbered answer).drawn outcomes 0) := by
      intro x hx
      exact of_decide_eq_true (List.all_eq_true.1 hsendable.2 x hx)
    obtain ⟨a, m, hhandle, hstatus, boundary, hboundary, hreceived⟩ := hanswer hsize
    obtain ⟨received, hread', has, hanswered⟩ := hreceived hsend
    exact ⟨parts, rfl, hids, outcomes, s', exchanges, a, m, hkept, hsize, hsend, hhandle, hstatus,
      boundary, received, hboundary, hread', has, hanswered⟩

end Service

end BatchExchange
