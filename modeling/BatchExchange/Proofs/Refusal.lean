import BatchExchange.Proofs.Parts
import BatchExchange.Proofs.Request.Position
import BatchExchange.Service

/-!
# Refused batches

A batch is read to its end before its first part is handled.  One fault, wherever it is, refuses the whole: the
rejection points to a line of the body, and the processor is left as it was.

* `Service.noting`: a service whose processor also keeps the parts it is given.
* `Service.handle_of_rejected`: refusing a batch changes no state.
* `Service.refused_before_handling`: every rejection has a line, and comes before every part.
-/

namespace BatchExchange.Service

variable {σ β : Type}

/-- A service whose processor also keeps the parts it is given. -/
def noting (service : Service σ β) : Service (σ × List (Part Request)) β where
  processor := service.processor.noting
  source := service.source
  config := service.config
  parse := service.parse

/-- **Refusing a batch changes no state**, neither that of the processor nor that of the boundaries. -/
theorem handle_of_rejected {service : Service σ β} {envelope : Outer.Envelope} {body : Bytes} {r : Rejection}
    (h : service.read envelope body = .error r) (s : σ) (b : β) :
    service.handle envelope body s b = (.error (.rejected r), s, b) := by
  rw [handle, h]

/-- **Every rejection has a line, and comes before every part.**  What reading refuses is the client's fault, at
a line of the body or at the first one if the body has none.  A service that reads with these options gives this
rejection for an answer, and its processor is given no part at all. -/
theorem refused_before_handling {options : Options} {boundary : Text} {body : Bytes} {r : Rejection}
    (hboundary : Boundary.isValid boundary) (h : Request.readBatch options boundary body = .error r) :
    (Failure.rejected r).status = 400 ∧
      (∃ n, r.line = some n ∧ 1 ≤ n ∧ n ≤ max 1 (Line.readAll body).length) ∧
      ∀ {σ β : Type} (service : Service σ β) (envelope : Outer.Envelope) (s : σ) (b : β),
        envelope.boundary = some boundary → service.options envelope.base = options →
          service.handle envelope body s b = (.error (.rejected r), s, b) ∧
          service.noting.handle envelope body (s, []) b = (.error (.rejected r), (s, []), b) := by
  refine ⟨rfl, ?_, ?_⟩
  · have hone : 1 ∈ Set.Icc 1 (max 1 (Line.readAll body).length) := ⟨Nat.le_refl 1, Nat.le_max_left 1 _⟩
    have hlines : ∀ l ∈ Line.readAll body, l.number ∈ Set.Icc 1 (max 1 (Line.readAll body).length) := by
      intro l hl
      obtain ⟨hfirst, hlast⟩ := Line.number_mem_of_mem_readAll hl
      exact ⟨hfirst, Nat.le_trans hlast (Nat.le_max_right 1 _)⟩
    obtain ⟨n, ⟨hfirst, hlast⟩, hn⟩ :=
      (Request.readBatch_within hone hlines hboundary options).pointsInto h
    exact ⟨n, hn, hfirst, hlast⟩
  · intro σ β service envelope s b henvelope hoptions
    have hread : service.read envelope body = .error r := by
      rw [read, henvelope]
      dsimp only
      rw [hoptions, h]
    -- keeping the parts does not change how a batch is read
    have hnoting : service.noting.read envelope body = .error r := hread
    exact ⟨handle_of_rejected hread s b, handle_of_rejected hnoting (s, []) b⟩

/-- A query and a change set that are accepted, and a change set whose last member is a query. -/
theorem refused_before_handling_last_member :
    let mime : Text := "Content-Type: application/http\r\nContent-Transfer-Encoding: binary\r\n".toList
    let member (id line : String) : Text :=
      "--c\r\n".toList ++ mime ++ "Content-ID: ".toList ++ id.toList ++ "\r\n\r\n".toList ++ line.toList
        ++ " HTTP/1.1\r\n\r\n\r\n".toList
    let set (members : Text) : Text :=
      "--b\r\nContent-Type: multipart/mixed; boundary=c\r\n\r\n".toList ++ members ++ "--c--\r\n".toList
    let front : Text := "--b\r\n".toList ++ mime ++ "\r\nGET Items HTTP/1.1\r\n\r\n\r\n".toList
      ++ set (member "1" "POST Items")
    let close : Text := "--b--\r\n".toList
    let body : Bytes :=
      Utf8.encode (front ++ set (member "1" "POST Items" ++ member "2" "GET Items") ++ close)
    let answer : Request → Nat → Response × Nat := fun _ s => ({ status := 204 }, s + 1)
    let service : Service Nat Nat := { processor := { answer }, source := .sequential }
    let r : Rejection := ⟨.getInChangeSet, some 36⟩
    (Request.readBatch {} "b".toList (Utf8.encode (front ++ close))).isOk ∧
      Request.readBatch {} "b".toList body = .error r ∧ (Line.readAll body).length = 40 ∧
      service.noting.handle { boundary := some ['b'] } body (0, []) 0 = (.error (.rejected r), (0, []), 0) := by
  intro mime member set front close body answer service r
  have hrefused : Request.readBatch {} "b".toList body = .error r := by decide +kernel
  obtain ⟨-, -, hhandle⟩ := refused_before_handling (by decide) hrefused
  refine ⟨by decide +kernel, hrefused, by decide +kernel, ?_⟩
  exact (hhandle service { boundary := some ['b'] } 0 0 rfl rfl).2

end BatchExchange.Service
