import BatchExchange.Processor
import BatchExchange.Proofs.Request.Expansion

/-!
# Exchanges with a processor

What passes between a change set under way and its processor: each request as the processor is given it, with
references replaced, and each response as the processor gives it, not yet marked with a Content-ID.

* `Exchange`: a request and the answer to it; `Exchange.Fails` and `Exchange.outcome` say what becomes of it.
* `exchanging`: an answer function that also keeps its exchanges.
* `Session.exchanges`: the exchanges that answer members one after the other.
* `Session.handleAll_withLog`: what is kept of members that are answered, by whatever is kept of an exchange.
-/

namespace BatchExchange

/-- A request as a processor is given it, and what it answers. -/
structure Exchange where
  request : Request
  response : Response
deriving DecidableEq, Repr

namespace Exchange

/-- What is kept of an exchange. -/
def keep {ν : Type} (note : Request → Response → ν) (x : Exchange) : ν := note x.request x.response

/-- The response as it is passed on. -/
def outcome (x : Exchange) : Response := x.response.tag x.request.contentId?

/-- Whether the status of the response is one of 400 to 599. -/
def Fails (x : Exchange) : Prop := 400 ≤ x.response.status.toNat ∧ x.response.status.toNat < 600

/-- Of exchanges that are kept as a whole nothing is lost. -/
theorem map_keep_mk (xs : List Exchange) : xs.map (keep Exchange.mk) = xs := List.map_id xs

instance (x : Exchange) : Decidable x.Fails := inferInstanceAs (Decidable (_ ∧ _))

end Exchange

namespace Response

theorem isError_iff {r : Response} : r.isError ↔ 400 ≤ r.status.toNat ∧ r.status.toNat < 600 := by
  rw [isError, Status.isError, Bool.and_eq_true, decide_eq_true_eq, decide_eq_true_eq,
    UInt16.le_iff_toNat_le, UInt16.lt_iff_toNat_lt]
  rfl

@[simp] theorem status_tag (id : Option Text) (r : Response) : (r.tag id).status = r.status := by
  cases id <;> rfl

@[simp] theorem body_tag (id : Option Text) (r : Response) : (r.tag id).body = r.body := by
  cases id <;> rfl

/-- **A response that is marked has the Content-ID of its request**, and its own where that has none. -/
@[simp] theorem contentId?_tag (id : Option Text) (r : Response) :
    (r.tag id).contentId? = id.or r.contentId? := by
  cases id with
  | none => rfl
  | some id =>
    rw [tag, contentId?, Headers.value?, Headers.get?_set, if_pos rfl]
    exact congrArg some (Field.value_of_single HeaderName.contentId id _)

end Response

theorem Exchange.isError_outcome {x : Exchange} : x.outcome.isError ↔ x.Fails := by
  rw [outcome, Response.isError_iff, Response.status_tag, Fails]

section Exchanging

variable {σ : Type} (answer : Request → σ → Response × σ)

/-- An answer function that also keeps its exchanges. -/
def exchanging : Request → σ × List Exchange → Response × (σ × List Exchange) :=
  keeping Exchange.mk answer

namespace Session

/-- A change set under way whose processor has kept something. -/
def withLog {ν : Type} (s : Session σ) (log : List ν) : Session (σ × List ν) where
  table := s.table
  state := (s.state, log)

/-- The exchange that answers a member. -/
def exchange (r : Request) (s : Session σ) : Exchange where
  request := r.expand s.table
  response := (answer (r.expand s.table) s.state).1

/-- A change set under way when some members have been answered. -/
def after (rs : List Request) (s : Session σ) : Session σ := (handleAll answer rs s).2

/-- The exchanges that answer members one after the other. -/
def exchanges : List Request → Session σ → List Exchange
  | [], _ => []
  | r :: rs, s => exchange answer r s :: exchanges rs (handle answer r s).2

@[simp] theorem after_nil (s : Session σ) : after answer [] s = s := rfl

@[simp] theorem after_cons (r : Request) (rs : List Request) (s : Session σ) :
    after answer (r :: rs) s = after answer rs (handle answer r s).2 := rfl

@[simp] theorem exchanges_nil (s : Session σ) : exchanges answer [] s = [] := rfl

@[simp] theorem exchanges_cons (r : Request) (rs : List Request) (s : Session σ) :
    exchanges answer (r :: rs) s
      = exchange answer r s :: exchanges answer rs (handle answer r s).2 := rfl

theorem after_append (rs rs' : List Request) (s : Session σ) :
    after answer (rs ++ rs') s = after answer rs' (after answer rs s) := by
  induction rs generalizing s with
  | nil => rfl
  | cons r rs ih => exact ih _

theorem exchanges_append (rs rs' : List Request) (s : Session σ) :
    exchanges answer (rs ++ rs') s
      = exchanges answer rs s ++ exchanges answer rs' (after answer rs s) := by
  induction rs generalizing s with
  | nil => rfl
  | cons r rs ih => rw [List.cons_append, exchanges_cons, ih, after_cons, exchanges_cons, List.cons_append]

theorem after_concat (rs : List Request) (r : Request) (s : Session σ) :
    after answer (rs ++ [r]) s = (handle answer r (after answer rs s)).2 := after_append answer rs [r] s

theorem exchanges_concat (rs : List Request) (r : Request) (s : Session σ) :
    exchanges answer (rs ++ [r]) s
      = exchanges answer rs s ++ [exchange answer r (after answer rs s)] :=
  exchanges_append answer rs [r] s

/-- **A member goes to the processor with its references replaced**, and its response is passed on with its
Content-ID. -/
theorem fst_handle (r : Request) (s : Session σ) :
    (handle answer r s).1 = (exchange answer r s).outcome := rfl

theorem contentId?_exchange (r : Request) (s : Session σ) :
    (exchange answer r s).request.contentId? = r.contentId? :=
  Request.contentId?_expand s.table r

/-- Each member has an exchange of its own, in which it keeps its Content-ID. -/
theorem contentIds_exchanges (rs : List Request) (s : Session σ) :
    (exchanges answer rs s).map (fun x => x.request.contentId?) = rs.map Request.contentId? := by
  induction rs generalizing s with
  | nil => rfl
  | cons r rs ih => rw [exchanges_cons, List.map_cons, ih, contentId?_exchange, List.map_cons]

theorem exists_of_mem_exchanges {rs : List Request} {s : Session σ} {x : Exchange}
    (hx : x ∈ exchanges answer rs s) :
    ∃ earlier r later, rs = earlier ++ r :: later ∧ x = exchange answer r (after answer earlier s) := by
  induction rs generalizing s with
  | nil => cases hx
  | cons r rs ih =>
    rcases List.mem_cons.1 hx with rfl | hx
    · exact ⟨[], r, rs, rfl, rfl⟩
    · obtain ⟨earlier, r', later, rfl, rfl⟩ := ih hx
      exact ⟨r :: earlier, r', later, rfl, rfl⟩

/-! ### What is kept -/

section Keeping

variable {ν : Type} (note : Request → Response → ν)

theorem handle_withLog (r : Request) (s : Session σ) (log : List ν) :
    handle (keeping note answer) r (s.withLog log)
      = ((handle answer r s).1, (handle answer r s).2.withLog (log ++ [(exchange answer r s).keep note])) := rfl

/-- **Members that are answered one after the other** are kept in their order, each once. -/
theorem handleAll_withLog (rs : List Request) (s : Session σ) (log : List ν) :
    handleAll (keeping note answer) rs (s.withLog log)
      = ((handleAll answer rs s).1,
          (after answer rs s).withLog (log ++ (exchanges answer rs s).map (Exchange.keep note))) := by
  induction rs generalizing s log with
  | nil => rw [exchanges_nil, List.map_nil, List.append_nil]; rfl
  | cons r rs ih =>
    rw [handleAll, handle_withLog]
    dsimp only
    rw [ih, exchanges_cons, List.map_cons, List.append_assoc]
    rfl

end Keeping

theorem after_withLog (rs : List Request) (s : Session σ) (log : List Exchange) :
    after (exchanging answer) rs (s.withLog log)
      = (after answer rs s).withLog (log ++ exchanges answer rs s) := by
  rw [after, exchanging, handleAll_withLog, Exchange.map_keep_mk]

end Session

end Exchanging

end BatchExchange
