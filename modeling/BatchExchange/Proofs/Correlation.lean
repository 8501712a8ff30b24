import BatchExchange.Proofs.ChangeSet
import BatchExchange.Proofs.Parts

/-!
# Answers correlate with requests

While parts are handled, each part that the processor is given has exchanges of its own.  What comes of the part
has the shape of the part, unless a member of a change set failed; and each response has the Content-ID of the
request that it answers.

* `Response.Matches`: a response with the Content-ID of a request.
* `Part.Answered`, `AnsweredInOrder`: parts, the exchanges that answer them and what comes of them.
* `Processor.exists_answeredInOrder`: so end runs over parts.
* `AnsweredInOrder.of_rel`: what is read in the place of responses answers as they do.
-/

namespace BatchExchange

/-- A response with the Content-ID of a request, if that has one. -/
def Response.Matches (r : Request) (a : Response) : Prop :=
  ∀ id, r.contentId? = some id → a.contentId? = some id

theorem Exchange.matches_outcome {x : Exchange} {r : Request}
    (h : x.request.contentId? = r.contentId?) : Response.Matches r x.outcome := by
  intro id hid
  rw [outcome, Response.contentId?_tag, h, hid, Option.some_or]

/-- How the exchanges of a part answer it. -/
inductive Part.Answered : Part Request → List Exchange → Part Response → Prop
  | single {r : Request} {x : Exchange} {a : Response} (hx : x.request = r) (ha : Response.Matches r a) :
      Answered (.single r) [x] (.single a)
  /-- All members are answered, none of them with a failure. -/
  | changeSet {rs : List Request} {xs : List Exchange} {as : List Response}
      (hids : xs.map (fun x => x.request.contentId?) = rs.map Request.contentId?)
      (hpassed : ∀ x ∈ xs, ¬x.Fails) (has : List.Forall₂ Response.Matches rs as) :
      Answered (.changeSet rs) xs (.changeSet as)
  /-- The member `r` is the first that fails, and its response is all that is left. -/
  | aborted {before after : List Request} {r : Request} {xs : List Exchange} {x : Exchange}
      {a : Response} (hids : xs.map (fun x => x.request.contentId?) = before.map Request.contentId?)
      (hpassed : ∀ y ∈ xs, ¬y.Fails) (hid : x.request.contentId? = r.contentId?) (hx : x.Fails)
      (ha : Response.Matches r a) :
      Answered (.changeSet (before ++ r :: after)) (xs ++ [x]) (.single a)

/-- How exchanges answer the first of some parts, one part after the other. -/
inductive AnsweredInOrder : List (Part Request) → List Exchange → List (Part Response) → Prop
  | nil (qs : List (Part Request)) : AnsweredInOrder qs [] []
  | cons {q : Part Request} {qs : List (Part Request)} {xs ys : List Exchange} {out : Part Response}
      {outs : List (Part Response)} (first : q.Answered xs out) (rest : AnsweredInOrder qs ys outs) :
      AnsweredInOrder (q :: qs) (xs ++ ys) (out :: outs)

/-- What is read in the place of responses, with their Content-IDs, answers as they do. -/
theorem Part.Answered.of_rel {R : Response → Response → Prop}
    (hR : ∀ a a', R a a' → a'.contentId? = a.contentId?) {q : Part Request} {xs : List Exchange}
    {out out' : Part Response} (h : q.Answered xs out) (hout : Part.Rel R out out') :
    q.Answered xs out' := by
  have hmatch : ∀ r a a', Response.Matches r a → R a a' → Response.Matches r a' :=
    fun r a a' ha haa id hid => (hR a a' haa).trans (ha id hid)
  cases h with
  | single hx ha =>
    cases hout with
    | single haa => exact .single hx (hmatch _ _ _ ha haa)
  | changeSet hids hpassed has =>
    cases hout with
    | changeSet haas => exact .changeSet hids hpassed (Outcome.forall₂_trans hmatch has haas)
  | aborted hids hpassed hid hx ha =>
    cases hout with
    | single haa => exact .aborted hids hpassed hid hx (hmatch _ _ _ ha haa)

theorem AnsweredInOrder.of_rel {R : Response → Response → Prop}
    (hR : ∀ a a', R a a' → a'.contentId? = a.contentId?) {qs : List (Part Request)}
    {xs : List Exchange} {outs outs' : List (Part Response)} (h : AnsweredInOrder qs xs outs)
    (houts : List.Forall₂ (Part.Rel R) outs outs') : AnsweredInOrder qs xs outs' := by
  induction h generalizing outs' with
  | nil qs =>
    rw [List.forall₂_nil_left_iff.1 houts]
    exact .nil qs
  | cons first _ ih =>
    obtain ⟨out', rest', hout, hrest, rfl⟩ := List.forall₂_cons_left_iff.1 houts
    exact .cons (first.of_rel hR hout) (ih hrest)

section Answer

variable {σ : Type} (answer : Request → σ → Response × σ)

theorem Session.matches_exchanges (rs : List Request) (s : Session σ) :
    List.Forall₂ Response.Matches rs ((exchanges answer rs s).map Exchange.outcome) := by
  induction rs generalizing s with
  | nil => exact .nil
  | cons r rs ih => exact .cons (Exchange.matches_outcome (contentId?_exchange answer r s)) (ih _)

/-- The exchanges of a change set answer it, and no response comes from elsewhere. -/
theorem Session.Cut.answered {s : Session σ} {rs done : List Request} {out : Part Response}
    (h : Cut answer s rs done out) :
    Part.Answered (.changeSet rs) (exchanges answer done s) out ∧
      ∀ a ∈ out.items, ∃ x ∈ exchanges answer done s, a = x.outcome := by
  cases h with
  | passed hpassed =>
    refine ⟨.changeSet (contentIds_exchanges answer rs s) hpassed (matches_exchanges answer rs s), ?_⟩
    intro a ha
    obtain ⟨x, hx, rfl⟩ := List.mem_map.1 ha
    exact ⟨x, hx, rfl⟩
  | @failed _ rest before x hrs hdone hbefore hx =>
    rcases List.eq_nil_or_concat' done with rfl | ⟨front, r, rfl⟩
    · exact absurd hdone (by simp)
    -- the member that failed is the last one that was answered
    have hlast : exchanges answer front s = before ∧ exchange answer r (after answer front s) = x := by
      rw [exchanges_concat] at hdone
      simpa using List.append_inj' hdone rfl
    obtain ⟨rfl, rfl⟩ := hlast
    have hid := contentId?_exchange answer r (after answer front s)
    rw [hrs, List.append_assoc, hdone]
    refine ⟨.aborted (contentIds_exchanges answer front s) hbefore hid hx
      (Exchange.matches_outcome hid), ?_⟩
    intro a ha
    exact ⟨_, by simp, List.mem_singleton.1 ha⟩

namespace Processor

/-- **A part is answered by exchanges of its own**, and does not fail. -/
theorem exists_answered (q : Part Request) (s : σ) (log : List Exchange) :
    ∃ out s' xs, ({ answer } : Processor σ).part q s = (.ok out, s') ∧
      ({ answer := exchanging answer } : Processor (σ × List Exchange)).part q (s, log)
        = (.ok out, s', log ++ xs) ∧
      q.Answered xs out ∧ ∀ a ∈ out.items, ∃ x ∈ xs, a = x.outcome := by
  cases q with
  | single r =>
    have hmatches : Response.Matches r (Exchange.outcome ⟨r, (answer r s).1⟩) :=
      Exchange.matches_outcome rfl
    refine ⟨_, _, [⟨r, (answer r s).1⟩], rfl, rfl, .single rfl hmatches, ?_⟩
    exact List.forall_mem_singleton.2 ⟨_, List.mem_singleton_self _, rfl⟩
  | changeSet rs =>
    obtain ⟨done, out, hcut, hplain, hkept⟩ := part_changeSet_cut answer rs s log
    exact ⟨out, _, _, hplain, hkept, hcut.answered⟩

/-- **A run over parts has outcomes**, and exchanges that answer them in order. -/
theorem exists_answeredInOrder (continueOnError : Bool) (qs : List (Part Request)) (s : σ)
    (log : List Exchange) :
    ∃ outs s' xs, ({ answer } : Processor σ).parts continueOnError qs s = (.ok outs, s') ∧
      ({ answer := exchanging answer } : Processor (σ × List Exchange)).parts continueOnError qs (s, log)
        = (.ok outs, s', log ++ xs) ∧
      AnsweredInOrder qs xs outs ∧
      ∀ out ∈ outs, ∀ a ∈ out.items, ∃ x ∈ xs, a = x.outcome := by
  induction qs generalizing s log with
  | nil =>
    refine ⟨[], s, [], rfl, ?_, .nil [], fun _ hout => (nomatch hout)⟩
    rw [List.append_nil]
    rfl
  | cons q qs ih =>
    obtain ⟨out, s', xs, hplain, hkept, hanswered, hitems⟩ := exists_answered answer q s log
    by_cases hgo : continueOnError = false → ¬out.HasError
    · obtain ⟨outs, s'', ys, hplain', hkept', hanswered', hitems'⟩ := ih s' (log ++ xs)
      refine ⟨out :: outs, s'', xs ++ ys, ?_, ?_, .cons hanswered hanswered', ?_⟩
      · rw [parts_cons_of_goesOn qs hplain hgo, hplain']
        rfl
      · rw [parts_cons_of_goesOn qs hkept hgo, hkept', List.append_assoc]
        rfl
      · refine List.forall_mem_cons.2 ⟨?_, ?_⟩
        · intro a ha
          obtain ⟨x, hx, hax⟩ := hitems a ha
          exact ⟨x, List.mem_append_left ys hx, hax⟩
        · intro out' hout' a ha
          obtain ⟨x, hx, hax⟩ := hitems' out' hout' a ha
          exact ⟨x, List.mem_append_right xs hx, hax⟩
    · rw [Classical.not_imp, Classical.not_not] at hgo
      obtain ⟨rfl, herror⟩ := hgo
      -- the parts behind this one have neither exchanges nor outcomes
      have hone : AnsweredInOrder (q :: qs) xs [out] := by
        rw [← List.append_nil xs]
        exact .cons hanswered (.nil qs)
      exact ⟨[out], s', xs, parts_cons_of_error qs hplain herror, parts_cons_of_error qs hkept herror,
        hone, List.forall_mem_singleton.2 hitems⟩

end Processor

end Answer

end BatchExchange
