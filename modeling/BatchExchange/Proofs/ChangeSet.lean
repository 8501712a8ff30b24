import BatchExchange.Proofs.Exchange

/-!
# Change sets end at their first failure

Unless a processor runs change sets in a way of its own, members are answered in order up to the first one
whose response fails.  This response alone stands for the change set then, and no later member reaches the
processor.  A change set without failure has the responses of all its members.

* `Session.Cut`: the members that are answered, and what comes of the change set.
* `Session.untilError_cut`, `Session.exists_cut`: change sets under way end so, whatever is kept of them.
* `Processor.part_changeSet_cut`: so do parts that are change sets.
-/

namespace BatchExchange

section Answer

variable {σ : Type} (answer : Request → σ → Response × σ)

namespace Session

/-- How a change set ends whose members `rs` are answered from `s` on: `done` are the members that the
processor is given. -/
inductive Cut (s : Session σ) (rs : List Request) : (done : List Request) → Part Response → Prop
  /-- No exchange fails, and all responses are passed on. -/
  | passed (h : ∀ x ∈ exchanges answer rs s, ¬x.Fails) :
      Cut s rs rs (.changeSet ((exchanges answer rs s).map Exchange.outcome))
  /-- The last exchange is the first that fails, and its response alone is passed on. -/
  | failed {done rest : List Request} {before : List Exchange} {x : Exchange} (hrs : rs = done ++ rest)
      (hdone : exchanges answer done s = before ++ [x]) (hbefore : ∀ y ∈ before, ¬y.Fails)
      (hx : x.Fails) : Cut s rs done (.single x.outcome)

/-- The processor is given members in order, from the first one on. -/
theorem Cut.exists_rest {s : Session σ} {rs done : List Request} {out : Part Response}
    (h : Cut answer s rs done out) : ∃ rest, rs = done ++ rest := by
  cases h with
  | passed => exact ⟨[], (List.append_nil rs).symm⟩
  | failed hrs => exact ⟨_, hrs⟩

/-- Each exchange answers one of the members, when those in front of it have been answered. -/
theorem Cut.exists_of_mem {s : Session σ} {rs done : List Request} {out : Part Response}
    (h : Cut answer s rs done out) {x : Exchange} (hx : x ∈ exchanges answer done s) :
    ∃ earlier r later, rs = earlier ++ r :: later ∧ x = exchange answer r (after answer earlier s) := by
  obtain ⟨rest, rfl⟩ := h.exists_rest
  obtain ⟨earlier, r, later, rfl, rfl⟩ := exists_of_mem_exchanges answer hx
  exact ⟨earlier, r, later ++ rest, by rw [List.append_assoc, List.cons_append], rfl⟩

/-- **A change set under way is cut at its first failure.**  The induction is on the members to come; none of
those that are `done` has failed, and their responses are kept with the last of them first. -/
theorem untilError_cut {ν : Type} (note : Request → Response → ν) (s : Session σ) (log : List ν)
    {done : List Request} (hdone : ∀ x ∈ exchanges answer done s, ¬x.Fails) (rest : List Request) :
    let kept := fun done => log ++ (exchanges answer done s).map (Exchange.keep note)
    ∃ done' part, Cut answer s (done ++ rest) done' part ∧
      untilError answer ((exchanges answer done s).map Exchange.outcome).reverse rest
          (after answer done s) = (part, after answer done' s) ∧
      untilError (keeping note answer) ((exchanges answer done s).map Exchange.outcome).reverse rest
          ((after answer done s).withLog (kept done))
        = (part, (after answer done' s).withLog (kept done')) := by
  intro kept
  induction rest generalizing done with
  | nil =>
    rw [List.append_nil]
    refine ⟨done, _, .passed hdone, ?_, ?_⟩
    · rw [untilError, List.reverse_reverse]
    · rw [untilError, List.reverse_reverse]
  | cons r rest ih =>
    have hlast : exchanges answer (done ++ [r]) s
        = exchanges answer done s ++ [exchange answer r (after answer done s)] :=
      exchanges_concat answer done r s
    have hkept : kept done ++ [(exchange answer r (after answer done s)).keep note] = kept (done ++ [r]) := by
      show _ = log ++ (exchanges answer (done ++ [r]) s).map (Exchange.keep note)
      rw [hlast, List.map_append, ← List.append_assoc]
      rfl
    rw [untilError, untilError, handle_withLog, hkept]
    dsimp only
    rw [fst_handle]
    by_cases hfails : (exchange answer r (after answer done s)).Fails
    · rw [if_pos (Exchange.isError_outcome.2 hfails), if_pos (Exchange.isError_outcome.2 hfails),
        ← after_concat]
      exact ⟨done ++ [r], _, .failed (List.append_cons done r rest) hlast hdone hfails, rfl, rfl⟩
    · have hdone' : ∀ x ∈ exchanges answer (done ++ [r]) s, ¬x.Fails := by
        rw [hlast, List.forall_mem_append, List.forall_mem_singleton]
        exact ⟨hdone, hfails⟩
      have ih := ih hdone'
      have hno : ¬(exchange answer r (after answer done s)).outcome.isError := by
        rwa [Exchange.isError_outcome]
      rw [if_neg hno, if_neg hno, List.append_cons done r rest, ← after_concat]
      rw [hlast, List.map_append, List.reverse_append] at ih
      exact ih

/-- A change set ends at its first failure, and as it does when nothing is kept of it. -/
theorem exists_cut {ν : Type} (note : Request → Response → ν) (rs : List Request) (s : Session σ)
    (log : List ν) :
    ∃ done out, Cut answer s rs done out ∧ untilError answer [] rs s = (out, after answer done s) ∧
      untilError (keeping note answer) [] rs (s.withLog log)
        = (out, (after answer done s).withLog
            (log ++ (exchanges answer done s).map (Exchange.keep note))) := by
  have hnone : ∀ x ∈ exchanges answer [] s, ¬x.Fails := by
    intro x hx
    cases hx
  obtain ⟨done, out, hcut, hplain, hkept⟩ := untilError_cut answer note s log hnone rs
  have hstart : log ++ (exchanges answer [] s).map (Exchange.keep note) = log := List.append_nil log
  dsimp only at hkept
  rw [hstart] at hkept
  exact ⟨done, out, hcut, hplain, hkept⟩

end Session

namespace Processor

/-- **A change set ends at its first failure**, and as it does when its exchanges are not kept. -/
theorem part_changeSet_cut (rs : List Request) (s : σ) (log : List Exchange) :
    ∃ done out, Session.Cut answer { state := s } rs done out ∧
      ({ answer } : Processor σ).part (.changeSet rs) s
        = (.ok out, (Session.after answer done { state := s }).state) ∧
      ({ answer := exchanging answer } : Processor (σ × List Exchange)).part (.changeSet rs) (s, log)
        = (.ok out, (Session.after answer done { state := s }).state,
            log ++ Session.exchanges answer done { state := s }) := by
  obtain ⟨done, out, hcut, hplain, hkept⟩ :=
    Session.exists_cut answer Exchange.mk rs { state := s } log
  rw [Exchange.map_keep_mk] at hkept
  have hkept : Session.untilError (exchanging answer) [] rs { state := (s, log) }
      = (out, (Session.after answer done { state := s }).withLog
          (log ++ Session.exchanges answer done { state := s })) := hkept
  refine ⟨done, out, hcut, ?_, ?_⟩
  · rw [part]
    dsimp only
    rw [hplain]
  · rw [part]
    dsimp only
    rw [hkept]
    rfl

/-- **Change sets are answered in order, and all or nothing.**  The processor is given the members up to the
first failure, each once, with its references replaced.  If there is a failure, its response alone is the
outcome, and otherwise the responses of all members are, each marked with the Content-ID of its member. -/
theorem changeSet_all_or_first_failure (rs : List Request) (s : σ) :
    let run :=
      ({ answer := exchanging answer } : Processor (σ × List Exchange)).part (.changeSet rs) (s, [])
    let exchanges := run.2.2
    ({ answer } : Processor σ).part (.changeSet rs) s = (run.1, run.2.1) ∧
      (∃ done rest, rs = done ++ rest ∧ exchanges = Session.exchanges answer done { state := s } ∧
        exchanges.map (fun x => x.request.contentId?) = done.map Request.contentId? ∧
        ((rest = [] ∧ (∀ x ∈ exchanges, ¬x.Fails) ∧
            run.1 = .ok (.changeSet (exchanges.map Exchange.outcome))) ∨
          ∃ before x, exchanges = before ++ [x] ∧ (∀ y ∈ before, ¬y.Fails) ∧ x.Fails ∧
            run.1 = .ok (.single x.outcome))) ∧
      (∀ x ∈ exchanges, x.outcome.contentId? = x.request.contentId?.or x.response.contentId?) ∧
      ∀ responses, run.1 = .ok (.changeSet responses) →
        ∀ r ∈ responses, ¬(400 ≤ r.status.toNat ∧ r.status.toNat < 600) := by
  intro run exchanges
  obtain ⟨done, out, hcut, hplain, hkept⟩ := part_changeSet_cut answer rs s []
  rw [List.nil_append] at hkept
  have hrun : run = (.ok out, (Session.after answer done { state := s }).state,
      Session.exchanges answer done { state := s }) := hkept
  have hexchanges : exchanges = Session.exchanges answer done { state := s } :=
    congrArg (fun run => run.2.2) hrun
  have hids : exchanges.map (fun x => x.request.contentId?) = done.map Request.contentId? := by
    rw [hexchanges, Session.contentIds_exchanges]
  refine ⟨by rw [hplain, hrun], ?_, fun _ _ => Response.contentId?_tag _ _, ?_⟩
  · cases hcut with
    | passed h =>
      refine ⟨rs, [], (List.append_nil rs).symm, hexchanges, hids, .inl ⟨rfl, ?_, ?_⟩⟩
      · rwa [hexchanges]
      · rw [hexchanges, hrun]
    | failed hrs hdone hbefore hx =>
      exact ⟨done, _, hrs, hexchanges, hids,
        .inr ⟨_, _, hexchanges.trans hdone, hbefore, hx, by rw [hrun]⟩⟩
  · intro responses hresponses r hr
    rw [hrun] at hresponses
    cases hcut with
    | passed h =>
      cases hresponses
      obtain ⟨x, hx, rfl⟩ := List.mem_map.1 hr
      rw [← Response.isError_iff, Exchange.isError_outcome]
      exact h x hx
    | failed => cases hresponses

end Processor

end Answer

/-- Of four members the third fails: a status of 600 is no failure, and the fourth member is not answered. -/
theorem Processor.changeSet_all_or_first_failure_third :
    let answer : Request → List UInt16 → Response × List UInt16 := fun _ statuses =>
      ({ status := statuses.headD 204 }, statuses.tail)
    let member (id : String) : Request :=
      { Request.of .post [] "/Items".toList with
        headers := .ofList [(HeaderName.contentId, id.toList)] }
    let rs := [member "1", member "2", member "3", member "4"]
    let run := ({ answer := exchanging answer } : Processor (List UInt16 × List Exchange)).part
      (.changeSet rs) ([201, 600, 404], [])
    let exchanges := run.2.2
    exchanges.length = 3 ∧
      ({ answer } : Processor (List UInt16)).part (.changeSet rs) [201, 600, 404] = (run.1, run.2.1) ∧
      (∃ done rest, rs = done ++ rest ∧
        exchanges = Session.exchanges answer done { state := [201, 600, 404] } ∧
        exchanges.map (fun x => x.request.contentId?) = done.map Request.contentId? ∧
        ((rest = [] ∧ (∀ x ∈ exchanges, ¬x.Fails) ∧
            run.1 = .ok (.changeSet (exchanges.map Exchange.outcome))) ∨
          ∃ before x, exchanges = before ++ [x] ∧ (∀ y ∈ before, ¬y.Fails) ∧ x.Fails ∧
            run.1 = .ok (.single x.outcome))) ∧
      (∀ x ∈ exchanges, x.outcome.contentId? = x.request.contentId?.or x.response.contentId?) ∧
      ∀ responses, run.1 = .ok (.changeSet responses) →
        ∀ r ∈ responses, ¬(400 ≤ r.status.toNat ∧ r.status.toNat < 600) := by
  intro answer member rs run exchanges
  have hthree : exchanges.length = 3 := by decide +kernel
  exact ⟨hthree, changeSet_all_or_first_failure answer rs [201, 600, 404]⟩

end BatchExchange
