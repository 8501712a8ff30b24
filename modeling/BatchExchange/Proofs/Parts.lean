import BatchExchange.Proofs.Exchange
import BatchExchange.Proofs.Outcome

/-!
# Parts are handled in order

However a processor runs change sets, parts are handled one after the other, each in the state that the parts
in front of it left.  A failure without a response ends the run and takes the place of all outcomes.  So does
not a part with an error status: it is the last one that is handled, unless the run is to continue.

* `Processor.Handled`: parts that are handled without a failure.
* `Processor.Ends`: how a run over parts ends.
* `Processor.noting`: a processor that also keeps the parts it is given.
* `Processor.Handled.parts_append`: a run goes on behind parts that were handled.
* `Processor.parts_keeping`: what is kept of each part is kept of a run, which ends as it does otherwise.
* `Processor.parts_handled_in_order`: the end of every run.
-/

namespace BatchExchange

/-- Whether a part has a response with a status of 400 to 599. -/
def Part.HasError (p : Part Response) : Prop :=
  ∃ r ∈ p.items, 400 ≤ r.status.toNat ∧ r.status.toNat < 600

theorem Part.isError_iff {p : Part Response} : p.isError ↔ p.HasError := by
  rw [isError, List.any_eq_true, HasError]
  simp only [Response.isError_iff]

namespace Processor

variable {σ : Type}

/-- Parts that are handled one after the other, none of them with a failure, and their outcomes. -/
inductive Handled (p : Processor σ) : σ → List (Part Request) → List (Part Response) → σ → Prop
  | nil (s : σ) : Handled p s [] [] s
  | cons {s s' s'' : σ} {q : Part Request} {out : Part Response} {qs : List (Part Request)}
      {outs : List (Part Response)} (first : p.part q s = (.ok out, s'))
      (rest : Handled p s' qs outs s'') : Handled p s (q :: qs) (out :: outs) s''

/-- Whether a run goes on behind parts with these outcomes. -/
def GoesOn (continueOnError : Bool) (outs : List (Part Response)) : Prop :=
  continueOnError = false → ∀ out ∈ outs, ¬out.HasError

/-- How a run over `qs` ends: the parts that are handled, the outcome of the run and the state it leaves. -/
inductive Ends (p : Processor σ) (continueOnError : Bool) (s : σ) (qs : List (Part Request)) :
    List (Part Request) → Except Failure (List (Part Response)) → σ → Prop
  /-- All parts are handled. -/
  | passed {outs : List (Part Response)} {s' : σ} (handled : p.Handled s qs outs s')
      (goesOn : GoesOn continueOnError outs) : Ends p continueOnError s qs qs (.ok outs) s'
  /-- The run stops behind the first part with an error. -/
  | stopped {before after : List (Part Request)} {q : Part Request} {outs : List (Part Response)}
      {out : Part Response} {s₁ s₂ : σ} (hqs : qs = before ++ q :: after)
      (hstop : continueOnError = false) (handled : p.Handled s before outs s₁)
      (goesOn : GoesOn continueOnError outs) (last : p.part q s₁ = (.ok out, s₂))
      (herror : out.HasError) :
      Ends p continueOnError s qs (before ++ [q]) (.ok (outs ++ [out])) s₂
  /-- A part fails without a response. -/
  | failed {before after : List (Part Request)} {q : Part Request} {outs : List (Part Response)}
      {f : Failure} {s₁ s₂ : σ} (hqs : qs = before ++ q :: after) (handled : p.Handled s before outs s₁)
      (goesOn : GoesOn continueOnError outs) (last : p.part q s₁ = (.error f, s₂)) :
      Ends p continueOnError s qs (before ++ [q]) (.error f) s₂

variable {p : Processor σ} {continueOnError : Bool}

theorem GoesOn.tail {out : Part Response} {outs : List (Part Response)}
    (h : GoesOn continueOnError (out :: outs)) : GoesOn continueOnError outs :=
  fun hstop _ hout => h hstop _ (List.mem_cons_of_mem out hout)

theorem GoesOn.cons {out : Part Response} {outs : List (Part Response)}
    (h : continueOnError = false → ¬out.HasError) (hs : GoesOn continueOnError outs) :
    GoesOn continueOnError (out :: outs) :=
  fun hstop => List.forall_mem_cons.2 ⟨h hstop, hs hstop⟩

theorem Handled.length_eq {s s' : σ} {qs : List (Part Request)} {outs : List (Part Response)}
    (h : p.Handled s qs outs s') : outs.length = qs.length := by
  induction h with
  | nil => rfl
  | cons _ _ ih => rw [List.length_cons, ih, List.length_cons]

/-! ### One part -/

section Step

variable {q : Part Request} {s s' : σ} (qs : List (Part Request))

theorem parts_cons_of_failure {f : Failure} (h : p.part q s = (.error f, s')) :
    p.parts continueOnError (q :: qs) s = (.error f, s') := by
  rw [parts, h]

theorem parts_cons_of_error {out : Part Response} (h : p.part q s = (.ok out, s'))
    (herror : out.HasError) : p.parts false (q :: qs) s = (.ok [out], s') := by
  have hcond : out.isError && !false := by rw [Part.isError_iff.2 herror]; rfl
  rw [parts, h]
  dsimp only
  rw [if_pos hcond]

theorem parts_cons_of_goesOn {out : Part Response} (h : p.part q s = (.ok out, s'))
    (hgo : continueOnError = false → ¬out.HasError) :
    p.parts continueOnError (q :: qs) s
      = ((p.parts continueOnError qs s').1.map (out :: ·), (p.parts continueOnError qs s').2) := by
  have hcond : ¬(out.isError && !continueOnError) := by
    cases continueOnError with
    | false =>
      have hno := hgo rfl
      rw [← Part.isError_iff] at hno
      simpa using hno
    | true => simp
  rw [parts, h]
  dsimp only
  rw [if_neg hcond]

end Step

/-! ### Runs -/

/-- **A run goes on behind parts that were handled**, and their outcomes stand in front. -/
theorem Handled.parts_append {s s' : σ} {before : List (Part Request)} {outs : List (Part Response)}
    (h : p.Handled s before outs s') (hgo : GoesOn continueOnError outs) (qs : List (Part Request)) :
    p.parts continueOnError (before ++ qs) s
      = ((p.parts continueOnError qs s').1.map (outs ++ ·), (p.parts continueOnError qs s').2) := by
  induction h with
  | nil s =>
    show p.parts continueOnError qs s = _
    rw [show (([] : List (Part Response)) ++ ·) = fun outs => outs from rfl, Outcome.map_id_eq]
  | cons first _ ih =>
    have hfirst := fun hstop => hgo hstop _ List.mem_cons_self
    rw [List.cons_append, parts_cons_of_goesOn _ first hfirst, ih hgo.tail, Outcome.map_map]
    rfl

/-- **A processor that also keeps something of each part** ends a run as one that does not, and what holds of all
that it keeps of a part holds of all that it keeps of the run. -/
theorem parts_keeping {ν : Type} (p : Processor σ) (keeper : Processor (σ × List ν)) {P : ν → Prop}
    {qs : List (Part Request)}
    (hpart : ∀ q ∈ qs, ∀ s log, ∃ kept,
      keeper.part q (s, log) = ((p.part q s).1, (p.part q s).2, log ++ kept) ∧ ∀ x ∈ kept, P x)
    (s : σ) (log : List ν) :
    ∃ kept, keeper.parts continueOnError qs (s, log)
        = ((p.parts continueOnError qs s).1, (p.parts continueOnError qs s).2, log ++ kept) ∧
      ∀ x ∈ kept, P x := by
  induction qs generalizing s log with
  | nil =>
    refine ⟨[], ?_, fun _ hx => (nomatch hx)⟩
    rw [List.append_nil]
    rfl
  | cons q qs ih =>
    rw [List.forall_mem_cons] at hpart
    obtain ⟨first, hfirst, hnoted⟩ := hpart.1 s log
    rw [parts, parts, hfirst]
    rcases p.part q s with ⟨f | out, s'⟩
    · exact ⟨first, rfl, hnoted⟩
    · dsimp only
      split
      · exact ⟨first, rfl, hnoted⟩
      · obtain ⟨rest, hrest, hmore⟩ := ih hpart.2 s' (log ++ first)
        refine ⟨first ++ rest, ?_, List.forall_mem_append.2 ⟨hnoted, hmore⟩⟩
        rw [hrest, List.append_assoc]

/-- An end behind a part that was handled. -/
theorem Ends.cons {s s' s'' : σ} {q : Part Request} {out : Part Response} {qs handled : List (Part Request)}
    {outcome : Except Failure (List (Part Response))} (first : p.part q s = (.ok out, s'))
    (hgo : continueOnError = false → ¬out.HasError)
    (h : p.Ends continueOnError s' qs handled outcome s'') :
    p.Ends continueOnError s (q :: qs) (q :: handled) (outcome.map (out :: ·)) s'' := by
  cases h with
  | passed handled goesOn => exact .passed (.cons first handled) (.cons hgo goesOn)
  | stopped hqs hstop handled goesOn last herror =>
    exact .stopped (congrArg (q :: ·) hqs) hstop (.cons first handled) (.cons hgo goesOn) last herror
  | failed hqs handled goesOn last =>
    exact .failed (congrArg (q :: ·) hqs) (.cons first handled) (.cons hgo goesOn) last

/-- **Every run ends**, in one of the three ways. -/
theorem exists_ends (p : Processor σ) (continueOnError : Bool) (qs : List (Part Request)) (s : σ) :
    ∃ handled outcome s', p.Ends continueOnError s qs handled outcome s' := by
  induction qs generalizing s with
  | nil => exact ⟨[], .ok [], s, .passed (.nil s) fun _ _ hout => (nomatch hout)⟩
  | cons q qs ih =>
    have hqs : q :: qs = [] ++ q :: qs := rfl
    have hnone : GoesOn continueOnError [] := fun _ _ hout => (nomatch hout)
    rcases hpart : p.part q s with ⟨f | out, s'⟩
    · exact ⟨[q], .error f, s', .failed hqs (.nil s) hnone hpart⟩
    · by_cases hgo : continueOnError = false → ¬out.HasError
      · obtain ⟨handled, outcome, s'', h⟩ := ih s'
        exact ⟨_, _, s'', h.cons hpart hgo⟩
      · rw [Classical.not_imp, Classical.not_not] at hgo
        exact ⟨[q], .ok [out], s', .stopped hqs hgo.1 (.nil s) hnone hpart hgo.2⟩

/-- **A run ends in one way only**, the one that it takes. -/
theorem Ends.parts_eq {s s' : σ} {qs handled : List (Part Request)}
    {outcome : Except Failure (List (Part Response))}
    (h : p.Ends continueOnError s qs handled outcome s') :
    p.parts continueOnError qs s = (outcome, s') := by
  cases h with
  | passed handled goesOn =>
    have hrun := handled.parts_append goesOn []
    rw [List.append_nil] at hrun
    rw [hrun]
    simp only [parts, Except.map, List.append_nil]
  | stopped hqs hstop handled goesOn last herror =>
    subst hqs hstop
    rw [handled.parts_append goesOn, parts_cons_of_error _ last herror]
    rfl
  | failed hqs handled goesOn last =>
    subst hqs
    rw [handled.parts_append goesOn, parts_cons_of_failure _ last]
    rfl

/-! ### The parts that a processor is given -/

/-- A processor that also keeps the parts it is given, in order. -/
def noting (p : Processor σ) : Processor (σ × List (Part Request)) where
  answer := keeping (fun r _ => .single r) p.answer
  changeSet rs s :=
    let (outcome, session, log) :=
      keeping (fun rs _ => .changeSet rs) p.changeSet rs ({ table := s.table, state := s.state.1 }, s.state.2)
    (outcome, session.withLog log)

theorem part_noting (q : Part Request) (s : σ) (log : List (Part Request)) :
    p.noting.part q (s, log) = keeping (fun q _ => q) p.part q (s, log) := by
  cases q <;> rfl

theorem Handled.noting {s s' : σ} {qs : List (Part Request)} {outs : List (Part Response)}
    (h : p.Handled s qs outs s') (log : List (Part Request)) :
    p.noting.Handled (s, log) qs outs (s', log ++ qs) := by
  induction h generalizing log with
  | nil s =>
    rw [List.append_nil]
    exact .nil _
  | cons first _ ih =>
    rw [List.append_cons]
    refine .cons ?_ (ih _)
    rw [part_noting, keeping, first]

/-- **Keeping the parts does not change how a run ends**, and it keeps those that are handled. -/
theorem Ends.noting {s s' : σ} {qs handled : List (Part Request)}
    {outcome : Except Failure (List (Part Response))}
    (h : p.Ends continueOnError s qs handled outcome s') :
    p.noting.Ends continueOnError (s, []) qs handled outcome (s', handled) := by
  cases h with
  | passed handled goesOn => exact .passed (handled.noting []) goesOn
  | stopped hqs hstop handled goesOn last herror =>
    refine .stopped hqs hstop (handled.noting []) goesOn ?_ herror
    rw [part_noting, keeping, last]
    rfl
  | failed hqs handled goesOn last =>
    refine .failed hqs (handled.noting []) goesOn ?_
    rw [part_noting, keeping, last]
    rfl

/-- **Parts are handled in order, each in the state that those in front of it left.**  A run ends as `Ends`
says, and only so: with the first failure, behind the first part with an error unless it is to continue, or
behind the last part.  There is one outcome for each part that the processor is given. -/
theorem parts_handled_in_order (p : Processor σ) (continueOnError : Bool) (qs : List (Part Request))
    (s : σ) :
    let run := p.noting.parts continueOnError qs (s, [])
    p.parts continueOnError qs s = (run.1, run.2.1) ∧
      (∀ handled outcome s',
        run = (outcome, s', handled) ↔ p.Ends continueOnError s qs handled outcome s') ∧
      ∀ outs, run.1 = .ok outs → outs.length = run.2.2.length ∧
        (continueOnError = true → run.2.2 = qs) ∧
        (continueOnError = false → ∀ out ∈ outs.dropLast, ¬out.HasError) := by
  intro run
  obtain ⟨handled, outcome, s', hends⟩ := exists_ends p continueOnError qs s
  have hrun : run = (outcome, s', handled) := hends.noting.parts_eq
  refine ⟨by rw [hrun, hends.parts_eq], ?_, ?_⟩
  · intro handled' outcome' s''
    constructor
    · intro h
      rw [hrun] at h
      cases h
      exact hends
    · intro h
      exact h.noting.parts_eq
  · intro outs houts
    rw [hrun] at houts ⊢
    cases hends with
    | passed handled goesOn =>
      cases houts
      exact ⟨handled.length_eq, fun _ => rfl, fun hstop out hout =>
        goesOn hstop out (List.dropLast_subset _ hout)⟩
    | stopped hqs hstop handled goesOn last herror =>
      cases houts
      refine ⟨by simp [handled.length_eq], fun hgo => absurd (hstop.symm.trans hgo) (by decide), ?_⟩
      rw [List.dropLast_concat]
      exact goesOn
    | failed => cases houts

/-- A strategy that answers all members whatever comes: the second of three parts has a success in front of an
error, and is the last one that is handled. -/
theorem parts_handled_in_order_members :
    let answer : Request → List UInt16 → Response × List UInt16 := fun _ statuses =>
      ({ status := statuses.headD 204 }, statuses.tail)
    let p : Processor (List UInt16) := {
      answer
      changeSet rs s := ((.ok (.changeSet (Session.handleAll answer rs s).1)),
        (Session.handleAll answer rs s).2) }
    let r := Request.of .post [] "/Items".toList
    let qs : List (Part Request) := [.single r, .changeSet [r, r], .single r]
    let run := p.noting.parts false qs ([200, 201, 404], [])
    run.2.2 = [.single r, .changeSet [r, r]] ∧
      run.1 = .ok [.single { status := 200 }, .changeSet [{ status := 201 }, { status := 404 }]] ∧
      p.parts false qs [200, 201, 404] = (run.1, run.2.1) ∧
      p.Ends false [200, 201, 404] qs run.2.2 run.1 run.2.1 := by
  intro answer p r qs run
  obtain ⟨hplain, hends, -⟩ := parts_handled_in_order p false qs [200, 201, 404]
  have hhandled : run.2.2 = [.single r, .changeSet [r, r]] := by decide +kernel
  have hrun : run.1
      = .ok [.single { status := 200 }, .changeSet [{ status := 201 }, { status := 404 }]] := by
    decide +kernel
  exact ⟨hhandled, hrun, hplain, (hends _ _ _).1 rfl⟩

end Processor

end BatchExchange
