import BatchExchange.Proofs.ChangeSet
import BatchExchange.Proofs.Parts

/-!
# Recorded runs

A recording processor answers as another one does and keeps the requests it answers, each with whether it
comes from a change set.  Forgetting the record gives the run of the other processor, so what holds of every
record holds of every request that a processor is given.

* `recording`: a processor that also keeps the requests it answers.
* `Processor.part_recorded`: a part that is recorded.
* `Processor.parts_recorded`: a run over parts that is recorded.
-/

namespace BatchExchange

/-- Requests in the order they were answered; `true` marks the members of change sets. -/
abbrev Record : Type := List (Bool × Request)

section Recording

variable {σ : Type} (answer : Request → σ → Response × σ)

/-- An answer function that also keeps the requests it answers, as members of change sets or not. -/
def recorded (member : Bool) : Request → σ × Record → Response × (σ × Record) :=
  keeping (fun r _ => (member, r)) answer

/-- A processor that also keeps the requests it answers, and runs change sets in the common way. -/
def recording : Processor (σ × Record) where
  answer := recorded answer false
  changeSet rs s := let (part, s) := Session.untilError (recorded answer true) [] rs s; (.ok part, s)

namespace Processor

/-- Whether a recorded request is one of some parts, with references replaced in a change set only. -/
def Stems (parts : List (Part Request)) (p : Bool × Request) : Prop :=
  (∃ r, .single r ∈ parts ∧ p = (false, r)) ∨
    ∃ rs, .changeSet rs ∈ parts ∧ ∃ r ∈ rs, ∃ table, p = (true, r.expand table)

/-- **A recorded part** goes as it does unrecorded, and each recorded request stems from it. -/
theorem part_recorded {parts : List (Part Request)} {part : Part Request} (hpart : part ∈ parts) (s : σ)
    (before : Record) :
    ∃ record, (recording answer).part part (s, before)
        = ((({ answer } : Processor σ).part part s).1, (({ answer } : Processor σ).part part s).2,
            before ++ record) ∧
      ∀ p ∈ record, Stems parts p := by
  cases part with
  | single r => exact ⟨[(false, r)], rfl, List.forall_mem_singleton.2 (.inl ⟨r, hpart, rfl⟩)⟩
  | changeSet rs =>
    obtain ⟨done, out, hcut, hplain, hkept⟩ :=
      Session.exists_cut answer (fun r _ => (true, r)) rs { state := s } before
    refine ⟨(Session.exchanges answer done { state := s }).map fun x => (true, x.request), ?_, ?_⟩
    · have hkept : Session.untilError (recorded answer true) [] rs { state := (s, before) } = _ := hkept
      rw [part, part]
      dsimp only [recording]
      rw [hkept, hplain]
      rfl
    · intro p hp
      obtain ⟨x, hx, rfl⟩ := List.mem_map.1 hp
      obtain ⟨earlier, r, later, rfl, rfl⟩ := hcut.exists_of_mem answer hx
      exact .inr ⟨_, hpart, r, List.mem_append_cons_self, _, rfl⟩

/-- **A recorded run** goes as it does unrecorded, and each recorded request stems from a part. -/
theorem parts_recorded (continueOnError : Bool) (parts : List (Part Request)) (s : σ) (before : Record) :
    ∃ record, (recording answer).parts continueOnError parts (s, before)
        = ((({ answer } : Processor σ).parts continueOnError parts s).1,
            (({ answer } : Processor σ).parts continueOnError parts s).2, before ++ record) ∧
      ∀ p ∈ record, Stems parts p :=
  parts_keeping { answer } (recording answer) (fun _ hpart => part_recorded answer hpart) s before

end Processor

end Recording

end BatchExchange
