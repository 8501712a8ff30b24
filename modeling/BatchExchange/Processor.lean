import BatchExchange.References
import BatchExchange.Rejection

/-!
# Processors

A processor answers requests and is known by its answers and its state alone.  The members of a change set
are answered within a session, which replaces references before a request is answered and learns locations
after it.  Unless a processor runs change sets in a way of its own, the first error ends a change set and
stands for it.  Beside its state a processor can keep what passes through it.
-/

namespace BatchExchange

/-- A change set under way: the locations learnt so far and the state of the processor. -/
structure Session (σ : Type) where
  table : ReferenceTable := {}
  state : σ

namespace Session

variable {σ : Type}

/-- Answers one member: references replaced, location learnt, response tagged. -/
def handle (answer : Request → σ → Response × σ) (r : Request) (s : Session σ) :
    Response × Session σ :=
  let r := r.expand s.table
  let (response, state) := answer r s.state
  (response.tag r.contentId?, { table := s.table.learn r response, state })

/-- Answers members in order. -/
def handleAll (answer : Request → σ → Response × σ) : List Request → Session σ →
    List Response × Session σ
  | [], s => ([], s)
  | r :: rs, s =>
    let (response, s) := handle answer r s
    let (responses, s) := handleAll answer rs s
    (response :: responses, s)

/-- Answers members up to the first error, which is the outcome if there is one; `before` are the responses
so far, the last of them first. -/
def untilError (answer : Request → σ → Response × σ) (before : List Response) :
    List Request → Session σ → Part Response × Session σ
  | [], s => (.changeSet before.reverse, s)
  | r :: rs, s =>
    let (response, s) := handle answer r s
    if response.isError then (.single response, s) else untilError answer (response :: before) rs s

end Session

/-- Answers requests and runs change sets.  Running a change set may fail without a response. -/
structure Processor (σ : Type) where
  answer : Request → σ → Response × σ
  changeSet : List Request → Session σ → Except Failure (Part Response) × Session σ :=
    fun rs s => let (part, s) := Session.untilError answer [] rs s; (.ok part, s)

namespace Processor

variable {σ : Type}

/-- Answers a request outside change sets. -/
def single (p : Processor σ) (r : Request) (s : σ) : Response × σ :=
  let (response, s) := p.answer r s
  (response.tag r.contentId?, s)

/-- Handles a part. -/
def part (p : Processor σ) : Part Request → σ → Except Failure (Part Response) × σ
  | .single r, s => let (response, s) := p.single r s; (.ok (.single response), s)
  | .changeSet rs, s => let (outcome, session) := p.changeSet rs { state := s }; (outcome, session.state)

/-- Handles parts in order.  Unless it is to continue, it stops behind the first part with an error. -/
def parts (p : Processor σ) (continueOnError : Bool) :
    List (Part Request) → σ → Except Failure (List (Part Response)) × σ
  | [], s => (.ok [], s)
  | q :: qs, s =>
    match p.part q s with
    | (.error f, s) => (.error f, s)
    | (.ok response, s) =>
      if response.isError && !continueOnError then (.ok [response], s)
      else
        let (rest, s) := parts p continueOnError qs s
        (rest.map (response :: ·), s)

end Processor

/-- A step that also keeps, in order, what `note` makes of what it is given and of what comes of it. -/
def keeping {ι ο σ ν : Type} (note : ι → ο → ν) (step : ι → σ → ο × σ) (i : ι) (s : σ × List ν) :
    ο × (σ × List ν) :=
  let (o, state) := step i s.1
  (o, state, s.2 ++ [note i o])

/-- An answer function that also keeps the requests it answers. -/
def logged {σ : Type} (answer : Request → σ → Response × σ) :
    Request → σ × List Request → Response × (σ × List Request) :=
  keeping (fun r _ => r) answer

end BatchExchange
