import BatchExchange.Config
import BatchExchange.Outer.Answer
import BatchExchange.Outer.Envelope
import BatchExchange.Processor
import BatchExchange.Request.Batch

/-!
# Services

A service reads a batch, has its processor handle the parts and writes the responses.  A batch that is
refused reaches the processor with none of its requests.
-/

namespace BatchExchange

structure Service (σ β : Type) where
  processor : Processor σ
  source : BoundarySource β
  config : Config := {}
  /-- The reader of addresses. -/
  parse : Text → Option Url := Url.parse?

namespace Service

variable {σ β : Type}

/-- A service of that configuration, if its boundaries can be valid. -/
def of (processor : Processor σ) (source : BoundarySource β) (config : Config)
    (parse : Text → Option Url := Url.parse?) : Except Failure (Service σ β) := do
  config.check
  return { processor, source, config, parse }

/-- How batches for the service at `base` are read. -/
def options (service : Service σ β) (base : Text) : Options :=
  { strict := service.config.strict, base, resolution := base, parse := service.parse }

/-- Whether to go on after a failed part. -/
def continues (service : Service σ β) (preference : Option Bool) : Bool :=
  preference.getD service.config.continueOnError

/-- Handles parts in order. -/
def handleParts (service : Service σ β) (continueOnError : Bool) (parts : List (Part Request))
    (s : σ) : Except Failure (List (Part Response)) × σ :=
  service.processor.parts continueOnError parts s

/-- Writes responses under a new boundary, which is returned with the body. -/
def write (service : Service σ β) (parts : List (Part Response)) (b : β) : (Text × Bytes) × β :=
  let (boundary, b) := service.source.draw service.config.responseStem b
  let (body, b) :=
    Response.writeBatch service.source service.config.changeSetStem boundary parts b
  ((boundary, body), b)

/-- The answer that carries a batch of responses. -/
def answer (preference : Option Bool) (boundary : Text) (body : Bytes) : Outer.Answer :=
  let a := ({ status := 202, body } : Outer.Answer).withHeader HeaderName.contentType
    (Boundary.contentType boundary)
  if preference = some true then
    a.withHeader HeaderName.preferenceApplied Preference.continueOnError
  else a

/-- The parts of the batch in an envelope. -/
def read (service : Service σ β) (envelope : Outer.Envelope) (body : Bytes) :
    Except Rejection (List (Part Request)) :=
  match envelope.boundary with
  | none => (Cause.batchWithoutBoundary (envelope.contentType.getD [])).anywhere
  | some boundary => Request.readBatch (service.options envelope.base) boundary body

/-- Processes a batch from end to end. -/
def handle (service : Service σ β) (envelope : Outer.Envelope) (body : Bytes) (s : σ) (b : β) :
    Except Failure Outer.Answer × σ × β :=
  match service.read envelope body with
  | .error r => (.error (.rejected r), s, b)
  | .ok parts =>
    match service.handleParts (service.continues envelope.continueOnError) parts s with
    | (.error f, s) => (.error f, s, b)
    | (.ok responses, s) =>
      let ((boundary, body), b) := service.write responses b
      (.ok (answer envelope.continueOnError boundary body), s, b)

end Service

end BatchExchange
