import BatchExchange.Boundary
import BatchExchange.BoundarySource
import BatchExchange.Json
import BatchExchange.Response.Writer
import BatchExchange.Text.Escaped

/-!
# Configuration

How an endpoint reads and answers batches.  A configuration document is a JSON object of settings, or an
array of them in order; what it leaves out keeps its default.
-/

namespace BatchExchange

structure Config where
  /-- Whether bodies are read strictly. -/
  strict : Bool := true
  /-- Whether to go on after a failed part when the client does not say. -/
  continueOnError : Bool := false
  /-- Whether requests are logged. -/
  logging : Bool := true
  /-- What boundaries of batches begin with. -/
  responseStem : Text := "batch_".toList
  /-- What boundaries of change sets begin with. -/
  changeSetStem : Text := Response.changeSetStem
deriving DecidableEq, Repr

namespace Config

/-- A setting, named as in documents. -/
inductive Setting where
  | strict
  | continueOnError
  | logging
  | responseStem
  | changeSetStem
deriving DecidableEq, Repr

namespace Setting

def name : Setting → Text
  | strict => "strict".toList
  | continueOnError => "continue_on_error".toList
  | logging => "enable_logging".toList
  | responseStem => "response_boundary_prefix".toList
  | changeSetStem => "change_set_boundary_prefix".toList

/-- The settings in the order of arrays. -/
def all : List Setting := [strict, continueOnError, logging, responseStem, changeSetStem]

def ofName? (name : Text) : Option Setting := all.find? fun s => s.name = name

end Setting

/-- Changes a setting, if the value is of its type. -/
def set? (config : Config) (s : Setting) (value : Json) : Option Config :=
  match s, value with
  | .strict, .bool b => some { config with strict := b }
  | .continueOnError, .bool b => some { config with continueOnError := b }
  | .logging, .bool b => some { config with logging := b }
  | .responseStem, .string (some t) => some { config with responseStem := t }
  | .changeSetStem, .string (some t) => some { config with changeSetStem := t }
  | _, _ => none

/-- Changes settings by the entries of an object: `seen` are those changed before, which must not come
again.  Entries of other names say nothing. -/
def setEntries? (config : Config) (seen : List Setting) :
    List (Option Text × Json) → Option Config
  | [] => some config
  | (none, _) :: _ => none
  | (some name, value) :: entries =>
    match Setting.ofName? name with
    | none => setEntries? config seen entries
    | some s =>
      if s ∈ seen then none
      else (config.set? s value).bind fun config => setEntries? config (s :: seen) entries

/-- Changes settings in order. -/
def setItems? (config : Config) : List Setting → List Json → Option Config
  | _, [] => some config
  | [], _ :: _ => none
  | s :: settings, value :: values =>
    (config.set? s value).bind fun config => setItems? config settings values

def ofJson? : Json → Option Config
  | .object entries => setEntries? {} [] entries
  | .array items => setItems? {} Setting.all items
  | _ => none

/-- The configuration of a document. -/
def parse? (document : Text) : Option Config := (Json.parse? document).bind ofJson?

/-- Whether the longest boundary with that stem is valid. -/
def isStem (stem : Text) : Bool := Boundary.isValid (stem ++ BoundarySource.nilIdentifier)

/-- Refuses stems that make no boundaries. -/
def check (config : Config) : Except Failure Unit := do
  let checkStem (s : Setting) (stem : Text) : Except Failure Unit :=
    if isStem stem then .ok ()
    else .error <| .configuration <|
      s.name ++ " '".toList ++ Text.escape stem ++ "' cannot start a boundary".toList
  checkStem .responseStem config.responseStem
  checkStem .changeSetStem config.changeSetStem

end Config

end BatchExchange
