/-!
# Parts

A batch is a list of parts: single items and change sets of items.
-/

namespace BatchExchange

inductive Part (α : Type) where
  | single (item : α)
  | changeSet (items : List α)
deriving DecidableEq, Repr

namespace Part

variable {α : Type}

def isChangeSet : Part α → Bool
  | single _ => false
  | changeSet _ => true

def items : Part α → List α
  | single a => [a]
  | changeSet as => as

end Part

end BatchExchange
