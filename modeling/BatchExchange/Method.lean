import BatchExchange.Text

/-!
# Methods

The methods a request of a batch may have, and any other token.
-/

namespace BatchExchange

inductive Method where
  | get
  | post
  | put
  | patch
  | merge
  | delete
  | other (token : Text)
deriving DecidableEq, Repr

namespace Method

def token : Method → Text
  | get => "GET".toList
  | post => "POST".toList
  | put => "PUT".toList
  | patch => "PATCH".toList
  | merge => "MERGE".toList
  | delete => "DELETE".toList
  | other t => t

/-- The methods that a batch supports. -/
def supported : List Method := [get, post, put, patch, merge, delete]

/-- The supported method of that token. -/
def ofToken? (t : Text) : Option Method := supported.find? fun m => m.token = t

def ofToken (t : Text) : Method := (ofToken? t).getD (other t)

end Method

end BatchExchange
