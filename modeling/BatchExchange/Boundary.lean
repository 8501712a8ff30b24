import BatchExchange.Rejection

/-!
# Boundary tokens

The token that delimits the parts of a multipart body: one to seventy characters of a fixed set, the last
of them no space.
-/

namespace BatchExchange.Boundary

/-- The characters a token is made of. -/
def isTokenChar (c : Char) : Bool := c.isAlphanum || c ∈ "'()+_,-./:=? ".toList

def isValid (b : Text) : Bool :=
  b.length ≤ 70 && b.all isTokenChar && b.getLast?.any (· ≠ ' ')

/-- Passes valid tokens only. -/
def check (b : Text) : Except Rejection Unit :=
  if isValid b then .ok () else (Cause.invalidBoundary b).anywhere

/-- The content type that announces parts delimited by `b`. -/
def contentType (b : Text) : Text := "multipart/mixed; boundary=".toList ++ b

theorem check_eq_ok_iff {b : Text} : check b = .ok () ↔ isValid b := by
  by_cases h : isValid b <;> simp [check, h, Cause.anywhere]

end BatchExchange.Boundary
