import BatchExchange.Headers
import BatchExchange.Text.Decimal

/-!
# Content lengths

The number of octets that a header block states for its body.  A length is stated once, in decimal, and
fits into 64 bits.
-/

namespace BatchExchange.ContentLength

/-- Lengths are below this bound. -/
def bound : Nat := UInt64.size

/-- The length that a field states. -/
def ofField? (f : Field) : Option Nat := f.single?.bind fun v => Decimal.read? bound (Text.trim v)

/-- A length that fits reads back from the field that states it. -/
theorem ofField?_write {n line : Nat} (h : n < bound) (name : Text) :
    ofField? { name, first := Decimal.write n, line } = some n := by
  have hc : ',' ∉ Decimal.write n := fun hm => absurd (Decimal.isDigit_of_mem_write hm) (by decide)
  have ht : Text.trim (Decimal.write n) = Decimal.write n := Decimal.trim_write n
  simp [ofField?, Field.single?, hc, ht, Decimal.read?_write h]

end BatchExchange.ContentLength
