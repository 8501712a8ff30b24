import BatchExchange.Text.Decimal
import BatchExchange.Text.Hexadecimal

/-!
# Sources of boundaries

A source makes a new boundary from the stem that it has to begin with, and from a state.  One source
counts, the other writes a random universally unique identifier behind the stem.
-/

namespace BatchExchange

structure BoundarySource (σ : Type) where
  draw : Text → σ → Text × σ

namespace BoundarySource

/-- Numbers the boundaries from one; the state is how many are drawn.  It stands for a counter of 64 bits, which
it agrees with as long as less than `2 ^ 64` are. -/
def sequential : BoundarySource Nat where
  draw stem n := (stem ++ Decimal.write (n + 1), n + 1)

/-- Sixteen octets in the notation of identifiers. -/
def identifier (octets : Bytes) : Text :=
  let group (start size : Nat) : Text := ((octets.drop start).take size).flatMap (Hexadecimal.octet Hexadecimal.lower)
  group 0 4 ++ '-' :: group 4 2 ++ '-' :: group 6 2 ++ '-' :: group 8 2 ++ '-' :: group 10 6

/-- The identifier without any bit set. -/
def nilIdentifier : Text := identifier (List.replicate 16 0)

/-- Marks sixteen octets as random, version four. -/
def markRandom (octets : Bytes) : Bytes :=
  octets.mapIdx fun i b => if i = 6 then b % 16 + 64 else if i = 8 then b % 64 + 128 else b

/-- Writes a random identifier behind the stem; the state is the random octets to come. -/
def random : BoundarySource (Nat → UInt8) where
  draw stem octets :=
    (stem ++ identifier (markRandom ((List.range 16).map octets)), fun i => octets (i + 16))

end BoundarySource

end BatchExchange
