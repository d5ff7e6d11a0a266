import SolidityAudit.Instant
import SolidityAudit.Number.Binary64

/-!
# Supplies

Time, randomness and elapsed seconds come from outside. A supply is whatever
the outside will answer, one item for each time it is asked, together with how
often it was asked; drawing from it is then an ordinary function.

## Main definitions

* `Supply`: The answers to come.
* `Supply.draw`: The next answer.
* `Supply.ofList`: Given answers, the last one repeated.
* `Supplies`: The three things a scan asks for.
-/

namespace SolidityAudit

/-- The answers of an outside source, in the order in which it is asked. -/
structure Supply (α : Type) where
  item : Nat → α
  drawn : Nat := 0

namespace Supply

/-- The next answer, and the supply after it. -/
def draw {α : Type} (s : Supply α) : α × Supply α :=
  (s.item s.drawn, { s with drawn := s.drawn + 1 })

/-- Given answers, the last one repeated for ever. Without any the answer is
    always `first`. -/
def ofList {α : Type} (first : α) (xs : List α) : Supply α where
  item n := (xs[n]?).getD (xs.getLastD first)

/-- The same answer for ever. -/
def constant {α : Type} (x : α) : Supply α where
  item _ := x

end Supply

/-- What a scan asks the outside for. -/
structure Supplies where
  clock : Supply Instant
  /-- The random bytes of a certificate id. -/
  random : Supply (List UInt8)
  /-- Readings of a running stopwatch, in seconds. -/
  ticks : Supply Binary64

namespace Supplies

def now (s : Supplies) : Instant × Supplies :=
  (s.clock.draw.1, { s with clock := s.clock.draw.2 })

def bytes (s : Supplies) : List UInt8 × Supplies :=
  (s.random.draw.1, { s with random := s.random.draw.2 })

def tick (s : Supplies) : Binary64 × Supplies :=
  (s.ticks.draw.1, { s with ticks := s.ticks.draw.2 })

end Supplies

end SolidityAudit
