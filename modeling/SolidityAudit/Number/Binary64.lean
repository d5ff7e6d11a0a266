/-!
# Binary64 Numbers

The numbers a measurement is kept in: IEEE binary64, nearest rounding with a
tie going to the even neighbour. A finite number is held exactly, as a sign, a
natural mantissa and a power of two, and every operation computes the exact
rational result and rounds it once by `ofRatio`. Nothing here depends on the
machine's floating point, so a result can be reasoned about, and evaluated, as
integer arithmetic.

Mantissas produced by `ofRatio` lie below `2 ^ 53` and exponents between -1074
and 971, with the mantissa at least `2 ^ 52` unless the exponent is the least
one. Equal numbers therefore have equal representations.

## Main definitions

* `Binary64`: A number, an infinity, or not a number.
* `roundDiv`: A quotient of naturals rounded to the nearest natural.
* `Binary64.ofRatio`: A quotient of naturals rounded to binary64.
* `Binary64.add`, `Binary64.sub`, `Binary64.mul`, `Binary64.div`: Arithmetic,
  rounded once.
* `Binary64.le`: The order, false as soon as either side is not a number.
* `Binary64.floor?`, `Binary64.truncate?`: The integer part.
* `Binary64.nearest?`: The nearest integer.

## Theorems

* `roundDiv_mul`: A quotient without remainder is not changed by rounding.
-/

namespace SolidityAudit

/-- `n / d` rounded to the nearest natural number, a tie to the even one. -/
def roundDiv (n d : Nat) : Nat :=
  if 2 * (n % d) < d then n / d
  else if d < 2 * (n % d) then n / d + 1
  else if (n / d) % 2 = 0 then n / d
  else n / d + 1

theorem roundDiv_mul {d : Nat} (q : Nat) (h : 0 < d) : roundDiv (q * d) d = q := by
  simp [roundDiv, Nat.mul_div_cancel _ h, h]

/-- An IEEE binary64 number. -/
inductive Binary64 where
  | nan
  | infinite (negative : Bool)
  /-- The number `mantissa * 2 ^ exponent`, negated if `negative` is set. -/
  | finite (negative : Bool) (mantissa : Nat) (exponent : Int)
deriving DecidableEq, Repr

namespace Binary64

/-- The least exponent, that of zero and of the subnormal numbers. -/
def leastExponent : Int := -1074

/-- The greatest exponent of a finite number. -/
def greatestExponent : Int := 971

/-- Zero of a given sign. -/
def zero (negative : Bool) : Binary64 := .finite negative 0 leastExponent

/-- The quotient `n / d / 2 ^ e` as a numerator and a denominator. -/
def scaled (n d : Nat) : Int → Nat × Nat
  | .ofNat k => (n, d * Nat.pow 2 k)
  | .negSucc k => (n * Nat.pow 2 (k + 1), d)

/-- The exponent at which `n / d` has a mantissa of 53 bits, or the least
    exponent when that is lower still. -/
def exponentFor (n d : Nat) : Int :=
  let e : Int := n.log2 - d.log2 - 52
  let q := scaled n d e
  max leastExponent (if q.1 < Nat.pow 2 52 * q.2 then e - 1 else e)

/-- A mantissa at an exponent, infinite when the exponent is out of range. -/
def place (negative : Bool) (mantissa : Nat) (exponent : Int) : Binary64 :=
  if greatestExponent < exponent then .infinite negative
  else .finite negative mantissa exponent

/-- The number nearest to `n / d`, of the given sign. The denominator is not
    zero. -/
def ofRatio (negative : Bool) (n d : Nat) : Binary64 :=
  if n = 0 then zero negative
  else
    let e := exponentFor n d
    let q := scaled n d e
    let m := roundDiv q.1 q.2
    -- Rounding may carry into a 54th bit, and only to the power of two itself.
    if m < Nat.pow 2 53 then place negative m e else place negative (Nat.pow 2 52) (e + 1)

/-- The number nearest to `m * 2 ^ e`. -/
def ofDyadic (negative : Bool) (m : Nat) : Int → Binary64
  | .ofNat k => ofRatio negative (m * Nat.pow 2 k) 1
  | .negSucc k => ofRatio negative m (Nat.pow 2 (k + 1))

/-- The number nearest to an integer. -/
def ofInt (i : Int) : Binary64 := ofRatio (decide (i < 0)) i.natAbs 1

/-- The number nearest to a natural number. -/
def ofNat (n : Nat) : Binary64 := ofRatio false n 1

/-- The exact magnitude of a finite number as a numerator and a denominator. -/
def ratio (mantissa : Nat) : Int → Nat × Nat
  | .ofNat k => (mantissa * Nat.pow 2 k, 1)
  | .negSucc k => (mantissa, Nat.pow 2 (k + 1))

/-- The number with the other sign. -/
def neg : Binary64 → Binary64
  | .nan => .nan
  | .infinite s => .infinite !s
  | .finite s m e => .finite (!s) m e

/-- A mantissa with its sign. -/
def signed (negative : Bool) (m : Nat) : Int :=
  if negative then -(m : Int) else m

/-- The exact sum of two finite numbers over the lower of their exponents. -/
def exactSum (s : Bool) (m : Nat) (e : Int) (t : Bool) (n : Nat) (f : Int) : Int :=
  let g := min e f
  signed s (m * Nat.pow 2 (e - g).toNat) + signed t (n * Nat.pow 2 (f - g).toNat)

/-- The sum. Two numbers that cancel give the positive zero, and two negative
    zeros the negative one. -/
def add : Binary64 → Binary64 → Binary64
  | .nan, _ => .nan
  | _, .nan => .nan
  | .infinite s, .infinite t => if s = t then .infinite s else .nan
  | .infinite s, _ => .infinite s
  | _, .infinite t => .infinite t
  | .finite s m e, .finite t n f =>
    let total := exactSum s m e t n f
    if total = 0 then zero (s && t)
    else ofDyadic (decide (total < 0)) total.natAbs (min e f)

/-- The difference. -/
def sub (x y : Binary64) : Binary64 := add x (neg y)

/-- The product. An infinity times zero is not a number. -/
def mul : Binary64 → Binary64 → Binary64
  | .nan, _ => .nan
  | _, .nan => .nan
  | .infinite s, .infinite t => .infinite (s != t)
  | .infinite s, .finite t n _ => if n = 0 then .nan else .infinite (s != t)
  | .finite s m _, .infinite t => if m = 0 then .nan else .infinite (s != t)
  | .finite s m e, .finite t n f => ofDyadic (s != t) (m * n) (e + f)

/-- The quotient. Zero by zero and infinity by infinity are not numbers. -/
def div : Binary64 → Binary64 → Binary64
  | .nan, _ => .nan
  | _, .nan => .nan
  | .infinite _, .infinite _ => .nan
  | .infinite s, .finite t _ _ => .infinite (s != t)
  | .finite s _ _, .infinite t => zero (s != t)
  | .finite s m e, .finite t n f =>
    let a := ratio m e
    let b := ratio n f
    if n = 0 then (if m = 0 then .nan else .infinite (s != t))
    else ofRatio (s != t) (a.1 * b.2) (a.2 * b.1)

instance : Add Binary64 := ⟨add⟩
instance : Sub Binary64 := ⟨sub⟩
instance : Mul Binary64 := ⟨mul⟩
instance : Div Binary64 := ⟨div⟩

/-- Whether the first number is at most the second. -/
def le : Binary64 → Binary64 → Bool
  | .nan, _ => false
  | _, .nan => false
  | .infinite s, .infinite t => s || !t
  | .infinite s, .finite .. => s
  | .finite .., .infinite t => !t
  | .finite s m e, .finite t n f => exactSum s m e (!t) n f ≤ 0

/-- Whether the first number is less than the second. -/
def lt (x y : Binary64) : Bool :=
  le x y && !le y x

/-- Whether a number is finite and has no fraction. -/
def isIntegral : Binary64 → Bool
  | .finite _ m e => let q := ratio m e; q.1 % q.2 == 0
  | _ => false

/-- The greatest integer that is not above a finite number. -/
def floor? : Binary64 → Option Int
  | .finite s m e => let q := ratio m e; some (Int.fdiv (signed s q.1) q.2)
  | _ => none

/-- The integer part of a finite number, the fraction dropped. -/
def truncate? : Binary64 → Option Int
  | .finite s m e => let q := ratio m e; some (signed s (q.1 / q.2))
  | _ => none

/-- The integer nearest to a finite number, a tie to the even one. -/
def nearest? : Binary64 → Option Int
  | .finite s m e => let q := ratio m e; some (signed s (roundDiv q.1 q.2))
  | _ => none

end Binary64

end SolidityAudit
