/-!
Owns the powers that binary and decimal numbers are made of.

Owns:
- powers of two;
- powers of ten;
- that both are positive, so that they can be denominators.
-/

namespace GeoBridge.Decimal

/-- The power of two with the given exponent. -/
def twoTo (exponent : Nat) : Nat := Nat.pow 2 exponent

/-- The power of ten with the given exponent. -/
def tenTo (exponent : Nat) : Nat := Nat.pow 10 exponent

/-- A power of two is positive. -/
theorem twoTo_pos (exponent : Nat) : 0 < twoTo exponent := Nat.pow_pos (by decide)

end GeoBridge.Decimal
