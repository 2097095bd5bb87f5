import MpegRecorder.Number.Rounding

/-!
Numbers of 53 significant bits, as the floating point unit of a machine holds them. A number is kept
as an exact quotient whose denominator is a power of two; its range is not limited, which makes no
difference to the sizes and times that the library computes with.
-/

namespace MpegRecorder.Number

structure Binary where
  numerator : Nat
  denominator : Nat
deriving Repr, DecidableEq

namespace Binary

def precision : Nat := 53

/--
The number of the format nearest to a quotient: the quotient, scaled by a power of two so that its
whole part has 53 bits, is rounded to a whole number and scaled back.
-/
def ofQuotient (numerator denominator : Nat) : Binary :=
  if numerator = 0 then ⟨0, 1⟩
  else
    let up := precision + denominator.log2
    let down := numerator.log2
    let estimate := numerator <<< up / denominator <<< down
    let down := down + (estimate.log2 + 1 - precision)
    let whole := nearest (numerator <<< up) (denominator <<< down)
    if down ≤ up then ⟨whole, 1 <<< (up - down)⟩ else ⟨whole <<< (down - up), 1⟩

def ofNat (number : Nat) : Binary :=
  ofQuotient number 1

def add (left right : Binary) : Binary :=
  ofQuotient (left.numerator * right.denominator + right.numerator * left.denominator)
    (left.denominator * right.denominator)

def scale (number : Binary) (factor : Nat) : Binary :=
  ⟨number.numerator * factor, number.denominator⟩

def floor (number : Binary) : Nat :=
  number.numerator / number.denominator

def hundredths (number : Binary) (divisor : Nat) : String :=
  fixed 2 number.numerator (number.denominator * divisor)

end Binary

end MpegRecorder.Number
