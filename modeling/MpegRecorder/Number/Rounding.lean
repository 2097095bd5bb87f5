/-!
Quotients of whole numbers, rounded to the nearest whole number or written with a fixed number of
decimal places. A tie goes to the even neighbour.
-/

namespace MpegRecorder.Number

def nearest (numerator denominator : Nat) : Nat :=
  let quotient := numerator / denominator
  let rest := numerator % denominator
  if 2 * rest < denominator then quotient
  else if 2 * rest = denominator then quotient + quotient % 2
  else quotient + 1

/-- A quotient with `places` digits after the point. -/
def fixed (places numerator denominator : Nat) : String :=
  let unit := Nat.pow 10 places
  let scaled := nearest (numerator * unit) denominator
  let fraction := Nat.toDigits 10 (scaled % unit)
  s!"{scaled / unit}."
    ++ String.ofList (List.replicate (places - fraction.length) '0' ++ fraction)

end MpegRecorder.Number
