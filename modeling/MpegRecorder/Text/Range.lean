/-!
Sets of characters as ranges of code points.
-/

namespace MpegRecorder.Text

/-- Whether one of the ranges holds a character; both ends of a range belong to it. -/
def isWithin (ranges : List (Nat × Nat)) (c : Char) : Bool :=
  ranges.any fun range => range.1 ≤ c.toNat && c.toNat ≤ range.2

end MpegRecorder.Text
