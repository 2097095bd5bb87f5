import MpegRecorder.Number.Binary
import MpegRecorder.Text.Blank

/-!
Sizes in bytes as people write them: a number, then a unit that stands for a power of 1024. A whole
number is taken exactly; one with a fraction, or beyond 64 bits, as a number of 53 bits, and what
does not fit becomes the largest size.
-/

namespace MpegRecorder.Number.Size

def bound : Nat := UInt64.size

inductive Fault where
  | empty
  | unit (text : String)
  | outOfRange (text : String)
  | number (text : String)
deriving Repr, DecidableEq

namespace Fault

def message : Fault → String
  | empty => "Invalid size: empty string"
  | unit text => s!"Invalid size unit: '{text}'"
  | outOfRange text => s!"Size out of range: '{text}'"
  | number text => s!"Invalid size: '{text}'"

end Fault

def kilo : Nat := 1024

def mega : Nat := kilo * kilo

def giga : Nat := mega * kilo

def multiplier? (unit : String) : Option Nat :=
  if unit = "" ∨ unit = "b" then some 1
  else if unit = "k" ∨ unit = "kb" ∨ unit = "kib" then some kilo
  else if unit = "m" ∨ unit = "mb" ∨ unit = "mib" then some mega
  else if unit = "g" ∨ unit = "gb" ∨ unit = "gib" then some giga
  else none

def isNumeral (c : Char) : Bool :=
  c.isDigit || c = '.'

def digitsValue (digits : List Char) : Nat :=
  digits.foldl (fun value digit => value * 10 + (digit.toNat - '0'.toNat)) 0

def whole? (text : List Char) : Option Nat :=
  if text ≠ [] ∧ text.all Char.isDigit then some (digitsValue text) else none

/-- Reads digits with at most one point among them, as a numerator and its decimal places. -/
def decimal? (text : List Char) : Option (Nat × Nat) :=
  let front := text.takeWhile fun c => c ≠ '.'
  let back := (text.dropWhile fun c => c ≠ '.').drop 1
  (whole? (front ++ back)).map fun value => (value, back.length)

def parse (text : String) : Except Fault Nat :=
  let lowered := (Text.trim text.toList).map Char.toLower
  if lowered = [] then .error .empty
  else
    let numeral := lowered.takeWhile isNumeral
    let unit := String.ofList (Text.trim (lowered.dropWhile isNumeral))
    match multiplier? unit with
    | none => .error (.unit unit)
    | some multiplier =>
      match (whole? numeral).filter fun value => value < bound with
      | some value =>
        if value * multiplier < bound then .ok (value * multiplier)
        else .error (.outOfRange (String.ofList lowered))
      | none =>
        match decimal? numeral with
        | none => .error (.number (String.ofList lowered))
        | some (value, places) =>
          .ok (min ((Binary.ofQuotient value (Nat.pow 10 places)).scale multiplier).floor (bound - 1))

/-- A size in the largest unit that it reaches, with two decimal places above bytes. -/
def format (bytes : Nat) : String :=
  if giga ≤ bytes then s!"{(Binary.ofNat bytes).hundredths giga} GB"
  else if mega ≤ bytes then s!"{(Binary.ofNat bytes).hundredths mega} MB"
  else if kilo ≤ bytes then s!"{(Binary.ofNat bytes).hundredths kilo} KB"
  else s!"{bytes} B"

end MpegRecorder.Number.Size
