/-!
Numbers in hexadecimal, padded with zeros to a width.
-/

namespace MpegRecorder.Hex

def padded (width : Nat) (digits : List Char) : String :=
  String.ofList (List.replicate (width - digits.length) '0' ++ digits)

def lower (width value : Nat) : String :=
  padded width (Nat.toDigits 16 value)

def upper (width value : Nat) : String :=
  padded width ((Nat.toDigits 16 value).map Char.toUpper)

end MpegRecorder.Hex
