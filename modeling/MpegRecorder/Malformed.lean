import MpegRecorder.Hex

/-!
The ways in which a container structure can be malformed, with the text that reports each.
-/

namespace MpegRecorder

inductive Malformed where
  | packetSize (expected actual : Nat)
  | syncByte (actual : UInt8)
  | tooShort (expected actual : Nat)
  | tableId (expected actual : UInt8)
  | sectionLength (length : Nat)
  | startCode (code : Nat)
  /-- A table without the section syntax indicator. -/
  | shortForm (tableId : UInt8)
  /-- A PES packet whose length field does not cover its own header. -/
  | pesLength (length headerLength : Nat)
  /-- A pack header of the older program stream format. -/
  | legacyPack
  | described (detail : String)
deriving Repr, DecidableEq

namespace Malformed

def message : Malformed → String
  | packetSize expected actual =>
    s!"Invalid packet size: expected {expected} bytes, got {actual}"
  | syncByte actual => s!"Invalid sync byte: expected 0x47, got 0x{Hex.lower 2 actual.toNat}"
  | tooShort expected actual =>
    s!"Insufficient data: expected at least {expected} bytes, got {actual}"
  | tableId expected actual => s!"Invalid table ID: expected {expected}, got {actual}"
  | sectionLength length => s!"Invalid section length: {length}"
  | startCode code => s!"Invalid start code: 0x{Hex.lower 8 code}"
  | shortForm table =>
    s!"Parse error: table 0x{Hex.lower 2 table.toNat} must have section syntax indicator set"
  | pesLength length headerLength =>
    s!"Parse error: PES packet length {length} is shorter than its {headerLength} byte header"
  | legacyPack => "Parse error: MPEG-1 pack headers are not supported"
  | described detail => s!"Parse error: {detail}"

end Malformed

end MpegRecorder
