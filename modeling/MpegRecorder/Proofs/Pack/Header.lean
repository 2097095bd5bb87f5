import Mathlib.Algebra.Group.Nat.Defs
import MpegRecorder.Pack.Header

/-!
What a pack header keeps of its fields. Each is cut into groups of bits that stand between marker bits; read
back, the groups of a field make up its low bits again, whatever it held beyond its width.
-/

namespace MpegRecorder.Pack.Header

theorem version_byte (clock : Nat) :
    UInt8.ofNat (0x44 + clock >>> 30 % 8 * 8 + clock >>> 28 % 4) &&& 0xC0 = 0x40 := by
  have marked : ∀ high < 8, ∀ low < 4, UInt8.ofNat (0x44 + high * 8 + low) &&& 0xC0 = 0x40 := by decide
  exact marked _ (Nat.mod_lt _ (by decide)) _ (Nat.mod_lt _ (by decide))

section Groups

variable (high low : Nat)

theorem first_groups :
    (0x44 + high % 8 * 8 + low % 4) % 256 / 8 % 8 = high % 8 ∧
      (0x44 + high % 8 * 8 + low % 4) % 256 % 4 = low % 4 := by
  omega

theorem middle_groups :
    (0x04 + high % 32 * 8 + low % 4) % 256 / 8 = high % 32 ∧
      (0x04 + high % 32 * 8 + low % 4) % 256 % 4 = low % 4 := by
  omega

theorem last_groups :
    (high % 32 * 8 + 0x04 + low % 4) % 256 / 8 = high % 32 ∧
      (high % 32 * 8 + 0x04 + low % 4) % 256 % 4 = low % 4 := by
  omega

end Groups

theorem clock_groups (clock : Nat) :
    (clock >>> 30 % 8) <<< 30 + (clock >>> 28 % 4) <<< 28 + (clock >>> 20 % 256) <<< 20
        + (clock >>> 15 % 32) <<< 15 + (clock >>> 13 % 4) <<< 13 + (clock >>> 5 % 256) <<< 5
        + clock % 32 = clock % 2 ^ 33 := by
  simp only [Nat.shiftLeft_eq, Nat.shiftRight_eq_div_pow]
  omega

theorem extension_groups (extension : Nat) :
    (extension >>> 7 % 4) <<< 7 + (extension % 128 * 2 + 1) % 256 / 2 = extension % 2 ^ 9 := by
  simp only [Nat.shiftLeft_eq, Nat.shiftRight_eq_div_pow]
  omega

theorem rate_groups (rate : Nat) :
    (rate >>> 14 % 256) <<< 14 + (rate >>> 6 % 256) <<< 6 + (rate % 64 * 4 + 3) % 256 / 4
      = rate % 2 ^ 22 := by
  simp only [Nat.shiftLeft_eq, Nat.shiftRight_eq_div_pow]
  omega

/-- Each field reads back as far as it has room, whatever follows the header. -/
theorem parse_toBytes (header : Header) (rest : Bytes) :
    parse (header.toBytes ++ rest) =
      .ok {
        clockBase := header.clockBase % 2 ^ 33
        clockExtension := header.clockExtension % 2 ^ 9
        rate := header.rate % 2 ^ 22
        length := headerLength } := by
  have first := first_groups (header.clockBase >>> 30) (header.clockBase >>> 28)
  have middle := middle_groups (header.clockBase >>> 15) (header.clockBase >>> 13)
  have last := last_groups header.clockBase (header.clockExtension >>> 7)
  rw [← clock_groups, ← extension_groups, ← rate_groups]
  simp only [toBytes, startCode, List.cons_append, List.nil_append, parse, version_byte,
    UInt8.toNat_ofNat', first, middle, last, ne_eq, not_true, if_false]
  rfl

theorem parse_append {data : Bytes} {header : Header} (parsed : parse data = .ok header) (more : Bytes) :
    headerLength ≤ header.length ∧ headerLength ≤ data.length ∧ parse (data ++ more) = .ok header := by
  unfold parse at parsed
  split at parsed
  · refine ⟨?_, ?_, parsed⟩
    · split at parsed
      · cases parsed
      · split at parsed <;> cases parsed
        exact Nat.le_add_right ..
    · simp only [headerLength, List.length_cons]
      omega
  · cases parsed

end MpegRecorder.Pack.Header
