import Mathlib.Data.Nat.Bitwise
import MpegRecorder.Transport.Association
import MpegRecorder.Transport.ProgramMap

/-!
The check of a section brings the register to zero. The shift register is linear and forgets nothing, so
four bytes do to it what 32 steps do to their word added to it: they come to zero when they spell the
register, and in no other case.
-/

namespace MpegRecorder.Transport

namespace Crc

variable {register : UInt32}

/-- What is added to a register after its shift: the polynomial, if the bit shifted out was set. -/
def feedback (register : UInt32) : UInt32 :=
  if register.toNat.testBit 31 = true then polynomial else 0

theorem bitStep_eq (register : UInt32) : bitStep register = register <<< 1 ^^^ feedback register := by
  have top : register &&& 0x80000000 ≠ 0 ↔ register.toNat.testBit 31 = true := by
    rw [ne_eq, ← UInt32.toNat_inj, UInt32.toNat_and]
    show ¬ register.toNat &&& 2 ^ 31 = 0 ↔ _
    rw [Nat.and_two_pow]
    cases register.toNat.testBit 31 <;> simp
  simp only [bitStep, feedback, top]
  split
  · rfl
  · rw [UInt32.xor_zero]

theorem feedback_xor (left right : UInt32) :
    feedback (left ^^^ right) = feedback left ^^^ feedback right := by
  unfold feedback
  rw [UInt32.toNat_xor, Nat.testBit_xor]
  cases left.toNat.testBit 31 <;> cases right.toNat.testBit 31 <;> rfl

theorem bitStep_xor (left right : UInt32) :
    bitStep (left ^^^ right) = bitStep left ^^^ bitStep right := by
  rw [bitStep_eq, bitStep_eq left, bitStep_eq right, UInt32.shiftLeft_xor, feedback_xor]
  ac_rfl

/-- A step forgets nothing: the polynomial is odd, so its own bit tells what was shifted out. -/
theorem bitStep_eq_zero_iff : bitStep register = 0 ↔ register = 0 := by
  refine ⟨fun zero => ?_, fun zero => by rw [zero]; rfl⟩
  have bound := register.toNat_lt
  rw [bitStep_eq, UInt32.xor_eq_zero_iff, ← UInt32.toNat_inj, UInt32.toNat_shiftLeft,
    Nat.shiftLeft_eq, feedback] at zero
  change register.toNat * 2 % 2 ^ 32 = _ at zero
  apply UInt32.toNat_inj.mp
  show register.toNat = 0
  -- The shift leaves the lowest bit clear, while the polynomial has it set.
  by_cases top : register.toNat.testBit 31 = true
  · rw [if_pos top] at zero
    change _ = 0x04C11DB7 at zero
    omega
  · rw [if_neg top] at zero
    change _ = 0 at zero
    rw [Nat.testBit_eq_decide_div_mod_eq, decide_eq_true_eq] at top
    omega

theorem repeat_bitStep_xor (count : Nat) (left right : UInt32) :
    Nat.repeat bitStep count (left ^^^ right) =
      Nat.repeat bitStep count left ^^^ Nat.repeat bitStep count right := by
  induction count with
  | zero => rfl
  | succ count ih => simp only [Nat.repeat, ih, bitStep_xor]

theorem repeat_bitStep_eq_zero_iff (count : Nat) :
    Nat.repeat bitStep count register = 0 ↔ register = 0 := by
  induction count with
  | zero => rfl
  | succ count ih => exact bitStep_eq_zero_iff.trans ih

theorem toNat_repeat_bitStep {count : Nat} (fits : register.toNat * 2 ^ count < 2 ^ 32) :
    (Nat.repeat bitStep count register).toNat = register.toNat * 2 ^ count := by
  induction count with
  | zero => simp [Nat.repeat]
  | succ count ih =>
    rw [Nat.pow_succ, ← Nat.mul_assoc] at fits ⊢
    have before := ih (by omega)
    have clear : (Nat.repeat bitStep count register).toNat.testBit 31 = false :=
      Nat.testBit_lt_two_pow (by omega)
    rw [Nat.repeat, bitStep_eq, feedback, clear, if_neg Bool.false_ne_true, UInt32.xor_zero,
      UInt32.toNat_shiftLeft, before, Nat.shiftLeft_eq]
    exact Nat.mod_eq_of_lt fits

def top (word : UInt32) : UInt8 := (word >>> 24).toUInt8

theorem toNat_top (word : UInt32) : (top word).toNat = word.toNat / 2 ^ 24 := by
  have bound := word.toNat_lt
  rw [top, UInt32.toNat_toUInt8, UInt32.toNat_shiftRight]
  change word.toNat >>> 24 % 2 ^ 8 = _
  rw [Nat.shiftRight_eq_div_pow]
  omega

theorem toNat_shiftLeft_eight (word : UInt32) : (word <<< 8).toNat = word.toNat * 2 ^ 8 % 2 ^ 32 := by
  rw [UInt32.toNat_shiftLeft, Nat.shiftLeft_eq]
  rfl

theorem toNat_xor_top (word : UInt32) :
    (word ^^^ (top word).toUInt32 <<< 24).toNat = word.toNat % 2 ^ 24 := by
  have bound := word.toNat_lt
  have high : ((top word).toUInt32 <<< 24).toNat = word.toNat / 2 ^ 24 * 2 ^ 24 := by
    rw [UInt32.toNat_shiftLeft, UInt8.toNat_toUInt32, toNat_top, Nat.shiftLeft_eq]
    exact Nat.mod_eq_of_lt (by change _ * 2 ^ 24 < _; omega)
  rw [UInt32.toNat_xor, high]
  -- Bit by bit, as the upper byte cancels and the lower bits meet zeros.
  apply Nat.eq_of_testBit_eq
  intro bit
  rw [Nat.testBit_xor, Nat.testBit_mul_two_pow, Nat.testBit_div_two_pow, Nat.testBit_mod_two_pow]
  by_cases low : bit < 24
  · simp [low, Nat.not_le.mpr low]
  · simp [low, Nat.le_of_not_lt low]

theorem repeat_bitStep_xor_top (word : UInt32) :
    Nat.repeat bitStep 8 (word ^^^ (top word).toUInt32 <<< 24) = word <<< 8 := by
  have low := toNat_xor_top word
  apply UInt32.toNat_inj.mp
  rw [toNat_repeat_bitStep (by omega), low, toNat_shiftLeft_eight]
  omega

/--
A word that is added to the register as a whole gives up its highest byte to the next step; the rest of
it waits one byte further up.
-/
theorem repeat_bitStep_word (register word : UInt32) :
    Nat.repeat bitStep 8 (register ^^^ word) = byteStep register (top word) ^^^ word <<< 8 := by
  have parted : register ^^^ word =
      register ^^^ (top word).toUInt32 <<< 24 ^^^ (word ^^^ (top word).toUInt32 <<< 24) := by
    rw [UInt32.xor_comm word, UInt32.xor_assoc, ← UInt32.xor_assoc _ _ word, UInt32.xor_self,
      UInt32.zero_xor]
  rw [parted, repeat_bitStep_xor, repeat_bitStep_xor_top]
  rfl

theorem ofLongWord_eq (word : UInt32) :
    Bytes.ofLongWord word =
      [top word, top (word <<< 8), top (word <<< 8 <<< 8), top (word <<< 8 <<< 8 <<< 8)] := by
  have bound := word.toNat_lt
  simp only [Bytes.ofLongWord, List.cons.injEq, and_true, ← UInt8.toNat_inj, toNat_top,
    toNat_shiftLeft_eight, UInt32.toNat_toUInt8, UInt32.toNat_shiftRight, Nat.shiftRight_eq_div_pow,
    UInt32.reduceToNat, Nat.reduceMod, Nat.reducePow]
  omega

theorem shiftLeft_out (word : UInt32) : word <<< 8 <<< 8 <<< 8 <<< 8 = 0 := by
  apply UInt32.toNat_inj.mp
  simp only [toNat_shiftLeft_eight]
  change _ = 0
  omega

theorem foldl_ofLongWord (register word : UInt32) :
    (Bytes.ofLongWord word).foldl byteStep register = Nat.repeat bitStep 32 (register ^^^ word) := by
  calc
    _ = byteStep (byteStep (byteStep (byteStep register (top word)) (top (word <<< 8)))
          (top (word <<< 8 <<< 8))) (top (word <<< 8 <<< 8 <<< 8)) ^^^ word <<< 8 <<< 8 <<< 8 <<< 8 := by
      rw [ofLongWord_eq, shiftLeft_out, UInt32.xor_zero]
      rfl
    _ = Nat.repeat bitStep 8 (Nat.repeat bitStep 8 (Nat.repeat bitStep 8
          (Nat.repeat bitStep 8 (register ^^^ word)))) := by
      simp only [repeat_bitStep_word]
    _ = Nat.repeat bitStep 32 (register ^^^ word) := rfl

theorem foldl_ofLongWord_eq_zero_iff (register word : UInt32) :
    (Bytes.ofLongWord word).foldl byteStep register = 0 ↔ word = register := by
  rw [foldl_ofLongWord, repeat_bitStep_eq_zero_iff, UInt32.xor_eq_zero_iff, eq_comm]

theorem checksum_append_ofLongWord_eq_zero_iff (data : Bytes) (word : UInt32) :
    checksum (data ++ Bytes.ofLongWord word) = 0 ↔ word = checksum data := by
  rw [checksum_append, foldl_ofLongWord_eq_zero_iff]

end Crc

theorem Section.checksum_build (table : UInt8) (content : Bytes) :
    Crc.checksum (Section.build table content) = 0 :=
  (Crc.checksum_append_ofLongWord_eq_zero_iff ..).mpr rfl

/--
With its checksum behind it a byte string has checksum zero, and with no other word. So every table that
is written has checksum zero, however many entries it has.
-/
theorem checksum_closed :
    (∀ data : Bytes, Crc.checksum (data ++ Bytes.ofLongWord (Crc.checksum data)) = 0 ∧
      ∀ word, Crc.checksum (data ++ Bytes.ofLongWord word) = 0 → word = Crc.checksum data) ∧
    (∀ (streamId : UInt16) (version : UInt8) (programs : List ProgramEntry),
      Crc.checksum (Association.build streamId version programs) = 0) ∧
    ∀ (number : UInt16) (version : UInt8) (clockPid : UInt16) (streams : List StreamEntry),
      Crc.checksum (ProgramMap.build number version clockPid streams) = 0 := by
  refine ⟨fun data => ⟨?_, fun word => ?_⟩, fun streamId version programs => ?_,
    fun number version clockPid streams => ?_⟩
  · exact (Crc.checksum_append_ofLongWord_eq_zero_iff data _).mpr rfl
  · exact (Crc.checksum_append_ofLongWord_eq_zero_iff data word).mp
  · exact Section.checksum_build ..
  · exact Section.checksum_build ..

end MpegRecorder.Transport
