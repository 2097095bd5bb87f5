import MpegRecorder.Elementary.Timestamp
import MpegRecorder.Proofs.Pack.Header

/-!
Clocks that are spread between marker bits. A time stamp and the fields of a pack header read back as far as they
have room. A pack header without stuffing that is read and written again has its marker and reserved bits set, and
every other bit as it was.
-/

namespace MpegRecorder

namespace Elementary.Timestamp

theorem time_groups (time : Nat) :
    (time >>> 30 % 8) <<< 30 + (time >>> 22 % 256) <<< 22 + (time >>> 15 % 128) <<< 15
        + (time >>> 7 % 256) <<< 7 + time % 128 = time % 2 ^ 33 := by
  simp only [Nat.shiftLeft_eq, Nat.shiftRight_eq_div_pow]
  omega

theorem read?_write (lead : UInt8) (time : Nat) (rest : Bytes) :
    read? (write lead time ++ rest) = some (time % 2 ^ 33) := by
  have first (high : Nat) : (lead.toNat * 16 + high % 8 * 2 + 1) % 256 / 2 % 8 = high % 8 := by omega
  have marked (low : Nat) : (low % 128 * 2 + 1) % 256 / 2 = low % 128 := by omega
  rw [← time_groups]
  simp only [write, List.cons_append, List.nil_append, read?, UInt8.toNat_ofNat', first, marked]

end Elementary.Timestamp

namespace Pack.Header

open Elementary

/-- The bits of a header that belong to no field: the marker bits, and the reserved ones at the end. -/
def guardBits : Bytes :=
  [0x00, 0x00, 0x00, 0x00, 0x04, 0x00, 0x04, 0x00, 0x04, 0x01, 0x00, 0x00, 0x03, 0xF8]

theorem guarded_byte (byte : UInt8) :
    (byte &&& 0xC0 = 0x40 → UInt8.ofNat (0x44 + byte.toNat / 8 % 8 * 8 + byte.toNat % 4) = byte ||| 0x04) ∧
      UInt8.ofNat (0x04 + byte.toNat / 8 * 8 + byte.toNat % 4) = byte ||| 0x04 ∧
      UInt8.ofNat (byte.toNat / 8 * 8 + 0x04 + byte.toNat % 4) = byte ||| 0x04 ∧
      UInt8.ofNat (byte.toNat / 2 * 2 + 1) = byte ||| 0x01 ∧
      UInt8.ofNat (byte.toNat / 4 * 4 + 3) = byte ||| 0x03 ∧
      (byte.toNat % 8 = 0 → 0xF8 = byte ||| 0xF8) := by
  have bytes : ∀ value < 256,
      (UInt8.ofNat value &&& 0xC0 = 0x40 →
          UInt8.ofNat (0x44 + value / 8 % 8 * 8 + value % 4) = UInt8.ofNat value ||| 0x04) ∧
        UInt8.ofNat (0x04 + value / 8 * 8 + value % 4) = UInt8.ofNat value ||| 0x04 ∧
        UInt8.ofNat (value / 8 * 8 + 0x04 + value % 4) = UInt8.ofNat value ||| 0x04 ∧
        UInt8.ofNat (value / 2 * 2 + 1) = UInt8.ofNat value ||| 0x01 ∧
        UInt8.ofNat (value / 4 * 4 + 3) = UInt8.ofNat value ||| 0x03 ∧
        (value % 8 = 0 → 0xF8 = UInt8.ofNat value ||| 0xF8) := by
    decide +kernel
  have own := bytes byte.toNat byte.toNat_lt
  rw [UInt8.ofNat_toNat] at own
  exact own

section Groups

variable {first second third fourth fifth sixth seventh : Nat}

theorem groups_of_clock (inFirst : first < 8) (inSecond : second < 4) (inThird : third < 256)
    (inFourth : fourth < 32) (inFifth : fifth < 4) (inSixth : sixth < 256) (inSeventh : seventh < 32) :
    let clock := first <<< 30 + second <<< 28 + third <<< 20 + fourth <<< 15 + fifth <<< 13
      + sixth <<< 5 + seventh
    clock >>> 30 % 8 = first ∧ clock >>> 28 % 4 = second ∧ clock >>> 20 % 256 = third ∧
      clock >>> 15 % 32 = fourth ∧ clock >>> 13 % 4 = fifth ∧ clock >>> 5 % 256 = sixth ∧
      clock % 32 = seventh := by
  simp only [Nat.shiftLeft_eq, Nat.shiftRight_eq_div_pow]
  omega

theorem groups_of_extension (inFirst : first < 4) (inSecond : second < 128) :
    (first <<< 7 + second) >>> 7 % 4 = first ∧ (first <<< 7 + second) % 128 = second := by
  simp only [Nat.shiftLeft_eq, Nat.shiftRight_eq_div_pow]
  omega

theorem groups_of_rate (inFirst : first < 256) (inSecond : second < 256) (inThird : third < 64) :
    let rate := first <<< 14 + second <<< 6 + third
    rate >>> 14 % 256 = first ∧ rate >>> 6 % 256 = second ∧ rate % 64 = third := by
  simp only [Nat.shiftLeft_eq, Nat.shiftRight_eq_div_pow]
  omega

end Groups

theorem ofNat_eq_of_mod {value : Nat} {byte : UInt8} (same : value % 256 = byte.toNat) :
    UInt8.ofNat value = byte :=
  UInt8.toNat.inj (UInt8.toNat_ofNat'.trans same)

/-- A header without stuffing that was read and is written again has its guard bits set, and is as it was. -/
theorem toBytes_of_parse {data : Bytes} {header : Header} (parsed : parse data = .ok header)
    (plain : header.length = headerLength) :
    header.toBytes = List.zipWith (· ||| ·) data guardBits := by
  unfold parse at parsed
  split at parsed
  · next c3 c2 c1 c0 b0 b1 b2 b3 b4 b5 b6 b7 b8 b9 rest =>
    split at parsed
    · cases parsed
    · next coded =>
      split at parsed
      · cases parsed
      · next newer =>
        cases parsed
        have upper (byte : UInt8) (size : Nat) {count : Nat} (fits : 256 ≤ size * count) :
            byte.toNat / size < count :=
          Nat.div_lt_of_lt_mul (Nat.lt_of_lt_of_le byte.toNat_lt fits)
        have lower (byte : UInt8) : byte.toNat % 4 < 4 := Nat.mod_lt _ (by decide)
        obtain ⟨clock0, clock1, clock2, clock3, clock4, clock5, clock6⟩ :=
          groups_of_clock (Nat.mod_lt (b0.toNat / 8) (by decide)) (lower b0) b1.toNat_lt (upper b2 8 (by decide))
            (lower b2) b3.toNat_lt (upper b4 8 (by decide))
        obtain ⟨extension0, extension1⟩ :=
          groups_of_extension (lower b4) (upper b5 2 (by decide))
        obtain ⟨rate0, rate1, rate2⟩ :=
          groups_of_rate b6.toNat_lt b7.toNat_lt (upper b8 4 (by decide))
        -- The other bytes hold guard bits beside their groups.
        have first := (guarded_byte b0).1 (Decidable.not_not.mp newer)
        obtain ⟨-, third, -⟩ := guarded_byte b2
        obtain ⟨-, -, fifth, -⟩ := guarded_byte b4
        obtain ⟨-, -, -, sixth, -⟩ := guarded_byte b5
        obtain ⟨-, -, -, -, ninth, -⟩ := guarded_byte b8
        have last := (guarded_byte b9).2.2.2.2.2 (Nat.add_left_cancel plain)
        have start : [c3, c2, c1, c0] = startCode := Decidable.not_not.mp coded
        simp only [startCode, List.cons.injEq, and_true] at start
        obtain ⟨rfl, rfl, rfl, rfl⟩ := start
        simp only [toBytes, startCode, List.cons_append, List.nil_append, guardBits, List.zipWith_cons_cons,
          List.zipWith_nil_right, UInt8.or_zero, clock0, clock1, ofNat_eq_of_mod clock2, clock3, clock4,
          ofNat_eq_of_mod clock5, clock6, extension0, extension1, ofNat_eq_of_mod rate0, ofNat_eq_of_mod rate1,
          rate2, first, third, fifth, sixth, ninth, ← last]
  · cases parsed

def unguarded (data : Bytes) : Bytes :=
  List.zipWith (fun byte guards => byte &&& ~~~guards) data guardBits

theorem unguarded_set (data : Bytes) : unguarded (List.zipWith (· ||| ·) data guardBits) = unguarded data := by
  have masked (byte guards : UInt8) : (byte ||| guards) &&& ~~~guards = byte &&& ~~~guards := by
    apply UInt8.eq_of_toBitVec_eq
    ext bit
    simp only [UInt8.toBitVec_and, UInt8.toBitVec_or, UInt8.toBitVec_not, BitVec.getElem_and, BitVec.getElem_or,
      BitVec.getElem_not]
    cases guards.toBitVec[bit] <;> simp
  unfold unguarded
  generalize guardBits = guards
  induction data generalizing guards with
  | nil => rfl
  | cons byte later ih =>
    cases guards with
    | nil => rfl
    | cons first others => simp only [List.zipWith_cons_cons, masked, ih]

/--
Nothing is lost of a clock but what it has no room for. A pack header reads back with 33 bits of its clock, nine of
the extension and 22 of the rate, and without stuffing; a header without stuffing that was read is, when it is
written again, the same in each bit that is no marker and not reserved; and of a time stamp 33 bits read back, below
any lead.
-/
theorem clocks_read_back (header : Header) (data rest : Bytes) (lead : UInt8) (time : Nat) :
    parse (header.toBytes ++ rest) =
        .ok {
          clockBase := header.clockBase % 2 ^ 33
          clockExtension := header.clockExtension % 2 ^ 9
          rate := header.rate % 2 ^ 22
          length := 14 } ∧
      (∀ read, parse data = .ok read → read.length = 14 → unguarded read.toBytes = unguarded data) ∧
      Timestamp.read? (Timestamp.write lead time ++ rest) = some (time % 2 ^ 33) := by
  refine ⟨parse_toBytes header rest, fun read parsed plain => ?_, Timestamp.read?_write lead time rest⟩
  rw [toBytes_of_parse parsed plain, unguarded_set]

/-- A header in which no guard bit is set, but the highest and the lowest bit of every group. -/
def bare : Bytes :=
  startCode ++ [0x6B, 0x81, 0x8B, 0x81, 0x8B, 0x82, 0x81, 0x81, 0x84, 0x00]

theorem clocks_read_back_bare :
    ∃ read, parse bare = .ok read ∧ read.length = 14 ∧ unguarded read.toBytes = unguarded bare ∧
      unguarded bare = bare ∧ read.toBytes ≠ bare :=
  ⟨_, rfl, rfl, (clocks_read_back ⟨0, 0, 0, 14⟩ bare [] 0 0).2.1 _ rfl rfl, by decide, by decide⟩

end Pack.Header

end MpegRecorder
