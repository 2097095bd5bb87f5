import MpegRecorder.Proofs.Access.Basic
import MpegRecorder.Proofs.Pack.Contents

/-!
Units, read by offset and cut into packs. Everything is cut where the header of a unit says; a header that
was read says nothing that the unit does not hold.
-/

namespace MpegRecorder.Access

open Elementary Pack

def timestamp (bytes : Bytes) : Except Fault Nat := do
  let a ← index bytes 0
  let b ← index bytes 1
  let c ← index bytes 2
  let d ← index bytes 3
  let e ← index bytes 4
  return (a.toNat / 2 % 8) <<< 30 + b.toNat <<< 22 + (c.toNat / 2) <<< 15 + d.toNat <<< 7
    + e.toNat / 2

def timestampAt (present : Bool) (data : Bytes) (start stop : Nat) : Except Fault (Option Nat) :=
  if present then do
    let bytes ← slice data start stop
    let time ← timestamp bytes
    return some time
  else return none

def unitFields (streamId : UInt8) (packetLength : Nat) (data : Bytes) :
    Except Fault (Except Malformed Pes.Header) := do
  if data.length < 9 then return .error (.tooShort 9 data.length)
  let flags ← index data 7
  let length ← index data 8
  let headerLength := 9 + length.toNat
  if data.length < headerLength then return .error (.tooShort headerLength data.length)
  let least ← minus headerLength Pes.fixedLength
  if packetLength ≠ 0 ∧ packetLength < least then
    return .error (.pesLength packetLength headerLength)
  let presentation ← timestampAt (flags &&& 0x80 ≠ 0 ∧ 14 ≤ headerLength) data 9 14
  let decoding ← timestampAt (flags &&& 0xC0 = 0xC0 ∧ 19 ≤ headerLength) data 14 19
  return .ok { streamId, packetLength, headerLength, presentation, decoding }

def unitHeader (data : Bytes) : Except Fault (Except Malformed Pes.Header) := do
  if data.length < Pes.fixedLength then return .error (.tooShort Pes.fixedLength data.length)
  let lead ← slice data 0 3
  let c2 ← index data 0
  let c1 ← index data 1
  let c0 ← index data 2
  let streamId ← index data 3
  if lead ≠ [0x00, 0x00, 0x01] then
    return .error (.startCode (Bytes.toNat [c2, c1, c0, streamId]))
  let l1 ← index data 4
  let l0 ← index data 5
  if Pes.hasOptionalPart streamId then unitFields streamId (Bytes.toNat [l1, l0]) data
  else return .ok ⟨streamId, Bytes.toNat [l1, l0], Pes.fixedLength, none, none⟩

/-- A pack; its start code is read by offset, the other fields of its header are computed. -/
def pack (clock : Nat) (content : Bytes) : Except Fault Bytes := do
  let c3 ← index startCode 0
  let c2 ← index startCode 1
  let c1 ← index startCode 2
  let c0 ← index startCode 3
  let fields := (Header.new clock announcedRate).toBytes.drop startCode.length
  return [c3, c2, c1, c0] ++ fields ++ content

def unitPacks (clock : Nat) (header : Pes.Header) (unit : Bytes) : Except Fault Bytes := do
  let stop :=
    match header.totalLength with
    | some total => min unit.length total
    | none => unit.length
  let bounded ← slice unit 0 stop
  let (head, payload) ← split bounded header.headerLength
  let room ← minus packRoom head.length
  let first := min payload.length room
  let optional ← minus head.length Pes.fixedLength
  let code ← slice head 0 4
  let fields ← slice head Pes.fixedLength head.length
  let chunk ← slice payload 0 first
  let rest ← slice payload first payload.length
  let size ← minus packRoom (Pes.continuation header.streamId 0).length
  let chunks ← pieces size rest
  let front ← pack clock
    (code ++ Bytes.ofWord (UInt16.ofNat (optional + first)) ++ fields ++ chunk)
  let others ← chunks.mapM fun chunk =>
    pack clock (Pes.continuation header.streamId chunk.length ++ chunk)
  return front ++ others.flatten

theorem timestampAt_eq (present : Bool) (data : Bytes) (start : Nat)
    (room : present = true → start + 5 ≤ data.length) :
    timestampAt present data start (start + 5) =
      .ok (if present then Timestamp.read? (data.drop start) else none) := by
  cases present with
  | false => rfl
  | true =>
    have enough : 5 ≤ (data.drop start).length := by
      have inside := room rfl
      rw [List.length_drop]
      omega
    have cut : slice data start (start + 5) = .ok ((data.drop start).take 5) := by
      rw [slice_of_le (Nat.le_add_right ..) (room rfl), List.take_drop]
    simp only [timestampAt, if_true, cut, ok_bind]
    match data.drop start, enough with
    | a :: b :: c :: d :: e :: rest, _ => rfl

theorem unitFields_eq (streamId : UInt8) (packetLength : Nat) (c2 c1 c0 l1 l0 : UInt8) (rest : Bytes) :
    unitFields streamId packetLength (c2 :: c1 :: c0 :: streamId :: l1 :: l0 :: rest) =
      .ok (Pes.Header.parseOptional streamId packetLength rest) := by
  match rest with
  | [] | [_] | [_, _] => rfl
  | first :: flags :: length :: fields =>
    generalize same : c2 :: c1 :: c0 :: streamId :: l1 :: l0 :: first :: flags :: length :: fields = data
    have whole : data.length = 9 + fields.length := by
      rw [← same, Nat.add_comm]
      rfl
    have behind : data.drop 9 = fields := by rw [← same]; rfl
    have later : data.drop 14 = fields.drop 5 := by rw [← same]; rfl
    have flagsAt : index data 7 = .ok flags := by rw [← same]; rfl
    have lengthAt : index data 8 = .ok length := by rw [← same]; rfl
    have long : ¬ data.length < 9 := by omega
    have least : Pes.fixedLength ≤ 9 + length.toNat := by
      simp only [Pes.fixedLength]
      omega
    simp only [unitFields, Pes.Header.parseOptional, if_neg long, flagsAt, lengthAt, ok_bind, pure_eq_ok,
      minus_of_le least]
    by_cases short : fields.length < length.toNat
    · rw [if_pos short, if_pos (by omega), whole]
    rw [if_neg short, if_neg (by omega)]
    by_cases covered : packetLength ≠ 0 ∧ packetLength < 9 + length.toNat - Pes.fixedLength
    · rw [if_pos covered, if_pos covered]
    have presentation := timestampAt_eq (flags &&& 0x80 ≠ 0 ∧ 14 ≤ 9 + length.toNat) data 9 fun given => by
      have reach := (of_decide_eq_true given).2
      omega
    have decoding := timestampAt_eq (flags &&& 0xC0 = 0xC0 ∧ 19 ≤ 9 + length.toNat) data 14 fun given => by
      have reach := (of_decide_eq_true given).2
      omega
    rw [if_neg covered, if_neg covered, presentation, decoding, behind, later]
    simp only [ok_bind, decide_eq_true_eq]

theorem unitHeader_eq (data : Bytes) : unitHeader data = .ok (Pes.Header.parse data) := by
  match data with
  | [] | [_] | [_, _] | [_, _, _] | [_, _, _, _] | [_, _, _, _, _] => rfl
  | c2 :: c1 :: c0 :: streamId :: l1 :: l0 :: rest =>
    have long : ¬ (c2 :: c1 :: c0 :: streamId :: l1 :: l0 :: rest).length < Pes.fixedLength := by
      simp [Pes.fixedLength]
    rw [unitHeader, if_neg long]
    change (if [c2, c1, c0] ≠ [0x00, 0x00, 0x01] then _ else _) = _
    rw [Pes.Header.parse]
    split
    · rfl
    · change (if Pes.hasOptionalPart streamId then unitFields .. else _) = _
      dsimp only
      split
      · exact unitFields_eq ..
      · rfl

theorem pack_eq (clock : Nat) (content : Bytes) : pack clock content = .ok (Muxer.pack clock content) :=
  rfl

theorem continuationLength_lt (streamId : UInt8) : Pes.continuationLength streamId < packRoom := by
  unfold Pes.continuationLength
  split <;> decide

theorem continuationPacks_eq (clock : Nat) (streamId : UInt8) (payload : Bytes) :
    Muxer.continuationPacks clock streamId payload =
      (payload.chunks (packRoom - Pes.continuationLength streamId)).flatMap fun chunk =>
        Muxer.pack clock (Pes.continuation streamId chunk.length ++ chunk) := by
  have room : packRoom - Pes.continuationLength streamId ≠ 0 :=
    Nat.sub_ne_zero_of_lt (continuationLength_lt streamId)
  fun_induction Muxer.continuationPacks clock streamId payload with
  | case1 =>
    rw [Bytes.chunks, dif_pos (.inr rfl)]
    rfl
  | case2 payload more chunk ih =>
    rw [Bytes.chunks, dif_neg (not_or.mpr ⟨room, more⟩), List.flatMap_cons, ih]

section Packs

variable {header : Pes.Header} {unit : Bytes}

/-- What leaves of a unit ends inside it. -/
theorem slice_counted (header : Pes.Header) (unit : Bytes) :
    slice unit 0
        (match header.totalLength with
          | some total => min unit.length total
          | none => unit.length) = .ok (Muxer.counted header unit) := by
  unfold Muxer.counted
  cases header.totalLength with
  | none => rw [slice_rest (Nat.zero_le _), List.drop_zero]
  | some total => exact slice_front unit total

/-- What leaves of a unit holds its header, which a pack has room for. -/
theorem headerLength_le (parsed : Pes.Header.parse unit = .ok header) :
    header.headerLength ≤ (Muxer.counted header unit).length
      ∧ Pes.fixedLength ≤ header.headerLength ∧ header.headerLength ≤ packRoom := by
  obtain ⟨count, extent, reach, long⟩ := Muxer.extent_counted parsed
  have covers := extent.count_le
  have limit := Nat.le_trans extent.count_le_limit (show Pes.headerLimit ≤ packRoom by decide)
  rw [List.length_drop] at covers
  omega

theorem take_head (parsed : Pes.Header.parse unit = .ok header) :
    ((Muxer.counted header unit).take header.headerLength).take 4 =
      [0x00, 0x00, 0x01, header.streamId] := by
  have inside : 4 ≤ header.headerLength := Nat.le_trans (by decide) (headerLength_le parsed).2.1
  rw [Muxer.take_counted parsed, List.take_take, Nat.min_eq_left inside,
    Pes.Header.take_of_parse parsed]

theorem unitPacks_eq (clock : Nat) (parsed : Pes.Header.parse unit = .ok header) :
    unitPacks clock header unit = .ok (Muxer.unitPacks clock header unit) := by
  obtain ⟨whole, fixed, fits⟩ := headerLength_le parsed
  let head := (Muxer.counted header unit).take header.headerLength
  let payload := (Muxer.counted header unit).drop header.headerLength
  let room := packRoom - head.length
  have length : head.length = header.headerLength := by
    rw [List.length_take, Nat.min_eq_left whole]
  have roomy : head.length ≤ packRoom := by omega
  have complete : Pes.fixedLength ≤ head.length := by omega
  have code : slice head 0 4 = .ok [0x00, 0x00, 0x01, header.streamId] := by
    have inside : 4 ≤ head.length := Nat.le_trans (by decide) complete
    rw [slice_of_le (Nat.zero_le _) inside, List.drop_zero, take_head parsed]
  have counts : (payload.take room).length = min payload.length room := by
    rw [List.length_take, Nat.min_comm]
  have continued : (Pes.continuation header.streamId 0).length < packRoom := by
    rw [Pes.length_continuation]
    exact continuationLength_lt header.streamId
  rw [unitPacks, slice_counted, ok_bind, split_of_le whole, ok_bind]
  change (minus packRoom head.length >>= fun room => _) = _
  rw [minus_of_le roomy, ok_bind, minus_of_le complete, ok_bind, code, ok_bind, slice_rest complete,
    ok_bind, slice_front payload room, ok_bind, slice_behind payload room, ok_bind,
    minus_of_le (Nat.le_of_lt continued), ok_bind, pieces_of_pos (Nat.sub_pos_of_lt continued), ok_bind,
    pack_eq, ok_bind, mapM_ok fun chunk _ => pack_eq clock _, ok_bind]
  rw [Muxer.unitPacks, continuationPacks_eq, Pes.length_continuation, List.flatMap_def, ← counts]
  rfl

/-- A header that no read gave could lead beyond its unit. -/
example : unitPacks 0 ⟨0xE0, 0, 9, none, none⟩ [0x00, 0x00, 0x01] = .error (.range 0 9 3) := rfl

end Packs

end MpegRecorder.Access
