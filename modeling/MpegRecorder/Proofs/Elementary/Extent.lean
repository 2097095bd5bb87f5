import MpegRecorder.Elementary.Pes

/-!
How far the header of a packetized unit reaches. What a successful read says about the bytes, and the
converse: a fixed part that counts what follows it reads back, whenever the optional part that its stream
has is there in full. More data behind a header that was read does not change it.
-/

namespace MpegRecorder

theorem Bytes.toNat_ofWord (word : UInt16) : Bytes.toNat (Bytes.ofWord word) = word.toNat := by
  have bound := word.toNat_lt
  have high : (word >>> 8).toNat = word.toNat / 256 := by
    rw [UInt16.toNat_shiftRight, Nat.shiftRight_eq_div_pow]
    rfl
  simp only [Bytes.ofWord, Bytes.toNat, List.foldl_cons, List.foldl_nil, Nat.zero_mul, Nat.zero_add,
    UInt16.toNat_toUInt8, high]
  omega

theorem Bytes.ofWord_toNat (high low : UInt8) :
    ofWord (UInt16.ofNat (toNat [high, low])) = [high, low] := by
  have first := high.toNat_lt
  have second := low.toNat_lt
  have word : (UInt16.ofNat (toNat [high, low])).toNat = high.toNat * 256 + low.toNat := by
    simp only [toNat, List.foldl_cons, List.foldl_nil, UInt16.toNat_ofNat']
    omega
  have upper : (UInt16.ofNat (toNat [high, low]) >>> 8).toUInt8 = high := by
    apply UInt8.toNat_inj.mp
    rw [UInt16.toNat_toUInt8, UInt16.toNat_shiftRight, Nat.shiftRight_eq_div_pow, word]
    change (high.toNat * 256 + low.toNat) / 2 ^ 8 % 2 ^ 8 = high.toNat
    omega
  have lower : (UInt16.ofNat (toNat [high, low])).toUInt8 = low := by
    apply UInt8.toNat_inj.mp
    rw [UInt16.toNat_toUInt8, word]
    omega
  rw [ofWord, upper, lower]

namespace Elementary.Pes

@[simp] theorem length_fixedPart (streamId : UInt8) (length : Nat) :
    (fixedPart streamId length).length = fixedLength := rfl

/--
What follows a fixed part of this stream opens with its optional part, which takes `count` bytes; it is
empty for a stream that has none.
-/
inductive Extent (streamId : UInt8) : (count : Nat) → (rest : Bytes) → Prop where
  | plain {rest : Bytes} (none : hasOptionalPart streamId = false) : Extent streamId 0 rest
  | optional {first flags length : UInt8} {fields : Bytes} (some : hasOptionalPart streamId = true)
      (whole : length.toNat ≤ fields.length) :
      Extent streamId (3 + length.toNat) (first :: flags :: length :: fields)

namespace Extent

variable {streamId : UInt8} {count : Nat} {rest : Bytes}

theorem count_le (extent : Extent streamId count rest) : count ≤ rest.length := by
  cases extent with
  | plain => exact Nat.zero_le _
  | optional _ whole => simp only [List.length_cons]; omega

theorem count_le_limit (extent : Extent streamId count rest) :
    fixedLength + count ≤ headerLimit := by
  cases extent with
  | plain => decide
  | @optional _ _ length => have := length.toNat_lt; simp only [fixedLength, headerLimit]; omega

theorem take (extent : Extent streamId count rest) {bound : Nat} (enough : count ≤ bound) :
    Extent streamId count (rest.take bound) := by
  cases extent with
  | plain none => exact .plain none
  | optional some whole =>
    obtain ⟨more, rfl⟩ := Nat.exists_eq_add_of_le' (Nat.le_trans (Nat.le_add_right ..) enough)
    simp only [List.take_succ_cons]
    exact .optional some (by simp only [List.length_take]; omega)

end Extent

/-- What a header that was read says about the bytes: a fixed part, the optional one, and the rest. -/
theorem Header.extent_of_parse {data : Bytes} {header : Header} (parsed : parse data = .ok header) :
    ∃ count, Extent header.streamId count (data.drop fixedLength) ∧
      header.headerLength = fixedLength + count ∧ fixedLength ≤ data.length ∧
      (header.packetLength ≠ 0 → count ≤ header.packetLength) := by
  unfold parse at parsed
  split at parsed
  · next c2 c1 c0 streamId l1 l0 rest =>
    have long : fixedLength ≤ (c2 :: c1 :: c0 :: streamId :: l1 :: l0 :: rest).length :=
      Nat.le_add_left ..
    split at parsed
    · cases parsed
    · simp only at parsed
      split at parsed
      · next some =>
        unfold parseOptional at parsed
        split at parsed
        · next first flags length fields =>
          simp only at parsed
          split at parsed
          · cases parsed
          · next whole =>
            split at parsed
            · cases parsed
            · next covered =>
              cases parsed
              simp only [fixedLength] at covered ⊢
              exact
                ⟨3 + length.toNat, .optional some (Nat.not_lt.mp whole), by omega, long, by omega⟩
        · cases parsed
      · next none =>
        cases parsed
        exact ⟨0, .plain (Bool.not_eq_true _ ▸ none), rfl, long, fun _ => Nat.zero_le _⟩
  · cases parsed

theorem Header.parse_fixedPart_append (streamId : UInt8) {length : Nat} (short : length < UInt16.size)
    (rest : Bytes) :
    parse (fixedPart streamId length ++ rest) =
      if hasOptionalPart streamId then parseOptional streamId length rest
      else .ok ⟨streamId, length, fixedLength, none, none⟩ := by
  have spelled : Bytes.toNat (Bytes.ofWord (UInt16.ofNat length)) = length := by
    rw [Bytes.toNat_ofWord, UInt16.toNat_ofNat_of_lt' short]
  conv =>
    rhs
    rw [← spelled]
  rfl

theorem Header.parseOptional_of_covered {streamId first flags length : UInt8} {packetLength : Nat}
    {fields : Bytes} (whole : length.toNat ≤ fields.length)
    (covered : packetLength ≠ 0 → 3 + length.toNat ≤ packetLength) :
    ∃ header, parseOptional streamId packetLength (first :: flags :: length :: fields) = .ok header ∧
      header.streamId = streamId ∧ header.packetLength = packetLength ∧
      header.headerLength = 9 + length.toNat := by
  have fits : ¬ (packetLength ≠ 0 ∧ packetLength < 9 + length.toNat - fixedLength) := by
    simp only [fixedLength]
    omega
  simp only [parseOptional, if_neg (Nat.not_lt.mpr whole), if_neg fits]
  exact ⟨_, rfl, rfl, rfl, rfl⟩

theorem Header.parse_fixedPart {streamId : UInt8} {count : Nat} {rest : Bytes}
    (extent : Extent streamId count rest) (short : rest.length < UInt16.size) :
    ∃ header, parse (fixedPart streamId rest.length ++ rest) = .ok header ∧
      header.streamId = streamId ∧ header.packetLength = rest.length ∧
      header.headerLength = fixedLength + count := by
  have covers := extent.count_le
  rw [parse_fixedPart_append streamId short]
  cases extent with
  | plain none =>
    rw [none]
    exact ⟨_, rfl, rfl, rfl, rfl⟩
  | optional some whole =>
    rw [if_pos some]
    obtain ⟨header, read, id, length, reach⟩ := parseOptional_of_covered whole fun _ => covers
    exact ⟨header, read, id, length, by rw [reach, fixedLength]; omega⟩

theorem Header.parseOptional_append {streamId : UInt8} {packetLength : Nat} {data : Bytes}
    {header : Header} (parsed : parseOptional streamId packetLength data = .ok header)
    (more : Bytes) : parseOptional streamId packetLength (data ++ more) = .ok header := by
  unfold parseOptional at parsed
  split at parsed
  · next first flags length fields =>
    simp only at parsed
    split at parsed
    · cases parsed
    · next whole =>
      split at parsed
      · cases parsed
      · next covered =>
        have longer : ¬ (fields ++ more).length < length.toNat := by
          rw [List.length_append]
          omega
        -- a time stamp is read only where the optional part, which is there in full, has room for it
        have shown : 14 ≤ 9 + length.toNat →
            Timestamp.read? (fields ++ more) = Timestamp.read? fields := by
          intro room
          exact Timestamp.read?_append (by omega) more
        have decoded : 19 ≤ 9 + length.toNat →
            Timestamp.read? ((fields ++ more).drop 5) = Timestamp.read? (fields.drop 5) := by
          intro room
          rw [List.drop_append_of_le_length (by omega)]
          exact Timestamp.read?_append (by rw [List.length_drop]; omega) more
        rw [← parsed]
        simp only [List.cons_append, parseOptional, if_neg longer, if_neg covered]
        congr 2
        · split
          · next both => exact shown both.2
          · rfl
        · split
          · next both => exact decoded both.2
          · rfl
  · cases parsed

theorem Header.parse_append {data : Bytes} {header : Header} (parsed : parse data = .ok header)
    (more : Bytes) : parse (data ++ more) = .ok header := by
  unfold parse at parsed
  split at parsed
  · next c2 c1 c0 streamId l1 l0 rest =>
    rw [← parsed]
    simp only [List.cons_append, parse]
    split
    · rfl
    · split
      · next coded optional =>
        simp only [coded, optional, if_true, if_false] at parsed
        rw [parsed]
        exact parseOptional_append parsed more
      · rfl
  · cases parsed

theorem Header.streamId_of_parseOptional {streamId : UInt8} {packetLength : Nat} {data : Bytes}
    {header : Header} (parsed : parseOptional streamId packetLength data = .ok header) :
    header.streamId = streamId := by
  unfold parseOptional at parsed
  split at parsed
  · simp only at parsed
    split at parsed
    · cases parsed
    · split at parsed <;> cases parsed
      rfl
  · cases parsed

theorem Header.take_of_parse {data : Bytes} {header : Header} (parsed : parse data = .ok header) :
    data.take 4 = [0x00, 0x00, 0x01, header.streamId] := by
  unfold parse at parsed
  split at parsed
  · next c2 c1 c0 streamId l1 l0 rest =>
    split at parsed
    · cases parsed
    · next coded =>
      have same : header.streamId = streamId := by
        simp only at parsed
        split at parsed
        · exact streamId_of_parseOptional parsed
        · cases parsed
          rfl
      rw [same]
      exact congrArg (· ++ [streamId]) (Decidable.not_not.mp coded)
  · cases parsed

theorem extent_continuation (streamId : UInt8) (chunk : Bytes) :
    ∃ count rest, Extent streamId count rest ∧ rest.drop count = chunk
      ∧ fixedLength + rest.length = continuationLength streamId + chunk.length
      ∧ continuation streamId chunk.length ++ chunk = fixedPart streamId rest.length ++ rest := by
  unfold continuation continuationLength
  by_cases some : hasOptionalPart streamId = true
  · rw [if_pos some, if_pos some]
    have whole : (0x00 : UInt8).toNat ≤ chunk.length := Nat.zero_le _
    refine ⟨_, 0x80 :: 0x00 :: 0x00 :: chunk, .optional some whole, rfl, ?_, ?_⟩
    · simp only [fixedLength, List.length_cons]
      omega
    · rw [List.append_assoc]
      rfl
  · rw [if_neg some, if_neg some]
    exact ⟨0, chunk, .plain (Bool.not_eq_true _ ▸ some), rfl, rfl, rfl⟩

end Elementary.Pes

end MpegRecorder
