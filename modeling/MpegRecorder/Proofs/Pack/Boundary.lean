import MpegRecorder.Proofs.Pack.Framing

/-!
Where packs begin in a row of them. Each tells its length, so the packs can be told from the bytes. The start
code stands at the start of each, and wherever else it stands, it does so inside of one pack, in bytes that the
pack carries: it never reaches across a boundary.
-/

namespace MpegRecorder

theorem Bytes.searchFrom_stands {pattern : Bytes} {accept : Bytes → Bool} {pending offset place : Nat}
    {view : Bytes} (found : searchFrom pattern accept pending offset view = some place) :
    ∃ skipped, place = offset + skipped ∧ pattern <+: view.drop skipped := by
  have later {offset : Nat} {byte : UInt8} {rest : Bytes}
      (there : ∃ skipped, place = offset + 1 + skipped ∧ pattern <+: rest.drop skipped) :
      ∃ skipped, place = offset + skipped ∧ pattern <+: (byte :: rest).drop skipped := by
    obtain ⟨skipped, rfl, stands⟩ := there
    exact ⟨skipped + 1, by omega, stands⟩
  fun_induction searchFrom pattern accept pending offset view with
  | case1 => cases found
  | case2 offset byte rest pending ih => exact later (ih found)
  | case3 offset byte rest here =>
    cases found
    exact ⟨0, rfl, List.isPrefixOf_iff_prefix.mp here⟩
  | case4 offset byte rest here refused ih => exact later (ih found)
  | case5 offset byte rest elsewhere ih => exact later (ih found)

namespace Pack

open Elementary

theorem Header.startCode_of_parse {data : Bytes} {header : Header} (parsed : parse data = .ok header) :
    startCode <+: data := by
  unfold parse at parsed
  split at parsed
  · next c3 c2 c1 c0 _ _ _ _ _ _ _ _ _ _ rest =>
    split at parsed
    · cases parsed
    · next code =>
      rw [← Decidable.not_not.mp code]
      exact ⟨_, rfl⟩
  · cases parsed

theorem WellFormed.startCode {pack : Bytes} (wellFormed : WellFormed pack) : Pack.startCode <+: pack := by
  obtain ⟨header, parsed, -⟩ := wellFormed.header
  exact (Header.startCode_of_parse parsed).trans (List.take_prefix ..)

theorem WellFormed.packet_append {pack : Bytes} (wellFormed : WellFormed pack) (rest : Bytes) :
    ∃ header, Pes.Header.parse ((pack ++ rest).drop headerLength) = .ok header ∧
      headerLength + Pes.fixedLength + header.packetLength = pack.length := by
  obtain ⟨header, parsed, length⟩ := wellFormed.packet
  refine ⟨header, ?_, length⟩
  rw [List.drop_append_of_le_length (by omega)]
  exact Pes.Header.parse_append parsed rest

theorem WellFormed.unique {pack other rest more : Bytes} (left : WellFormed pack) (right : WellFormed other)
    (same : pack ++ rest = other ++ more) : pack = other ∧ rest = more := by
  obtain ⟨header, parsed, length⟩ := left.packet_append rest
  obtain ⟨other, again, others⟩ := right.packet_append more
  rw [same, again] at parsed
  cases parsed
  exact List.append_inj same (length.symm.trans others)

theorem WellFormed.not_tail {pack rest tail : Bytes} (wellFormed : WellFormed pack)
    (ends : tail = [] ∨ tail = endCode) : tail ≠ pack ++ rest := by
  intro same
  have stands : Pack.startCode <+: tail := same ▸ wellFormed.startCode.trans (List.prefix_append ..)
  rcases ends with rfl | rfl <;> exact absurd stands (by decide)

theorem packs_unique {packs others : List Bytes} {tail rest : Bytes} (all : ∀ pack ∈ packs, WellFormed pack)
    (each : ∀ pack ∈ others, WellFormed pack) (ends : tail = [] ∨ tail = endCode)
    (stops : rest = [] ∨ rest = endCode) (same : packs.flatten ++ tail = others.flatten ++ rest) :
    packs = others ∧ tail = rest := by
  induction packs generalizing others with
  | nil =>
    cases others with
    | nil => exact ⟨rfl, same⟩
    | cons other later =>
      rw [List.flatten_cons, List.append_assoc] at same
      exact absurd same ((each other (List.mem_cons_self ..)).not_tail ends)
  | cons pack later ih =>
    obtain ⟨here, behind⟩ := List.forall_mem_cons.mp all
    rw [List.flatten_cons, List.append_assoc] at same
    cases others with
    | nil => exact absurd same.symm (here.not_tail stops)
    | cons other more =>
      obtain ⟨there, beyond⟩ := List.forall_mem_cons.mp each
      rw [List.flatten_cons, List.append_assoc] at same
      obtain ⟨rfl, onward⟩ := here.unique there same
      obtain ⟨rfl, last⟩ := ih behind beyond onward
      exact ⟨rfl, last⟩

/-- The last bytes in front of a start code or an end code do not begin a start code. -/
theorem not_startCode_across {last rest : Bytes} (some : 0 < last.length) (few : last.length < 4)
    (behind : rest = [] ∨ [0x00, 0x00, 0x01] <+: rest) : ¬ startCode <+: last ++ rest := by
  rcases behind with rfl | ⟨rest, rfl⟩
  · intro stands
    have long := stands.length_le
    rw [List.append_nil] at long
    exact absurd few (Nat.not_lt.mpr long)
  · match last, some, few with
    | [_], _, _ => simp [startCode]
    | [_, _], _, _ => simp [startCode]
    | [_, _, _], _, _ => simp [startCode]

theorem place_of_startCode {packs : List Bytes} (wellFormed : ∀ pack ∈ packs, WellFormed pack)
    {tail : Bytes} (ends : tail = [] ∨ tail = endCode) {place : Nat}
    (stands : startCode <+: (packs.flatten ++ tail).drop place) :
    ∃ front pack behind offset, packs = front ++ pack :: behind ∧ place = front.flatten.length + offset ∧
      offset < pack.length ∧ startCode <+: pack.drop offset := by
  induction packs generalizing place with
  | nil =>
    have long := stands.length_le
    rcases ends with rfl | rfl
    · simp [startCode] at long
    · cases place with
      | zero => exact absurd stands (by decide)
      | succ place =>
        simp only [startCode, endCode, List.flatten_nil, List.nil_append, List.length_drop,
          List.length_cons, List.length_nil] at long
        omega
  | cons pack later ih =>
    obtain ⟨here, others⟩ := List.forall_mem_cons.mp wellFormed
    rw [List.flatten_cons, List.append_assoc, List.drop_append] at stands
    by_cases inside : place < pack.length
    · refine ⟨[], pack, later, place, rfl, (Nat.zero_add _).symm, inside, ?_⟩
      rw [Nat.sub_eq_zero_of_le (Nat.le_of_lt inside), List.drop_zero] at stands
      by_cases few : (pack.drop place).length < 4
      · refine absurd stands (not_startCode_across ?_ few ?_)
        · rw [List.length_drop]
          exact Nat.sub_pos_of_lt inside
        · -- Behind a pack there is another one, the end code, or nothing.
          cases later with
          | nil =>
            rcases ends with rfl | rfl
            · exact .inl rfl
            · exact .inr ⟨[0xB9], rfl⟩
          | cons next rest =>
            obtain ⟨more, same⟩ := (others next (List.mem_cons_self ..)).startCode
            refine .inr ⟨0xBA :: more ++ rest.flatten ++ tail, ?_⟩
            rw [List.flatten_cons, ← same]
            simp [startCode]
      · exact List.prefix_of_prefix_length_le stands (List.prefix_append ..) (Nat.not_lt.mp few)
    · rw [List.drop_of_length_le (Nat.not_lt.mp inside), List.nil_append] at stands
      obtain ⟨front, other, behind, offset, rfl, there, within, holds⟩ := ih others stands
      refine ⟨pack :: front, other, behind, offset, rfl, ?_, within, holds⟩
      rw [List.flatten_cons, List.length_append]
      omega

end Pack

end MpegRecorder
