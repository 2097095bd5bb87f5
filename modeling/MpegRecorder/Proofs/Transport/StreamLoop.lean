import MpegRecorder.Proofs.Transport.RoundTrip

/-!
The grammar of a stream loop. An entry is five bytes, which say how many bytes of descriptors stand behind them. A
loop is read entry by entry as far as whole entries go; what is left is an error if an entry begins there, and
is passed over if it is too short for that. Whatever the descriptors are, a loop that was written entry by entry
gives these entries back.
-/

namespace MpegRecorder

namespace Bytes

variable {front : Bytes} {offset : Nat}

theorem byteAt_append (inside : offset < front.length) (rest : Bytes) :
    (front ++ rest).byteAt offset = front.byteAt offset := by
  rw [byteAt, List.getD_eq_getElem?_getD, List.getElem?_append_left inside, byteAt,
    List.getD_eq_getElem?_getD]

theorem wordAt_append (inside : offset + 1 < front.length) (rest : Bytes) :
    (front ++ rest).wordAt offset = front.wordAt offset := by
  rw [wordAt, wordAt, byteAt_append (Nat.lt_of_succ_lt inside), byteAt_append inside]

theorem lengthAt_field (length : UInt16) (rest : Bytes) :
    (ofWord (0xF000 ||| length) ++ rest).lengthAt 0 = length.toNat % 4096 := by
  rw [lengthAt, wordAt_ofWord, UInt16.toNat_and, UInt16.toNat_or]
  show (61440 ||| length.toNat) &&& (2 ^ 12 - 1) = length.toNat % 2 ^ 12
  rw [Nat.and_two_pow_sub_one_eq_mod, Nat.or_mod_two_pow]
  simp

end Bytes

namespace Transport

structure Listing where
  code : UInt8
  pid : UInt16
  descriptors : Bytes
  pid_lt : pid < 0x2000
  descriptors_lt : descriptors.length < 4096

namespace Listing

def toBytes (listing : Listing) : Bytes :=
  listing.code :: Section.pidField listing.pid
    ++ Bytes.ofWord (0xF000 ||| UInt16.ofNat listing.descriptors.length) ++ listing.descriptors

def entry (listing : Listing) : StreamEntry :=
  ⟨.ofCode listing.code, listing.pid⟩

end Listing

namespace ProgramMap

/-- Whether a byte string is one entry of a stream loop, from its kind to its last descriptor. -/
def IsEntry (bytes : Bytes) : Prop :=
  5 ≤ bytes.length ∧ bytes.length = 5 + bytes.lengthAt 3

def readEntry (bytes : Bytes) : StreamEntry :=
  ⟨.ofCode (bytes.byteAt 0), bytes.pidAt 1⟩

/-- The longest row of entries in front of a loop: every other one is the beginning of it. -/
structure Longest (loop : Bytes) (row : List Bytes) (rest : Bytes) : Prop where
  spelled : loop = row.flatten ++ rest
  entries : ∀ bytes ∈ row, IsEntry bytes
  longest : ∀ other, (∀ bytes ∈ other, IsEntry bytes) → other.flatten <+: loop → other <+: row

theorem Longest.unique {loop rest left : Bytes} {row other : List Bytes} (longest : Longest loop row rest)
    (too : Longest loop other left) : other = row ∧ left = rest := by
  have front {row : List Bytes} {rest : Bytes} (longest : Longest loop row rest) : row.flatten <+: loop :=
    longest.spelled ▸ List.prefix_append ..
  have forth := longest.longest other too.entries (front too)
  have back := too.longest row longest.entries (front longest)
  have same := forth.eq_of_length_le back.length_le
  refine ⟨same, ?_⟩
  have spelled := longest.spelled.symm.trans too.spelled
  rw [same] at spelled
  exact (List.append_cancel_left spelled).symm

namespace IsEntry

variable {bytes : Bytes} (isEntry : IsEntry bytes) (rest : Bytes)
include isEntry

theorem lengthAt_append : (bytes ++ rest).lengthAt 3 = bytes.lengthAt 3 := by
  rw [Bytes.lengthAt, Bytes.wordAt_append isEntry.1, Bytes.lengthAt]

theorem length_eq : bytes.length = 5 + (bytes ++ rest).lengthAt 3 := by
  rw [isEntry.lengthAt_append]
  exact isEntry.2

theorem readEntry_append : readEntry (bytes ++ rest) = readEntry bytes := by
  have long := isEntry.1
  rw [readEntry, Bytes.byteAt_append (by omega), Bytes.pidAt, Bytes.wordAt_append (by omega), readEntry,
    Bytes.pidAt]

theorem entriesFrom_append (offset : Nat) :
    entriesFrom offset (bytes ++ rest) =
      .ok (readEntry bytes) :: entriesFrom (offset + bytes.length) rest := by
  have long := isEntry.1
  have reach := isEntry.length_eq rest
  have total : (bytes ++ rest).length = bytes.length + rest.length := List.length_append
  rw [entriesFrom, if_neg (by omega)]
  dsimp only
  rw [if_neg (by omega), ← reach, List.drop_left, Nat.add_assoc, ← reach]
  exact congrArg (· :: _) (congrArg Except.ok (isEntry.readEntry_append rest))

end IsEntry

theorem entriesFrom_flatten {row : List Bytes} (entries : ∀ bytes ∈ row, IsEntry bytes) (rest : Bytes)
    (offset : Nat) :
    entriesFrom offset (row.flatten ++ rest) =
      row.map (fun bytes => .ok (readEntry bytes)) ++ entriesFrom (offset + row.flatten.length) rest := by
  induction row generalizing offset with
  | nil => rfl
  | cons bytes later ih =>
    obtain ⟨first, others⟩ := List.forall_mem_cons.mp entries
    rw [List.flatten_cons, List.append_assoc, first.entriesFrom_append, ih others, List.length_append,
      Nat.add_assoc]
    rfl

def Opens (loop : Bytes) : Prop :=
  5 ≤ loop.length ∧ 5 + loop.lengthAt 3 ≤ loop.length

theorem IsEntry.opens {bytes loop : Bytes} (isEntry : IsEntry bytes) (front : bytes <+: loop) : Opens loop := by
  obtain ⟨rest, rfl⟩ := front
  have long := isEntry.1
  have reach := isEntry.length_eq rest
  have total : (bytes ++ rest).length = bytes.length + rest.length := List.length_append
  exact ⟨by omega, by omega⟩

theorem Opens.isEntry_take {loop : Bytes} (opens : Opens loop) : IsEntry (loop.take (5 + loop.lengthAt 3)) := by
  have whole := List.length_take_of_le opens.2
  have front : 3 + 1 < (loop.take (5 + loop.lengthAt 3)).length := by omega
  have same := Bytes.wordAt_append front (loop.drop (5 + loop.lengthAt 3))
  rw [List.take_append_drop] at same
  refine ⟨by omega, whole.trans ?_⟩
  conv =>
    lhs
    rw [Bytes.lengthAt, same, ← Bytes.lengthAt]

theorem entriesFrom_of_not_opens {rest : Bytes} (ends : ¬ Opens rest) (offset : Nat) :
    entriesFrom offset rest =
      if rest.length < 5 then []
      else [.error (.tooShort (offset + 5 + rest.lengthAt 3) (offset + rest.length))] := by
  rw [entriesFrom]
  split
  · rfl
  · next long => exact if_pos (Nat.not_le.mp fun whole => ends ⟨Nat.not_lt.mp long, whole⟩)

theorem longest_of_not_opens {row : List Bytes} {rest : Bytes} (entries : ∀ bytes ∈ row, IsEntry bytes)
    (ends : ¬ Opens rest) : Longest (row.flatten ++ rest) row rest := by
  refine ⟨rfl, entries, fun other others front => ?_⟩
  induction row generalizing other with
  | nil =>
    cases other with
    | nil => exact List.prefix_rfl
    | cons bytes later =>
      have first := (List.forall_mem_cons.mp others).1
      exact absurd (first.opens ((List.prefix_append ..).trans front)) ends
  | cons bytes later ih =>
    cases other with
    | nil => exact List.nil_prefix
    | cons another more =>
      obtain ⟨first, behind⟩ := List.forall_mem_cons.mp entries
      obtain ⟨too, between⟩ := List.forall_mem_cons.mp others
      rw [List.flatten_cons, List.flatten_cons, List.append_assoc] at front
      -- Both entries end where the loop says that the first one does.
      obtain ⟨left, spelled⟩ := front
      rw [List.append_assoc] at spelled
      have length : another.length = bytes.length := by
        rw [too.length_eq (more.flatten ++ left), first.length_eq (later.flatten ++ rest), spelled]
      obtain ⟨rfl, onward⟩ := List.append_inj spelled length
      exact List.cons_prefix_cons.mpr ⟨rfl, ih behind more between ⟨left, onward⟩⟩

theorem exists_row (loop : Bytes) :
    ∃ (row : List Bytes) (rest : Bytes),
      loop = row.flatten ++ rest ∧ (∀ bytes ∈ row, IsEntry bytes) ∧ ¬ Opens rest := by
  by_cases opens : Opens loop
  · obtain ⟨row, rest, spelled, entries, ends⟩ := exists_row (loop.drop (5 + loop.lengthAt 3))
    refine ⟨loop.take (5 + loop.lengthAt 3) :: row, rest, ?_,
      List.forall_mem_cons.mpr ⟨opens.isEntry_take, entries⟩, ends⟩
    rw [List.flatten_cons, List.append_assoc, ← spelled, List.take_append_drop]
  · exact ⟨[], loop, rfl, List.forall_mem_nil _, opens⟩
termination_by loop.length
decreasing_by
  have long := opens.1
  rw [List.length_drop]
  omega

theorem readEntry_toBytes (listing : Listing) :
    IsEntry listing.toBytes ∧ readEntry listing.toBytes = listing.entry := by
  have counted : listing.toBytes.lengthAt 3 = listing.descriptors.length := by
    show (Bytes.ofWord (0xF000 ||| UInt16.ofNat listing.descriptors.length) ++ listing.descriptors).lengthAt 0 = _
    have short := listing.descriptors_lt
    rw [Bytes.lengthAt_field, UInt16.toNat_ofNat']
    omega
  have length : listing.toBytes.length = 5 + listing.descriptors.length := by
    simp only [Listing.toBytes, Section.pidField, List.length_append, List.length_cons, Bytes.length_ofWord]
  have pid : listing.toBytes.pidAt 1 = listing.pid := by
    have kept := Bytes.pidAt_pidField listing.pid
      (Bytes.ofWord (0xF000 ||| UInt16.ofNat listing.descriptors.length) ++ listing.descriptors)
    exact kept.trans (UInt16.toNat.inj (Nat.mod_eq_of_lt listing.pid_lt))
  refine ⟨⟨by omega, by rw [length, counted]⟩, ?_⟩
  rw [readEntry, pid, Listing.entry]
  rfl

/--
A stream loop, whatever bytes it consists of, is read as its longest row of whole entries, which is the only one:
each gives its kind and packet identifier, in order. What is left behind it is one error if it has five bytes,
and nothing if it has fewer. So a loop that is written entry by entry, with any descriptors, gives these entries.
-/
theorem entries_exact (table : ProgramMap) :
    (∃ row rest, Longest table.streamLoop row rest ∧
      (∀ other left, Longest table.streamLoop other left → other = row ∧ left = rest) ∧
      table.entries = row.map (fun bytes => .ok (readEntry bytes)) ++
        if rest.length < 5 then []
        else [.error (.tooShort (row.flatten.length + 5 + rest.lengthAt 3) table.streamLoop.length)]) ∧
    ∀ listings : List Listing,
      { table with streamLoop := listings.flatMap Listing.toBytes }.entries =
        listings.map fun listing => .ok listing.entry := by
  constructor
  · obtain ⟨row, rest, spelled, isEntry, ends⟩ := exists_row table.streamLoop
    have longest := longest_of_not_opens isEntry ends
    rw [← spelled] at longest
    refine ⟨row, rest, longest, fun other left => longest.unique, ?_⟩
    rw [entries, spelled, entriesFrom_flatten isEntry, entriesFrom_of_not_opens ends, Nat.zero_add,
      List.length_append]
  · intro listings
    have isEntry : ∀ bytes ∈ listings.map Listing.toBytes, IsEntry bytes :=
      List.forall_mem_map.mpr fun listing _ => (readEntry_toBytes listing).1
    have read := entriesFrom_flatten isEntry [] 0
    have ends : entriesFrom (0 + (listings.map Listing.toBytes).flatten.length) [] = [] := by
      rw [entriesFrom, if_pos (by decide)]
    rw [ends, List.append_nil, List.append_nil, List.map_map] at read
    rw [entries, List.flatMap_def, read]
    exact List.map_congr_left fun listing _ => congrArg Except.ok (readEntry_toBytes listing).2

instance (bytes : Bytes) : Decidable (IsEntry bytes) :=
  inferInstanceAs (Decidable (_ ∧ _))

instance (loop : Bytes) : Decidable (Opens loop) :=
  inferInstanceAs (Decidable (_ ∧ _))

/-- An entry with two bytes of descriptors, one with none, and one whose descriptors are cut off. -/
def cutOffRow : List Bytes :=
  [[0x1B, 0xE1, 0x00, 0xF0, 0x02, 0xAA, 0xBB], [0x0F, 0xE1, 0x01, 0xF0, 0x00]]

def cutOffRest : Bytes :=
  [0x81, 0xE1, 0x02, 0xF0, 0x07, 0x01]

theorem entries_exact_cut_off :
    Longest (cutOffRow.flatten ++ cutOffRest) cutOffRow cutOffRest ∧
      entries ⟨1, 0, 0x1FFF, cutOffRow.flatten ++ cutOffRest⟩ =
        [.ok ⟨.h264, 0x100⟩, .ok ⟨.adtsAac, 0x101⟩, .error (.tooShort 24 18)] := by
  have longest : Longest (cutOffRow.flatten ++ cutOffRest) cutOffRow cutOffRest :=
    longest_of_not_opens (by decide) (by decide)
  obtain ⟨row, rest, -, unique, read⟩ := (entries_exact ⟨1, 0, 0x1FFF, cutOffRow.flatten ++ cutOffRest⟩).1
  obtain ⟨rfl, rfl⟩ := unique cutOffRow cutOffRest longest
  exact ⟨longest, read⟩

end ProgramMap

end Transport

end MpegRecorder
