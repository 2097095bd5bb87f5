import MpegRecorder.Bytes

/-!
Time stamps of 33 bits in 90 kHz ticks, spread over five bytes between marker bits.
-/

namespace MpegRecorder.Elementary.Timestamp

/-- The time in the first five bytes; marker bits are not looked at. -/
def read? : Bytes → Option Nat
  | a :: b :: c :: d :: e :: _ =>
    some ((a.toNat / 2 % 8) <<< 30 + b.toNat <<< 22 + (c.toNat / 2) <<< 15 + d.toNat <<< 7
      + e.toNat / 2)
  | _ => none

theorem read?_take {count : Nat} (enough : 5 ≤ count) (data : Bytes) :
    read? (data.take count) = read? data := by
  obtain ⟨more, rfl⟩ := Nat.exists_eq_add_of_le' enough
  match data with
  | [] | [_] | [_, _] | [_, _, _] | [_, _, _, _] => simp [read?]
  | _ :: _ :: _ :: _ :: _ :: _ => simp [read?]

theorem read?_append {data : Bytes} (enough : 5 ≤ data.length) (more : Bytes) :
    read? (data ++ more) = read? data := by
  rw [← read?_take (Nat.le_refl 5) (data ++ more), List.take_append_of_le_length enough,
    read?_take (Nat.le_refl 5)]

/-- The five bytes of a time behind a four bit lead. Higher bits of either are lost. -/
def write (lead : UInt8) (time : Nat) : Bytes :=
  [ UInt8.ofNat (lead.toNat * 16 + time >>> 30 % 8 * 2 + 1),
    UInt8.ofNat (time >>> 22),
    UInt8.ofNat (time >>> 15 % 128 * 2 + 1),
    UInt8.ofNat (time >>> 7),
    UInt8.ofNat (time % 128 * 2 + 1) ]

end MpegRecorder.Elementary.Timestamp
