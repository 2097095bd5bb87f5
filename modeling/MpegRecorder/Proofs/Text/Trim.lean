import Mathlib
import MpegRecorder.Text.Blank

/-!
Text without the blanks at its ends. Blanks that are put at either end of a text are left off again, and
case makes no difference to what is left off.
-/

namespace MpegRecorder.Text

variable {front back text : List Char}

theorem isBlank_of_visible {c : Char} (above : 0x20 < c.toNat) (below : c.toNat < 0x7F) :
    isBlank c = false := by
  simp only [isBlank, isWithin, blankRanges, List.any_cons, List.any_nil, Bool.or_eq_false_iff,
    Bool.and_eq_false_iff, decide_eq_false_iff_not, and_true]
  omega

theorem isBlank_of_isDigit {c : Char} (digit : c.isDigit = true) : isBlank c = false := by
  obtain ⟨least, most⟩ := Char.isDigit_iff_toNat.mp digit
  exact isBlank_of_visible (Nat.lt_of_lt_of_le (by decide) least) (Nat.lt_of_le_of_lt most (by decide))

theorem toNat_of_isUpper {c : Char} (upper : c.isUpper = true) : 65 ≤ c.toNat ∧ c.toNat ≤ 90 :=
  of_decide_eq_true upper

theorem toLower_of_isDigit {c : Char} (digit : c.isDigit = true) : c.toLower = c := by
  refine Char.toLower_eq_of_not_isUpper fun upper => ?_
  have most : c.toNat ≤ 57 := (Char.isDigit_iff_toNat.mp digit).2
  have beyond : 65 ≤ c.toNat := (toNat_of_isUpper upper).1
  omega

theorem isBlank_toLower (c : Char) : isBlank c.toLower = isBlank c := by
  by_cases upper : c.isUpper = true
  · obtain ⟨least, most⟩ := toNat_of_isUpper upper
    have lower : c.toLower.toNat = c.toNat + 32 := by
      rw [Char.toLower_eq_of_isUpper upper, Char.toNat_ofNat, if_pos (.inl (by omega))]
    rw [isBlank_of_visible (c := c) (by omega) (by omega)]
    exact isBlank_of_visible (by omega) (by omega)
  · rw [Char.toLower_eq_of_not_isUpper upper]

theorem trim_eq (text : List Char) : trim text = (text.dropWhile isBlank).rdropWhile isBlank := rfl

theorem dropWhile_of_filled (filled : front ≠ []) (visible : ∀ c ∈ front, isBlank c = false)
    (back : List Char) : (front ++ back).dropWhile isBlank = front ++ back := by
  cases front with
  | nil => exact absurd rfl filled
  | cons c rest =>
    exact List.dropWhile_cons_of_neg (by simp [visible c List.mem_cons_self])

theorem rdropWhile_append_of_blank (blank : ∀ c ∈ back, isBlank c = true) :
    (front ++ back).rdropWhile isBlank = front.rdropWhile isBlank := by
  rw [List.rdropWhile, List.reverse_append, List.dropWhile_append_of_pos (by simpa using blank),
    List.rdropWhile]

theorem rdropWhile_append_of_visible (visible : ∀ c ∈ front, isBlank c = false) :
    (front ++ back).rdropWhile isBlank = front ++ back.rdropWhile isBlank := by
  induction back using List.reverseRecOn with
  | nil =>
    rw [List.rdropWhile_nil, List.append_nil, List.rdropWhile_eq_self_iff]
    intro filled
    rw [visible _ (List.getLast_mem filled)]
    exact Bool.false_ne_true
  | append_singleton back c ih =>
    rw [← List.append_assoc, List.rdropWhile_concat, List.rdropWhile_concat]
    split
    · exact ih
    · rw [List.append_assoc]

theorem trim_append_of_blank (blank : ∀ c ∈ back, isBlank c = true) :
    trim (front ++ back) = trim front := by
  rw [trim_eq, trim_eq, List.dropWhile_append]
  split
  · next none =>
    rw [List.dropWhile_eq_nil_iff.mpr blank, List.isEmpty_iff.mp none]
  · exact rdropWhile_append_of_blank blank

theorem trim_blank_append (blank : ∀ c ∈ front, isBlank c = true) :
    trim (front ++ back) = trim back := by
  rw [trim_eq, trim_eq, List.dropWhile_append_of_pos blank]

theorem trim_rdropWhile (text : List Char) : trim (text.rdropWhile isBlank) = trim text := by
  have blank : ∀ c ∈ text.rtakeWhile isBlank, isBlank c = true := fun c => List.mem_rtakeWhile_imp
  rw [← trim_append_of_blank blank, List.rdropWhile_append_rtakeWhile]

theorem trim_of_filled_append (filled : front ≠ []) (visible : ∀ c ∈ front, isBlank c = false)
    (back : List Char) : trim (front ++ back) = front ++ back.rdropWhile isBlank := by
  rw [trim_eq, dropWhile_of_filled filled visible, rdropWhile_append_of_visible visible]

theorem trim_of_visible (visible : ∀ c ∈ text, isBlank c = false) : trim text = text := by
  cases text with
  | nil => rfl
  | cons c rest =>
    have same := trim_of_filled_append (List.cons_ne_nil c rest) visible []
    rwa [List.rdropWhile_nil, List.append_nil] at same

theorem map_toLower_rdropWhile (text : List Char) :
    (text.rdropWhile isBlank).map Char.toLower = (text.map Char.toLower).rdropWhile isBlank := by
  have same : isBlank ∘ Char.toLower = isBlank := funext isBlank_toLower
  rw [List.rdropWhile, List.rdropWhile, ← List.map_reverse, List.dropWhile_map, same,
    List.map_reverse]

end MpegRecorder.Text
