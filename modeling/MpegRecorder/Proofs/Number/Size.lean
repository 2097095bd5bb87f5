import MpegRecorder.Number.Size
import MpegRecorder.Proofs.Text.Trim

/-!
Sizes that are written as whole numbers. One whose digits fit into 64 bits is taken exactly, with whatever
unit and blanks it is written, or refused when the unit takes it out of range; one whose digits do not fit
becomes the largest size, since rounding to 53 bits never goes below a power of two that was reached.
-/

namespace MpegRecorder.Number

theorem div_le_nearest (numerator denominator : Nat) :
    numerator / denominator ≤ nearest numerator denominator := by
  unfold nearest
  dsimp only
  split
  · exact Nat.le_refl _
  · split <;> omega

namespace Binary

theorem log2_estimate {number : Nat} (filled : number ≠ 0) :
    (number <<< precision / 1 <<< number.log2).log2 = precision := by
  have reached : 2 ^ number.log2 ≤ number := Nat.log2_self_le filled
  have short : number < 2 ^ (number.log2 + 1) := Nat.lt_log2_self
  have positive : 0 < 2 ^ number.log2 := Nat.two_pow_pos _
  rw [Nat.shiftLeft_eq, Nat.shiftLeft_eq, Nat.one_mul]
  have least : 2 ^ precision ≤ number * 2 ^ precision / 2 ^ number.log2 := by
    rw [Nat.le_div_iff_mul_le positive, Nat.mul_comm]
    exact Nat.mul_le_mul_right _ reached
  refine (Nat.log2_eq_iff (Nat.ne_of_gt (Nat.lt_of_lt_of_le (Nat.two_pow_pos _) least))).mpr
    ⟨least, ?_⟩
  rw [Nat.div_lt_iff_lt_mul positive]
  calc
    number * 2 ^ precision < 2 ^ (number.log2 + 1) * 2 ^ precision :=
      Nat.mul_lt_mul_of_pos_right short (Nat.two_pow_pos _)
    _ = 2 ^ (precision + 1) * 2 ^ number.log2 := by
      rw [← Nat.pow_add, ← Nat.pow_add]
      congr 1
      omega

/-- A whole number is not rounded below the power of two that it reaches. -/
theorem two_pow_log2_le_floor {number : Nat} (filled : number ≠ 0) (factor : Nat) :
    2 ^ number.log2 * factor ≤ ((ofQuotient number 1).scale factor).floor := by
  have reached : 2 ^ number.log2 ≤ number := Nat.log2_self_le filled
  -- The 53 bits that are kept begin with the one that the number reaches.
  have whole : 2 ^ 52 ≤ nearest (number <<< precision) (1 <<< (number.log2 + 1)) := by
    refine Nat.le_trans ?_ (div_le_nearest ..)
    rw [Nat.shiftLeft_eq, Nat.shiftLeft_eq, Nat.one_mul, Nat.le_div_iff_mul_le (Nat.two_pow_pos _)]
    calc
      2 ^ 52 * 2 ^ (number.log2 + 1) = 2 ^ number.log2 * 2 ^ precision := by
        rw [← Nat.pow_add, ← Nat.pow_add, precision]
        congr 1
        omega
      _ ≤ number * 2 ^ precision := Nat.mul_le_mul_right _ reached
  have one : (1 : Nat).log2 = 0 := by decide
  rw [ofQuotient, if_neg filled]
  simp only [one, Nat.add_zero, log2_estimate filled, Nat.add_sub_cancel_left]
  split
  · next inside =>
    show _ ≤ nearest _ _ * factor / 1 <<< (precision - (number.log2 + 1))
    rw [Nat.shiftLeft_eq _ (precision - _), Nat.one_mul, Nat.le_div_iff_mul_le (Nat.two_pow_pos _),
      Nat.mul_right_comm, ← Nat.pow_add]
    refine Nat.mul_le_mul_right _ ?_
    have exponent : number.log2 + (precision - (number.log2 + 1)) = 52 := by
      rw [precision] at inside ⊢
      omega
    rwa [exponent]
  · next beyond =>
    show _ ≤ nearest _ _ <<< (number.log2 + 1 - precision) * factor / 1
    rw [Nat.div_one, Nat.shiftLeft_eq _ (_ - precision)]
    refine Nat.mul_le_mul_right _ ?_
    have exponent : number.log2 = 52 + (number.log2 + 1 - precision) := by
      rw [precision] at beyond ⊢
      omega
    calc
      2 ^ number.log2 = 2 ^ 52 * 2 ^ (number.log2 + 1 - precision) := by
        rw [← Nat.pow_add, ← exponent]
      _ ≤ _ := Nat.mul_le_mul_right _ whole

end Binary

namespace Size

def units : List (String × Nat) :=
  [ ("", 1), ("b", 1),
    ("k", 1024), ("kb", 1024), ("kib", 1024),
    ("m", 1048576), ("mb", 1048576), ("mib", 1048576),
    ("g", 1073741824), ("gb", 1073741824), ("gib", 1073741824) ]

theorem multiplier?_eq_some_iff {unit : String} {multiplier : Nat} :
    multiplier? unit = some multiplier ↔ (unit, multiplier) ∈ units := by
  constructor
  · intro known
    unfold multiplier? at known
    split_ifs at known with one thousand million billion
    · rcases one with rfl | rfl <;> cases known <;> decide
    · rcases thousand with rfl | rfl | rfl <;> cases known <;> decide
    · rcases million with rfl | rfl | rfl <;> cases known <;> decide
    · rcases billion with rfl | rfl | rfl <;> cases known <;> decide
  · have all : ∀ entry ∈ units, multiplier? entry.1 = some entry.2 := by decide
    exact all (unit, multiplier)

theorem letters_of_mem : ∀ entry ∈ units, ∀ c ∈ entry.1.toList,
    isNumeral c = false ∧ Text.isBlank c = false := by
  have all : ∀ entry ∈ units,
      entry.1.toList.all (fun c => !isNumeral c && !Text.isBlank c) = true := by decide
  intro entry member c letter
  simpa using List.all_eq_true.mp (all entry member) c letter

theorem positive_of_mem : ∀ entry ∈ units, 0 < entry.2 := by
  decide

theorem digitsValue_eq (digits : List Char) : digitsValue digits = Nat.ofDigitChars 10 digits 0 := by
  simp only [digitsValue, Nat.ofDigitChars_eq_foldl, Nat.mul_comm]

theorem isNumeral_of_isBlank {c : Char} (blank : Text.isBlank c = true) : isNumeral c = false := by
  rw [isNumeral, Bool.or_eq_false_iff]
  constructor
  · refine Bool.eq_false_iff.mpr fun digit => ?_
    rw [Text.isBlank_of_isDigit digit] at blank
    cases blank
  · refine decide_eq_false ?_
    rintro rfl
    revert blank
    decide

/-- A whole number in decimal digits, with a unit behind it in letters of either case. -/
structure Whole where
  /-- The blanks before the number. -/
  before : List Char
  digits : List Char
  /-- The blanks between the number and its unit. -/
  gap : List Char
  /-- The unit as it is written. -/
  letters : List Char
  /-- The blanks behind the unit. -/
  after : List Char
  unit : String
  multiplier : Nat
  digits_ne_nil : digits ≠ []
  isDigit : ∀ c ∈ digits, c.isDigit = true
  isBlank : ∀ c ∈ before ++ gap ++ after, Text.isBlank c = true
  known : (unit, multiplier) ∈ units
  spelled : letters.map Char.toLower = unit.toList

namespace Whole

variable (size : Whole)

def written : List Char :=
  size.before ++ size.digits ++ size.gap ++ size.letters ++ size.after

def number : Nat :=
  Nat.ofDigitChars 10 size.digits 0

/-- What is left behind the number once blanks at the end are gone, in lower case. -/
def tail : List Char :=
  ((size.gap ++ size.letters ++ size.after).rdropWhile Text.isBlank).map Char.toLower

theorem isBlank_of_mem {c : Char} (between : c ∈ size.gap ∨ c ∈ size.after) :
    Text.isBlank c = true := by
  refine size.isBlank c ?_
  rcases between with gap | after
  · exact List.mem_append_left _ (List.mem_append_right _ gap)
  · exact List.mem_append_right _ after

theorem lowered_eq : (Text.trim size.written).map Char.toLower = size.digits ++ size.tail := by
  have before : ∀ c ∈ size.before, Text.isBlank c = true := fun c member =>
    size.isBlank c (List.mem_append_left _ (List.mem_append_left _ member))
  have visible : ∀ c ∈ size.digits, Text.isBlank c = false := fun c member =>
    Text.isBlank_of_isDigit (size.isDigit c member)
  have plain : size.digits.map Char.toLower = size.digits :=
    (List.map_congr_left fun c member => Text.toLower_of_isDigit (size.isDigit c member)).trans
      (List.map_id _)
  have parted : size.written = size.before ++ (size.digits ++ (size.gap ++ size.letters ++ size.after)) := by
    simp only [written, List.append_assoc]
  rw [parted, Text.trim_blank_append before, Text.trim_of_filled_append size.digits_ne_nil visible,
    List.map_append, plain, tail]

theorem isNumeral_of_mem_tail : ∀ c ∈ size.tail, isNumeral c = false := by
  intro c member
  obtain ⟨written, there, rfl⟩ := List.mem_map.mp member
  have behind := (List.rdropWhile_prefix _ _).subset there
  simp only [List.mem_append] at behind
  rcases behind with (gap | letter) | after
  · exact isNumeral_of_isBlank ((Text.isBlank_toLower _).trans (size.isBlank_of_mem (.inl gap)))
  · have lower : written.toLower ∈ size.unit.toList := size.spelled ▸ List.mem_map_of_mem letter
    exact (letters_of_mem _ size.known _ lower).1
  · exact isNumeral_of_isBlank ((Text.isBlank_toLower _).trans (size.isBlank_of_mem (.inr after)))

theorem trim_tail : Text.trim size.tail = size.unit.toList := by
  have lowered (between : List Char) (blank : ∀ c ∈ between, c ∈ size.gap ∨ c ∈ size.after) :
      ∀ c ∈ between.map Char.toLower, Text.isBlank c = true := by
    intro c member
    obtain ⟨written, there, rfl⟩ := List.mem_map.mp member
    rw [Text.isBlank_toLower]
    exact size.isBlank_of_mem (blank written there)
  rw [tail, Text.map_toLower_rdropWhile, Text.trim_rdropWhile, List.map_append, List.map_append,
    Text.trim_append_of_blank (lowered size.after fun _ => .inr),
    Text.trim_blank_append (lowered size.gap fun _ => .inl), size.spelled]
  exact Text.trim_of_visible fun c letter => (letters_of_mem _ size.known c letter).2

theorem isNumeral_of_mem_digits : ∀ c ∈ size.digits, isNumeral c = true := by
  intro c member
  rw [isNumeral, size.isDigit c member, Bool.true_or]

theorem takeWhile_lowered : (size.digits ++ size.tail).takeWhile isNumeral = size.digits := by
  have none : size.tail.takeWhile isNumeral = [] := List.takeWhile_eq_nil_iff.mpr fun filled => by
    rw [size.isNumeral_of_mem_tail _ (List.get_mem ..)]
    exact Bool.false_ne_true
  rw [List.takeWhile_append_of_pos size.isNumeral_of_mem_digits, none, List.append_nil]

theorem dropWhile_lowered : (size.digits ++ size.tail).dropWhile isNumeral = size.tail := by
  rw [List.dropWhile_append_of_pos size.isNumeral_of_mem_digits, List.dropWhile_eq_self_iff]
  intro filled
  rw [size.isNumeral_of_mem_tail _ (List.getElem_mem _)]
  exact Bool.false_ne_true

theorem whole?_digits : whole? size.digits = some size.number := by
  have all : size.digits.all Char.isDigit = true := List.all_eq_true.mpr size.isDigit
  rw [whole?, if_pos ⟨size.digits_ne_nil, all⟩, digitsValue_eq, number]

theorem decimal?_digits : decimal? size.digits = some (size.number, 0) := by
  have plain : ∀ c ∈ size.digits, decide (c ≠ '.') = true := by
    intro c member
    refine decide_eq_true ?_
    rintro rfl
    exact absurd (size.isDigit _ member) (by decide)
  rw [decimal?, List.takeWhile_eq_self_iff.mpr plain, List.dropWhile_eq_nil_iff.mpr plain]
  simp [size.whole?_digits]

end Whole

theorem saturates {number multiplier : Nat} (beyond : 2 ^ 64 ≤ number) (positive : 0 < multiplier) :
    2 ^ 64 - 1 ≤ ((Binary.ofQuotient number 1).scale multiplier).floor := by
  have filled : number ≠ 0 := by omega
  calc
    2 ^ 64 - 1 ≤ 2 ^ 64 * 1 := by decide
    _ ≤ 2 ^ number.log2 * multiplier :=
      Nat.mul_le_mul (Nat.pow_le_pow_right (by decide) ((Nat.le_log2 filled).mpr beyond)) positive
    _ ≤ _ := Binary.two_pow_log2_le_floor filled multiplier

/--
A whole number is taken exactly with its unit, or refused as out of range, as long as its digits alone
fit into 64 bits. One that does not fit is read as if it had a fraction, and becomes the largest size.
-/
theorem parse_whole (size : Whole) :
    parse (String.ofList size.written) =
      if size.number * size.multiplier < 2 ^ 64 then .ok (size.number * size.multiplier)
      else if size.number < 2 ^ 64 then
        .error (.outOfRange (String.ofList ((Text.trim size.written).map Char.toLower)))
      else .ok (2 ^ 64 - 1) := by
  have filled : size.digits ++ size.tail ≠ [] := by simp [size.digits_ne_nil]
  have unit : multiplier? size.unit = some size.multiplier := multiplier?_eq_some_iff.mpr size.known
  have positive : 0 < size.multiplier := positive_of_mem _ size.known
  rw [parse, String.toList_ofList, size.lowered_eq]
  dsimp only
  rw [if_neg filled, size.takeWhile_lowered, size.dropWhile_lowered, size.trim_tail,
    String.ofList_toList, unit]
  dsimp only
  rw [size.whole?_digits]
  have limit : bound = 2 ^ 64 := rfl
  rw [Option.filter_some, limit]
  by_cases inside : size.number < 2 ^ 64
  · rw [if_pos (decide_eq_true inside), if_pos inside]
  · have beyond : ¬ size.number * size.multiplier < 2 ^ 64 := by
      have more := Nat.le_mul_of_pos_right size.number positive
      omega
    rw [if_neg (by simpa using inside), size.decimal?_digits, if_neg beyond, if_neg inside]
    exact congrArg Except.ok (Nat.min_eq_right (saturates (Nat.le_of_not_lt inside) positive))

theorem parse_whole_spaced : parse " 4 KiB\n" = .ok 4096 := by
  have size : parse (String.ofList [' ', '4', ' ', 'K', 'i', 'B', '\n']) = _ :=
    parse_whole
      { before := [' ']
        digits := ['4']
        gap := [' ']
        letters := ['K', 'i', 'B']
        after := ['\n']
        unit := "kib"
        multiplier := 1024
        digits_ne_nil := List.cons_ne_nil _ _
        isDigit := List.all_eq_true.mp (by decide)
        isBlank := List.all_eq_true.mp (by decide)
        known := by decide
        spelled := by decide }
  exact size.trans (if_pos (by decide))

/-- The least number that does not fit into 64 bits is taken for the number before it. -/
theorem parse_saturated :
    Nat.ofDigitChars 10 "18446744073709551616".toList 0 = 2 ^ 64 ∧
      parse "18446744073709551616" = .ok (2 ^ 64 - 1) := by
  decide

end Size
end MpegRecorder.Number
