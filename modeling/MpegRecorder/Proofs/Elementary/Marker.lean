import Mathlib.Data.Nat.Find
import MpegRecorder.Elementary.Marker

/-!
Where the search for a pattern ends. It comes to an occurrence only if no occurrence that it came to before
reaches over its start, and it gives the first of these that is taken. The start code of an MPEG-2 picture
ends with the byte that it begins with, so that two of them can overlap. The second one is then not looked at,
and the search misses the first marker of an intra picture exactly when that one begins inside of a start code
that the search came to.
-/

namespace MpegRecorder

namespace Bytes

/-- A search comes to the pattern here: it stands here, and none that the search came to before reaches over it. -/
def Reached (pattern view : Bytes) (place : Nat) : Prop :=
  pattern <+: view.drop place ∧
    ∀ earlier, earlier < place → Reached pattern view earlier → earlier + pattern.length ≤ place
termination_by place

def First (holds : Nat → Prop) : Option Nat → Prop
  | some place => holds place ∧ ∀ earlier, earlier < place → ¬ holds earlier
  | none => ∀ place, ¬ holds place

namespace First

variable {holds : Nat → Prop} {found other : Option Nat}

theorem unique (first : First holds found) (again : First holds other) : found = other := by
  match found, other, first, again with
  | none, none, _, _ => rfl
  | some place, none, ⟨here, _⟩, nowhere => exact absurd here (nowhere place)
  | none, some place, nowhere, ⟨here, _⟩ => exact absurd here (nowhere place)
  | some place, some rival, ⟨here, least⟩, ⟨there, lowest⟩ =>
    rcases Nat.lt_trichotomy place rival with before | same | behind
    · exact absurd here (lowest place before)
    · rw [same]
    · exact absurd there (least rival behind)

theorem eq_iff (first : First holds found) : found = other ↔ First holds other :=
  ⟨fun same => same ▸ first, first.unique⟩

theorem exists_of_holds {place : Nat} (here : holds place) : ∃ least, First holds (some least) := by
  classical
  have some : ∃ place, holds place := ⟨place, here⟩
  exact ⟨Nat.find some, Nat.find_spec some, fun _ before => Nat.find_min some before⟩

theorem of_succ {offset : Nat} (missed : ¬ holds offset)
    (first : First (fun place => offset + 1 ≤ place ∧ holds place) found) :
    First (fun place => offset ≤ place ∧ holds place) found := by
  have same : (fun place => offset + 1 ≤ place ∧ holds place) =
      fun place => offset ≤ place ∧ holds place := by
    funext place
    refine propext ⟨And.imp_left Nat.le_of_lt, fun ⟨behind, here⟩ => ?_⟩
    rcases Nat.lt_or_eq_of_le behind with after | rfl
    · exact ⟨after, here⟩
    · exact absurd here missed
  exact same ▸ first

end First

/-- How a search stands at an offset from which on `pending` bytes are to be passed over. -/
structure Searching (pattern whole : Bytes) (pending offset : Nat) : Prop where
  behind : ∀ place, place < offset → Reached pattern whole place →
    place + pattern.length ≤ offset + pending
  passed : ∀ count, count < pending → ¬ Reached pattern whole (offset + count)

namespace Searching

variable {pattern whole : Bytes} {pending offset : Nat}

theorem start (pattern whole : Bytes) : Searching pattern whole 0 0 :=
  ⟨nofun, nofun⟩

theorem reached (searching : Searching pattern whole 0 offset) (stands : pattern <+: whole.drop offset) :
    Reached pattern whole offset := by
  rw [Reached]
  exact ⟨stands, searching.behind⟩

theorem skip {left : Nat} (searching : Searching pattern whole pending offset)
    (missed : ¬ Reached pattern whole offset) (less : pending = left ∨ pending = left + 1)
    (passed : ∀ count, count < left → ¬ Reached pattern whole (offset + 1 + count)) :
    Searching pattern whole left (offset + 1) := by
  refine ⟨fun place before comes => ?_, passed⟩
  rcases Nat.lt_or_eq_of_le (Nat.le_of_lt_succ before) with earlier | rfl
  · have reach := searching.behind place earlier comes
    omega
  · exact absurd comes missed

theorem pass (searching : Searching pattern whole (pending + 1) offset) :
    Searching pattern whole pending (offset + 1) := by
  refine searching.skip (searching.passed 0 (Nat.succ_pos _)) (.inr rfl) fun count within => ?_
  rw [Nat.add_assoc, Nat.add_comm 1]
  exact searching.passed (count + 1) (Nat.succ_lt_succ within)

theorem miss (searching : Searching pattern whole 0 offset) (absent : ¬ pattern <+: whole.drop offset) :
    Searching pattern whole 0 (offset + 1) := by
  refine searching.skip ?_ (.inl rfl) nofun
  rw [Reached]
  exact fun comes => absent comes.1

theorem refuse (searching : Searching pattern whole 0 offset) (solid : pattern ≠ [])
    (stands : pattern <+: whole.drop offset) :
    Searching pattern whole (pattern.length - 1) (offset + 1) := by
  have long := List.length_pos_iff.mpr solid
  refine ⟨fun place before comes => ?_, fun count within comes => ?_⟩
  · rcases Nat.lt_or_eq_of_le (Nat.le_of_lt_succ before) with earlier | rfl
    · have reach := searching.behind place earlier comes
      omega
    · omega
  · rw [Reached] at comes
    have reach := comes.2 offset (by omega) (searching.reached stands)
    omega

end Searching

section Search

variable {pattern : Bytes} {accept : Bytes → Bool}

theorem searchFrom_first (solid : pattern ≠ []) {whole : Bytes} {pending offset : Nat} {view : Bytes}
    (here : whole.drop offset = view) (searching : Searching pattern whole pending offset) :
    First (fun place => offset ≤ place ∧ Reached pattern whole place ∧ accept (whole.drop place))
      (searchFrom pattern accept pending offset view) := by
  have next {offset : Nat} {byte : UInt8} {rest : Bytes} (here : whole.drop offset = byte :: rest) :
      whole.drop (offset + 1) = rest := by
    rw [← List.drop_drop, here, List.drop_one, List.tail_cons]
  fun_induction searchFrom pattern accept pending offset view with
  | case1 pending offset =>
    rintro place ⟨behind, comes, -⟩
    rw [Reached, List.drop_eq_nil_of_le (Nat.le_trans (List.drop_eq_nil_iff.mp here) behind)] at comes
    exact solid (List.prefix_nil.mp comes.1)
  | case2 offset byte rest pending ih =>
    have missed := searching.passed 0 (Nat.succ_pos _)
    exact .of_succ (fun taken => missed taken.1) (ih (next here) searching.pass)
  | case3 offset byte rest stands taken =>
    have comes := searching.reached (here ▸ List.isPrefixOf_iff_prefix.mp stands)
    refine ⟨⟨Nat.le_refl _, comes, here ▸ taken⟩, fun earlier before taken => ?_⟩
    exact Nat.not_le_of_lt before taken.1
  | case4 offset byte rest stands refused ih =>
    have prefixed : pattern <+: whole.drop offset := here ▸ List.isPrefixOf_iff_prefix.mp stands
    exact .of_succ (fun taken => refused (here ▸ taken.2)) (ih (next here) (searching.refuse solid prefixed))
  | case5 offset byte rest absent ih =>
    have absent : ¬ pattern <+: whole.drop offset :=
      fun stands => absent (List.isPrefixOf_iff_prefix.mpr (here ▸ stands))
    refine .of_succ (fun taken => ?_) (ih (next here) (searching.miss absent))
    rw [Reached] at taken
    exact absent taken.1.1

theorem findWhere_first (solid : pattern ≠ []) (view : Bytes) :
    First (fun place => Reached pattern view place ∧ accept (view.drop place))
      (view.findWhere pattern accept) := by
  have found : First (fun place => 0 ≤ place ∧ Reached pattern view place ∧ accept (view.drop place))
      (view.findWhere pattern accept) :=
    searchFrom_first solid List.drop_zero (.start pattern view)
  simpa only [Nat.zero_le, true_and] using found

end Search

end Bytes

namespace Elementary

open Bytes

/-- The marker of an intra picture: its start code, and behind it the type of an intra picture. -/
def IntraAt (view : Bytes) (place : Nat) : Prop :=
  (view.drop place).take 4 = [0x00, 0x00, 0x01, 0x00] ∧
    ∃ byte, view[place + 5]? = some byte ∧ byte &&& 0x38 = 0x08

variable {view : Bytes} {place : Nat}

theorem isIntraPicture_drop :
    isIntraPicture (view.drop place) = true ↔
      ∃ byte, view[place + 5]? = some byte ∧ byte &&& 0x38 = 0x08 := by
  unfold isIntraPicture
  rw [List.getElem?_drop]
  cases view[place + 5]? with
  | none => simp
  | some byte => simp

theorem intraAt_iff :
    IntraAt view place ↔
      pictureStart <+: view.drop place ∧ isIntraPicture (view.drop place) = true := by
  rw [IntraAt, isIntraPicture_drop, List.prefix_iff_eq_take]
  exact and_congr_left' eq_comm

/-- Start codes of pictures overlap in one byte or not at all. -/
theorem reached_pictureStart :
    Reached pictureStart view place ↔
      pictureStart <+: view.drop place ∧
        ∀ earlier, earlier + 3 = place → ¬ Reached pictureStart view earlier := by
  constructor
  · intro comes
    rw [Reached] at comes
    refine ⟨comes.1, fun earlier overlaps before => ?_⟩
    have reach := comes.2 earlier (by omega) before
    simp only [pictureStart, List.length_cons, List.length_nil] at reach
    omega
  · rintro ⟨stands, apart⟩
    rw [Reached]
    refine ⟨stands, fun earlier before comes => ?_⟩
    by_contra near
    simp only [pictureStart, List.length_cons, List.length_nil] at near
    rw [Reached] at comes
    obtain ⟨rest, here⟩ := stands
    obtain ⟨more, there⟩ := comes.1
    have close : place = earlier + 1 ∨ place = earlier + 2 ∨ earlier + 3 = place := by omega
    rcases close with rfl | rfl | overlaps
    · rw [← List.drop_drop, ← there] at here
      simp [pictureStart] at here
    · rw [← List.drop_drop, ← there] at here
      simp [pictureStart] at here
    · refine apart earlier overlaps ?_
      rw [Reached]
      exact comes

theorem findIntra_first (view : Bytes) :
    First (fun place => IntraAt view place ∧ Reached pictureStart view place)
      (Family.mpeg2.findIntra view) := by
  have same : (fun place => IntraAt view place ∧ Reached pictureStart view place) =
      fun place => Reached pictureStart view place ∧ isIntraPicture (view.drop place) := by
    funext place
    rw [intraAt_iff]
    refine propext ⟨fun ⟨marker, comes⟩ => ⟨comes, marker.2⟩, fun ⟨comes, intra⟩ => ?_⟩
    exact ⟨⟨(reached_pictureStart.mp comes).1, intra⟩, comes⟩
  rw [same]
  exact findWhere_first (by decide) view

/--
The search gives the first marker among those that do not begin inside of a start code that it came to, and none
only if there is none of these. It gives the first marker of all, and none only if there is none at all, exactly
when the first one does not begin inside of a start code that the search came to.
-/
theorem findIntra_exact (view : Bytes) :
    (∀ place, Family.mpeg2.findIntra view = some place ↔
      (IntraAt view place ∧ Reached pictureStart view place) ∧
        ∀ earlier, earlier < place → ¬ (IntraAt view earlier ∧ Reached pictureStart view earlier)) ∧
    (Family.mpeg2.findIntra view = none ↔
      ∀ place, ¬ (IntraAt view place ∧ Reached pictureStart view place)) ∧
    (First (IntraAt view) (Family.mpeg2.findIntra view) ↔
      ∀ place, First (IntraAt view) (some place) →
        ∀ earlier, earlier + 3 = place → ¬ Reached pictureStart view earlier) := by
  have found := findIntra_first view
  refine ⟨fun place => found.eq_iff, found.eq_iff, fun first place least => ?_, fun apart => ?_⟩
  · rw [first.unique least] at found
    exact (reached_pictureStart.mp found.1.2).2
  · by_cases any : ∃ place, IntraAt view place
    · obtain ⟨place, here⟩ := any
      obtain ⟨least, first⟩ := First.exists_of_holds here
      have comes : Reached pictureStart view least :=
        reached_pictureStart.mpr ⟨(intraAt_iff.mp first.1).1, apart least first⟩
      have same : Family.mpeg2.findIntra view = some least :=
        found.unique ⟨⟨first.1, comes⟩, fun earlier before marker => first.2 earlier before marker.1⟩
      rw [same]
      exact first
    · have nowhere := not_exists.mp any
      have same : Family.mpeg2.findIntra view = none :=
        found.unique fun place marker => nowhere place marker.1
      rw [same]
      exact nowhere

/-- A predicted picture is followed by an intra picture whose start code begins with the last byte of its own. -/
theorem intra_passed_over :
    IntraAt [0x00, 0x00, 0x01, 0x00, 0x00, 0x01, 0x00, 0x00, 0x0F] 3 ∧
      Family.mpeg2.findIntra [0x00, 0x00, 0x01, 0x00, 0x00, 0x01, 0x00, 0x00, 0x0F] = none := by
  exact ⟨⟨rfl, 0x0F, rfl, rfl⟩, rfl⟩

end Elementary

end MpegRecorder
