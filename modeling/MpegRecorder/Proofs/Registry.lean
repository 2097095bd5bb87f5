import Mathlib.Data.List.Pairwise
import MpegRecorder.Registry

/-!
The entries of the registry, at most one for a path, however that is spelled. To enter, to move or to
remove the entry of one path leaves those of all other paths as they are, so a recording that moves no
entry but its own meets another's only where it arrives.
-/

namespace MpegRecorder

open Storage

theorem Storage.Path.same_trans {first second third : String} (start : Path.same first second = true)
    (rest : Path.same second third = true) : Path.same first third = true := by
  simp only [Path.same, beq_iff_eq] at *
  exact start.trans rest

namespace Registry

def Apart (first second : String × Nat) : Prop :=
  Path.same first.1 second.1 = false

instance : Std.Symm Apart :=
  ⟨fun first second apart => (Path.same_comm second.1 first.1).trans apart⟩

def Distinct (registry : Registry) : Prop :=
  registry.entries.Pairwise Apart

def Locates (registry : Registry) (recording : Nat) (path : String) : Prop :=
  ∀ entry ∈ registry.entries, entry.2 = recording → Path.same entry.1 path = true

def Lists (registry : Registry) (recording : Nat) : Prop :=
  ∃ entry ∈ registry.entries, entry.2 = recording

/--
What a recording that is at `path` afterwards did to the entries of others: it added none, and removed
none but those for `path`, if it arrived there.
-/
structure Spares (recording : Nat) (path : String) (arrived : Prop) (before after : Registry) :
    Prop where
  kept : ∀ entry ∈ before.entries, entry.2 ≠ recording →
    entry ∈ after.entries ∨ arrived ∧ Path.same entry.1 path = true
  only : ∀ entry ∈ after.entries, entry.2 ≠ recording → entry ∈ before.entries

variable {registry : Registry} {entry : String × Nat} {path : String} {recording : Nat}

theorem Spares.refl (registry : Registry) (recording : Nat) (path : String) (arrived : Prop) :
    Spares recording path arrived registry registry :=
  ⟨fun _ member _ => .inl member, fun _ member _ => member⟩

theorem Spares.trans {first second third : Registry} {arrived : Prop}
    (start : Spares recording path arrived first second)
    (rest : Spares recording path arrived second third) :
    Spares recording path arrived first third where
  kept entry member other := by
    rcases start.kept entry member other with still | lost
    · exact rest.kept entry still other
    · exact .inr lost
  only entry member other := start.only entry (rest.only entry member other) other

section Lookup

theorem get?_eq_none_iff :
    registry.get? path = none ↔ ∀ entry ∈ registry.entries, Path.same entry.1 path = false := by
  simp [get?]

theorem exists_of_get? (found : registry.get? path = some recording) :
    ∃ spelling, (spelling, recording) ∈ registry.entries ∧ Path.same spelling path = true := by
  obtain ⟨⟨spelling, number⟩, first, rfl⟩ := Option.map_eq_some_iff.mp found
  have here := List.find?_some first
  exact ⟨spelling, List.mem_of_find?_eq_some first, here⟩

theorem Distinct.get?_eq (distinct : registry.Distinct) (member : entry ∈ registry.entries)
    (here : Path.same entry.1 path = true) : registry.get? path = some entry.2 := by
  cases found : registry.get? path with
  | none =>
    rw [get?_eq_none_iff.mp found entry member] at here
    cases here
  | some number =>
    obtain ⟨spelling, also, there⟩ := exists_of_get? found
    rw [Path.same_comm] at there
    by_cases same : entry = (spelling, number)
    · rw [same]
    · have apart : Path.same entry.1 spelling = false := distinct.forall member also same
      rw [Path.same_trans here there] at apart
      cases apart

end Lookup

section Erase

theorem mem_erase :
    entry ∈ (registry.erase path).entries ↔
      entry ∈ registry.entries ∧ Path.same entry.1 path = false := by
  simp [erase]

theorem Distinct.erase (distinct : registry.Distinct) (path : String) :
    (registry.erase path).Distinct :=
  List.Pairwise.filter _ distinct

theorem Distinct.unregister (distinct : registry.Distinct) (path : String) (recording : Nat) :
    (registry.unregister path recording).Distinct := by
  unfold Registry.unregister
  split
  · exact distinct.erase path
  · exact distinct

theorem mem_of_mem_unregister (member : entry ∈ (registry.unregister path recording).entries) :
    entry ∈ registry.entries := by
  unfold unregister at member
  split at member
  · exact (mem_erase.mp member).1
  · exact member

theorem Distinct.spares_erase (distinct : registry.Distinct)
    (own : registry.get? path = some recording) (target : String) (arrived : Prop) :
    Spares recording target arrived registry (registry.erase path) where
  kept entry member other := by
    refine .inl (mem_erase.mpr ⟨member, Bool.eq_false_iff.mpr fun here => other ?_⟩)
    rw [distinct.get?_eq member here] at own
    exact Option.some.inj own
  only _ member _ := (mem_erase.mp member).1

theorem Distinct.spares_unregister (distinct : registry.Distinct) (path : String) (recording : Nat)
    (target : String) (arrived : Prop) :
    Spares recording target arrived registry (registry.unregister path recording) := by
  unfold Registry.unregister
  split
  · next owns => exact distinct.spares_erase (eq_of_beq owns) target arrived
  · exact .refl ..

theorem Distinct.ne_of_mem_unregister (distinct : registry.Distinct)
    (locates : registry.Locates recording path)
    (member : entry ∈ (registry.unregister path recording).entries) : entry.2 ≠ recording := by
  rintro rfl
  have before := mem_of_mem_unregister member
  have here := locates entry before rfl
  have owns : registry.owns path entry.2 = true := by
    rw [Registry.owns, distinct.get?_eq before here, beq_self_eq_true]
  rw [Registry.unregister, if_pos owns, mem_erase, here] at member
  cases member.2

end Erase

section Register

theorem mem_register_of_elsewhere (member : entry ∈ registry.entries)
    (elsewhere : Path.same entry.1 path = false) :
    entry ∈ (registry.register path recording).entries := by
  unfold register
  split
  · refine List.mem_map.mpr ⟨entry, member, ?_⟩
    rw [elsewhere, if_neg Bool.false_ne_true]
  · exact List.mem_append_left _ member

theorem of_mem_register (member : entry ∈ (registry.register path recording).entries) :
    entry ∈ registry.entries ∧ Path.same entry.1 path = false ∨
      entry.2 = recording ∧ Path.same entry.1 path = true := by
  unfold register at member
  split at member
  · obtain ⟨before, there, rfl⟩ := List.mem_map.mp member
    cases here : Path.same before.1 path with
    | false => exact .inl ⟨there, here⟩
    | true => exact .inr ⟨rfl, here⟩
  · next free =>
    rw [Bool.not_eq_true, Option.isSome_eq_false_iff, Option.isNone_iff_eq_none,
      get?_eq_none_iff] at free
    rcases List.mem_append.mp member with before | made
    · exact .inl ⟨before, free entry before⟩
    · rw [List.mem_singleton.mp made]
      exact .inr ⟨rfl, Path.same_refl path⟩

theorem Distinct.register (distinct : registry.Distinct) (path : String) (recording : Nat) :
    (registry.register path recording).Distinct := by
  unfold Registry.register
  split
  · refine List.pairwise_map.mpr (distinct.imp fun {first second} apart => ?_)
    unfold Apart at apart ⊢
    split <;> split <;> exact apart
  · next free =>
    rw [Bool.not_eq_true, Option.isSome_eq_false_iff, Option.isNone_iff_eq_none,
      get?_eq_none_iff] at free
    refine List.pairwise_append.mpr ⟨distinct, List.pairwise_singleton .., ?_⟩
    intro entry before made same
    rw [List.mem_singleton.mp same]
    exact free entry before

theorem lists_register (registry : Registry) (path : String) (recording : Nat) :
    (registry.register path recording).Lists recording := by
  unfold register
  split
  · next taken =>
    obtain ⟨number, found⟩ := Option.isSome_iff_exists.mp taken
    obtain ⟨spelling, member, here⟩ := exists_of_get? found
    refine ⟨(spelling, recording), List.mem_map.mpr ⟨_, member, ?_⟩, rfl⟩
    rw [if_pos here]
  · exact ⟨(path, recording), List.mem_append_right _ (List.mem_singleton_self _), rfl⟩

theorem spares_register (registry : Registry) (path : String) (recording : Nat) {arrived : Prop}
    (arrives : arrived) :
    Spares recording path arrived registry (registry.register path recording) where
  kept entry member other := by
    cases here : Path.same entry.1 path with
    | false => exact .inl (mem_register_of_elsewhere member here)
    | true => exact .inr ⟨arrives, rfl⟩
  only entry member other := by
    rcases of_mem_register member with before | made
    · exact before.1
    · exact absurd made.1 other

theorem locates_register (absent : ∀ entry ∈ registry.entries, entry.2 ≠ recording)
    (path : String) : (registry.register path recording).Locates recording path := by
  intro entry member own
  rcases of_mem_register member with before | made
  · exact absurd own (absent entry before.1)
  · exact made.2

end Register

section Rename

variable {source : String}

theorem Distinct.rename (distinct : registry.Distinct) (source target : String) :
    (registry.rename source target).Distinct := by
  unfold Registry.rename
  split
  · exact distinct
  · exact (distinct.erase source).register target _

theorem Distinct.spares_rename (distinct : registry.Distinct)
    (own : ∀ other, registry.get? source = some other → other = recording) (target : String)
    {arrived : Prop} (arrives : arrived) :
    Spares recording target arrived registry (registry.rename source target) := by
  unfold Registry.rename
  split
  · exact .refl ..
  · next other found =>
    obtain rfl := own other found
    exact (distinct.spares_erase found target arrived).trans (spares_register _ target _ arrives)

theorem locates_rename (own : ∀ other, registry.get? source = some other → other = recording)
    (locates : registry.Locates recording source) (target : String) :
    (registry.rename source target).Locates recording target := by
  unfold rename
  split
  · next free =>
    intro entry member mine
    have here := locates entry member mine
    rw [get?_eq_none_iff.mp free entry member] at here
    cases here
  · next other found =>
    obtain rfl := own other found
    refine locates_register (fun entry member mine => ?_) target
    obtain ⟨before, elsewhere⟩ := mem_erase.mp member
    rw [locates entry before mine] at elsewhere
    cases elsewhere

theorem Lists.rename (lists : registry.Lists recording)
    (own : ∀ other, registry.get? source = some other → other = recording) (target : String) :
    (registry.rename source target).Lists recording := by
  unfold Registry.rename
  split
  · exact lists
  · next other found =>
    obtain rfl := own other found
    exact lists_register ..

end Rename

end Registry

end MpegRecorder
