import Mathlib.Data.List.Basic
import MpegRecorder.Proofs.Storage.Lookup

/-!
Spellings of one path. Two texts with the same components differ only in dots and repeated separators,
which lead nowhere, so they cannot name two files.
-/

namespace MpegRecorder.Storage

theorem Path.component_injective : Function.Injective Path.component := by
  intro left right same
  unfold Path.component at same
  split at same <;> split at same
  · next up also => rw [up, also]
  · cases same
  · cases same
  · exact Component.name.inj same

def Path.plain (segments : List String) : List String :=
  segments.filter fun segment => segment ≠ "."

def Component.Leads : Component → Bool
  | .up | .name _ => true
  | .root | .here => false

theorem Path.leads_component (segment : String) : (Path.component segment).Leads = true := by
  unfold Path.component
  split <;> rfl

theorem Path.filter_components (path : String) :
    (Path.components path).filter Component.Leads
      = (Path.plain (Path.segments path)).map Path.component := by
  have all (segments : List String) :
      (segments.map Path.component).filter Component.Leads = segments.map Path.component := by
    apply List.filter_eq_self.mpr
    intro component member
    obtain ⟨segment, -, rfl⟩ := List.mem_map.mp member
    exact Path.leads_component segment
  unfold Path.components Path.plain
  dsimp only
  split
  · rw [List.filter_cons_of_neg (by simp [Component.Leads]), all]
  · split
    · next rest first =>
      rw [first, List.filter_cons_of_neg (by simp [Component.Leads]), all,
        List.filter_cons_of_neg (by simp)]
    · exact all _

theorem Path.isAbsolute_eq (path : String) :
    Path.isAbsolute path = decide (Component.root ∈ Path.components path) := by
  have none (segments : List String) : Component.root ∉ segments.map Path.component := by
    intro member
    obtain ⟨segment, -, same⟩ := List.mem_map.mp member
    have leads := Path.leads_component segment
    rw [same] at leads
    cases leads
  unfold Path.components
  dsimp only
  split
  · next absolute => simp [absolute]
  · next relative =>
    split
    · simp [relative, none]
    · simp [relative, none]

theorem Path.plain_of_same {left right : String} (same : Path.same left right = true) :
    Path.isAbsolute left = Path.isAbsolute right
      ∧ Path.plain (Path.segments left) = Path.plain (Path.segments right) := by
  have components : Path.components left = Path.components right := eq_of_beq same
  refine ⟨?_, ?_⟩
  · rw [Path.isAbsolute_eq, Path.isAbsolute_eq, components]
  · apply List.map_injective_iff.mpr Path.component_injective
    rw [← Path.filter_components, ← Path.filter_components, components]

theorem Path.join_eq_self_iff (base path : String) :
    Path.join base path = path ↔ Path.isAbsolute path = true ∨ base = "" := by
  unfold Path.join
  split
  · next whole => simpa using whole
  · next apart =>
    have parted : ¬ (Path.isAbsolute path = true ∨ base = "") := by simpa using apart
    refine iff_of_false ?_ parted
    intro same
    have filled : base ≠ "" := fun empty => parted (.inr empty)
    have lengths := congrArg String.length same
    have nonempty : 0 < base.length :=
      Nat.pos_of_ne_zero fun zero => filled (String.length_eq_zero_iff.mp zero)
    split at lengths <;> simp only [String.length_append] at lengths <;> omega

namespace Tree

variable {tree : Tree} {path directory segments : List String} {entry : Option Entry}

theorem walk_plain (tree : Tree) (directory segments : List String) :
    tree.walk directory (Path.plain segments) = tree.walk directory segments := by
  induction segments generalizing directory with
  | nil => rfl
  | cons segment rest ih =>
    simp only [walk] at ih
    by_cases dot : segment = "."
    · have stays : tree.enter directory segment = .ok directory := by rw [enter, if_pos dot]
      have plain : Path.plain (segment :: rest) = Path.plain rest :=
        List.filter_cons_of_neg (by simp [dot])
      simp only [walk, plain, List.foldlM_cons, stays]
      exact ih directory
    · have plain : Path.plain (segment :: rest) = segment :: Path.plain rest :=
        List.filter_cons_of_pos (by simp [dot])
      simp only [walk, plain, List.foldlM_cons, ih]

theorem locate_plain (found : tree.locate directory segments = .ok ⟨path, entry⟩)
    (file : entry ≠ some .directory) :
    tree.locate directory (Path.plain segments) = .ok ⟨path, entry⟩ := by
  unfold locate at found ⊢
  cases last : segments.getLast? with
  | none =>
    rw [last] at found
    cases found
    exact absurd rfl file
  | some name =>
    have parted : segments = segments.dropLast ++ [name] :=
      (List.dropLast_append_getLast? name last).symm
    by_cases dots : name = "." ∨ name = ".."
    · simp only [last] at found
      cases walked : tree.walk directory segments.dropLast with
      | error e =>
        rw [walked] at found
        cases found
      | ok parent =>
        rw [walked] at found
        dsimp only [bind, Except.bind] at found
        rw [if_pos dots] at found
        split at found
        · cases found
        · cases found
          exact absurd rfl file
    · have plain : Path.plain segments = Path.plain segments.dropLast ++ [name] := by
        rw [parted]
        simp only [Path.plain, List.filter_append, List.dropLast_concat]
        rw [List.filter_cons_of_pos (by simpa using fun dot => dots (.inl dot)), List.filter_nil]
      rw [plain, List.getLast?_concat, List.dropLast_concat, walk_plain]
      simpa only [last] using found

/-- Where one spelling of a path names a file, no other that can be opened names another. -/
theorem openForWriting_same {left right : String} {id : Nat} {opening : Opening}
    (same : Path.same left right = true)
    (named : tree.openForWriting left = .ok (.existing id))
    (opened : tree.openForWriting right = .ok opening) : opening = .existing id := by
  obtain ⟨absolute, plain⟩ := Path.plain_of_same same
  have start : tree.start left = tree.start right := by rw [Tree.start, Tree.start, absolute]
  obtain ⟨path, ⟨_, stored, found⟩ | ⟨missing, -⟩⟩ := locate_of_openForWriting named
  · cases stored
    have there := locate_plain found (by simp)
    rw [start, plain] at there
    obtain ⟨other, ⟨_, rfl, again⟩ | ⟨-, free⟩⟩ := locate_of_openForWriting opened
    · rw [locate_plain again (by simp)] at there
      cases there
      rfl
    · rw [locate_plain free (by simp)] at there
      cases there
  · cases missing

end Tree

end MpegRecorder.Storage

