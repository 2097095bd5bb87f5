import MpegRecorder.Proofs.Storage.Segments

/-!
The parts of a recording lie beside it, each under a name of its own: a name with a number put into it is
longer than the name, and two numbers put into the same place give two names.
-/

namespace MpegRecorder.Storage.Path

variable {path name : String}

theorem splitExtension_eq (name : String) :
    splitExtension name = (name, none) ∨ ∃ stem extension,
      splitExtension name = (stem, some extension) ∧ name = stem ++ "." ++ extension := by
  unfold splitExtension
  dsimp only
  split
  · exact .inl rfl
  · next stem =>
    refine .inr ⟨_, _, rfl, ?_⟩
    cases dropped : name.toList.reverse.dropWhile fun c => c ≠ '.' with
    | nil =>
      rw [dropped] at stem
      exact absurd rfl stem
    | cons c rest =>
      have dot : c = '.' := by
        have first := List.head?_dropWhile_not (fun c => decide (c ≠ '.')) name.toList.reverse
        rw [dropped] at first
        simpa using first
      have whole := List.takeWhile_append_dropWhile (p := fun c => decide (c ≠ '.'))
        (l := name.toList.reverse)
      rw [dropped, dot] at whole
      have text := congrArg List.reverse whole
      rw [List.reverse_reverse] at text
      apply String.toList_inj.mp
      refine text.symm.trans ?_
      simp

theorem exists_numbered_eq (found : fileName? path = some name) :
    ∃ front back, name = front ++ back ∧ ∀ index : Nat,
      numbered path index = join (parentText path) (front ++ "-" ++ index.repr ++ back) := by
  have named : (fileName? path).isSome = true := by rw [found]; rfl
  rcases splitExtension_eq name with plain | ⟨stem, extension, split, rfl⟩
  · refine ⟨name, "", by simp, fun index => ?_⟩
    simp only [numbered, found, Option.getD_some, plain, withFileName, String.append_empty]
    rfl
  · refine ⟨stem, "." ++ extension, by rw [String.append_assoc], fun index => ?_⟩
    simp only [numbered, found, Option.getD_some, split, withFileName, ← String.append_assoc]
    rfl

theorem whole_numbered {front back : String} {index : Nat} (whole : Whole (front ++ back)) :
    Whole (front ++ "-" ++ index.repr ++ back) := by
  have digits : '/' ∉ index.repr.toList := by
    rw [Nat.toList_repr]
    intro slash
    have digit := Nat.isDigit_of_mem_toDigits (by decide) (by decide) slash
    revert digit
    decide
  simp only [Whole, String.toList_append, List.mem_append, not_or] at whole ⊢
  exact ⟨⟨⟨whole.1, by decide⟩, digits⟩, whole.2⟩

theorem behind_eq (found : fileName? path = some name) :
    ∃ init rest, (opened (stretches path)).2 = init ++ name :: rest ∧
      dropTrailing (opened (stretches path)).2 = init ++ [name] ∧ name ≠ ".." := by
  rw [fileName?, body_eq] at found
  dsimp only at found
  cases last : (dropTrailing (opened (stretches path)).2).getLast? with
  | none =>
    rw [last] at found
    cases found
  | some final =>
    rw [last] at found
    split at found
    · cases found
    · cases found
    · next segment other same =>
      cases found
      cases same
      obtain ⟨init, kept⟩ := List.getLast?_eq_some_iff.mp last
      obtain ⟨rest, parted⟩ : dropTrailing (opened (stretches path)).2 <+: (opened (stretches path)).2 :=
        List.rdropWhile_prefix ..
      refine ⟨init, rest, ?_, kept, ?_⟩
      · rw [← parted, kept, List.append_assoc]
        rfl
      · rintro rfl
        exact other rfl

theorem component_of_other (other : name ≠ "..") : component name = .name name :=
  if_neg other

/-- A path names an entry of the directory that its start and the segments behind that lead to. -/
structure Names (path : String) (start : Start) (above : List String) (name : String) : Prop where
  opens : ∃ next rest, opened (stretches path) = (start, above ++ next :: rest)
  trimmed : dropTrailing above = above
  whole : Whole name
  directory : parentText path = start.directory above
  components : components path = start.components ++ named above ++ [.name name]

theorem exists_names (found : fileName? path = some name) :
    ∃ start above, Names path start above name := by
  obtain ⟨init, rest, behind, kept, down⟩ := behind_eq found
  obtain ⟨gone, front⟩ : dropTrailing init <+: init := List.rdropWhile_prefix ..
  obtain ⟨next, later, tail⟩ := List.exists_cons_of_ne_nil (l := gone ++ name :: rest) (by simp)
  have trimmed : dropTrailing (init ++ [name]) = init ++ [name] := by
    rw [← kept, dropTrailing_dropTrailing]
  obtain ⟨filled, other⟩ := counts_of_trimmed trimmed
  refine ⟨(opened (stretches path)).1, dropTrailing init, ⟨next, later, ?_⟩,
    dropTrailing_dropTrailing init, ?_, ?_, ?_⟩
  · rw [← tail, ← List.append_assoc, front, ← behind]
  · apply whole_of_mem_stretches
    rw [← lead_opened (stretches path), behind]
    simp
  · rw [parentText_eq, kept, List.dropLast_concat]
  · rw [components_eq, ← named_dropTrailing, kept, named_concat filled other, component_of_other down,
      named_dropTrailing, List.append_assoc]

namespace Names

variable {start : Start} {above : List String} {new : String}

theorem whole_of_mem (names : Names path start above name) :
    ∀ segment ∈ start.lead ++ above, Whole segment := by
  intro segment member
  obtain ⟨next, rest, opens⟩ := names.opens
  apply whole_of_mem_stretches
  rw [← lead_opened (stretches path), opens]
  simp only [List.mem_append] at member ⊢
  exact member.imp_right .inl

theorem stretches_join (names : Names path start above name) (whole : Whole new) :
    stretches (join (parentText path) new) = start.lead ++ above ++ [new] := by
  have within : ∀ segment ∈ above, Whole segment := fun segment member =>
    names.whole_of_mem segment (List.mem_append_right _ member)
  rw [names.directory, join_directory names.trimmed within whole]
  refine stretches_intercalate (by simp) fun segment member => ?_
  rcases List.mem_append.mp member with front | last
  · exact names.whole_of_mem segment front
  · rw [List.mem_singleton.mp last]
    exact whole

theorem renamed (names : Names path start above name) (whole : Whole new) (filled : new ≠ "")
    (other : new ≠ ".") (down : new ≠ "..") : Names (join (parentText path) new) start above new := by
  obtain ⟨next, rest, opens⟩ := names.opens
  have again : opened (stretches (join (parentText path) new)) = (start, above ++ [new]) := by
    rw [names.stretches_join whole]
    exact opened_concat opens rfl filled other
  refine ⟨⟨new, [], again⟩, names.trimmed, whole, ?_, ?_⟩
  · rw [parentText_eq, again, dropTrailing_concat filled other, List.dropLast_concat, names.trimmed]
  · rw [components_eq, again, named_concat filled other, component_of_other down, List.append_assoc]

theorem dropLast_components (names : Names path start above name) :
    (Path.components path).dropLast = start.components ++ named above := by
  rw [names.components, List.dropLast_concat]

theorem same_eq_false {left right : String} (names : Names path start above left)
    {beside : String} (others : Names beside start above right) (apart : left ≠ right) :
    same path beside = false := by
  rw [same, names.components, others.components]
  refine beq_eq_false_iff_ne.mpr fun equal => apart ?_
  have last := List.append_cancel_left equal
  simpa using last

end Names

theorem exists_names_numbered (found : fileName? path = some name) :
    ∃ start above front back, Names path start above (front ++ back) ∧ ∀ index : Nat,
      Names (numbered path index) start above (front ++ "-" ++ index.repr ++ back) := by
  obtain ⟨start, above, names⟩ := exists_names found
  obtain ⟨front, back, rfl, numbering⟩ := exists_numbered_eq found
  refine ⟨start, above, front, back, names, fun index => ?_⟩
  have dash : '-' ∈ (front ++ "-" ++ index.repr ++ back).toList := by simp
  have other {text : String} (dashless : '-' ∉ text.toList) :
      front ++ "-" ++ index.repr ++ back ≠ text := fun same => dashless (same ▸ dash)
  rw [numbering]
  exact names.renamed (whole_numbered names.whole) (other (by decide)) (other (by decide))
    (other (by decide))

theorem same_numbered (found : fileName? path = some name) (index : Nat) :
    same (numbered path index) path = false := by
  obtain ⟨start, above, front, back, names, parts⟩ := exists_names_numbered found
  refine (parts index).same_eq_false names fun equal => ?_
  have lengths := congrArg String.length equal
  have dash : "-".length = 1 := by decide
  simp only [String.length_append, dash] at lengths
  omega

/-- A number is read back from its digits, so two numbers have different ones. -/
theorem same_numbered_numbered (found : fileName? path = some name) {first second : Nat}
    (apart : first ≠ second) : same (numbered path first) (numbered path second) = false := by
  obtain ⟨start, above, front, back, -, parts⟩ := exists_names_numbered found
  refine (parts first).same_eq_false (parts second) fun equal => apart ?_
  rw [String.append_left_inj, String.append_right_inj] at equal
  have digits := congrArg (fun text => Nat.ofDigitChars 10 text.toList 0) equal
  simpa only [Nat.toList_repr, Nat.ofDigitChars_ten_toDigits] using digits

theorem directory_numbered (found : fileName? path = some name) (index : Nat) :
    (components (numbered path index)).dropLast = (components path).dropLast ∧
      parentText (numbered path index) = parentText path := by
  obtain ⟨start, above, front, back, names, parts⟩ := exists_names_numbered found
  rw [names.dropLast_components, (parts index).dropLast_components, names.directory,
    (parts index).directory]
  exact ⟨rfl, rfl⟩

end MpegRecorder.Storage.Path
