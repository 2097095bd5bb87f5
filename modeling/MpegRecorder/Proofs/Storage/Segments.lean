import Mathlib.Data.List.DropRight
import MpegRecorder.Proofs.Storage.Spelling
import MpegRecorder.Storage.FileName

/-!
Paths as segments between separators. A path starts at the root, with a dot, or with its first segment;
that and the segments behind it decide its components and its directory, and a name that is joined to a
directory becomes its last segment.
-/

namespace MpegRecorder.Storage.Path

variable {path name segment : String} {cut : List String}

def Whole (segment : String) : Prop := '/' ∉ segment.toList

theorem not_mem_of_mem_splitOn {text part : List Char} (member : part ∈ text.splitOn '/') :
    '/' ∉ part := by
  induction text generalizing part with
  | nil =>
    rw [List.splitOn_nil, List.mem_singleton] at member
    rw [member]
    exact List.not_mem_nil
  | cons c rest ih =>
    rw [List.splitOn_cons_eq_if_modifyHead] at member
    split at member
    · rcases List.mem_cons.mp member with rfl | later
      · exact List.not_mem_nil
      · exact ih later
    · next other =>
      obtain ⟨first, more, cut⟩ := List.exists_cons_of_ne_nil (List.splitOn_ne_nil '/' rest)
      rw [cut] at ih
      rw [cut, List.modifyHead_cons] at member
      rcases List.mem_cons.mp member with rfl | later
      · have apart : c ≠ '/' := by simpa using other
        have whole : '/' ∉ first := ih List.mem_cons_self
        simpa [Ne.symm apart] using whole
      · exact ih (List.mem_cons_of_mem _ later)

theorem whole_of_mem_stretches (member : segment ∈ stretches path) : Whole segment := by
  obtain ⟨part, cut, rfl⟩ := List.mem_map.mp member
  rw [Whole, String.toList_ofList]
  exact not_mem_of_mem_splitOn cut

theorem stretches_intercalate (filled : cut ≠ []) (whole : ∀ segment ∈ cut, Whole segment) :
    stretches ("/".intercalate cut) = cut := by
  have parts : cut.map String.toList ≠ [] := by simpa using filled
  have apart : ∀ part ∈ cut.map String.toList, '/' ∉ part := by simpa [Whole] using whole
  have again : (['/'].intercalate (cut.map String.toList)).splitOn '/' = cut.map String.toList :=
    List.splitOn_intercalate '/' apart parts
  rw [stretches, String.toList_intercalate]
  show List.map String.ofList (List.splitOn '/' (['/'].intercalate _)) = _
  rw [again, List.map_map]
  simp [Function.comp_def]

inductive Start where
  /-- At the root. -/
  | root
  /-- With a dot. -/
  | here
  /-- With the name of an entry, or with two dots. -/
  | within
deriving Repr, DecidableEq

namespace Start

def lead : Start → List String
  | root => [""]
  | here => ["."]
  | within => []

/-- How a start other than the root counts in a path. -/
def dot : Start → List String
  | here => ["."]
  | root | within => []

def components : Start → List Component
  | root => [.root]
  | here => [.here]
  | within => []

end Start

def opened : List String → Start × List String
  | "" :: next :: rest => (.root, next :: rest)
  | "." :: rest => (.here, rest)
  | cut => (.within, cut)

theorem lead_opened (cut : List String) : (opened cut).1.lead ++ (opened cut).2 = cut := by
  unfold opened
  split <;> rfl

theorem opened_of_head {rest : List String} (filled : segment ≠ "") :
    (opened (segment :: rest)).1 ≠ .root := by
  unfold opened
  split
  · next same =>
    cases same
    exact absurd rfl filled
  · exact nofun
  · exact nofun

theorem isAbsolute_iff : isAbsolute path = true ↔ (opened (stretches path)).1 = .root := by
  have absolute : isAbsolute path = true ↔ ['/'] <+: path.toList := String.startsWith_string_iff
  rw [absolute, stretches]
  cases text : path.toList with
  | nil => simp [opened]
  | cons c rest =>
    obtain ⟨first, more, cut⟩ := List.exists_cons_of_ne_nil (List.splitOn_ne_nil '/' rest)
    rw [List.splitOn_cons_eq_if_modifyHead, cut]
    by_cases same : c = '/'
    · simp [same, opened]
    · have filled : String.ofList (c :: first) ≠ "" := by simp
      rw [if_neg (by simpa using same), List.modifyHead_cons]
      exact iff_of_false (by simp [Ne.symm same]) (opened_of_head filled)

theorem opened_within (rooted : ∀ next rest, cut ≠ "" :: next :: rest)
    (dotted : ∀ rest, cut ≠ "." :: rest) : opened cut = (.within, cut) := by
  fun_cases opened cut with
  | case1 next rest => exact absurd rfl (rooted next rest)
  | case2 rest => exact absurd rfl (dotted rest)
  | case3 => rfl

theorem opened_concat {start : Start} {behind above rest : List String} {next : String}
    (opens : opened cut = (start, behind)) (parted : behind = above ++ next :: rest)
    (filled : name ≠ "") (other : name ≠ ".") :
    opened (start.lead ++ above ++ [name]) = (start, above ++ [name]) := by
  fun_cases opened cut with
  | case1 first more =>
    rw [opened] at opens
    cases opens
    cases above <;> rfl
  | case2 more =>
    rw [opened] at opens
    cases opens
    rfl
  | case3 cut rooted dotted =>
    rw [opened_within rooted dotted] at opens
    cases opens
    rw [Start.lead, List.nil_append]
    -- The new path is opened at its first segment: that of the old path, unless the name comes first.
    apply opened_within
    · intro first more same
      cases above with
      | nil => cases same
      | cons segment above =>
        obtain ⟨second, later, tail⟩ :=
          List.exists_cons_of_ne_nil (l := above ++ next :: rest) (by simp)
        rw [List.cons_append, tail, (List.cons.inj same).1] at parted
        exact rooted second later parted
    · intro more same
      cases above with
      | nil => exact other (List.cons.inj same).1
      | cons segment above =>
        rw [List.cons_append, (List.cons.inj same).1] at parted
        exact dotted _ parted

def named (cut : List String) : List Component :=
  (plain (cut.filter fun segment => segment ≠ "")).map component

theorem components_eq (path : String) :
    components path = (opened (stretches path)).1.components ++ named (opened (stretches path)).2 := by
  have absolute : isAbsolute path = true ↔ (opened (stretches path)).1 = .root := isAbsolute_iff
  simp only [components, segments]
  revert absolute
  generalize stretches path = cut
  fun_cases opened cut with
  | case1 next rest =>
    intro absolute
    rw [if_pos (absolute.mpr rfl)]
    rfl
  | case2 rest =>
    intro absolute
    rw [if_neg fun holds => nomatch absolute.mp holds]
    rfl
  | case3 cut rooted dotted =>
    intro absolute
    rw [if_neg fun holds => nomatch absolute.mp holds]
    split
    · next rest first =>
      -- A dot that an empty segment stands before is behind the root.
      exfalso
      cases cut with
      | nil => cases first
      | cons segment more =>
        by_cases empty : segment = ""
        · cases more with
          | nil => simp [empty] at first
          | cons next more => exact rooted next more (by rw [empty])
        · rw [List.filter_cons_of_pos (by simpa using empty)] at first
          exact dotted more (by rw [(List.cons.inj first).1])
    · rfl

theorem body_eq (path : String) :
    body path = ((opened (stretches path)).1.dot, dropTrailing (opened (stretches path)).2) := by
  have absolute : isAbsolute path = true ↔ (opened (stretches path)).1 = .root := isAbsolute_iff
  simp only [body]
  revert absolute
  generalize stretches path = cut
  fun_cases opened cut with
  | case1 next rest =>
    intro absolute
    rw [if_pos (absolute.mpr rfl)]
    rfl
  | case2 rest =>
    intro absolute
    rw [if_neg fun holds => nomatch absolute.mp holds]
    rfl
  | case3 cut rooted dotted =>
    intro absolute
    rw [if_neg fun holds => nomatch absolute.mp holds]
    split
    · next rest => exact absurd rfl (dotted rest)
    · rfl

def Start.directory (start : Start) (above : List String) : String :=
  if start = .root then "/" ++ "/".intercalate above else "/".intercalate (start.dot ++ above)

theorem parentText_eq (path : String) :
    parentText path =
      (opened (stretches path)).1.directory
        (dropTrailing (dropTrailing (opened (stretches path)).2).dropLast) := by
  rw [parentText, body_eq, Start.directory]
  by_cases absolute : isAbsolute path = true
  · have root := isAbsolute_iff.mp absolute
    dsimp only
    rw [if_pos absolute, if_pos root, root]
    rfl
  · dsimp only
    rw [if_neg absolute, if_neg (mt isAbsolute_iff.mpr absolute)]

theorem dropTrailing_eq (cut : List String) :
    dropTrailing cut = cut.rdropWhile fun segment => segment = "" ∨ segment = "." := rfl

theorem dropTrailing_dropTrailing (cut : List String) :
    dropTrailing (dropTrailing cut) = dropTrailing cut :=
  List.rdropWhile_idempotent ..

theorem dropTrailing_concat {name : String} (filled : name ≠ "") (other : name ≠ ".") :
    dropTrailing (cut ++ [name]) = cut ++ [name] :=
  List.rdropWhile_concat_neg _ _ _ (by simp [filled, other])

theorem counts_of_trimmed {last : String} (trimmed : dropTrailing (cut ++ [last]) = cut ++ [last]) :
    last ≠ "" ∧ last ≠ "." := by
  rw [dropTrailing_eq, List.rdropWhile_concat] at trimmed
  split at trimmed
  · have shorter := (List.rdropWhile_prefix (fun segment => segment = "" ∨ segment = ".") cut).length_le
    rw [trimmed, List.length_append, List.length_singleton] at shorter
    omega
  · next counts => simpa using counts

theorem named_dropTrailing (cut : List String) : named (dropTrailing cut) = named cut := by
  induction cut using List.reverseRecOn with
  | nil => rfl
  | append_singleton cut segment ih =>
    by_cases idle : segment = "" ∨ segment = "."
    · have gone : dropTrailing (cut ++ [segment]) = dropTrailing cut :=
        List.rdropWhile_concat_pos _ _ _ (by simpa using idle)
      rw [gone, ih]
      rcases idle with rfl | rfl <;> simp [named, plain]
    · obtain ⟨filled, other⟩ := not_or.mp idle
      rw [dropTrailing_concat filled other]

theorem named_concat {name : String} (filled : name ≠ "") (other : name ≠ ".") :
    named (cut ++ [name]) = named cut ++ [component name] := by
  simp [named, plain, filled, other]

theorem isAbsolute_of_whole (whole : Whole name) : isAbsolute name = false := by
  refine Bool.eq_false_iff.mpr fun absolute => whole ?_
  have lead : ['/'] <+: name.toList := String.startsWith_string_iff.mp absolute
  exact lead.subset (List.mem_singleton_self _)

theorem intercalate_concat (filled : cut ≠ []) (name : String) :
    "/".intercalate (cut ++ [name]) = "/".intercalate cut ++ "/" ++ name := by
  rw [String.intercalate_append_of_ne_nil filled (List.cons_ne_nil _ _), String.intercalate_singleton]

theorem getLast?_intercalate (cut : List String) {last : String} (filled : last ≠ "") :
    ("/".intercalate (cut ++ [last])).toList.getLast? = last.toList.getLast? := by
  have text : last.toList ≠ [] := mt String.toList_eq_nil_iff.mp filled
  by_cases empty : cut = []
  · rw [empty, List.nil_append, String.intercalate_singleton]
  · rw [intercalate_concat empty, String.toList_append, List.getLast?_append_of_ne_nil _ text]

theorem join_intercalate (cut : List String) {last : String} (filled : last ≠ "") (ends : Whole last)
    (whole : Whole name) :
    join ("/".intercalate (cut ++ [last])) name = "/".intercalate (cut ++ [last] ++ [name]) := by
  have final := getLast?_intercalate cut filled
  have base : "/".intercalate (cut ++ [last]) ≠ "" := by
    intro empty
    rw [empty] at final
    exact filled (String.toList_eq_nil_iff.mp (List.getLast?_eq_none_iff.mp final.symm))
  have apart : ("/".intercalate (cut ++ [last])).endsWith '/' = false := by
    rw [String.endsWith_char_eq_getLast?, final]
    exact beq_eq_false_iff_ne.mpr fun slash => ends (List.mem_of_getLast? slash)
  rw [join, isAbsolute_of_whole whole, Bool.false_or, if_neg (by simpa using base), apart,
    if_neg Bool.false_ne_true]
  exact (intercalate_concat (by simp) name).symm

theorem directory_of_filled (start : Start) {above : List String} (filled : above ≠ []) :
    start.directory above = "/".intercalate (start.lead ++ above) := by
  cases start with
  | root =>
    rw [Start.directory, if_pos rfl, Start.lead,
      String.intercalate_append_of_ne_nil (List.cons_ne_nil _ _) filled, String.intercalate_singleton,
      String.empty_append]
  | here => rfl
  | within => rfl

theorem join_directory {start : Start} {above : List String} (trimmed : dropTrailing above = above)
    (ends : ∀ segment ∈ above, Whole segment) (whole : Whole name) :
    join (start.directory above) name = "/".intercalate (start.lead ++ above ++ [name]) := by
  rcases List.eq_nil_or_concat' above with rfl | ⟨cut, last, rfl⟩
  · cases start with
    | root =>
      have slash : ("/" : String).endsWith '/' = true := by
        rw [String.endsWith_char_eq_getLast?]
        decide
      simp [join, Start.directory, Start.lead, isAbsolute_of_whole whole, slash]
    | here => exact join_intercalate [] (by decide) (by unfold Whole; decide) whole
    | within => simp [join, Start.directory, Start.dot, Start.lead]
  · rw [directory_of_filled start (by simp), ← List.append_assoc]
    exact join_intercalate _ (counts_of_trimmed trimmed).1 (ends last (by simp)) whole

end MpegRecorder.Storage.Path
