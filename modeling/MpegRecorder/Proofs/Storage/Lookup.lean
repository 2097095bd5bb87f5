import MpegRecorder.Storage.Tree

/-!
Trees that only gain entries. What a path led to in the smaller tree, it leads to in the larger one, so
a file that was just created is found again under the path that created it.
-/

namespace MpegRecorder.Storage.Tree

structure Extends (before after : Tree) : Prop where
  workingDirectory : after.workingDirectory = before.workingDirectory
  entry : ∀ {path entry}, before.entry? path = some entry → after.entry? path = some entry

variable {tree before middle after : Tree} {path directory segments : List String} {entry : Entry}

theorem Extends.refl (tree : Tree) : Extends tree tree :=
  ⟨rfl, id⟩

theorem Extends.trans (start : Extends before middle) (rest : Extends middle after) :
    Extends before after :=
  ⟨rest.workingDirectory.trans start.workingDirectory, fun found => rest.entry (start.entry found)⟩

theorem lookup_add_self (tree : Tree) (filled : path ≠ []) (entry : Entry) :
    Tree.entry? (tree.add path entry) path = some entry := by
  simp [ entry?, add, filled]

theorem extends_add (free : tree.entry? path = none) (entry : Entry) :
    Extends tree (tree.add path entry) := by
  refine ⟨rfl, ?_⟩
  intro other found here
  by_cases same : other = path
  · rw [same, free] at here
    cases here
  · by_cases empty : other = []
    · simpa [ entry?, empty] using here
    · have missed : ((other.length, other) == (path.length, path)) = false := by simp [same]
      simpa [ entry?, add, empty, List.lookup_cons, missed] using here

theorem enter_extends (grows : Extends before after) {segment : String} {reached : List String}
    (entered : before.enter directory segment = .ok reached) :
    after.enter directory segment = .ok reached := by
  unfold enter at entered ⊢
  split at entered
  · next dot => rw [if_pos dot]; exact entered
  · next dot =>
    rw [if_neg dot]
    split at entered
    · next dots => rw [if_pos dots]; exact entered
    · next dots =>
      rw [if_neg dots]
      split at entered
      · cases entered
      · next short =>
        rw [if_neg short]
        split at entered
        · cases entered
        · cases entered
        · next there =>
          rw [grows.entry there]
          exact entered

theorem walk_extends (grows : Extends before after) {reached : List String}
    (walked : before.walk directory segments = .ok reached) :
    after.walk directory segments = .ok reached := by
  induction segments generalizing directory with
  | nil => exact walked
  | cons segment rest ih =>
    simp only [walk, List.foldlM_cons] at walked ih ⊢
    cases entered : before.enter directory segment with
    | error e =>
      rw [entered] at walked
      cases walked
    | ok next =>
      rw [entered] at walked
      rw [enter_extends grows entered]
      exact ih walked

/-- The same path leads to the same place; what was free may have been taken since. -/
theorem locate_extends (grows : Extends before after) {place : Place}
    (found : before.locate directory segments = .ok place) :
    (∀ entry, place.entry = some entry → after.locate directory segments = .ok place)
      ∧ (place.entry = none → place.path ≠ [] ∧ before.entry? place.path = none
        ∧ after.locate directory segments = .ok ⟨place.path, after.entry? place.path⟩) := by
  unfold locate at found ⊢
  cases last : segments.getLast? with
  | none =>
    rw [last] at found
    cases found
    exact ⟨fun _ _ => rfl, nofun⟩
  | some name =>
    simp only [last] at found ⊢
    cases walked : before.walk directory segments.dropLast with
    | error e =>
      rw [walked] at found
      cases found
    | ok parent =>
      rw [walked] at found
      rw [walk_extends grows walked]
      dsimp only [bind, Except.bind] at found ⊢
      split at found
      · next dots =>
        rw [if_pos dots]
        cases entered : before.enter parent name with
        | error e =>
          rw [entered] at found
          cases found
        | ok reached =>
          rw [entered] at found
          rw [enter_extends grows entered]
          cases found
          exact ⟨fun _ _ => rfl, nofun⟩
      · next dots =>
        rw [if_neg dots]
        split at found
        · cases found
        · next short =>
          rw [if_neg short]
          cases found
          refine ⟨?_, ?_⟩
          · intro entry there
            dsimp only at there
            rw [there, grows.entry there]
            rfl
          · intro free
            exact ⟨by simp, free, rfl⟩

theorem locate_extends_found (grows : Extends before after)
    (found : before.locate directory segments = .ok ⟨path, some entry⟩) :
    after.locate directory segments = .ok ⟨path, some entry⟩ :=
  (locate_extends grows found).1 entry rfl

theorem locate_add (found : tree.locate directory segments = .ok ⟨path, none⟩) (entry : Entry) :
    Extends tree (tree.add path entry)
      ∧ (tree.add path entry).locate directory segments = .ok ⟨path, some entry⟩ := by
  obtain ⟨filled, free, -⟩ := (locate_extends (.refl tree) found).2 rfl
  have grows : Extends tree (tree.add path entry) := extends_add free entry
  obtain ⟨-, -, now⟩ := (locate_extends grows found).2 rfl
  rw [lookup_add_self tree filled entry] at now
  exact ⟨grows, now⟩

def Passes (tree : Tree) : List String → List String → Prop
  | _, [] => True
  | directory, segment :: rest => ∃ reached,
      tree.locate directory [segment] = .ok ⟨reached, some .directory⟩ ∧ tree.Passes reached rest

theorem Passes.extends (passes : before.Passes directory segments)
    (grows : Extends before after) : after.Passes directory segments := by
  induction segments generalizing directory with
  | nil => trivial
  | cons segment rest ih =>
    obtain ⟨reached, found, further⟩ := passes
    exact ⟨reached, locate_extends_found grows found, ih further⟩

theorem makeDirectories_of_passes (passes : tree.Passes directory segments) :
    tree.makeDirectories directory segments = (.ok (), tree) := by
  induction segments generalizing directory with
  | nil => rfl
  | cons segment rest ih =>
    obtain ⟨reached, found, further⟩ := passes
    simp only [makeDirectories, found]
    exact ih further

theorem extends_makeBelow (tree : Tree) (directory segments : List String) :
    Extends tree (tree.makeBelow directory segments).2 := by
  fun_induction makeBelow tree directory segments with
  | case1 tree => exact .refl tree
  | case2 tree => exact .refl tree
  | case3 tree directory segment rest path found ih => exact ih
  | case4 tree => exact .refl tree
  | case5 tree directory segment rest path found ih =>
    exact (locate_add found .directory).1.trans ih

theorem extends_makeDirectories (tree : Tree) (directory segments : List String) :
    Extends tree (tree.makeDirectories directory segments).2 := by
  fun_induction makeDirectories tree directory segments with
  | case1 => exact .refl tree
  | case2 => exact .refl tree
  | case3 directory segment rest path found ih => exact ih
  | case4 => exact .refl tree
  | case5 directory segment rest path found =>
    exact (locate_add found .directory).1.trans (extends_makeBelow ..)

theorem passes_of_makeBelow (made : tree.makeBelow directory segments = (.ok (), after)) :
    after.Passes directory segments := by
  have grows := extends_makeBelow tree directory segments
  rw [made] at grows
  fun_induction makeBelow tree directory segments with
  | case1 => trivial
  | case2 => cases made
  | case3 tree directory segment rest path found ih =>
    exact ⟨path, locate_extends_found grows found, ih made grows⟩
  | case4 => cases made
  | case5 tree directory segment rest path found ih =>
    have now := (locate_add found .directory).2
    have later := extends_makeBelow (tree.add path .directory) path rest
    rw [made] at later
    exact ⟨path, locate_extends_found later now, ih made later⟩

theorem passes_of_makeDirectories
    (made : tree.makeDirectories directory segments = (.ok (), after)) :
    after.Passes directory segments := by
  have grows := extends_makeDirectories tree directory segments
  rw [made] at grows
  fun_induction makeDirectories tree directory segments with
  | case1 => trivial
  | case2 => cases made
  | case3 directory segment rest path found ih =>
    exact ⟨path, locate_extends_found grows found, ih made⟩
  | case4 => cases made
  | case5 directory segment rest path found =>
    have now := (locate_add found .directory).2
    have later := extends_makeBelow (tree.add path .directory) path rest
    rw [made] at later
    exact ⟨path, locate_extends_found later now, passes_of_makeBelow made⟩

variable {text : String} {id : Nat}

theorem extends_makeParents (tree : Tree) (text : String) :
    Extends tree (tree.makeParents text).2 := by
  unfold makeParents
  split
  · exact .refl tree
  · exact extends_makeDirectories ..

theorem makeParents_again (made : tree.makeParents text = (.ok (), after)) {later : Tree}
    (further : Extends after later) : later.makeParents text = (.ok (), later) := by
  have grows := extends_makeParents tree text
  rw [made] at grows
  unfold makeParents at made
  split at made
  · cases made
  · next sound =>
    have passes := passes_of_makeDirectories made
    have sameStart : later.start text = tree.start text := by
      rw [start, start, further.workingDirectory, grows.workingDirectory]
    simp only [makeParents, sound, sameStart]
    exact makeDirectories_of_passes (passes.extends further)

theorem locate_of_openForWriting {opening : Opening}
    (opened : tree.openForWriting text = .ok opening) :
    ∃ path, (∃ id, opening = .existing id
        ∧ tree.locate (tree.start text) (Path.segments text) = .ok ⟨path, some (.file id)⟩)
      ∨ opening = .fresh path
        ∧ tree.locate (tree.start text) (Path.segments text) = .ok ⟨path, none⟩ := by
  unfold openForWriting at opened
  split at opened
  · cases opened
  · split at opened
    · cases opened
    · split at opened
      · split at opened <;> cases opened
      · split at opened
        · cases opened
        · next place found =>
          split at opened
          · cases opened
          · next id there =>
            cases opened
            exact ⟨place.path, .inl ⟨id, rfl, there ▸ found⟩⟩
          · next free =>
            cases opened
            exact ⟨place.path, .inr ⟨rfl, free ▸ found⟩⟩

theorem openForWriting_of_locate {opening : Opening}
    (opened : before.openForWriting text = .ok opening)
    (found : after.locate (after.start text) (Path.segments text) = .ok ⟨path, some (.file id)⟩) :
    after.openForWriting text = .ok (.existing id) := by
  unfold openForWriting at opened ⊢
  split at opened
  · cases opened
  · split at opened
    · cases opened
    · next filled =>
      rw [if_neg filled]
      split at opened
      · split at opened <;> cases opened
      · next plain => rw [if_neg plain, found]

theorem openForWriting_add (opened : tree.openForWriting text = .ok (.fresh path)) (id : Nat) :
    Extends tree (tree.add path (.file id))
      ∧ (tree.add path (.file id)).openForWriting text = .ok (.existing id) := by
  obtain ⟨place, ⟨_, missing, -⟩ | ⟨same, free⟩⟩ := locate_of_openForWriting opened
  · cases missing
  · cases same
    obtain ⟨grows, now⟩ := locate_add free (.file id)
    exact ⟨grows, openForWriting_of_locate opened now⟩

theorem openForWriting_extends (grows : Extends before after)
    (named : before.openForWriting text = .ok (.existing id)) :
    after.openForWriting text = .ok (.existing id) := by
  obtain ⟨place, ⟨_, same, found⟩ | ⟨missing, -⟩⟩ := locate_of_openForWriting named
  · cases same
    have sameStart : after.start text = before.start text := by
      rw [start, start, grows.workingDirectory]
    have now := locate_extends_found grows found
    rw [← sameStart] at now
    exact openForWriting_of_locate named now
  · cases missing

/-- The path names this file, and all directories above it are there. -/
structure Leads (tree : Tree) (text : String) (id : Nat) : Prop where
  parents : tree.makeParents text = (.ok (), tree)
  file : tree.openForWriting text = .ok (.existing id)

theorem Leads.extends (leads : before.Leads text id) (grows : Extends before after) :
    after.Leads text id where
  parents := makeParents_again leads.parents grows
  file := openForWriting_extends grows leads.file

end MpegRecorder.Storage.Tree
