import MpegRecorder.Proofs.Storage.Opening

/-!
Storage without faults. All its files take all bytes, and so do those that are opened later, whichever
opener opens them, so that every destination is ready from the start on.
-/

namespace MpegRecorder.Storage

namespace Tree

variable {before : Tree} {directory segments path : List String} {id : Nat}

theorem entry?_add (tree : Tree) (path other : List String) (entry : Entry) :
    Tree.entry? (tree.add path entry) other =
      if other = [] then some .directory else if other = path then some entry
      else tree.entry? other := by
  by_cases root : other = []
  · simp [ entry?, root]
  · by_cases same : other = path
    · subst same
      simp [ entry?, add, root]
    · have differs : ((other.length, other) == (path.length, path)) = false := by
        simp [same]
      simp [ entry?, add, root, same, List.lookup_cons, differs]

theorem entry?_of_locate (found : before.locate directory segments = .ok ⟨path, some (.file id)⟩) :
    before.entry? path = some (.file id) := by
  unfold locate at found
  split at found
  · cases found
  · next last _ =>
    cases walked : before.walk directory segments.dropLast with
    | error e =>
      rw [walked] at found
      cases found
    | ok parent =>
      rw [walked] at found
      dsimp only [bind, Except.bind] at found
      split at found
      · split at found <;> cases found
      · split at found
        · cases found
        · obtain ⟨rfl, there⟩ := Place.mk.inj (Except.ok.inj found)
          exact there

def NamesNoMore (before after : Tree) : Prop :=
  ∀ path id, after.entry? path = some (.file id) → before.entry? path = some (.file id)

theorem namesNoMore_add (tree : Tree) (path : List String) :
    tree.NamesNoMore (tree.add path .directory) := by
  intro other id named
  rw [ entry?_add] at named
  split at named
  · cases named
  · split at named
    · cases named
    · exact named

theorem namesNoMore_makeBelow (tree : Tree) (directory segments : List String) :
    tree.NamesNoMore (tree.makeBelow directory segments).2 := by
  fun_induction makeBelow tree directory segments with
  | case5 _ _ _ _ _ _ ih => exact fun path id named => namesNoMore_add _ _ path id (ih path id named)
  | case3 _ _ _ _ _ _ ih => exact ih
  | _ => exact fun _ _ => id

theorem namesNoMore_makeParents (tree : Tree) (text : String) :
    tree.NamesNoMore (tree.makeParents text).2 := by
  have made (directory segments : List String) :
      tree.NamesNoMore (tree.makeDirectories directory segments).2 := by
    fun_induction makeDirectories tree directory segments with
    | case5 _ _ _ _ _ =>
      exact fun path id named => namesNoMore_add _ _ path id (namesNoMore_makeBelow _ _ _ path id named)
    | case3 _ _ _ _ _ ih => exact ih
    | _ => exact fun _ _ => id
  unfold makeParents
  split
  · exact fun _ _ => id
  · exact made _ _

end Tree

/-- All files take all bytes, and every file that the tree names is there. -/
structure Faultless (storage : Storage) : Prop where
  accepts : ∀ id behaviour, storage.behaviour? id = some behaviour → behaviour.Accepts
  named : ∀ path id, storage.tree.entry? path = some (.file id) → (storage.behaviour? id).isSome

def Opener.Faultless : Opener → Prop
  | files _ => True
  | memory opener => ∀ attempt behaviour, opener.plan attempt = some behaviour → behaviour.Accepts

theorem faultless_empty (workingDirectory : List String) : (Storage.empty workingDirectory).Faultless := by
  have directories (depths : List Nat) (tree : Tree) (bare : ∀ path id, tree.entry? path ≠ some (.file id))
      (path : List String) (id : Nat) :
      Tree.entry? (depths.foldl (fun tree depth =>
        tree.add (workingDirectory.take (depth + 1)) .directory) tree) path ≠ some (.file id) := by
    induction depths generalizing tree with
    | nil => exact bare path id
    | cons depth later ih =>
      refine ih _ fun path id named => ?_
      exact bare path id (Tree.namesNoMore_add tree _ path id named)
  refine ⟨nofun, fun path id named => absurd named (directories _ _ (fun path id named => ?_) path id)⟩
  unfold Tree.entry? at named
  split at named <;> cases named

variable {storage later : Storage} {destination : Destination}

theorem Faultless.congr (faultless : storage.Faultless) (tree : later.tree = storage.tree)
    (behaviour : ∀ id, later.behaviour? id = storage.behaviour? id) : later.Faultless where
  accepts id other behaves := faultless.accepts id other (behaviour id ▸ behaves)
  named path id there := behaviour id ▸ faultless.named path id (tree ▸ there)

theorem Faultless.close (faultless : storage.Faultless) (destination : Destination) :
    (storage.close destination).2.Faultless := by
  refine faultless.congr (tree_close ..) fun id => ?_
  unfold Storage.close
  split
  · rfl
  · next file found =>
    refine behaviour?_modify _ _ id fun other there => ?_
    rw [found, Option.some.injEq] at there
    subst there
    unfold File.close
    split <;> rfl

theorem Faultless.addFile (faultless : storage.Faultless) (path : String) {behaviour : Behaviour}
    (accepts : behaviour.Accepts) : (storage.addFile path behaviour).2.Faultless := by
  have here : (storage.addFile path behaviour).2.behaviour? storage.files.length = some behaviour := by
    rw [behaviour?, getElem?_addFile_self]
    rfl
  have others (id : Nat) (other : id ≠ storage.files.length) :
      (storage.addFile path behaviour).2.behaviour? id = storage.behaviour? id := by
    rw [behaviour?, getElem?_addFile_other storage other, behaviour?]
  constructor
  · intro id answers behaves
    by_cases last : id = storage.files.length
    · rw [last, here, Option.some.injEq] at behaves
      exact behaves ▸ accepts
    · exact faultless.accepts id answers (others id last ▸ behaves)
  · intro place id there
    by_cases last : id = storage.files.length
    · rw [last, here]
      rfl
    · rw [others id last]
      exact faultless.named place id there

theorem Faultless.ready (faultless : storage.Faultless) (fresh : storage.Fresh destination)
    (there : (storage.behaviour? destination.file).isSome) : storage.Ready destination := by
  obtain ⟨behaviour, behaves⟩ := Option.isSome_iff_exists.mp there
  obtain ⟨file, found, same⟩ := Option.map_eq_some_iff.mp behaves
  refine ⟨file, found, same ▸ faultless.accepts _ _ behaves, ?_⟩
  have nothing : file.content.toList = [] := (content_of_getElem? found).symm.trans fresh.empty
  rw [fresh.start, ← Packed.length_toList, nothing, List.length_nil]

theorem Faultless.truncate (faultless : storage.Faultless) {path : String}
    (opened : storage.truncate path = (.ok destination, later)) :
    later.Faultless ∧ later.Ready destination := by
  have fresh := (truncate_fresh opened).1
  unfold Storage.truncate at opened
  split at opened
  · cases opened
  · next id there =>
    obtain ⟨result, rfl⟩ := Prod.mk.inj opened
    cases result
    let emptied := storage.modify id fun file => { file with content := .empty }
    have same (other : Nat) : emptied.behaviour? other = storage.behaviour? other :=
      behaviour?_modify storage id other fun _ _ => rfl
    have kept : emptied.Faultless := faultless.congr rfl same
    refine ⟨kept, kept.ready fresh ?_⟩
    rw [same id]
    obtain ⟨place, ⟨_, opening, found⟩ | ⟨opening, -⟩⟩ := Tree.locate_of_openForWriting there
    · cases opening
      exact faultless.named place id (Tree.entry?_of_locate found)
    · cases opening
  · next place _ =>
    obtain ⟨result, rfl⟩ := Prod.mk.inj opened
    cases result
    have added := faultless.addFile path Behaviour.healthy_accepts
    have here : ((storage.addFile path .healthy).2.behaviour? storage.files.length).isSome := by
      rw [behaviour?, getElem?_addFile_self]
      rfl
    have grown : Faultless { (storage.addFile path .healthy).2 with
        tree := storage.tree.add place (.file storage.files.length) } := by
      refine ⟨added.accepts, fun other id there => ?_⟩
      rw [Tree.entry?_add] at there
      split at there
      · cases there
      · split at there
        · cases there
          exact here
        · exact added.named other id there
    exact ⟨grown, grown.ready fresh here⟩

theorem Faultless.openFile (faultless : storage.Faultless) {opener next : Opener}
    (sound : opener.Faultless) {name : String} {token : UInt32}
    (opened : opener.openFile storage name token = (.ok destination, next, later)) :
    later.Faultless ∧ next.Faultless ∧ later.Ready destination := by
  cases opener with
  | files opener =>
    obtain ⟨result, rest⟩ := Prod.mk.inj opened
    obtain ⟨rfl, rfl⟩ := Prod.mk.inj rest
    unfold FileOpener.openFile create at result ⊢
    split at result
    · next allowed =>
      rw [if_pos allowed]
      split at result
      · cases result
      · next tree made =>
        have parents : Faultless { storage with tree } := by
          refine ⟨faultless.accepts, fun path id there => faultless.named path id ?_⟩
          have names := storage.tree.namesNoMore_makeParents (opener.resolve name)
          rw [made] at names
          exact names path id there
        obtain ⟨sound, ready⟩ := parents.truncate (Prod.ext result rfl)
        exact ⟨sound, trivial, ready⟩
    · cases result
  | memory opener =>
    have fresh := Opener.openFile_fresh opened
    simp only [Opener.openFile] at opened
    split at opened
    · cases opened
    · next behaviour planned =>
      obtain ⟨result, rest⟩ := Prod.mk.inj opened
      obtain ⟨rfl, rfl⟩ := Prod.mk.inj rest
      cases result
      have added := faultless.addFile name (sound _ _ planned)
      refine ⟨added, sound, added.ready fresh ?_⟩
      exact Option.isSome_map.trans (congrArg Option.isSome (getElem?_addFile_self ..))

theorem Faultless.openFile_refused (faultless : storage.Faultless) {opener next : Opener}
    (sound : opener.Faultless) {name : String} {token : UInt32} {error : IoError}
    (refused : opener.openFile storage name token = (.error error, next, later)) :
    later.Faultless ∧ next.Faultless ∧ later.files = storage.files := by
  cases opener with
  | files opener =>
    obtain ⟨result, rest⟩ := Prod.mk.inj refused
    obtain ⟨rfl, rfl⟩ := Prod.mk.inj rest
    unfold FileOpener.openFile create at result ⊢
    split at result
    · next allowed =>
      rw [if_pos allowed]
      have names := storage.tree.namesNoMore_makeParents (opener.resolve name)
      have parents (tree : Tree) (made : storage.tree.NamesNoMore tree) :
          Faultless { storage with tree } :=
        ⟨faultless.accepts, fun path id there => faultless.named path id (made path id there)⟩
      split at result
      · next tree made =>
        rw [made] at names
        exact ⟨parents tree names, trivial, rfl⟩
      · next tree made =>
        rw [made] at names
        unfold Storage.truncate at result ⊢
        split at result
        · exact ⟨parents tree names, trivial, rfl⟩
        · cases result
        · cases result
    · next denied =>
      rw [if_neg denied]
      exact ⟨faultless, trivial, rfl⟩
  | memory opener =>
    simp only [Opener.openFile] at refused
    split at refused
    · obtain ⟨-, rest⟩ := Prod.mk.inj refused
      obtain ⟨rfl, rfl⟩ := Prod.mk.inj rest
      exact ⟨faultless, sound, rfl⟩
    · cases refused

end MpegRecorder.Storage
