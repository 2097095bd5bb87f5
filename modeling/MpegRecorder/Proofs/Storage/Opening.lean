import MpegRecorder.Proofs.Storage.Growth
import MpegRecorder.Proofs.Storage.Spelling

/-!
What comes of opening a file. Whether the file is new or was there before, and whichever opener it
comes from, the destination stands at the start of an empty file. A file of the tree is found again
under the path that created it, and creating it again empties it.
-/

namespace MpegRecorder.Storage

theorem getElem?_addFile_of_lt {storage : Storage} {id : Nat} (stored : id < storage.files.length)
    (path : String) (behaviour : Behaviour) :
    (storage.addFile path behaviour).2.files[id]? = storage.files[id]? :=
  List.getElem?_append_left stored

theorem getElem?_addFile_self (storage : Storage) (path : String) (behaviour : Behaviour) :
    (storage.addFile path behaviour).2.files[storage.files.length]? = some (.new behaviour) :=
  List.getElem?_concat_length ..

theorem getElem?_addFile_other (storage : Storage) {id : Nat} (other : id ≠ storage.files.length)
    (path : String) (behaviour : Behaviour) :
    (storage.addFile path behaviour).2.files[id]? = storage.files[id]? := by
  rcases Nat.lt_or_gt_of_ne other with stored | beyond
  · exact getElem?_addFile_of_lt stored path behaviour
  · rw [addFile, List.getElem?_append_right (Nat.le_of_lt beyond), List.getElem?_eq_none (by simp; omega),
      List.getElem?_eq_none (Nat.le_of_lt beyond)]

structure Fresh (storage : Storage) (destination : Destination) : Prop where
  start : destination.position = 0
  empty : storage.content destination.file = []

variable {storage later : Storage} {destination : Destination}

theorem addFile_fresh (storage : Storage) (path : String) (behaviour : Behaviour) :
    (storage.addFile path behaviour).2.Fresh (storage.addFile path behaviour).1 where
  start := rfl
  empty := content_of_getElem? (getElem?_addFile_self storage path behaviour)

theorem content_emptied (storage : Storage) (id : Nat) :
    (storage.modify id fun file => { file with content := .empty }).content id = [] := by
  cases found : storage.files[id]? with
  | none => simp [content, modify, found]
  | some file => exact content_of_getElem? (getElem?_modify_same found _)

theorem truncate_fresh {path : String} (opened : storage.truncate path = (.ok destination, later)) :
    later.Fresh destination ∧ destination.path = path := by
  unfold truncate at opened
  split at opened
  · cases opened
  · obtain ⟨same, rfl⟩ := Prod.mk.inj opened
    cases same
    exact ⟨⟨rfl, content_emptied ..⟩, rfl⟩
  · obtain ⟨same, rfl⟩ := Prod.mk.inj opened
    cases same
    obtain ⟨start, empty⟩ := storage.addFile_fresh path .healthy
    exact ⟨⟨start, empty⟩, rfl⟩

theorem create_fresh {path : String} (opened : storage.create path = (.ok destination, later)) :
    later.Fresh destination ∧ destination.path = path := by
  unfold create at opened
  split at opened
  · cases opened
  · exact truncate_fresh opened

theorem create_leads {path : String} (opened : storage.create path = (.ok destination, later)) :
    later.tree.Leads path destination.file := by
  unfold create at opened
  split at opened
  · cases opened
  · next tree made =>
    unfold truncate at opened
    split at opened
    · cases opened
    · next id there =>
      obtain ⟨same, rfl⟩ := Prod.mk.inj opened
      cases same
      exact ⟨Tree.makeParents_again made (.refl tree), there⟩
    · next place free =>
      obtain ⟨same, rfl⟩ := Prod.mk.inj opened
      cases same
      obtain ⟨grows, there⟩ := Tree.openForWriting_add free storage.files.length
      exact ⟨Tree.makeParents_again made grows, there⟩

theorem create_again {path : String} {id : Nat} (leads : storage.tree.Leads path id) :
    storage.create path =
      (.ok ⟨id, 0, path⟩, storage.modify id fun file => { file with content := .empty }) := by
  simp only [create, leads.parents, truncate, leads.file]

theorem extends_truncate (storage : Storage) (path : String) :
    storage.tree.Extends (storage.truncate path).2.tree := by
  unfold truncate
  split
  · exact .refl _
  · exact .refl _
  · next place free => exact (Tree.openForWriting_add free storage.files.length).1

theorem extends_create (storage : Storage) (path : String) :
    storage.tree.Extends (storage.create path).2.tree := by
  have grows := Tree.extends_makeParents storage.tree path
  unfold create
  split
  · next error tree made =>
    rw [made] at grows
    exact grows
  · next tree made =>
    rw [made] at grows
    exact grows.trans (extends_truncate { storage with tree } path)

/-- A name stands for itself only if there is no directory to resolve it against. -/
theorem FileOpener.resolve_eq_self_iff (opener : FileOpener) (name : String) :
    opener.resolve name = name
      ↔ opener.base = none ∨ opener.base = some "" ∨ Path.isAbsolute name = true := by
  unfold resolve
  cases opener.base with
  | none => simp
  | some base => simp [Path.join_eq_self_iff, or_comm]

theorem FileOpener.openFile_leads {opener : FileOpener} {name : String} {token : UInt32}
    (opened : opener.openFile storage name token = (.ok destination, later)) :
    destination.path = opener.resolve name
      ∧ later.tree.Leads (opener.resolve name) destination.file := by
  unfold FileOpener.openFile at opened
  split at opened
  · exact ⟨(create_fresh opened).2, create_leads opened⟩
  · cases opened

theorem FileOpener.openFile_extends (opener : FileOpener) (storage : Storage) (name : String)
    (token : UInt32) :
    storage.tree.Extends (opener.openFile storage name token).2.tree := by
  unfold FileOpener.openFile
  split
  · exact extends_create ..
  · exact .refl _

/-- Whatever the spelling, a path that leads to a file and can be opened gives that file. -/
theorem create_same {left right : String} {id : Nat} (leads : storage.tree.Leads left id)
    (same : Path.same left right = true)
    (opened : storage.create right = (.ok destination, later)) : destination.file = id := by
  unfold create at opened
  split at opened
  · cases opened
  · next tree made =>
    have grows := Tree.extends_makeParents storage.tree right
    rw [made] at grows
    have named := Tree.openForWriting_extends grows leads.file
    unfold truncate at opened
    split at opened
    · cases opened
    · next other there =>
      have found := Tree.openForWriting_same same named there
      cases found
      obtain ⟨result, -⟩ := Prod.mk.inj opened
      cases result
      rfl
    · next place free => cases Tree.openForWriting_same same named free

theorem FileOpener.openFile_same {opener : FileOpener} {name path : String} {token : UInt32}
    {id : Nat} (leads : storage.tree.Leads path id)
    (same : Path.same path (opener.resolve name) = true)
    (opened : opener.openFile storage name token = (.ok destination, later)) :
    destination.file = id := by
  unfold FileOpener.openFile at opened
  split at opened
  · exact create_same leads same opened
  · cases opened

theorem FileOpener.openFile_again {opener : FileOpener} {name : String} {token : UInt32} {id : Nat}
    (allowed : opener.isAuthorized token = true)
    (leads : storage.tree.Leads (opener.resolve name) id) :
    opener.openFile storage name token =
      (.ok ⟨id, 0, opener.resolve name⟩,
        storage.modify id fun file => { file with content := .empty }) := by
  rw [FileOpener.openFile, if_pos allowed, create_again leads]

theorem Opener.openFile_fresh {opener next : Opener} {name : String} {token : UInt32}
    (opened : opener.openFile storage name token = (.ok destination, next, later)) :
    later.Fresh destination := by
  cases opener with
  | files opener =>
    obtain ⟨result, rest⟩ := Prod.mk.inj opened
    obtain ⟨-, rfl⟩ := Prod.mk.inj rest
    unfold FileOpener.openFile at result ⊢
    split at result
    · next allowed =>
      rw [if_pos allowed]
      exact (create_fresh (Prod.ext result rfl)).1
    · cases result
  | memory opener =>
    simp only [Opener.openFile] at opened
    split at opened
    · cases opened
    · obtain ⟨result, rest⟩ := Prod.mk.inj opened
      obtain ⟨-, rfl⟩ := Prod.mk.inj rest
      cases result
      exact addFile_fresh ..

theorem truncate_others {path : String} (opened : storage.truncate path = (.ok destination, later))
    {id : Nat} (other : id ≠ destination.file) : later.files[id]? = storage.files[id]? := by
  unfold truncate at opened
  split at opened
  · cases opened
  · obtain ⟨same, rfl⟩ := Prod.mk.inj opened
    cases same
    exact getElem?_modify_other storage other _
  · obtain ⟨same, rfl⟩ := Prod.mk.inj opened
    cases same
    exact getElem?_addFile_other storage other path .healthy

theorem Opener.openFile_others {opener next : Opener} {name : String} {token : UInt32}
    (opened : opener.openFile storage name token = (.ok destination, next, later)) {id : Nat}
    (other : id ≠ destination.file) : later.files[id]? = storage.files[id]? := by
  cases opener with
  | files opener =>
    obtain ⟨result, rest⟩ := Prod.mk.inj opened
    obtain ⟨-, rfl⟩ := Prod.mk.inj rest
    unfold FileOpener.openFile create at result ⊢
    split at result
    · next allowed =>
      rw [if_pos allowed]
      split at result
      · cases result
      · next tree _ =>
        have made : Storage.truncate { storage with tree } (opener.resolve name) =
            (.ok destination, (Storage.truncate { storage with tree } (opener.resolve name)).2) :=
          Prod.ext result rfl
        exact truncate_others made other
    · cases result
  | memory opener =>
    simp only [Opener.openFile] at opened
    split at opened
    · cases opened
    · obtain ⟨result, rest⟩ := Prod.mk.inj opened
      obtain ⟨-, rfl⟩ := Prod.mk.inj rest
      cases result
      exact getElem?_addFile_other storage other ..

end MpegRecorder.Storage
