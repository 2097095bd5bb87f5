import MpegRecorder.Proofs.Storage.Opening

/-!
Openers that never refuse. Each file they open is new, empty and accepts all bytes. No opener of
files in a tree is one of them: some name can be given to no file.
-/

namespace MpegRecorder.Storage

theorem Path.toList_join (base path : String) :
    ∃ lead, (Path.join base path).toList = lead ++ path.toList := by
  unfold Path.join
  split
  · exact ⟨[], rfl⟩
  · split
    · exact ⟨base.toList, String.toList_append ..⟩
    · exact ⟨(base ++ "/").toList, String.toList_append ..⟩

theorem FileOpener.toList_resolve (opener : FileOpener) (name : String) :
    ∃ lead, (opener.resolve name).toList = lead ++ name.toList := by
  unfold resolve
  split
  · exact ⟨[], rfl⟩
  · exact Path.toList_join ..

theorem truncate_unnameable (storage : Storage) {path : String}
    (unnameable : Tree.isNameable path = false) : (storage.truncate path).1 = .error .unnameable := by
  simp [truncate, Tree.openForWriting, Tree.fault?, unnameable]

/-- No file has a zero character in its name, so there is a name that a file opener refuses. -/
theorem FileOpener.exists_refused (opener : FileOpener) (storage : Storage) (token : UInt32) :
    ∃ name error, (opener.openFile storage name token).1 = .error error := by
  refine ⟨String.singleton (Char.ofNat 0), ?_⟩
  unfold openFile
  split
  · unfold create
    split
    · exact ⟨_, rfl⟩
    · refine ⟨_, truncate_unnameable _ ?_⟩
      obtain ⟨lead, resolved⟩ := opener.toList_resolve (String.singleton (Char.ofNat 0))
      rw [Tree.isNameable, resolved]
      simp
  · exact ⟨_, rfl⟩

namespace Opener

/-- Refuses nothing, now or later, and every file it opens accepts all bytes. -/
def Grants : Opener → Prop
  | files opener => ∀ storage name token, ∃ destination,
      (opener.openFile storage name token).1 = .ok destination
  | memory opener => ∀ attempt, opener.attempts ≤ attempt → ∃ behaviour,
      opener.plan attempt = some behaviour ∧ behaviour.Accepts

def openedFiles : Opener → List Nat
  | files _ => []
  | memory opener => opener.opened.map fun entry => entry.2.2

theorem not_grants_files (opener : FileOpener) : ¬ (files opener).Grants := by
  intro grants
  obtain ⟨name, error, refused⟩ := opener.exists_refused (.empty []) 0
  obtain ⟨destination, granted⟩ := grants (.empty []) name 0
  rw [refused] at granted
  cases granted

theorem Grants.openFile {opener : Opener} (grants : opener.Grants) (storage : Storage)
    (name : String) (token : UInt32) :
    ∃ behaviour later, behaviour.Accepts
      ∧ opener.openFile storage name token
        = (.ok ⟨storage.files.length, 0, name⟩, later, (storage.addFile name behaviour).2)
      ∧ later.Grants ∧ later.openedFiles = opener.openedFiles ++ [storage.files.length] := by
  cases opener with
  | files opener => exact absurd grants (not_grants_files opener)
  | memory opener =>
    obtain ⟨behaviour, planned, accepts⟩ := grants opener.attempts (Nat.le_refl _)
    refine ⟨behaviour, .memory { opener with
      attempts := opener.attempts + 1
      opened := opener.opened ++ [(name, token, storage.files.length)] }, accepts, ?_, ?_, ?_⟩
    · simp only [Opener.openFile, planned, addFile]
    · exact fun attempt later => grants attempt (Nat.le_of_succ_le later)
    · simp only [openedFiles, List.map_append, List.map_singleton]

end Opener

end MpegRecorder.Storage
