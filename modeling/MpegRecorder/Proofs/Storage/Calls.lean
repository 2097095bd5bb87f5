import MpegRecorder.Proofs.Storage.Growth

/-!
What a single call does to the file behind a destination, also where the file fails it. A write call puts
the bytes it takes at the position of the destination and moves that behind them; a rewind moves it to the
start; a call that fails moves nothing and changes no content.
-/

namespace MpegRecorder.Storage

variable {storage later : Storage} {destination next : Destination} {file : File} {data : Bytes}

theorem write_taken {taken : Nat} (found : storage.files[destination.file]? = some file)
    (wrote : storage.write destination data = (.ok taken, next, later)) :
    taken ≤ data.length ∧ next = { destination with position := destination.position + taken }
      ∧ ∃ after, later.files[destination.file]? = some after
        ∧ after.content = File.splice file.content destination.position (data.take taken)
        ∧ after.rewinds = file.rewinds := by
  cases answer : file.behaviour.write file.writeCalls with
  | error error =>
    simp only [write, found, File.write, answer] at wrote
    cases wrote
  | ok limit =>
    simp only [write, found, File.write, answer] at wrote
    cases wrote
    refine ⟨List.length_take_le' .., rfl, _, getElem?_modify_same found _, ?_, rfl⟩
    rw [List.length_take, ← List.take_eq_take_min]

theorem write_failed {error : IoError} (found : storage.files[destination.file]? = some file)
    (wrote : storage.write destination data = (.error error, next, later)) :
    next = destination ∧ ∃ after, later.files[destination.file]? = some after
      ∧ after.content = file.content ∧ after.rewinds = file.rewinds := by
  cases answer : file.behaviour.write file.writeCalls with
  | error error =>
    simp only [write, found, File.write, answer] at wrote
    cases wrote
    exact ⟨rfl, _, getElem?_modify_same found _, rfl, rfl⟩
  | ok limit =>
    simp only [write, found, File.write, answer] at wrote
    cases wrote

theorem rewind_done {result : Unit} (found : storage.files[destination.file]? = some file)
    (rewound : storage.rewind destination = (.ok result, next, later)) :
    next = { destination with position := 0 }
      ∧ ∃ after, later.files[destination.file]? = some after
        ∧ after.content = file.content ∧ after.rewinds = file.rewinds + 1 := by
  cases answer : file.behaviour.rewind file.rewindCalls with
  | error error =>
    simp only [rewind, found, File.rewind, answer] at rewound
    cases rewound
  | ok done =>
    simp only [rewind, found, File.rewind, answer] at rewound
    cases rewound
    exact ⟨rfl, _, getElem?_modify_same found _, rfl, rfl⟩

theorem rewind_failed {error : IoError} (found : storage.files[destination.file]? = some file)
    (rewound : storage.rewind destination = (.error error, next, later)) :
    next = destination ∧ ∃ after, later.files[destination.file]? = some after
      ∧ after.content = file.content ∧ after.rewinds = file.rewinds := by
  cases answer : file.behaviour.rewind file.rewindCalls with
  | error error =>
    simp only [rewind, found, File.rewind, answer] at rewound
    cases rewound
    exact ⟨rfl, _, getElem?_modify_same found _, rfl, rfl⟩
  | ok done =>
    simp only [rewind, found, File.rewind, answer] at rewound
    cases rewound

end MpegRecorder.Storage
