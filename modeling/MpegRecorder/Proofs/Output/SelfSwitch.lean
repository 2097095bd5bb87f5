import MpegRecorder.Proofs.Output.Invariant
import MpegRecorder.Proofs.Output.Move
import MpegRecorder.Session.Basic

/-!
Switching to the destination that is being recorded. A switch is refused when the name spells the
current path, but the opener resolves the name against its base directory first, so the name that
opened the current file is refused only if it is a full path. Otherwise the file being recorded is
opened again, and all that it held is gone.
-/

namespace MpegRecorder.Output

open Storage

structure Named (opener : FileOpener) (id : Nat) (output : Output) (storage : Storage) : Prop where
  source : output.opener = .files opener
  underway : output.closed = false
  leads : storage.tree.Leads output.path id
  current : ∀ destination, output.destination = some destination → destination.file = id

variable {opener : FileOpener} {id : Nat} {output : Output} {medium : Medium}
  {destination : Destination} {name : String} {token : UInt32}

theorem Named.writeOut (named : Named opener id output medium.storage) (data : Bytes) :
    Named opener id (output.writeOut medium data).1 (output.writeOut medium data).2.storage := by
  cases current : output.destination with
  | none =>
    simp only [Output.writeOut, current]
    exact named
  | some destination =>
    have kept := Writer.write_kept
      ⟨output.ring, output.counters, destination, medium.storage⟩ data
    simp only [Output.writeOut, current]
    refine ⟨named.source, named.underway, ?_, ?_⟩
    · rw [kept.tree]
      exact named.leads
    · intro other same
      cases same
      exact kept.file.trans (named.current destination current)

theorem Named.flushAll (named : Named opener id output medium.storage) :
    Named opener id (output.flushAll medium).1 (output.flushAll medium).2.storage := by
  have cleared : Named opener id { output with buffer := output.buffer.clear } medium.storage :=
    ⟨named.source, named.underway, named.leads, named.current⟩
  exact cleared.writeOut output.buffer.content

theorem Named.asking {storage : Storage} (named : Named opener id output storage)
    (request : Request) : Named opener id { output with request := some request } storage :=
  ⟨named.source, named.underway, named.leads, named.current⟩

theorem Named.openFile {storage before after : Storage} (named : Named opener id output storage)
    {result : Except IoError Destination}
    (opened : opener.openFile before name token = (result, after)) :
    output.opener.openFile before name token = (result, .files opener, after) := by
  rw [named.source, Opener.openFile, opened]

theorem Named.moveAt_refused (named : Named opener id output medium.storage) {request : Request}
    {cut : Nat} {error : IoError} {storage : Storage}
    (refused : opener.openFile (output.release medium cut).2.storage request.name request.token
      = (.error error, storage)) :
    Named opener id (output.moveAt medium request cut).2.1
        (output.moveAt medium request cut).2.2.storage
      ∧ (output.moveAt medium request cut).2.1.path = output.path
      ∧ (output.moveAt medium request cut).2.1.request = output.request := by
  have released := output.release_released medium cut
  have grows := opener.openFile_extends (output.release medium cut).2.storage request.name
    request.token
  rw [refused, tree_release] at grows
  rw [moveAt_eq, released.opener, named.openFile refused]
  refine ⟨⟨rfl, released.closed.trans named.underway, ?_, ?_⟩, released.path, released.request⟩
  · dsimp only
    rw [released.path]
    exact named.leads.extends grows
  · intro destination isOpen
    dsimp only at isOpen
    rw [released.shut] at isOpen
    cases isOpen

theorem Named.moveAt (named : Named opener id output medium.storage) (request : Request)
    (cut : Nat) :
    ∃ next, Named opener next (output.moveAt medium request cut).2.1
      (output.moveAt medium request cut).2.2.storage := by
  have released := output.release_released medium cut
  obtain ⟨result, storage, opened⟩ : ∃ result storage,
      opener.openFile (output.release medium cut).2.storage request.name request.token
        = (result, storage) := ⟨_, _, rfl⟩
  cases result with
  | error error => exact ⟨id, (named.moveAt_refused opened).1⟩
  | ok destination =>
    obtain ⟨path, leads⟩ := FileOpener.openFile_leads opened
    rw [← path] at leads
    let next := (output.release medium cut).1.enter (.files opener) destination
    let place : Medium := { (output.release medium cut).2 with storage }
    have started : Named opener destination.file next place.storage := by
      refine ⟨rfl, released.closed.trans named.underway, leads, ?_⟩
      intro other same
      cases same
      rfl
    obtain ⟨moved, stored⟩ := moveAt_enter (named.openFile opened)
    rw [moved, stored]
    exact ⟨destination.file, started.flushAll⟩

theorem named_invariant (opener : FileOpener) :
    Invariant (fun _ => True) fun output storage _ => ∃ id, Named opener id output storage where
  alike same holds := by
    obtain ⟨id, named⟩ := holds
    refine ⟨id, same.opener.trans named.source, same.closed.trans named.underway, ?_, ?_⟩
    · rw [same.path]
      exact named.leads
    · rw [same.destination]
      exact named.current
  limit _ _ holds := by
    obtain ⟨id, named⟩ := holds
    exact ⟨id, named.source, named.underway, named.leads, named.current⟩
  extend _ holds := by
    obtain ⟨id, named⟩ := holds
    exact ⟨id, named.source, named.underway, named.leads, named.current⟩
  flushAll holds := by
    obtain ⟨id, named⟩ := holds
    exact ⟨id, named.flushAll⟩
  moveAt request cut _ holds := by
    obtain ⟨id, named⟩ := holds
    exact named.moveAt request cut

/-- The file was opened again, and what it got since is the end of `data`. -/
def StartedOver (id : Nat) (data : Bytes) (state : Output × Medium) : Prop :=
  ∃ kept later, kept <:+ data ∧ later.file = id ∧ state.1.Began state.2.storage later kept

theorem StartedOver.mono {kept data : Bytes} {state : Output × Medium}
    (restarted : StartedOver id kept state) (less : kept <:+ data) : StartedOver id data state := by
  obtain ⟨last, later, rest, file, began⟩ := restarted
  exact ⟨last, later, rest.trans less, file, began⟩

theorem Named.moveAt_again (named : Named opener id output medium.storage)
    (asked : output.request.isSome) (request : Request)
    (same : Path.same output.path (opener.resolve request.name) = true) (cut : Nat) :
    let moved := (output.moveAt medium request cut).2
    (moved.1.Stranded ∧ Named opener id moved.1 moved.2.storage ∧ moved.1.path = output.path
        ∧ moved.1.request = output.request ∧ moved.1.buffer.content <:+ output.buffer.content
        ∧ ¬ (opener.resolve request.name = output.path ∧ opener.isAuthorized request.token = true))
      ∨ moved.1.Settled ∧ StartedOver id output.buffer.content moved := by
  obtain ⟨result, storage, opened⟩ : ∃ result storage,
      opener.openFile (output.release medium cut).2.storage request.name request.token
        = (result, storage) := ⟨_, _, rfl⟩
  have still : (output.release medium cut).2.storage.tree.Leads output.path id := by
    rw [tree_release]
    exact named.leads
  have source := named.openFile opened
  cases result with
  | error error =>
    obtain ⟨left, path, request⟩ := named.moveAt_refused opened
    obtain ⟨stranded, content⟩ := Output.moveAt_refused asked source
    refine .inl ⟨stranded, left, path, request, ?_, ?_⟩
    · rw [content]
      exact List.drop_suffix ..
    · rintro ⟨resolves, allowed⟩
      rw [← resolves] at still
      rw [FileOpener.openFile_again allowed still] at opened
      cases opened
  | ok destination =>
    have file := FileOpener.openFile_same still same opened
    obtain ⟨settled, -, later, again, began⟩ := moveAt_opened source
    exact .inr ⟨settled, _, later, List.drop_suffix .., again.trans file, began⟩

theorem Named.forceSwitch_again (named : Named opener id output medium.storage)
    {request : Request} (waits : output.request = some request)
    (same : Path.same output.path (opener.resolve request.name) = true) :
    (output.forceSwitch medium).1.destination = none
        ∧ ¬ (opener.resolve request.name = output.path ∧ opener.isAuthorized request.token = true)
      ∨ StartedOver id output.buffer.content (output.forceSwitch medium) := by
  let searched : Output := { output with request := some (request.after output) }
  have asking : Named opener id searched medium.storage := named.asking _
  have asked : searched.request.isSome := rfl
  have moved (cut : Nat) := asking.moveAt_again asked (request.after output) same cut
  cases found : output.policy.findCut output.buffer.content with
  | some cut =>
    rw [forceSwitch, tryCut_of_found waits (.inr rfl) found]
    rcases moved cut with ⟨stranded, -, -, -, -, refusal⟩ | ⟨-, restarted⟩
    · exact .inl ⟨stranded.shut, refusal⟩
    · exact .inr restarted
  | none =>
    rw [forceSwitch, tryCut_of_given_up waits (.inr rfl) found (.inl rfl)]
    rcases moved 0 with ⟨stranded, -, -, -, -, refusal⟩ | ⟨-, restarted⟩
    · exact .inl ⟨stranded.shut, refusal⟩
    · exact .inr restarted

theorem flushAll_request (output : Output) (medium : Medium) :
    (output.flushAll medium).1.request = output.request
      ∧ (output.flushAll medium).1.path = output.path
      ∧ (output.flushAll medium).1.buffer.content = [] := by
  unfold flushAll writeOut
  split <;> exact ⟨rfl, rfl, rfl⟩

/-- However long it takes to find a cut, in the end the file being recorded is started over. -/
theorem Named.switch_again (named : Named opener id output medium.storage)
    {request : Request} (waits : output.request = some request)
    (same : Path.same output.path (opener.resolve request.name) = true) :
    let tried := (output.tryCut medium false).2
    let forced := tried.1.forceSwitch tried.2
    (forced.1.destination = none
        ∧ ¬ (opener.resolve request.name = output.path ∧ opener.isAuthorized request.token = true))
      ∨ StartedOver id output.buffer.content forced := by
  let searched : Output := { output with request := some (request.after output) }
  have asking : Named opener id searched medium.storage := named.asking _
  have asked : searched.request.isSome := rfl
  -- a move that is refused is tried once more by the force, with what is left of the buffer
  have moved (cut : Nat) :
      let moved := (searched.moveAt medium (request.after output) cut).2
      let forced := moved.1.forceSwitch moved.2
      (forced.1.destination = none
          ∧ ¬ (opener.resolve request.name = output.path ∧ opener.isAuthorized request.token = true))
        ∨ StartedOver id output.buffer.content forced := by
    rcases asking.moveAt_again asked (request.after output) same cut with
      ⟨-, left, path, waiting, less, refusal⟩ | ⟨settled, restarted⟩
    · rcases left.forceSwitch_again waiting (by rw [path]; exact same) with ⟨shut, -⟩ | restarted
      · exact .inl ⟨shut, refusal⟩
      · exact .inr (restarted.mono less)
    · right
      rw [forceSwitch, tryCut_of_idle settled.idle]
      exact restarted
  by_cases empty : output.buffer.content = []
  · dsimp only
    rw [tryCut_of_empty empty]
    exact named.forceSwitch_again waits same
  · cases found : output.policy.findCut output.buffer.content with
    | some cut =>
      dsimp only
      rw [tryCut_of_found waits (.inl empty) found]
      exact moved cut
    | none =>
      dsimp only
      by_cases beyond : output.scanLimit < (request.after output).scanned
      · rw [tryCut_of_given_up waits (.inl empty) found (.inr beyond)]
        exact moved 0
      · obtain ⟨waiting, path, nothing⟩ := flushAll_request searched medium
        rw [tryCut_of_missing waits empty found beyond]
        rcases asking.flushAll.forceSwitch_again waiting (by rw [path]; exact same) with
          ⟨shut, refusal⟩ | restarted
        · rw [path] at refusal
          exact .inl ⟨shut, refusal⟩
        · refine .inr (restarted.mono ?_)
          rw [nothing]
          exact List.nil_suffix

theorem startSwitch_of_refused
    (refused : output.closed = true ∨ output.request.isSome = true ∨ output.path = name)
    (medium : Medium) (token : UInt32) :
    output.startSwitch medium name token = (false, output, medium) := by
  have guard : (output.closed || output.request.isSome || output.path == name) = true := by
    simpa [Bool.or_eq_true, or_assoc] using refused
  rw [startSwitch, if_pos guard]

theorem startSwitch_of_accepted (underway : output.closed = false) (idle : output.request = none)
    (other : output.path ≠ name) (medium : Medium) (token : UInt32) :
    output.startSwitch medium name token =
      (true, (Output.tryCut { output with request := some ⟨name, token, 0⟩ } medium false).2) := by
  simp [startSwitch, underway, idle, other]

/--
A switch to the file that is being recorded is refused only while another request waits or where the
name spells the current path, which a name that is resolved against a directory never does. Otherwise
it ends with that file holding nothing but bytes that waited, unless it cannot be opened any more.
-/
theorem self_switch_refused_iff {φ : Type} (setup : Session.Setup φ) (recording : Nat)
    (medium : Medium) (opener : FileOpener) (source : setup.opener = .files opener)
    {before : Storage} {path : String}
    (created : before.create path = (.ok setup.destination, medium.storage))
    (operations : List Operation)
    (isOpen : (run operations (setup.newOutput recording, medium)).1.destination
      = some destination) (name : String) (token : UInt32)
    (same : Path.same (run operations (setup.newOutput recording, medium)).1.path
      (opener.resolve name) = true) :
    let now := run operations (setup.newOutput recording, medium)
    let asked := now.1.startSwitch now.2 name token
    let forced := asked.2.1.forceSwitch asked.2.2
    (asked.1 = false ↔ now.1.request.isSome ∨ now.1.path = name)
      ∧ (asked.1 = false → asked = (false, now))
      ∧ (opener.resolve name = now.1.path → (now.1.path = name
        ↔ opener.base = none ∨ opener.base = some "" ∨ Path.isAbsolute name = true))
      ∧ (asked.1 = true →
        forced.1.destination = none
            ∧ ¬ (opener.resolve name = now.1.path ∧ opener.isAuthorized token = true)
          ∨ StartedOver destination.file now.1.buffer.content forced) := by
  have start : ∃ id, Named opener id (setup.newOutput recording) medium.storage := by
    refine ⟨setup.destination.file, source, rfl, ?_, ?_⟩
    · have leads := create_leads created
      rw [← (create_fresh created).2] at leads
      exact leads
    · intro other current
      cases current
      rfl
  obtain ⟨id, named⟩ := (named_invariant opener).run [] start operations fun _ _ => trivial
  generalize run operations (setup.newOutput recording, medium) = now at isOpen same named
  have file : destination.file = id := named.current destination isOpen
  have spelled : opener.resolve name = now.1.path → (now.1.path = name
      ↔ opener.base = none ∨ opener.base = some "" ∨ Path.isAbsolute name = true) := by
    intro resolves
    rw [← resolves]
    exact opener.resolve_eq_self_iff name
  dsimp only
  by_cases refused : now.1.request.isSome = true ∨ now.1.path = name
  · rw [startSwitch_of_refused (.inr refused)]
    exact ⟨⟨fun _ => refused, fun _ => rfl⟩, fun _ => rfl, spelled, nofun⟩
  · rw [not_or, Option.not_isSome_iff_eq_none] at refused
    obtain ⟨idle, other⟩ := refused
    rw [startSwitch_of_accepted named.underway idle other]
    refine ⟨⟨nofun, ?_⟩, nofun, spelled, fun _ => ?_⟩
    · rintro (asked | same)
      · rw [idle] at asked
        cases asked
      · exact absurd same other
    · rw [file]
      exact (named.asking ⟨name, token, 0⟩).switch_again rfl same

def basedSetup : Session.Setup Unit where
  destination := ⟨0, 0, "/rec/a.ts"⟩
  factory := ()
  opener := .files ⟨some "/rec", none⟩
  output := .transport
  capture := .other
  delivery := .unknown
  tuning := .automatic
  config := .standard
  registered := false

def basedMedium : Medium :=
  ⟨((Storage.empty []).create "/rec/a.ts").2, .empty⟩

def based : Output × Medium :=
  run [.append [1, 2, 3], .flush, .append [4]] (basedSetup.newOutput 0, basedMedium)

theorem self_switch_in_base :
    based.1.destination = some ⟨0, 3, "/rec/a.ts"⟩ ∧ based.2.storage.content 0 = [1, 2, 3] ∧
      let asked := based.1.startSwitch based.2 "a.ts" 0
      ¬ (based.1.request.isSome ∨ based.1.path = "a.ts") ∧ asked.1 = true
        ∧ StartedOver 0 [4] (asked.2.1.forceSwitch asked.2.2) := by
  have created : (Storage.empty []).create "/rec/a.ts"
      = (.ok basedSetup.destination, basedMedium.storage) := by
    refine Prod.ext ?_ rfl
    decide +kernel
  have isOpen : based.1.destination = some ⟨0, 3, "/rec/a.ts"⟩ := by decide +kernel
  have same : Path.same based.1.path (FileOpener.resolve ⟨some "/rec", none⟩ "a.ts") = true := by
    decide +kernel
  obtain ⟨refused, -, -, outcome⟩ := self_switch_refused_iff basedSetup 0 basedMedium
    ⟨some "/rec", none⟩ rfl created [.append [1, 2, 3], .flush, .append [4]] isOpen "a.ts" 0 same
  have asked : (based.1.startSwitch based.2 "a.ts" 0).1 = true := by decide +kernel
  have waits : based.1.buffer.content = [4] := by decide +kernel
  have resolves : FileOpener.resolve ⟨some "/rec", none⟩ "a.ts" = based.1.path := by decide +kernel
  refine ⟨isOpen, by decide +kernel, ?_, asked, ?_⟩
  · intro reason
    exact Bool.noConfusion (asked.symm.trans (refused.mpr reason))
  · rw [← waits]
    rcases outcome asked with ⟨-, refusal⟩ | restarted
    · exact absurd ⟨resolves, rfl⟩ refusal
    · exact restarted

/-- The name of the file being recorded is accepted, and what was written to the file is gone. -/
theorem self_switch_overwrites :
    let opener : FileOpener := ⟨some "/rec", none⟩
    let asked := based.1.startSwitch based.2 "a.ts" 0
    based.1.destination = some ⟨0, 3, "/rec/a.ts"⟩ ∧ opener.resolve "a.ts" = based.1.path
      ∧ based.2.storage.content 0 = [1, 2, 3]
      ∧ asked.1 = true ∧ asked.2.2.storage.content 0 = [4] := by
  decide +kernel

end MpegRecorder.Output
