import MpegRecorder.Proofs.Output.Circular
import MpegRecorder.Proofs.Output.History
import MpegRecorder.Proofs.Output.PacketCut
import MpegRecorder.Proofs.Output.Stranded

/-!
The search for a splice point, from the request on. Each flush searches what waits by itself: what it finds
nothing in goes to the destination that is to be left, and at the first packet found the recording moves.
What the two destinations are handed is followed through every operation of a run.
-/

namespace MpegRecorder.Output

open Storage Transport

def Handed (start : Writer) (pieces : List Bytes) (state : Output × Medium) : Prop :=
  ∃ destination, state.1.destination = some destination
    ∧ start.writeAll pieces = ⟨state.1.ring, state.1.counters, destination, state.2.storage⟩

theorem Writer.writeAll_kept (writer : Writer) (pieces : List Bytes) :
    writer.Kept (writer.writeAll pieces) := by
  induction pieces generalizing writer with
  | nil => exact .refl writer
  | cons piece later ih => exact (writer.write_kept piece).trans (ih _)

theorem Writer.writeAll_ready (writer : Writer) (off : writer.ring.limit = 0)
    (ready : writer.storage.Ready writer.destination) (pieces : List Bytes) :
    writer.Wrote (writer.writeAll pieces) pieces.flatten := by
  induction pieces generalizing writer with
  | nil => exact ⟨rfl, rfl, ready, .refl ..⟩
  | cons piece later ih =>
    obtain ⟨after, finished, wrote⟩ := writer.write_ready off ready piece
    have rest := ih after (wrote.ring.trans off) wrote.ready
    rw [Writer.writeAll, List.foldl_cons, finished]
    exact wrote.trans rest

section Handed

variable {start : Writer} {pieces : List Bytes} {output : Output} {medium : Medium}

theorem Handed.writeOut (handed : Handed start pieces (output, medium)) (data : Bytes) :
    Handed start (pieces ++ [data]) (output.writeOut medium data) := by
  obtain ⟨destination, isOpen, wrote⟩ := handed
  have next : start.writeAll (pieces ++ [data]) = ((start.writeAll pieces).write data).2 := by
    rw [Writer.writeAll, List.foldl_append]
    rfl
  have current : output.destination = some destination := isOpen
  simp only [Output.writeOut, current]
  refine ⟨_, rfl, ?_⟩
  rw [next, wrote]

theorem Handed.flushAll (handed : Handed start pieces (output, medium)) :
    Handed start (pieces ++ [output.buffer.content]) (output.flushAll medium) := by
  have cleared : Handed start pieces ({ output with buffer := output.buffer.clear }, medium) := handed
  exact cleared.writeOut _

theorem Handed.closeDestination (handed : Handed start pieces (output, medium)) :
    let old := start.writeAll pieces
    (output.closeDestination medium).1.ring = old.ring
      ∧ (output.closeDestination medium).1.counters = old.counters
      ∧ (output.closeDestination medium).2.storage = (old.storage.close old.destination).2 := by
  obtain ⟨destination, isOpen, wrote⟩ := handed
  have current : output.destination = some destination := isOpen
  intro old
  simp only [old, wrote, Output.closeDestination, current, and_self]

theorem Handed.release (handed : Handed start pieces (output, medium)) (cut : Nat) :
    let old := start.writeAll (pieces ++ [output.buffer.content.take cut])
    (output.release medium cut).1.ring = old.ring
      ∧ (output.release medium cut).1.counters = old.counters
      ∧ (output.release medium cut).2.storage = (old.storage.close old.destination).2 := by
  have parted : Handed start pieces ({ output with buffer := (output.buffer.splitTo cut).2 }, medium) :=
    handed
  exact (parted.writeOut (output.buffer.splitTo cut).1).closeDestination

end Handed

theorem cutEvents_of_found {output : Output} {request : Request} {force : Bool}
    (waits : output.request = some request) (filled : output.buffer.content ≠ [] ∨ force = true)
    {cut : Nat} (found : output.policy.findCut output.buffer.content = some cut) (medium : Medium) :
    output.cutEvents medium force =
      { output with request := some (request.after output) }.moveEvents medium
        (request.after output) cut := by
  have searches : (output.buffer.content.isEmpty && !force) = false := by
    rcases filled with filled | rfl
    · simp [filled]
    · simp
  simp only [cutEvents, waits, searches, found, Bool.false_eq_true, ↓reduceIte]

def viewed (output : Output) : List Bytes :=
  if output.request.isSome ∧ output.buffer.content ≠ [] then [output.buffer.content] else []

/-- The views that an operation searches for a splice point, and moves at none but a splice point. -/
def Operation.viewed : Operation → Output × Medium → List Bytes
  | append data, (output, _) => if output.buffer.remaining < data.length then output.viewed else []
  | flush, (output, _) => output.viewed
  | startSwitch name token, (output, _) =>
    if output.closed || output.request.isSome || output.path == name then []
    else { output with request := some ⟨name, token, 0⟩ }.viewed
  | _, _ => []

structure Hunt where
  family : Elementary.Family
  videoPid : UInt16
  name : String
  token : UInt32
  /-- The writer of the destination that is left, when the search begins. -/
  old : Writer
  opener : Opener
  limit : Nat

namespace Hunt

def request (hunt : Hunt) (scanned : Nat) : Request :=
  ⟨hunt.name, hunt.token, scanned⟩

/-- Nothing was found in the views so far, which went to the old destination. -/
structure Searching (hunt : Hunt) (views : List Bytes) (total : Bytes) (state : Output × Medium) :
    Prop where
  policy : state.1.policy.findCut = findPacketCut hunt.family hunt.videoPid
  opener : state.1.opener = hunt.opener
  limit : state.1.scanLimit = hunt.limit
  asked : state.1.request = some (hunt.request views.flatten.length)
  handed : Handed hunt.old views state
  missed : ∀ view ∈ views, Whole view ∧ firstEntry hunt.family hunt.videoPid view = none
  whole : Whole state.1.buffer.content
  complete : views.flatten ++ state.1.buffer.content = total

/--
A packet of the last view was the first to be found. The old destination was handed everything in front
of it and closed, and the new one everything from it on.
-/
structure Moved (hunt : Hunt) (earlier : List Bytes) (last : Bytes) (count : Nat) (total : Bytes)
    (state : Output × Medium) : Prop where
  idle : state.1.request = none
  missed : ∀ view ∈ earlier, Whole view ∧ firstEntry hunt.family hunt.videoPid view = none
  found : Whole last ∧ firstEntry hunt.family hunt.videoPid last = some count
  searched : earlier.flatten ++ last <+: total
  spliced :
    let old := hunt.old.writeAll (earlier ++ [last.take (packetSize * count)])
    ∃ destination opener storage pieces,
      hunt.opener.openFile (old.storage.close old.destination).2 hunt.name hunt.token =
          (.ok destination, opener, storage)
        ∧ Handed ⟨old.ring.restart, old.counters.startDestination, destination, storage⟩ pieces state
        ∧ earlier.flatten ++ last.take (packetSize * count)
          ++ (pieces.flatten ++ state.1.buffer.content) = total

variable {hunt : Hunt} {views : List Bytes} {total : Bytes} {output : Output} {medium : Medium}

theorem opened_of_granted {request : Request} {cut : Nat}
    (granted : .refused request.name request.token ∉ output.moveEvents medium request cut) :
    ∃ destination opener storage,
      (output.release medium cut).1.opener.openFile (output.release medium cut).2.storage
        request.name request.token = (.ok destination, opener, storage) := by
  obtain ⟨result, opener, storage, opened⟩ : ∃ result opener storage,
      (output.release medium cut).1.opener.openFile (output.release medium cut).2.storage
        request.name request.token = (result, opener, storage) := ⟨_, _, _, rfl⟩
  cases result with
  | ok destination => exact ⟨destination, opener, storage, opened⟩
  | error error =>
    refine absurd ?_ granted
    rw [moveEvents, opened]
    exact List.mem_append_right _ (List.mem_singleton_self _)

theorem moved_of_found (searching : hunt.Searching views total (output, medium)) {count : Nat}
    (found : firstEntry hunt.family hunt.videoPid output.buffer.content = some count)
    {request : Request} (name : request.name = hunt.name) (token : request.token = hunt.token)
    (granted : .refused request.name request.token ∉
      { output with request := some request }.moveEvents medium request (packetSize * count)) :
    hunt.Moved views output.buffer.content count total
      ({ output with request := some request }.moveAt medium request (packetSize * count)).2 := by
  let asking : Output := { output with request := some request }
  have handed : Handed hunt.old views (asking, medium) := searching.handed
  obtain ⟨destination, opener, storage, opened⟩ := opened_of_granted granted
  obtain ⟨ring, counters, stored⟩ := handed.release (packetSize * count)
  have released := asking.release_released medium (packetSize * count)
  rw [released.opener] at opened
  obtain ⟨same, after⟩ := moveAt_enter opened
  obtain ⟨settled, empty, -⟩ := moveAt_opened opened
  let entered := (asking.release medium (packetSize * count)).1.enter opener destination
  have start : Handed ⟨entered.ring, entered.counters, destination, storage⟩ []
      (entered, { (asking.release medium (packetSize * count)).2 with storage }) :=
    ⟨destination, rfl, rfl⟩
  obtain ⟨last, isOpen, wrote⟩ := start.flushAll
  refine ⟨settled.idle, searching.missed, ⟨searching.whole, found⟩, ?_, destination, opener, storage,
    [output.buffer.content.drop (packetSize * count)], ?_, ⟨last, ?_, ?_⟩, ?_⟩
  · exact searching.complete ▸ List.prefix_rfl
  · rw [← stored, ← searching.opener, ← name, ← token]
    exact opened
  · rw [same]
    exact isOpen
  · rw [← ring, ← counters, same, after]
    exact released.content ▸ wrote
  · rw [empty, List.append_nil, List.flatten_singleton, List.append_assoc, List.take_append_drop]
    exact searching.complete

theorem Searching.missing (searching : hunt.Searching views total (output, medium))
    (missing : firstEntry hunt.family hunt.videoPid output.buffer.content = none) :
    hunt.Searching (views ++ [output.buffer.content]) total
      ({ output with
        request := some (hunt.request (views ++ [output.buffer.content]).flatten.length) }.flushAll
          medium) := by
  have handed : Handed hunt.old views ({ output with
      request := some (hunt.request (views ++ [output.buffer.content]).flatten.length) }, medium) :=
    searching.handed
  obtain ⟨destination, isOpen, -⟩ := searching.handed
  have current : output.destination = some destination := isOpen
  refine ⟨?policy, ?opener, ?limit, ?asked, handed.flushAll, ?missed, ?whole, ?complete⟩
  case missed =>
    intro view member
    rcases List.mem_append.mp member with earlier | last
    · exact searching.missed view earlier
    · rw [List.mem_singleton.mp last]
      exact ⟨searching.whole, missing⟩
  all_goals simp only [flushAll, writeOut, current]
  case policy => exact searching.policy
  case opener => exact searching.opener
  case limit => exact searching.limit
  case whole => exact .nil
  case complete =>
    rw [List.flatten_append, List.flatten_singleton]
    exact (List.append_nil _).trans searching.complete

theorem Searching.flush (searching : hunt.Searching views total (output, medium))
    (granted : ∀ name token, .refused name token ∉ output.flushEvents medium)
    (within : (views ++ output.viewed).flatten.length ≤ hunt.limit) :
    hunt.Searching (views ++ output.viewed) total (output.flush medium)
      ∨ ∃ last count, output.viewed = [last]
        ∧ hunt.Moved views last count total (output.flush medium) := by
  have waits : output.request = some (hunt.request views.flatten.length) := searching.asked
  have asked : output.request.isSome = true := by rw [waits]; rfl
  have flushes : output.flush medium = (output.tryCut medium false).2 := by
    rw [Output.flush, if_pos asked]
  have events : output.flushEvents medium = output.cutEvents medium false := by
    rw [flushEvents, if_pos asked]
  rw [events] at granted
  rw [flushes]
  by_cases empty : output.buffer.content = []
  · have nothing : output.viewed = [] := by simp [viewed, empty]
    rw [nothing, List.append_nil, tryCut_of_empty empty]
    exact .inl searching
  · have one : output.viewed = [output.buffer.content] := by
      rw [viewed, if_pos ⟨asked, empty⟩]
    rw [one] at within ⊢
    have finds : output.policy.findCut output.buffer.content =
        (firstEntry hunt.family hunt.videoPid output.buffer.content).map (packetSize * ·) := by
      rw [← findPacketCut_of_whole searching.whole, ← searching.policy]
    cases found : firstEntry hunt.family hunt.videoPid output.buffer.content with
    | some count =>
      rw [found] at finds
      rw [cutEvents_of_found waits (.inl empty) finds] at granted
      rw [tryCut_of_found waits (.inl empty) finds]
      exact .inr ⟨_, count, rfl, moved_of_found searching found rfl rfl (granted _ _)⟩
    | none =>
      rw [found] at finds
      have scanned : (hunt.request views.flatten.length).after output =
          hunt.request (views ++ [output.buffer.content]).flatten.length := by
        rw [Request.after, List.flatten_append, List.flatten_singleton, List.length_append]
        rfl
      have under : ¬ output.scanLimit < ((hunt.request views.flatten.length).after output).scanned := by
        rw [scanned, searching.limit]
        exact Nat.not_lt.mpr within
      rw [tryCut_of_missing waits empty finds under, scanned]
      exact .inl (searching.missing found)

theorem Searching.extend (searching : hunt.Searching views total (output, medium)) {buffer : Buffer}
    {data : Bytes} (grown : buffer.content = output.buffer.content ++ data) (whole : Whole data) :
    hunt.Searching views (total ++ data) ({ output with buffer }, medium) where
  policy := searching.policy
  opener := searching.opener
  limit := searching.limit
  asked := searching.asked
  handed := searching.handed
  missed := searching.missed
  whole := by
    rw [grown]
    exact searching.whole.append whole
  complete := by
    rw [grown, ← searching.complete, List.append_assoc]

theorem Moved.extend {earlier : List Bytes} {last : Bytes} {count : Nat}
    (moved : hunt.Moved earlier last count total (output, medium)) {buffer : Buffer} {data : Bytes}
    (grown : buffer.content = output.buffer.content ++ data) :
    hunt.Moved earlier last count (total ++ data) ({ output with buffer }, medium) where
  idle := moved.idle
  missed := moved.missed
  found := moved.found
  searched := moved.searched.trans (List.prefix_append ..)
  spliced := by
    obtain ⟨destination, opener, storage, pieces, opened, handed, complete⟩ := moved.spliced
    refine ⟨destination, opener, storage, pieces, opened, handed, ?_⟩
    rw [grown, ← complete]
    simp only [List.append_assoc]

theorem Moved.flush {earlier : List Bytes} {last : Bytes} {count : Nat}
    (moved : hunt.Moved earlier last count total (output, medium)) :
    hunt.Moved earlier last count total (output.flush medium) := by
  have idle : output.request = none := moved.idle
  obtain ⟨destination, opener, storage, pieces, opened, handed, complete⟩ := moved.spliced
  have ⟨current, isOpen, _⟩ := handed
  have here : output.destination = some current := isOpen
  have flushed : output.flush medium = output.flushAll medium := by
    simp [Output.flush, idle]
  have still : (output.flushAll medium).1.request = none ∧
      (output.flushAll medium).1.buffer.content = [] := by
    simp only [flushAll, writeOut, here]
    exact ⟨idle, rfl⟩
  rw [flushed]
  refine ⟨still.1, moved.missed, moved.found, moved.searched, destination, opener, storage,
    pieces ++ [output.buffer.content], opened, handed.flushAll, ?_⟩
  rw [still.2, ← complete]
  simp

variable {state : Output × Medium}

theorem Searching.perform (searching : hunt.Searching views total state)
    {operation : Operation} (feeds : operation.Feeds) (whole : Whole operation.data)
    (granted : ∀ name token, .refused name token ∉ operation.events state)
    (within : (views ++ operation.viewed state).flatten.length ≤ hunt.limit) :
    hunt.Searching (views ++ operation.viewed state) (total ++ operation.data)
        (operation.perform state)
      ∨ ∃ last count, operation.viewed state = [last]
        ∧ hunt.Moved views last count (total ++ operation.data)
          (operation.perform state) := by
  obtain ⟨output, medium⟩ := state
  cases operation with
  | append data =>
    by_cases full : output.buffer.remaining < data.length
    · simp only [Operation.viewed, Operation.events, if_pos full] at granted within ⊢
      rw [Operation.perform, append_of_full full]
      have grown : (((output.flush medium).1.buffer.makeRoom data.length).extend data).content =
          (output.flush medium).1.buffer.content ++ data :=
        congrArg (· ++ data) (Buffer.content_makeRoom ..)
      rcases searching.flush granted within with still | ⟨last, count, one, moved⟩
      · exact .inl (still.extend grown whole)
      · exact .inr ⟨last, count, one, moved.extend grown⟩
    · simp only [Operation.viewed, if_neg full, List.append_nil]
      rw [Operation.perform, append_of_room full]
      exact .inl (searching.extend rfl whole)
  | flush =>
    simp only [Operation.data, List.append_nil]
    exact searching.flush granted within
  | _ => exact feeds.elim

variable {earlier : List Bytes} {last : Bytes} {count : Nat}

theorem Moved.perform (moved : hunt.Moved earlier last count total state)
    {operation : Operation} (feeds : operation.Feeds) :
    operation.viewed state = []
      ∧ hunt.Moved earlier last count (total ++ operation.data)
        (operation.perform state) := by
  obtain ⟨output, medium⟩ := state
  have nothing : output.viewed = [] := by
    have idle : output.request = none := moved.idle
    simp [viewed, idle]
  cases operation with
  | append data =>
    by_cases full : output.buffer.remaining < data.length
    · have grown : (((output.flush medium).1.buffer.makeRoom data.length).extend data).content =
          (output.flush medium).1.buffer.content ++ data :=
        congrArg (· ++ data) (Buffer.content_makeRoom ..)
      rw [Operation.viewed, if_pos full, Operation.perform, append_of_full full]
      exact ⟨nothing, moved.flush.extend grown⟩
    · rw [Operation.viewed, if_neg full, Operation.perform, append_of_room full]
      exact ⟨rfl, moved.extend rfl⟩
  | flush =>
    simp only [Operation.data, List.append_nil]
    exact ⟨nothing, moved.flush⟩
  | _ => exact feeds.elim

theorem Moved.run (moved : hunt.Moved earlier last count total state)
    {operations : List Operation} (feeding : ∀ operation ∈ operations, operation.Feeds) :
    along Operation.viewed operations state = []
      ∧ hunt.Moved earlier last count (total ++ appended operations)
        (Output.run operations state) := by
  induction operations generalizing state total with
  | nil =>
    rw [appended, List.flatMap_nil, List.append_nil]
    exact ⟨rfl, moved⟩
  | cons operation rest ih =>
    obtain ⟨nothing, next⟩ := moved.perform (feeding operation (List.mem_cons_self ..))
    obtain ⟨others, done⟩ :=
      ih next fun other member => feeding other (List.mem_cons_of_mem _ member)
    rw [along, nothing, appended, List.flatMap_cons, ← List.append_assoc]
    exact ⟨others, done⟩

theorem Searching.run (searching : hunt.Searching views total state)
    {operations : List Operation} (feeding : ∀ operation ∈ operations, operation.Feeds)
    (whole : ∀ operation ∈ operations, Whole operation.data)
    (granted : ∀ name token, .refused name token ∉ along Operation.events operations state)
    (within : (views ++ along Operation.viewed operations state).flatten.length
      ≤ hunt.limit) :
    let all := views ++ along Operation.viewed operations state
    hunt.Searching all (total ++ appended operations) (Output.run operations state)
      ∨ ∃ earlier last count, all = earlier ++ [last]
        ∧ hunt.Moved earlier last count (total ++ appended operations)
          (Output.run operations state) := by
  induction operations generalizing state total views with
  | nil =>
    rw [appended, List.flatMap_nil, List.append_nil, along, List.append_nil]
    exact .inl searching
  | cons operation rest ih =>
    have feeds := feeding operation (List.mem_cons_self ..)
    have others : ∀ other ∈ rest, other.Feeds :=
      fun other member => feeding other (List.mem_cons_of_mem _ member)
    rw [along] at granted within ⊢
    rw [← List.append_assoc] at within
    rw [appended, List.flatMap_cons, ← List.append_assoc, ← List.append_assoc]
    have first : (views ++ operation.viewed state).flatten.length ≤ hunt.limit := by
      rw [List.flatten_append, List.length_append] at within
      exact Nat.le_of_add_right_le within
    rcases searching.perform feeds (whole operation (List.mem_cons_self ..))
      (fun name token member => granted name token (List.mem_append_left _ member)) first with
      next | ⟨last, count, one, moved⟩
    · exact ih next others (fun other member => whole other (List.mem_cons_of_mem _ member))
        (fun name token member => granted name token (List.mem_append_right _ member)) within
    · obtain ⟨nothing, done⟩ := moved.run others
      rw [one, nothing, List.append_nil]
      exact .inr ⟨views, last, count, rfl, done⟩

theorem Moved.contents (moved : hunt.Moved earlier last count total state)
    (off : hunt.old.ring.limit = 0) (ready : hunt.old.storage.Ready hunt.old.destination)
    {current : Destination} {behaviour : Behaviour} (isOpen : state.1.destination = some current)
    (behaves : state.2.storage.behaviour? current.file = some behaviour) (accepts : behaviour.Accepts)
    (apart : current.file ≠ hunt.old.destination.file) :
    let before := earlier.flatten ++ last.take (packetSize * count)
    state.2.storage.content hunt.old.destination.file =
        hunt.old.storage.content hunt.old.destination.file ++ before
      ∧ before ++ (state.2.storage.content current.file ++ state.1.buffer.content) = total := by
  obtain ⟨opened, opener, storage, pieces, granted, ⟨destination, same, wrote⟩, complete⟩ :=
    moved.spliced
  cases Option.some.inj (same.symm.trans isOpen)
  have old := hunt.old.writeAll_ready off ready (earlier ++ [last.take (packetSize * count)])
  let start : Writer := ⟨(hunt.old.writeAll (earlier ++ [last.take (packetSize * count)])).ring.restart,
    (hunt.old.writeAll (earlier ++ [last.take (packetSize * count)])).counters.startDestination,
    opened, storage⟩
  have kept := start.writeAll_kept pieces
  have fresh : storage.Fresh opened := Opener.openFile_fresh granted
  rw [wrote] at kept
  have place : current.file = opened.file := kept.file
  rw [kept.behaviour, place, behaviour?, Option.map_eq_some_iff] at behaves
  obtain ⟨file, found, rfl⟩ := behaves
  have atEnd : opened.position = file.content.size := by
    rw [fresh.start, ← Packed.length_toList, ← content_of_getElem? found, fresh.empty, List.length_nil]
  have new := start.writeAll_ready (old.ring.trans off) ⟨file, found, accepts, atEnd⟩ pieces
  rw [wrote] at new
  rw [place] at apart ⊢
  have held : state.2.storage.content opened.file = pieces.flatten :=
    calc state.2.storage.content opened.file
        = storage.content opened.file ++ pieces.flatten := new.grown.content
      _ = pieces.flatten := by rw [fresh.empty, List.nil_append]
  constructor
  · calc state.2.storage.content hunt.old.destination.file
        = storage.content hunt.old.destination.file := content_congr (new.grown.others _ apart.symm)
      _ = _ := content_congr (Opener.openFile_others granted apart.symm)
      _ = _ := content_close ..
      _ = hunt.old.storage.content hunt.old.destination.file
          ++ (earlier ++ [last.take (packetSize * count)]).flatten := old.grown.content
      _ = _ := by rw [List.flatten_append, List.flatten_singleton]
  · rw [held, complete]

end Hunt

end MpegRecorder.Output
