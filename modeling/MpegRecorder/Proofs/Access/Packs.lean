import MpegRecorder.Proofs.Access.Packets
import MpegRecorder.Proofs.Access.Units
import MpegRecorder.Proofs.Pack.Streams

/-!
The muxer, with its streams found by their places. A place is looked up once for each packet and holds until
the packet is done, since what a unit emits leaves the streams as they are.
-/

namespace MpegRecorder.Access

open Elementary Pack Transport

def emit (muxer : Muxer) (unit : Bytes) : Except Fault (Bytes × Muxer) := do
  match ← unitHeader unit with
  | .error _ => return ([], muxer)
  | .ok header =>
    let packs ← unitPacks (muxer.clockAt header) header unit
    return (packs, { muxer with clock := muxer.clockAt header })

def emitPending (muxer : Muxer) (data : Packed) : Except Fault (Bytes × Muxer) :=
  if data.isEmpty then return ([], muxer) else emit muxer data.toList

def trackClock (muxer : Muxer) (view : View) : Except Fault Muxer :=
  if muxer.clockPid = some view.pid then do
    match ← view.clockBase with
    | some base => return { muxer with clock := max muxer.clock base, clockSeen := true }
    | none => return muxer
  else return muxer

def modify (muxer : Muxer) (place : Nat) (step : Assembly → Assembly) : Except Fault Muxer := do
  let assemblies ← change muxer.assemblies place step
  return { muxer with assemblies }

def emitComplete (muxer : Muxer) (place : Nat) : Except Fault (Bytes × Muxer) := do
  let assembly ← index muxer.assemblies place
  match ← unitHeader assembly.data.toList with
  | .error _ => return ([], muxer)
  | .ok header =>
    if header.totalLength.any (· ≤ assembly.data.size) then
      let muxer ← modify muxer place fun assembly => { assembly with data := .empty }
      let (unit, muxer) ← emit muxer assembly.data.toList
      let muxer ← modify muxer place fun assembly => { assembly with started := false }
      return (unit, muxer)
    else return ([], muxer)

def pushPayload (muxer : Muxer) (place : Nat) (unitStart : Bool) (payload : Bytes) :
    Except Fault (Bytes × Muxer) := do
  let assembly ← index muxer.assemblies place
  if unitStart then
    let muxer ← modify muxer place fun assembly => { assembly with data := .empty }
    let (before, muxer) ← emitPending muxer assembly.data
    let muxer ← modify muxer place fun assembly =>
      { assembly with data := .ofList payload, started := true }
    let (unit, muxer) ← emitComplete muxer place
    return (before ++ unit, muxer)
  else if assembly.started then
    let muxer ← modify muxer place fun assembly =>
      { assembly with data := assembly.data.append payload }
    emitComplete muxer place
  else return ([], muxer)

def pushPacket (muxer : Muxer) (view : View) : Except Fault (Bytes × Muxer) := do
  let muxer ← trackClock muxer view
  match muxer.assemblies.findIdx? fun assembly => assembly.pid == view.pid with
  | none => return ([], muxer)
  | some place =>
    match ← view.payload with
    | none => return ([], muxer)
    | some payload => pushPayload muxer place view.unitStart payload

def finishFrom (place : Nat) : (count : Nat) → Bytes × Muxer → Except Fault (Bytes × Muxer)
  | 0, state => return state
  | count + 1, (sent, muxer) => do
    let assembly ← index muxer.assemblies place
    let muxer ← modify muxer place fun assembly => { assembly with data := .empty }
    let (unit, muxer) ← emitPending muxer assembly.data
    let muxer ← modify muxer place fun assembly => { assembly with started := false }
    finishFrom (place + 1) count (sent ++ unit, muxer)

def finish (muxer : Muxer) : Except Fault (Bytes × Muxer) := do
  let (sent, muxer) ← finishFrom 0 muxer.assemblies.length ([], muxer)
  return (sent ++ endCode, muxer)

theorem emit_eq (muxer : Muxer) (unit : Bytes) : emit muxer unit = .ok (muxer.emit unit) := by
  rw [emit, unitHeader_eq, ok_bind, Muxer.emit]
  cases parsed : Pes.Header.parse unit with
  | error error => rfl
  | ok header =>
    dsimp only
    rw [unitPacks_eq _ parsed, ok_bind, pure_eq_ok]

theorem emitPending_eq (muxer : Muxer) (data : Packed) :
    emitPending muxer data = .ok (muxer.emitPending data) := by
  unfold emitPending Muxer.emitPending
  split
  · rfl
  · exact emit_eq muxer data.toList

theorem trackClock_eq (muxer : Muxer) {view : View} {packet : Packet} (shows : view.Shows packet) :
    trackClock muxer view = .ok (muxer.trackClock packet) := by
  simp only [trackClock, Muxer.trackClock, shows.pid, shows.clockBase, ok_bind]
  split
  · cases packet.clockBase <;> rfl
  · rfl

def changed (muxer : Muxer) (place : Nat) (step : Assembly → Assembly) : Muxer :=
  { muxer with assemblies := muxer.assemblies.modify place step }

section Changed

variable {muxer : Muxer} {place : Nat} {assembly : Assembly} {first second : Assembly → Assembly}

theorem modify_eq (there : muxer.assemblies[place]? = some assembly) :
    modify muxer place first = .ok (changed muxer place first) := by
  rw [modify, change_of_lt (List.getElem?_eq_some_iff.mp there).1]
  rfl

theorem getElem?_changed (there : muxer.assemblies[place]? = some assembly) :
    (changed muxer place first).assemblies[place]? = some (first assembly) := by
  rw [changed, List.getElem?_modify_eq, there]
  rfl

theorem changed_changed :
    changed (changed muxer place first) place second = changed muxer place (second ∘ first) := by
  simp only [changed]
  congr 1
  apply List.ext_getElem?
  intro other
  simp only [List.getElem?_modify]
  by_cases same : place = other
  · simp [same, Function.comp_def]
  · simp [same]

theorem emit_changed (unit : Bytes) :
    (changed muxer place first).emit unit =
      ((muxer.emit unit).1, changed (muxer.emit unit).2 place first) := by
  unfold Muxer.emit
  split <;> rfl

theorem emitPending_changed (data : Packed) :
    (changed muxer place first).emitPending data =
      ((muxer.emitPending data).1, changed (muxer.emitPending data).2 place first) := by
  unfold Muxer.emitPending
  split
  · rfl
  · exact emit_changed data.toList

/-- Where each stream has one place, to change it there is to put another one in its stead. -/
theorem changed_eq_put (distinct : muxer.pids.Nodup)
    (there : muxer.assemblies[place]? = some assembly) {later : Muxer}
    (still : later.assemblies = muxer.assemblies) {next : Assembly}
    (reached : first assembly = next) (same : next.pid = assembly.pid) :
    changed later place first = later.put next := by
  have places (position : Nat) : muxer.pids[position]? = muxer.assemblies[position]?.map Assembly.pid :=
    List.getElem?_map
  simp only [changed, Muxer.put, still]
  congr 1
  apply List.ext_getElem?
  intro other
  rw [List.getElem?_modify, List.getElem?_map]
  by_cases here : place = other
  · simp [← here, there, reached, same]
  · cases found : muxer.assemblies[other]? with
    | none => rfl
    | some another =>
      have inside : place < muxer.pids.length := by
        rw [Muxer.pids, List.length_map]
        exact (List.getElem?_eq_some_iff.mp there).1
      have different : another.pid ≠ next.pid := by
        intro equal
        apply here
        apply (List.getElem?_inj inside distinct).mp
        rw [places, places, there, found, Option.map_some, Option.map_some, equal, same]
      simp [here, different]

end Changed

def cleared (assembly : Assembly) : Assembly :=
  ⟨assembly.pid, .empty, false⟩

/-- A unit that is complete leaves; nothing else happens to the streams. -/
theorem emitComplete_eq {muxer : Muxer} {place : Nat} {assembly : Assembly}
    (there : muxer.assemblies[place]? = some assembly) :
    emitComplete muxer place = .ok
      (if Muxer.isComplete assembly.data then
        ((muxer.emit assembly.data.toList).1, changed (muxer.emit assembly.data.toList).2 place cleared)
      else ([], muxer)) := by
  rw [emitComplete, index_of_getElem? there, ok_bind, unitHeader_eq, ok_bind, Muxer.isComplete_eq]
  cases Pes.Header.parse assembly.data.toList with
  | error error => rfl
  | ok header =>
    dsimp only
    change _ = Except.ok (if header.totalLength.any (· ≤ assembly.data.size) = true then _ else _)
    split
    · have left : (muxer.emit assembly.data.toList).2.assemblies[place]? = some assembly := by
        rw [Muxer.assemblies_emit, there]
      rw [modify_eq there, ok_bind, emit_eq, emit_changed, ok_bind,
        modify_eq (getElem?_changed left), ok_bind, changed_changed, pure_eq_ok]
      rfl
    · rfl

theorem pushPayload_eq {muxer : Muxer} {place : Nat} {assembly : Assembly}
    (distinct : muxer.pids.Nodup) (there : muxer.assemblies[place]? = some assembly)
    (unitStart : Bool) (payload : Bytes) :
    pushPayload muxer place unitStart payload = .ok (muxer.pushPayload assembly unitStart payload) := by
  rw [pushPayload, index_of_getElem? there, ok_bind]
  cases unitStart with
  | true =>
    -- The unit before is sent off first; what happens to the place after that is as without a start.
    have same := muxer.assemblies_emitPending assembly.data
    have left : (muxer.emitPending assembly.data).2.assemblies[place]? = some assembly := by
      rw [same, there]
    rw [if_pos rfl, modify_eq there, ok_bind, emitPending_eq, emitPending_changed, ok_bind]
    dsimp only
    rw [modify_eq (getElem?_changed left), ok_bind, changed_changed,
      emitComplete_eq (getElem?_changed left), ok_bind, Muxer.pushPayload_of_under _ (.inl rfl)]
    simp only [Muxer.joined, if_true, Function.comp_apply]
    by_cases complete : Muxer.isComplete (Packed.ofList payload) = true
    · have after := (Muxer.assemblies_emit _ (Packed.ofList payload).toList).trans same
      simp only [if_pos complete, emit_changed, changed_changed]
      rw [changed_eq_put distinct there after rfl rfl]
      rfl
    · simp only [if_neg complete, List.append_nil]
      rw [changed_eq_put distinct there same rfl rfl]
      rfl
  | false =>
    rw [if_neg Bool.false_ne_true]
    by_cases started : assembly.started = true
    · rw [if_pos started, modify_eq there, ok_bind, emitComplete_eq (getElem?_changed there),
        Muxer.pushPayload_of_under _ (.inr started)]
      simp only [Muxer.joined, Bool.false_eq_true, if_false]
      by_cases complete : Muxer.isComplete (assembly.data.append payload) = true
      · have after := muxer.assemblies_emit (assembly.data.append payload).toList
        simp only [if_pos complete, emit_changed, changed_changed]
        rw [changed_eq_put distinct there after rfl rfl]
        rfl
      · simp only [if_neg complete]
        rw [changed_eq_put distinct there rfl rfl rfl, started]
    · rw [if_neg started, Muxer.pushPayload, eq_false_of_ne_true started]
      rfl

theorem pushPacket_eq {muxer : Muxer} (distinct : muxer.pids.Nodup) {view : View} {packet : Packet}
    (shows : view.Shows packet) : pushPacket muxer view = .ok (muxer.pushPacket packet) := by
  have still : (muxer.trackClock packet).pids.Nodup := by
    rw [Muxer.pids_trackClock]
    exact distinct
  rw [pushPacket, trackClock_eq muxer shows, ok_bind, Muxer.pushPacket, Muxer.assembly?,
    List.find?_eq_bind_findIdx?_getElem?, shows.pid, shows.payload, shows.unitStart]
  cases found : (muxer.trackClock packet).assemblies.findIdx? fun assembly =>
      assembly.pid == packet.pid with
  | none => rfl
  | some place =>
    have inside := (List.findIdx?_eq_some_iff_getElem.mp found).1
    have there := List.getElem?_eq_getElem inside
    rw [Option.bind_some, there]
    dsimp only
    rw [ok_bind]
    cases packet.payload with
    | none => rfl
    | some payload => exact pushPayload_eq still there packet.unitStart payload

def sendPending (state : Bytes × Muxer) (assembly : Assembly) : Bytes × Muxer :=
  (state.1 ++ (state.2.emitPending assembly.data).1, (state.2.emitPending assembly.data).2)

theorem assemblies_sendPending (assemblies : List Assembly) (state : Bytes × Muxer) :
    (assemblies.foldl sendPending state).2.assemblies = state.2.assemblies := by
  induction assemblies generalizing state with
  | nil => rfl
  | cons assembly rest ih =>
    rw [List.foldl_cons, ih]
    exact Muxer.assemblies_emitPending ..

theorem sendPending_changed (assemblies : List Assembly) (sent : Bytes) (muxer : Muxer) (place : Nat)
    (step : Assembly → Assembly) :
    assemblies.foldl sendPending (sent, changed muxer place step) =
      ((assemblies.foldl sendPending (sent, muxer)).1,
        changed (assemblies.foldl sendPending (sent, muxer)).2 place step) := by
  induction assemblies generalizing sent muxer with
  | nil => rfl
  | cons assembly rest ih =>
    rw [List.foldl_cons, List.foldl_cons, sendPending, emitPending_changed, ih]
    rfl

theorem modify_middle (front rest : List Assembly) (assembly : Assembly)
    (step : Assembly → Assembly) :
    (front ++ assembly :: rest).modify front.length step = front ++ step assembly :: rest := by
  induction front with
  | nil => rfl
  | cons first front ih => exact congrArg (first :: ·) ih

theorem finishFrom_eq (front rest : List Assembly) (sent : Bytes) (muxer : Muxer)
    (parts : muxer.assemblies = front ++ rest) :
    finishFrom front.length rest.length (sent, muxer) =
      .ok ((rest.foldl sendPending (sent, muxer)).1,
        { (rest.foldl sendPending (sent, muxer)).2 with assemblies := front ++ rest.map cleared }) := by
  induction rest generalizing front sent muxer with
  | nil =>
    rw [List.map_nil, ← parts]
    rfl
  | cons assembly rest ih =>
    have there : muxer.assemblies[front.length]? = some assembly := by
      rw [parts, List.getElem?_append_right (Nat.le_refl _), Nat.sub_self]
      rfl
    have same := muxer.assemblies_emitPending assembly.data
    have left : (muxer.emitPending assembly.data).2.assemblies[front.length]? = some assembly := by
      rw [same, there]
    have next : (changed (muxer.emitPending assembly.data).2 front.length cleared).assemblies =
        (front ++ [cleared assembly]) ++ rest := by
      rw [changed, same, parts, modify_middle, List.append_cons]
    rw [List.length_cons, finishFrom, index_of_getElem? there, ok_bind, modify_eq there, ok_bind,
      emitPending_eq, emitPending_changed, ok_bind]
    dsimp only
    rw [modify_eq (getElem?_changed left), ok_bind, changed_changed]
    have behind := ih (front ++ [cleared assembly]) (sent ++ (muxer.emitPending assembly.data).1) _ next
    rw [sendPending_changed, List.length_append, List.append_assoc] at behind
    exact behind

theorem finish_eq (muxer : Muxer) : finish muxer = .ok muxer.finish := by
  let ended := muxer.assemblies.foldl sendPending ([], muxer)
  have whole : finishFrom 0 muxer.assemblies.length ([], muxer) =
      .ok (ended.1, { ended.2 with assemblies := muxer.assemblies.map cleared }) :=
    finishFrom_eq [] muxer.assemblies [] muxer rfl
  have still : ended.2.assemblies = muxer.assemblies := assemblies_sendPending muxer.assemblies ([], muxer)
  have finished : muxer.finish =
      (ended.1 ++ endCode, { ended.2 with assemblies := ended.2.assemblies.map cleared }) := rfl
  rw [finish, whole, ok_bind, finished, still]
  rfl

end MpegRecorder.Access

namespace MpegRecorder.Pack.Muxer

open Transport

variable {muxer : Muxer}

theorem pids_emit (unit : Bytes) : (muxer.emit unit).2.pids = muxer.pids := by
  rw [pids, assemblies_emit, pids]

theorem pids_emitPending (data : Packed) : (muxer.emitPending data).2.pids = muxer.pids := by
  rw [pids, assemblies_emitPending, pids]

theorem pids_pushPayload (assembly : Assembly) (unitStart : Bool) (payload : Bytes) :
    (muxer.pushPayload assembly unitStart payload).2.pids = muxer.pids := by
  by_cases under : unitStart = true ∨ assembly.started = true
  · have pending : (if unitStart then muxer.emitPending assembly.data else ([], muxer)).2.pids =
        muxer.pids := by
      split
      · exact pids_emitPending _
      · rfl
    rw [muxer.pushPayload_of_under under]
    dsimp only
    split
    · rw [pids_put, pids_emit, pending]
    · rw [pids_put, pending]
  · obtain ⟨goesOn, idle⟩ := not_or.mp under
    have ignored : (!unitStart && !assembly.started) = true := by
      rw [eq_false_of_ne_true goesOn, eq_false_of_ne_true idle]
      rfl
    rw [pushPayload, if_pos ignored]

theorem pids_pushPacket (packet : Packet) : (muxer.pushPacket packet).2.pids = muxer.pids := by
  unfold pushPacket
  dsimp only
  split
  · rw [pids_pushPayload, pids_trackClock]
  · exact muxer.pids_trackClock packet

theorem pids_finish (muxer : Muxer) : muxer.finish.2.pids = muxer.pids := by
  have still := Access.assemblies_sendPending muxer.assemblies ([], muxer)
  show ((muxer.assemblies.foldl Access.sendPending ([], muxer)).2.assemblies.map Access.cleared).map
    Assembly.pid = _
  rw [still, List.map_map]
  rfl

/-- Streams that stay and streams that come have one place each. -/
theorem nodup_setProgram (distinct : muxer.pids.Nodup) (program : Program) :
    (muxer.setProgram program).pids.Nodup := by
  let kept := muxer.assemblies.filter fun assembly => (played program).contains assembly.pid
  have apart : (kept.map Assembly.pid).Nodup := distinct.sublist (List.filter_sublist.map _)
  exact (foldl_follow (played program) kept apart).1

end MpegRecorder.Pack.Muxer
