import MpegRecorder.Proofs.Output.Delivery
import MpegRecorder.Proofs.Output.Search
import MpegRecorder.Proofs.Output.Splice

/-!
A request that waits. While it does, it counts what the old destination was written since it was made, which
is all that was searched, and never more than the limit. The search that would go past the limit is the
last: unless it finds a splice point, all of what it searched goes to the new destination.
-/

namespace MpegRecorder.Output

open Storage

theorem sound_invariant : Invariant (· = 0) fun output storage _ => output.Sound storage where
  alike same sound := sound.congr same.limit same.opener same.destination
  limit _ off sound := sound.congr (off.trans sound.off.symm) rfl rfl
  extend _ sound := sound.congr rfl rfl rfl
  flushAll sound := sound.flushAll.1
  moveAt request cut _ sound := (sound.parts request cut).1

theorem Sound.perform {state : Output × Medium} (sound : state.1.Sound state.2.storage)
    (operation : Operation) (off : ∀ limit, operation = .setRingLimit limit → limit = 0) :
    (operation.perform state).1.Sound (operation.perform state).2.storage :=
  @Invariant.perform _ _ state.1 state.2 [] sound_invariant sound operation off

theorem HandedOver.extend {cut id : Nat} {before : Output × Medium} {output : Output} {medium : Medium}
    (handover : HandedOver cut before (output, medium) id) (buffer : Buffer) :
    HandedOver cut before ({ output with buffer }, medium) id :=
  ⟨handover.file, handover.switches, handover.idle, handover.content, handover.others⟩

theorem perform_limit (operation : Operation) (state : Output × Medium) :
    (operation.perform state).1.scanLimit = state.1.scanLimit ∧
      state.1.switches ≤ (operation.perform state).1.switches := by
  obtain ⟨output, medium⟩ := state
  have counts {after : Output × Medium}
      (either : Stays (output, medium) after ∨ Moves (output, medium) after) :
      output.switches ≤ after.1.switches := by
    rcases either with stays | moves
    · exact Nat.le_of_eq stays.switches.symm
    · rw [moves.switches]
      exact Nat.le_succ _
  have flushed : (output.flush medium).1.scanLimit = output.scanLimit := by
    unfold flush
    split
    · exact (frame_tryCut output medium false).scanLimit
    · exact (frame_flushAll output medium).scanLimit
  cases operation with
  | append data =>
    refine ⟨?_, counts (whereabouts_append output medium data).stays_or_moves⟩
    by_cases full : output.buffer.remaining < data.length
    · rw [Operation.perform, append_of_full full]
      exact flushed
    · rw [Operation.perform, append_of_room full]
  | flush => exact ⟨flushed, counts (whereabouts_flush output medium).stays_or_moves⟩
  | startSwitch name token =>
    refine ⟨?_, counts (startSwitch_stays_or_moves output medium name token)⟩
    simp only [Operation.perform, startSwitch]
    split
    · rfl
    · exact (frame_tryCut _ medium false).scanLimit
  | forceSwitch =>
    exact ⟨(frame_tryCut output medium true).scanLimit,
      counts (whereabouts_forceSwitch output medium).stays_or_moves⟩
  | awaitSwitch =>
    refine ⟨?_, counts (whereabouts_awaitSwitch output medium).stays_or_moves⟩
    simp only [Operation.perform, awaitSwitch]
    split
    · rfl
    · exact (frame_tryCut output medium true).scanLimit
  | setPolicy kind family videoPid => exact ⟨rfl, Nat.le_refl _⟩
  | setRingLimit limit => exact ⟨rfl, Nat.le_refl _⟩
  | detach =>
    simp only [Operation.perform, detach]
    split <;> exact ⟨rfl, Nat.le_refl _⟩

theorem run_limit (operations : List Operation) (state : Output × Medium) :
    (run operations state).1.scanLimit = state.1.scanLimit ∧
      state.1.switches ≤ (run operations state).1.switches := by
  induction operations generalizing state with
  | nil => exact ⟨rfl, Nat.le_refl _⟩
  | cons operation rest ih =>
    obtain ⟨limit, fewer⟩ := perform_limit operation state
    obtain ⟨same, more⟩ := ih (operation.perform state)
    exact ⟨same.trans limit, Nat.le_trans fewer more⟩

/-- A request that was made in the state `since` waits, and `covered` was written since then. -/
structure Pending (since : Output × Medium) (name : String) (token : UInt32) (covered : Bytes)
    (state : Output × Medium) : Prop where
  sound : state.1.Sound state.2.storage
  limit : state.1.scanLimit = since.1.scanLimit
  switches : state.1.switches = since.1.switches
  file : state.1.file? = since.1.file?
  asked : state.1.request = some ⟨name, token, covered.length⟩
  within : covered.length ≤ since.1.scanLimit
  gains : Gains since.2.storage state.2.storage since.1.file? covered

theorem along_append {α : Type} (read : Operation → Output × Medium → List α)
    (earlier later : List Operation) (state : Output × Medium) :
    along read (earlier ++ later) state =
      along read earlier state ++ along read later (run earlier state) := by
  induction earlier generalizing state with
  | nil => rfl
  | cons operation rest ih =>
    rw [List.cons_append, along, ih, along, List.append_assoc]
    rfl

section Pending

variable {since : Output × Medium} {name : String} {token : UInt32} {covered : Bytes} {output : Output}
  {medium : Medium}

theorem Gains.trans {first second third : Storage} {file : Option Nat} {data more : Bytes}
    (start : Gains first second file data) (rest : Gains second third file more) :
    Gains first third file (data ++ more) := by
  intro id
  rw [rest id, start id, List.append_assoc]
  split <;> rfl

theorem Pending.congr {other : Output} {now : Medium}
    (pending : Pending since name token covered (output, medium)) (storage : now.storage = medium.storage)
    (ring : other.ring.limit = 0) (opener : other.opener = output.opener)
    (destination : other.destination = output.destination) (limit : other.scanLimit = output.scanLimit)
    (switches : other.switches = output.switches) (request : other.request = output.request) :
    Pending since name token covered (other, now) where
  sound := storage ▸ pending.sound.congr (ring.trans pending.sound.off.symm) opener destination
  limit := limit.trans pending.limit
  switches := switches.trans pending.switches
  file := (congrArg (Option.map Destination.file) destination).trans pending.file
  asked := request.trans pending.asked
  within := pending.within
  gains := storage ▸ pending.gains

theorem flatten_viewed (asked : output.request.isSome = true) :
    output.viewed.flatten = output.buffer.content := by
  unfold viewed
  split
  · exact List.flatten_singleton
  · next nothing =>
    rw [not_and, not_not] at nothing
    exact (nothing asked).symm

theorem Pending.flush (pending : Pending since name token covered (output, medium))
    (granted : ∀ name token, .refused name token ∉ output.flushEvents medium) :
    Pending since name token (covered ++ output.viewed.flatten) (output.flush medium) ∨
      ∃ cut id, output.buffer.content ≠ [] ∧ HandedOver cut (output, medium) (output.flush medium) id ∧
        Chosen false ⟨name, token, covered.length⟩ output cut := by
  have waits : output.request = some ⟨name, token, covered.length⟩ := pending.asked
  have asked : output.request.isSome = true := by rw [waits]; rfl
  have bound : output.scanLimit = since.1.scanLimit := pending.limit
  have limit : (output.flush medium).1.scanLimit = output.scanLimit :=
    (perform_limit .flush (output, medium)).1
  rw [flushEvents, if_pos asked] at granted
  rw [flatten_viewed asked]
  obtain ⟨still, ⟨idle, -⟩ | ⟨-, searched⟩⟩ := pending.sound.flush
  · rw [idle] at asked
    cases asked
  · cases searched with
    | rests same nothing =>
      obtain ⟨empty, -⟩ := nothing.resolve_left (Option.isSome_iff_ne_none.mp asked)
      have empty : output.buffer.content = [] := empty
      rw [same, empty, List.append_nil]
      exact .inl pending
    | misses found unforced missed within asks written =>
      cases Option.some.inj (waits.symm.trans found)
      refine .inl ⟨still, limit.trans bound, written.switches.trans pending.switches,
        written.file.trans pending.file, asks.trans ?_, ?_, ?_⟩
      · rw [List.length_append]
        rfl
      · rw [List.length_append, ← bound]
        exact Nat.not_lt.mp within
      · have here := written.gains
        rw [pending.file] at here
        exact pending.gains.trans here
    | refused found chosen refused happened => exact absurd happened (granted _ _)
    | moves found filled chosen waiting handover =>
      cases Option.some.inj (waits.symm.trans found)
      exact .inr ⟨_, _, filled.resolve_right Bool.false_ne_true, handover, chosen⟩

theorem Pending.forceSwitch (pending : Pending since name token covered (output, medium))
    (granted : ∀ name token, .refused name token ∉ output.cutEvents medium true) :
    (output.forceSwitch medium).1.switches = since.1.switches + 1 := by
  have waits : output.request = some ⟨name, token, covered.length⟩ := pending.asked
  rw [Output.forceSwitch]
  obtain ⟨-, searched⟩ := pending.sound.tryCut true
  cases searched with
  | rests same nothing =>
    rcases nothing with idle | ⟨-, unforced⟩
    · cases waits.symm.trans idle
    · cases unforced
  | misses found unforced missed within asks written => cases unforced
  | refused found chosen refused happened => exact absurd happened (granted _ _)
  | moves found filled chosen waiting handover =>
    exact handover.switches.trans (congrArg (· + 1) pending.switches)

/-- The operation settles the request, and where it searches, it moves where that search may. -/
def Settles (since : Output × Medium) (request : Request) (operation : Operation)
    (state : Output × Medium) : Prop :=
  (operation.perform state).1.switches = since.1.switches + 1 ∧
    ∀ view, operation.viewed state = [view] → ∃ cut id,
      HandedOver cut state (operation.perform state) id ∧ state.1.buffer.content = view ∧
        Chosen false request state.1 cut

theorem Pending.perform {state : Output × Medium} (pending : Pending since name token covered state)
    {operation : Operation} (off : ∀ limit, operation = .setRingLimit limit → limit = 0)
    (granted : ∀ name token, .refused name token ∉ operation.events state) :
    Pending since name token (covered ++ (operation.viewed state).flatten) (operation.perform state) ∨
      Settles since ⟨name, token, covered.length⟩ operation state := by
  obtain ⟨output, medium⟩ := state
  have asked : output.request.isSome = true := by
    rw [show output.request = _ from pending.asked]
    rfl
  have still : Pending since name token (covered ++ ([] : List Bytes).flatten) (output, medium) := by
    rw [List.flatten_nil, List.append_nil]
    exact pending
  -- A flush settles the request with what it searched.
  have settles {after : Output × Medium} {cut id : Nat} (filled : output.buffer.content ≠ [])
      (handover : HandedOver cut (output, medium) after id)
      (chosen : Chosen false ⟨name, token, covered.length⟩ output cut) :
      after.1.switches = since.1.switches + 1 ∧ ∀ view, output.viewed = [view] → ∃ cut id,
        HandedOver cut (output, medium) after id ∧ output.buffer.content = view ∧
          Chosen false ⟨name, token, covered.length⟩ output cut := by
    refine ⟨handover.switches.trans (congrArg (· + 1) pending.switches), fun view viewed => ?_⟩
    rw [Output.viewed, if_pos ⟨asked, filled⟩, List.singleton_inj] at viewed
    exact ⟨cut, id, handover, viewed, chosen⟩
  cases operation with
  | append data =>
    by_cases full : output.buffer.remaining < data.length
    · have searches : (Operation.append data).viewed (output, medium) = output.viewed := if_pos full
      have performs : (Operation.append data).perform (output, medium) = _ := append_of_full full medium
      rw [Operation.events, if_pos full] at granted
      rw [Settles, searches, performs]
      rcases pending.flush granted with next | ⟨cut, id, filled, handover, chosen⟩
      · exact .inl (next.congr rfl next.sound.off rfl rfl rfl rfl rfl)
      · exact .inr (settles filled (handover.extend _) chosen)
    · simp only [Operation.viewed, if_neg full]
      rw [Operation.perform, append_of_room full]
      exact .inl (still.congr rfl still.sound.off rfl rfl rfl rfl rfl)
  | flush =>
    rcases pending.flush granted with next | ⟨cut, id, filled, handover, chosen⟩
    · exact .inl next
    · exact .inr (settles filled handover chosen)
  | startSwitch other secret =>
    have refuses : (output.closed || output.request.isSome || output.path == other) = true := by
      rw [asked, Bool.or_true, Bool.true_or]
    simp only [Operation.viewed, Operation.perform, startSwitch, if_pos refuses]
    exact .inl still
  | forceSwitch =>
    refine .inr ⟨pending.forceSwitch granted, fun view searched => ?_⟩
    cases searched
  | awaitSwitch =>
    simp only [Operation.events] at granted
    simp only [Settles, Operation.viewed, Operation.perform, awaitSwitch]
    split at granted
    · next ended =>
      rw [if_pos ended]
      exact .inl still
    · next going =>
      rw [if_neg going]
      refine .inr ⟨pending.forceSwitch granted, fun view searched => ?_⟩
      cases searched
  | setPolicy kind family videoPid =>
    exact .inl (still.congr rfl still.sound.off rfl rfl rfl rfl rfl)
  | setRingLimit limit => exact .inl (still.congr rfl (off limit rfl) rfl rfl rfl rfl rfl)
  | detach =>
    simp only [Operation.viewed, Operation.perform, Output.detach]
    split
    · exact .inl (still.congr rfl still.sound.off rfl rfl rfl rfl rfl)
    · exact .inl still

theorem Pending.run {state : Output × Medium} (pending : Pending since name token covered state)
    {operations : List Operation} (off : ∀ limit, .setRingLimit limit ∈ operations → limit = 0)
    (granted : ∀ name token, .refused name token ∉ along Operation.events operations state)
    (waits : (Output.run operations state).1.switches = since.1.switches) :
    Pending since name token (covered ++ (along Operation.viewed operations state).flatten)
      (Output.run operations state) := by
  induction operations generalizing state covered with
  | nil =>
    rw [along, List.flatten_nil, List.append_nil]
    exact pending
  | cons operation rest ih =>
    rw [along] at granted
    rw [along, List.flatten_append, ← List.append_assoc]
    rcases pending.perform (fun limit same => off limit (same ▸ List.mem_cons_self ..))
      (fun name token member => granted name token (List.mem_append_left _ member)) with next | ⟨moved, -⟩
    · exact ih next (fun limit member => off limit (List.mem_cons_of_mem _ member))
        (fun name token member => granted name token (List.mem_append_right _ member)) waits
    · have fewer := (run_limit rest (operation.perform state)).2
      rw [moved] at fewer
      exact absurd waits (Nat.ne_of_gt fewer)

theorem Pending.start (sound : since.1.Sound since.2.storage) (name : String) (token : UInt32) :
    Pending since name token [] ({ since.1 with request := some ⟨name, token, 0⟩ }, since.2) where
  sound := sound.congr rfl rfl rfl
  limit := rfl
  switches := rfl
  file := rfl
  asked := rfl
  within := Nat.zero_le _
  gains := .refl _ _

theorem pending_startSwitch (sound : since.1.Sound since.2.storage)
    (taken : (since.1.startSwitch since.2 name token).1 = true)
    (granted : ∀ other secret, .refused other secret ∉
      (Operation.startSwitch name token).events since) :
    Pending since name token ((Operation.startSwitch name token).viewed since).flatten
        ((Operation.startSwitch name token).perform since) ∨
      Settles since ⟨name, token, 0⟩ (.startSwitch name token) since := by
  obtain ⟨idle, performs, events, viewed⟩ := startSwitch_taken taken
  have first := Pending.start sound name token
  rw [events] at granted
  rw [Settles, performs, viewed]
  rcases first.flush granted with next | ⟨cut, id, filled, handover, chosen⟩
  · exact .inl next
  · refine .inr ⟨handover.switches, fun view one => ?_⟩
    rw [Output.viewed, if_pos ⟨rfl, filled⟩, List.singleton_inj] at one
    exact ⟨cut, id, handover.unasked, one, chosen⟩

theorem pending_run (sound : since.1.Sound since.2.storage)
    (taken : (since.1.startSwitch since.2 name token).1 = true) {operations : List Operation}
    (off : ∀ limit, .setRingLimit limit ∈ operations → limit = 0)
    (granted : ∀ other secret, .refused other secret ∉
      along Operation.events (.startSwitch name token :: operations) since)
    (waits : (run (.startSwitch name token :: operations) since).1.switches = since.1.switches) :
    Pending since name token
      (along Operation.viewed (.startSwitch name token :: operations) since).flatten
      (run (.startSwitch name token :: operations) since) := by
  rw [along] at granted
  rw [along, List.flatten_append]
  rcases pending_startSwitch sound taken fun other secret member =>
    granted other secret (List.mem_append_left _ member) with pending | ⟨moved, -⟩
  · exact pending.run off (fun other secret member =>
      granted other secret (List.mem_append_right _ member)) waits
  · have fewer := (run_limit operations ((Operation.startSwitch name token).perform since)).2
    rw [moved] at fewer
    exact absurd waits (Nat.ne_of_gt fewer)

theorem pending_next (sound : since.1.Sound since.2.storage)
    (taken : (since.1.startSwitch since.2 name token).1 = true)
    {after earlier later : List Operation} {operation : Operation}
    (parts : .startSwitch name token :: after = earlier ++ operation :: later)
    (off : ∀ limit, .setRingLimit limit ∈ after → limit = 0)
    (granted : ∀ other secret, .refused other secret ∉
      along Operation.events (.startSwitch name token :: after) since)
    (waits : (run earlier since).1.switches = since.1.switches) :
    let covered := (along Operation.viewed earlier since).flatten
    let state := run earlier since
    Pending since name token (covered ++ (operation.viewed state).flatten) (operation.perform state) ∨
      Settles since ⟨name, token, covered.length⟩ operation state := by
  cases earlier with
  | nil =>
    obtain ⟨rfl, rfl⟩ := List.cons.inj parts
    exact pending_startSwitch sound taken fun other secret member =>
      granted other secret (List.mem_append_left _ member)
  | cons first operations =>
    obtain ⟨rfl, rfl⟩ := List.cons.inj parts
    rw [parts, along_append] at granted
    have pending := pending_run sound taken
      (fun limit member => off limit (List.mem_append_left _ member))
      (fun other secret member => granted other secret (List.mem_append_left _ member)) waits
    refine pending.perform (fun limit same => off limit ?_) fun other secret member => ?_
    · exact List.mem_append_right _ (same ▸ List.mem_cons_self ..)
    · exact granted other secret (List.mem_append_right _ (List.mem_append_left _ member))

end Pending

/--
A request that waits is bounded. Until the recording moves, the request counts the bytes that were searched
for it, which are those that the old destination was written since, and they are within the limit: where
more than that was searched, the recording has moved. A search without a splice point moves exactly if it
goes past the limit, and then the new destination gets all that it searched.
-/
theorem pending_bounded {φ : Type} (setup : Session.Setup φ) (recording : Nat) (medium : Medium)
    (opens : setup.opener.Faultless) (stored : medium.storage.Faultless)
    (ready : medium.storage.Ready setup.destination) (before after : List Operation)
    (off : ∀ limit, .setRingLimit limit ∈ before ++ after → limit = 0) (name : String) (token : UInt32) :
    let since := run before (setup.newOutput recording, medium)
    let asks := .startSwitch name token :: after
    let covered (operations : List Operation) := (along Operation.viewed operations since).flatten
    let limit := setup.config.scanLimit
    let now := run asks since
    (since.1.startSwitch since.2 name token).1 = true →
      (∀ name token, .refused name token ∉ along Operation.events asks since) →
      ∃ old, since.1.file? = some old
        ∧ (now.1.switches = since.1.switches →
          now.1.request = some ⟨name, token, (covered asks).length⟩
            ∧ (covered asks).length ≤ limit ∧ now.1.file? = some old
            ∧ now.2.storage.content old = since.2.storage.content old ++ covered asks)
        ∧ (limit < (covered asks).length → since.1.switches < now.1.switches)
        ∧ ∀ earlier operation later view, asks = earlier ++ operation :: later →
          let waiting := run earlier since
          let next := operation.perform waiting
          waiting.1.switches = since.1.switches → operation.viewed waiting = [view] →
            waiting.1.policy.findCut view = none →
            if limit < (covered earlier).length + view.length then
              waiting.1.buffer.content = view ∧ next.1.switches = since.1.switches + 1
                ∧ ∃ new, next.1.file? = some new ∧ next.2.storage.content new = view
                ∧ ∀ other, other ≠ new →
                  next.2.storage.content other = waiting.2.storage.content other
            else next.1.switches = since.1.switches := by
  intro since asks covered limit now taken granted
  have start : (setup.newOutput recording).Sound medium.storage :=
    ⟨rfl, stored, opens, fun destination here => Option.some.inj here ▸ ready⟩
  have sound : since.1.Sound since.2.storage := sound_invariant.run [] start before
    fun limit member => off limit (List.mem_append_left _ member)
  have bound : since.1.scanLimit = limit := (run_limit before _).1
  obtain ⟨idle, -⟩ := startSwitch_taken taken
  obtain ⟨destination, isOpen⟩ : ∃ destination, since.1.destination = some destination := by
    cases there : since.1.destination with
    | some destination => exact ⟨destination, rfl⟩
    | none =>
      have asked := (stranded_of_shut setup recording medium before there).asked
      rw [idle] at asked
      cases asked
  have old : since.1.file? = some destination.file := congrArg (Option.map Destination.file) isOpen
  have off (limit : Nat) (member : .setRingLimit limit ∈ after) : limit = 0 :=
    off limit (List.mem_append_right _ member)
  have waiting (waits : now.1.switches = since.1.switches) : Pending since name token (covered asks) now :=
    pending_run sound taken off granted waits
  refine ⟨destination.file, old, fun waits => ?_, fun beyond => ?_, ?_⟩
  · have pending := waiting waits
    have gains := pending.gains destination.file
    rw [if_pos old] at gains
    exact ⟨pending.asked, bound ▸ pending.within, pending.file.trans old, gains⟩
  · refine Nat.lt_of_le_of_ne (run_limit asks since).2 fun waits => ?_
    have within := (waiting waits.symm).within
    rw [bound] at within
    exact absurd beyond (Nat.not_lt.mpr within)
  · intro earlier operation later view parts state next waits searches missed
    have step : Pending since name token (covered earlier ++ (operation.viewed state).flatten) next ∨
        Settles since ⟨name, token, (covered earlier).length⟩ operation state :=
      pending_next sound taken parts off granted waits
    rw [Settles, searches, List.flatten_singleton] at step
    rcases step with pending | ⟨moved, settles⟩
    · have within := pending.within
      rw [bound, List.length_append] at within
      rw [if_neg (Nat.not_lt.mpr within)]
      exact pending.switches
    · obtain ⟨cut, id, handover, buffer, found | ⟨rfl, -, beyond⟩⟩ := settles view rfl
      · rw [buffer, missed] at found
        cases found
      · have limit : state.1.scanLimit = setup.config.scanLimit :=
          (run_limit earlier since).1.trans bound
        have past := beyond.resolve_left Bool.false_ne_true
        rw [limit, Request.after, buffer] at past
        rw [if_pos past]
        refine ⟨buffer, moved, id, handover.file, ?_, fun other apart => ?_⟩
        · exact handover.content.trans buffer
        · rw [handover.others other apart, List.take_zero, ite_self, List.append_nil]

def impatientSetup : Session.Setup Unit :=
  { hesitantSetup with config := { Config.standard with writeBuffer := 4, scanLimit := 5 } }

def impatientBefore : List Operation :=
  [.setPolicy .transport (some .h264) (some 0x100), .append [1, 2, 3]]

/-- The search gets to the limit with the second append, and past it with the last flush. -/
def impatientAfter : List Operation :=
  [.append [4], .append [5], .flush, .append [6, 7], .flush]

theorem pending_bounded_impatient :
    impatientSetup.opener.Faultless ∧ hesitantMedium.storage.Faultless
      ∧ hesitantMedium.storage.Ready impatientSetup.destination
      ∧ let since := run impatientBefore (impatientSetup.newOutput 0, hesitantMedium)
        let asks := .startSwitch "second.ts" 0 :: impatientAfter
        let waiting := run (asks.take 5) since
        (since.1.startSwitch since.2 "second.ts" 0).1 = true
          ∧ waiting.1.request = some ⟨"second.ts", 0, 5⟩ ∧ waiting.2.storage.content 0 = [1, 2, 3, 4, 5]
          ∧ (run asks since).1.file? = some 1 ∧ (run asks since).2.storage.content 1 = [6, 7] := by
  have opens : impatientSetup.opener.Faultless := fun _ _ planned =>
    Option.some.inj planned ▸ hesitant_accepts
  have stored : hesitantMedium.storage.Faultless := (faultless_empty []).addFile "first.ts" hesitant_accepts
  have ready : hesitantMedium.storage.Ready impatientSetup.destination :=
    ⟨.new hesitant, rfl, hesitant_accepts, rfl⟩
  refine ⟨opens, stored, ready, ?_⟩
  intro since asks waiting
  have taken : (since.1.startSwitch since.2 "second.ts" 0).1 = true := by decide +kernel
  have granted (operations : List Operation)
      (none : ((along Operation.events operations since).all
        fun event => event matches .write .. | .rewind _ | .close _ | .opened ..) = true)
      (name : String) (token : UInt32) :
      .refused name token ∉ along Operation.events operations since :=
    fun member => Bool.false_ne_true (List.all_eq_true.mp none _ member)
  have bounded (operations : List Operation)
      (off : ∀ limit, .setRingLimit limit ∈ operations → limit = 0) :=
    pending_bounded impatientSetup 0 hesitantMedium opens stored ready impatientBefore operations
      (fun limit member => off limit ((List.mem_append.mp member).resolve_left (by simp [impatientBefore])))
      "second.ts" 0 taken
  obtain ⟨first, old, waits, -⟩ := bounded (impatientAfter.take 4) (by simp [impatientAfter])
    (granted _ (by decide +kernel))
  obtain ⟨_, -, -, -, last⟩ := bounded impatientAfter (by simp [impatientAfter])
    (granted _ (by decide +kernel))
  obtain ⟨asked, -, -, held⟩ := waits (by decide +kernel)
  have beyond := last (asks.take 5) .flush [] [6, 7] rfl (by decide +kernel) (by decide +kernel)
    (by decide +kernel)
  rw [if_pos (by decide +kernel)] at beyond
  obtain ⟨-, -, new, file, content, -⟩ := beyond
  have one : new = 1 := by
    have there : (run asks since).1.file? = some 1 := by decide +kernel
    exact Option.some.inj (file.symm.trans there)
  subst one
  have zero : first = 0 := by
    have there : since.1.file? = some 0 := by decide +kernel
    exact Option.some.inj (old.symm.trans there)
  subst zero
  exact ⟨taken, asked, held.trans (by decide +kernel), file, content⟩

end MpegRecorder.Output
