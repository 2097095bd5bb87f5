import MpegRecorder.Engine.Scripted
import MpegRecorder.Proofs.Output.Frame
import MpegRecorder.Proofs.Output.History
import MpegRecorder.Proofs.Output.Whereabouts
import MpegRecorder.Proofs.Session.Underway

/-!
Sessions that have ended. Of all that can be asked of one, nothing is done any more, with one exception: if the
end found a request to move and the destination was refused, the request is still there, and each time the
move is forced the opener is asked again, until it grants the destination.
-/

namespace MpegRecorder

theorem Registry.sublist_unregister (registry : Registry) (path : String) (recording : Nat) :
    (registry.unregister path recording).entries.Sublist registry.entries := by
  unfold unregister erase
  split
  · exact List.filter_sublist
  · exact .refl _

namespace Output

variable {output : Output} {medium : Medium} {request : Request}

/-- The output of a session that has ended; it can wait for another destination only without one. -/
structure Over (output : Output) : Prop where
  closed : output.closed = true
  empty : output.buffer.content = []
  shut : output.request.isSome → output.destination = none

def askAgain (output : Output) (medium : Medium) (request : Request) : Output × Medium :=
  match output.opener.openFile medium.storage request.name request.token with
  | (.error _, opener, storage) => ({ output with opener }, { medium with storage })
  | (.ok destination, opener, storage) =>
    (output.enter opener destination,
      { storage
        registry :=
          if output.registered then medium.registry.rename output.path destination.path
          else medium.registry })

theorem Over.splitTo (past : output.Over) (cut : Nat) :
    output.buffer.splitTo cut = ([], output.buffer) := by
  unfold Buffer.splitTo
  rw [past.empty, List.take_nil, List.drop_nil, ← past.empty]

theorem Over.release (past : output.Over) (waits : output.request.isSome) (medium : Medium)
    (cut : Nat) : output.release medium cut = (output, medium) := by
  have shut := past.shut waits
  have unwritten : output.writeOut medium [] = (output, medium) := by simp only [writeOut, shut]
  have stays : output.closeDestination medium = (output, medium) := by
    simp only [closeDestination, shut]
  rw [Output.release, past.splitTo]
  dsimp only
  rw [unwritten, stays]

theorem flushAll_enter_of_empty (empty : output.buffer.content = []) (opener : Storage.Opener)
    (destination : Storage.Destination) (medium : Medium) :
    (output.enter opener destination).flushAll medium = (output.enter opener destination, medium) := by
  have clear : output.buffer.clear = output.buffer := by
    unfold Buffer.clear
    rw [← empty]
  have nothing (writer : Writer) : writer.write [] = (.ok (), writer) := by
    rw [Writer.write, dif_pos rfl]
  simp only [flushAll, writeOut, enter, empty, clear, nothing]

theorem Over.moveAt (past : output.Over) (waits : output.request.isSome) (medium : Medium)
    (request : Request) (cut : Nat) :
    (output.moveAt medium request cut).2 = output.askAgain medium request := by
  rw [moveAt_eq, past.release waits, askAgain]
  split
  · next refused => rw [refused]
  · next destination opener storage granted =>
    have entered := flushAll_enter_of_empty past.empty opener destination { medium with storage }
    unfold enter at entered
    rw [granted]
    simp only [adopt, entered]
    split <;> rfl

theorem Over.forceSwitch (past : output.Over) (waits : output.request = some request)
    (medium : Medium) : output.forceSwitch medium = output.askAgain medium request := by
  have searched : request.after output = request := by
    unfold Request.after
    rw [past.empty]
    rfl
  have same : { output with request := some (request.after output) } = output := by
    rw [searched, ← waits]
  have asked : output.request.isSome = true := by rw [waits]; rfl
  rw [Output.forceSwitch]
  cases found : output.policy.findCut output.buffer.content with
  | some cut => rw [tryCut_of_found waits (.inr rfl) found, same, past.moveAt asked, searched]
  | none => rw [tryCut_of_given_up waits (.inr rfl) found (.inl rfl), same, past.moveAt asked, searched]

theorem Over.askAgain (past : output.Over) (medium : Medium) (request : Request) :
    (output.askAgain medium request).1.Over := by
  unfold Output.askAgain
  split
  · exact ⟨past.closed, past.empty, past.shut⟩
  · exact ⟨past.closed, past.empty, nofun⟩

theorem refused_of_waiting {left : Request} {cut : Nat} (waits : output.request = some request)
    (stays : (output.moveAt medium request cut).2.1.request = some left) :
    (output.moveEvents medium request cut).getLast? = some (.refused left.name left.token) := by
  have released := output.release_released medium cut
  obtain ⟨result, opener, storage, opened⟩ : ∃ result opener storage,
      (output.release medium cut).1.opener.openFile (output.release medium cut).2.storage
        request.name request.token = (result, opener, storage) := ⟨_, _, _, rfl⟩
  cases result with
  | error error =>
    rw [moveAt_eq, opened] at stays
    have same : request = left := Option.some.inj (waits.symm.trans (released.request.symm.trans stays))
    rw [moveEvents, opened, List.getLast?_concat, same]
  | ok destination =>
    rw [released.opener] at opened
    rw [(moveAt_opened opened).1.idle] at stays
    cases stays

/-- At its end an output is left with the request that was waiting only if the opener refused it. -/
theorem refused_of_left {left : Request}
    (stays : (output.forceSwitch medium).1.request = some left) :
    (output.cutEvents medium true).getLast? = some (.refused left.name left.token) := by
  rw [Output.forceSwitch] at stays
  cases waits : output.request with
  | none =>
    rw [tryCut_of_idle waits, waits] at stays
    cases stays
  | some request =>
    simp only [cutEvents, waits, Bool.not_true, Bool.and_false, Bool.false_eq_true, if_false]
    cases found : output.policy.findCut output.buffer.content with
    | some cut =>
      rw [tryCut_of_found waits (.inr rfl) found] at stays
      exact refused_of_waiting rfl stays
    | none =>
      rw [tryCut_of_given_up waits (.inr rfl) found (.inl rfl)] at stays
      exact refused_of_waiting rfl stays

theorem Over.finish (output : Output) (medium : Medium) : (output.finish medium).1.Over := by
  have shut (state : Output × Medium) : (state.1.closeDestination state.2).1.destination = none := by
    unfold closeDestination
    split
    · assumption
    · rfl
  have kept (state : Output × Medium) :
      (state.1.closeDestination state.2).1.buffer = state.1.buffer := by
    unfold closeDestination
    split <;> rfl
  have cleared (state : Output × Medium) : (state.1.flushAll state.2).1.buffer.content = [] := by
    unfold flushAll writeOut
    split <;> rfl
  refine ⟨closed_finish output medium, ?_, fun _ => shut _⟩
  exact (congrArg Buffer.content (kept _)).trans (cleared _)

theorem request_finish (output : Output) (medium : Medium) :
    (output.finish medium).1.request =
      ({ output with closed := true }.forceSwitch medium).1.request := by
  have kept (state : Output × Medium) :
      (state.1.closeDestination state.2).1.request = state.1.request := by
    unfold closeDestination
    split <;> rfl
  exact (kept _).trans (request_flushAll _ _)

end Output

namespace Session

inductive Call where
  | feed (data : Bytes)
  | startSwitch (name : String) (token : UInt32)
  | forceSwitch
  | awaitSwitch
  | detach
  | close

variable {φ ε : Type}

section Calls

variable [Engine ε] [EngineFactory φ ε]

def Call.perform (call : Call) (session : Session φ ε) (medium : Medium) : Session φ ε × Medium :=
  match call with
  | feed data => (session.feed medium data).2
  | startSwitch name token =>
    let asked := (session.output.startSwitch medium name token).2
    ({ session with output := asked.1 }, asked.2)
  | forceSwitch =>
    let forced := session.output.forceSwitch medium
    ({ session with output := forced.1 }, forced.2)
  | awaitSwitch =>
    let awaited := (session.output.awaitSwitch medium).2
    ({ session with output := awaited.1 }, awaited.2)
  | detach =>
    let detached := session.output.detach medium
    ({ session with output := detached.1 }, detached.2)
  | close => session.close medium

def after (session : Session φ ε) (calls : List (Medium × Call)) : Session φ ε :=
  calls.foldl (fun session (medium, call) => (call.perform session medium).1) session

end Calls

structure Rests (before after : Session φ ε × Medium) : Prop where
  session : after.1 = { before.1 with
    output := { before.1.output with registered := after.1.output.registered } }
  storage : after.2.storage = before.2.storage
  registry : after.2.registry.entries.Sublist before.2.registry.entries

theorem Rests.refl (state : Session φ ε × Medium) : Rests state state :=
  ⟨rfl, rfl, .refl _⟩

structure Over (session : Session φ ε) : Prop where
  closed : session.closed = true
  output : session.output.Over

variable {session : Session φ ε}

theorem Over.startSwitch_eq (past : session.Over) (medium : Medium) (name : String)
    (token : UInt32) :
    session.output.startSwitch medium name token = (false, session.output, medium) := by
  rw [Output.startSwitch, past.output.closed, Bool.true_or, Bool.true_or, if_pos rfl]

variable [Engine ε]

theorem Over.close (going : session.closed = false) (medium : Medium) :
    (session.close medium).1.Over := by
  have closed : (session.close medium).1.closed = true := by
    simp only [Session.close, going, Bool.false_eq_true, if_false, drain]
    split <;> rfl
  refine ⟨closed, ?_⟩
  rw [(close_of_going going medium).1]
  exact Output.Over.finish ..

variable [EngineFactory φ ε]

theorem Over.feed_eq (past : session.Over) (medium : Medium) (data : Bytes) :
    session.feed medium data = (false, session, medium) := by
  rw [feed, past.closed, if_pos rfl]

/-- Of all calls, only one that forces a move can do anything, and only where a request waits. -/
theorem Over.rests (past : session.Over) (medium : Medium) {call : Call}
    (still : call ≠ .forceSwitch ∨ session.output.request = none) :
    Rests (session, medium) (call.perform session medium) := by
  cases call with
  | feed data =>
    rw [Call.perform, past.feed_eq]
    exact .refl _
  | startSwitch name token =>
    rw [Call.perform, past.startSwitch_eq]
    exact .refl _
  | forceSwitch =>
    have idle : session.output.request = none := still.resolve_left fun other => other rfl
    rw [Call.perform, Output.forceSwitch, Output.tryCut_of_idle idle]
    exact .refl _
  | awaitSwitch =>
    rw [Call.perform, Output.awaitSwitch, past.output.closed, if_pos rfl]
    exact .refl _
  | detach =>
    rw [Call.perform, Output.detach]
    split
    · exact ⟨rfl, rfl, Registry.sublist_unregister ..⟩
    · exact .refl _
  | close =>
    rw [Call.perform, Session.close, past.closed, if_pos rfl]
    exact .refl _

theorem Over.force (past : session.Over) {request : Output.Request}
    (waits : session.output.request = some request) (medium : Medium) :
    Call.forceSwitch.perform session medium =
      ({ session with output := (session.output.askAgain medium request).1 },
        (session.output.askAgain medium request).2) := by
  rw [Call.perform, past.output.forceSwitch waits]

theorem Over.perform (past : session.Over) (medium : Medium) (call : Call) :
    (call.perform session medium).1.Over ∧ ∀ left,
      (call.perform session medium).1.output.request = some left →
        session.output.request = some left := by
  by_cases still : call ≠ .forceSwitch ∨ session.output.request = none
  · -- The request belongs to what a call that does nothing leaves as it is.
    have rests := (past.rests medium still).session
    rw [rests]
    exact ⟨⟨past.closed, past.output.closed, past.output.empty, past.output.shut⟩, fun _ => id⟩
  · obtain ⟨forced, asked⟩ := not_or.mp still
    obtain ⟨request, waits⟩ := Option.ne_none_iff_exists'.mp asked
    rw [not_not.mp forced, past.force waits]
    refine ⟨⟨past.closed, past.output.askAgain medium request⟩, fun left stays => ?_⟩
    unfold Output.askAgain at stays
    split at stays
    · exact stays
    · cases stays

theorem Over.after (past : session.Over) (calls : List (Medium × Call)) :
    (session.after calls).Over ∧ ∀ left,
      (session.after calls).output.request = some left → session.output.request = some left := by
  induction calls generalizing session with
  | nil => exact ⟨past, fun _ => id⟩
  | cons first later ih =>
    obtain ⟨next, stays⟩ := past.perform first.1 first.2
    obtain ⟨last, further⟩ := ih next
    exact ⟨last, fun left waits => stays left (further left waits)⟩

/--
A session that has ended takes no bytes and no requests to move, whatever else is asked of it and whatever
others do in between, and nothing comes of any call, save where the end was refused the destination that it
had to move to. Then that request is still there, and to force the move is to ask the opener again.
-/
theorem rests_after_end (going : session.closed = false) (medium : Medium)
    (calls : List (Medium × Call)) (call : Call) (now : Medium) :
    let closing := { session with closed := true }.drain medium
    let ended := (session.close medium).1
    let later := ended.after calls
    (∀ data, (later.feed now data).1 = false) ∧
      (∀ name token, (later.output.startSwitch now name token).1 = false) ∧
      (call ≠ .forceSwitch ∨ later.output.request = none →
        Rests (later, now) (call.perform later now)) ∧
      ∀ request, later.output.request = some request →
        ({ closing.1.output with closed := true }.cutEvents closing.2 true).getLast? =
            some (.refused request.name request.token) ∧
          Call.forceSwitch.perform later now =
            ({ later with output := (later.output.askAgain now request).1 },
              (later.output.askAgain now request).2) := by
  intro closing ended later
  have past : ended.Over := .close going medium
  obtain ⟨last, stays⟩ := past.after calls
  refine ⟨fun data => ?_, fun name token => ?_, last.rests now, fun request waits => ⟨?_, ?_⟩⟩
  · rw [last.feed_eq]
  · rw [last.startSwitch_eq]
  · have left := stays request waits
    rw [(close_of_going going medium).1, Output.request_finish] at left
    exact Output.refused_of_left left
  · exact last.force waits now

def reluctantSetup : Setup ScriptedFactory where
  destination := ⟨0, 0, "first.ts"⟩
  factory := .new .never .h264 none
  opener := .memory ⟨fun attempt => if attempt = 0 then none else some .healthy, 0, []⟩
  output := .transport
  capture := .other
  delivery := .unknown
  tuning := .automatic
  config := .standard
  registered := true

def reluctantMedium : Medium :=
  ⟨((Storage.empty []).addFile "first.ts" .healthy).2, .empty⟩

/-- The session ends while it waits to move, and its end is refused the destination. -/
theorem rests_after_end_refused :
    ∃ session started, start reluctantSetup 0 reluctantMedium = .ok (session, started) ∧
      let asking := (Call.startSwitch "second.ts" 7).perform session started
      let ended := asking.1.close asking.2
      let later := ended.1.after [(ended.2, .feed [0x47]), (ended.2, .detach)]
      asking.1.closed = false ∧ later.output.request = some ⟨"second.ts", 7, 0⟩ ∧
        (later.feed ended.2 [0x47]).1 = false ∧
        (later.output.startSwitch ended.2 "third.ts" 7).1 = false ∧
        Rests (later, ended.2) (Call.awaitSwitch.perform later ended.2) ∧
        (Call.forceSwitch.perform later ended.2).1.output =
          (later.output.askAgain ended.2 ⟨"second.ts", 7, 0⟩).1 := by
  obtain ⟨session, started, opened⟩ :
      ∃ session started, start reluctantSetup 0 reluctantMedium = .ok (session, started) :=
    ⟨_, _, rfl⟩
  refine ⟨session, started, opened, ?_⟩
  obtain ⟨rfl, rfl⟩ := Prod.mk.inj (Except.ok.inj opened)
  intro asking ended later
  have going : asking.1.closed = false := by decide +kernel
  have waits : later.output.request = some ⟨"second.ts", 7, 0⟩ := by decide +kernel
  obtain ⟨feeds, switches, rests, forces⟩ :=
    rests_after_end going asking.2 [(ended.2, .feed [0x47]), (ended.2, .detach)] .awaitSwitch ended.2
  obtain ⟨-, asks⟩ := forces _ waits
  exact ⟨going, waits, feeds _, switches _ _, rests (.inl nofun),
    congrArg (fun state => state.1.output) asks⟩

/--
The session that has ended goes on to open a destination, and takes along the entry of another session that
records where it was.
-/
theorem opened_after_end :
    ∃ session started, start reluctantSetup 0 reluctantMedium = .ok (session, started) ∧
      let asking := (Call.startSwitch "second.ts" 7).perform session started
      let ended := asking.1.close asking.2
      let other := { ended.2 with registry := ended.2.registry.register "first.ts" 1 }
      let forced := Call.forceSwitch.perform ended.1 other
      ended.1.closed = true ∧ ended.1.output.path = "first.ts" ∧
        forced.1.output.path = "second.ts" ∧ forced.1.output.destination = some ⟨1, 0, "second.ts"⟩ ∧
        other.registry.entries = [("first.ts", 1)] ∧
        forced.2.registry.entries = [("second.ts", 1)] := by
  refine ⟨_, _, rfl, ?_⟩
  decide +kernel

end Session

end MpegRecorder
