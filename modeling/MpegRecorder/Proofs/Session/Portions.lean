import MpegRecorder.Proofs.Engine.Portions
import MpegRecorder.Proofs.Output.Portions
import MpegRecorder.Proofs.Session.Acts

/-!
What a session of the plain factory hands its output. While the container is unknown that is nothing; from then
on it is portions of the format that the session records, each in full, until a last piece comes when the
session is closed.
-/

namespace MpegRecorder

open Output (Act)

namespace Output

variable {output : Output} {kind : Container.Kind} {form : Bytes → Prop} {emissions : List Emission}

theorem feeds_asked (hands : ∀ emission ∈ emissions, emission.Hands form) :
    ∀ act ∈ emissions.map fun emission => Act.ask emission.operation, act.Feeds kind form := by
  intro act member
  obtain ⟨emission, there, rfl⟩ := List.mem_map.mp member
  cases emission with
  | write data => exact hands _ there
  | flush => trivial

theorem feeds_taken (hands : ∀ emission ∈ emissions, emission.Hands form) :
    ∀ act ∈ output.taken emissions, act.Feeds kind form := by
  unfold taken
  split
  · exact feeds_asked hands
  · exact nofun

theorem taken_of_silent (silent : output.accepting = false) (emissions : List Emission) :
    output.taken emissions = [] :=
  if_neg (Bool.not_eq_true _ ▸ silent)

theorem accepting_receiveAll (output : Output) (medium : Medium) (emissions : List Emission) :
    (output.receiveAll medium emissions).1.accepting = output.accepting := by
  by_cases accepts : output.accepting = true
  · have each (emissions : List Emission) (state : Output × Medium) :
        (Act.after (emissions.map fun emission => .ask emission.operation) state).1.accepting =
          state.1.accepting := by
      induction emissions generalizing state with
      | nil => rfl
      | cons emission later ih => exact (ih _).trans (accepting_emission emission state)
    rw [receiveAll_eq, taken, if_pos accepts]
    exact each emissions (output, medium)
  · rw [receiveAll_of_silent (Bool.not_eq_true _ ▸ accepts)]

theorem accepting_perform (operation : Operation) (state : Output × Medium) :
    (operation.perform state).1.accepting = state.1.accepting := by
  obtain ⟨output, medium⟩ := state
  cases operation with
  | append data => exact accepting_emission (.write data) _
  | flush => exact output.accepting_flush medium
  | startSwitch name token =>
    simp only [Operation.perform, startSwitch]
    split
    · rfl
    · exact (frame_tryCut _ medium false).accepting
  | forceSwitch => exact (frame_tryCut output medium true).accepting
  | awaitSwitch =>
    simp only [Operation.perform, awaitSwitch]
    split
    · rfl
    · exact (frame_tryCut output medium true).accepting
  | setPolicy kind family videoPid => rfl
  | setRingLimit limit => rfl
  | detach =>
    simp only [Operation.perform, detach]
    split <;> rfl

end Output

namespace Session

def Writes (kind : Container.Kind) (engine : MpegEngine ⊕ ScriptedEngine) : Prop :=
  ∃ mpeg, engine = .inl mpeg ∧ mpeg.output = kind

structure Bundled (session : Session Factory (MpegEngine ⊕ ScriptedEngine)) : Prop where
  factory : session.factory = .mpeg
  engine : ∀ engine, session.engine = some engine → Writes session.params.output engine
  silent : session.container = none → session.output.accepting = false

section Engines

variable {kind : Container.Kind} {engine : MpegEngine ⊕ ScriptedEngine}

theorem Writes.analyse (writes : Writes kind engine) (chunk : Bytes) :
    Writes kind (Engine.analyse engine chunk).2 := by
  obtain ⟨mpeg, rfl, output⟩ := writes
  exact ⟨_, rfl, (MpegEngine.output_track _).trans output⟩

theorem Writes.remuxed (writes : Writes kind engine) (chunks : List Bytes) :
    Writes kind (remuxed engine chunks).2 ∧
      ∀ emission ∈ (Session.remuxed engine chunks).1, emission.Hands (Row kind.Portion) := by
  induction chunks generalizing engine with
  | nil => exact ⟨writes, nofun⟩
  | cons chunk later ih =>
    obtain ⟨mpeg, rfl, rfl⟩ := writes
    obtain ⟨kept, hands⟩ := mpeg.portions_remux chunk
    obtain ⟨still, rest⟩ := ih ⟨_, rfl, kept⟩
    exact ⟨still, List.forall_mem_append.mpr ⟨hands, rest⟩⟩

theorem Writes.closes (writes : Writes kind engine) :
    (Engine.close engine).1 = [] ∨ (Engine.close engine).1 = [.flush] ∨
      ∃ data, (Engine.close engine).1 = [.write data, .flush] ∧ kind.Ended data := by
  obtain ⟨mpeg, rfl, rfl⟩ := writes
  exact mpeg.ended_close.2

end Engines

variable {session : Session Factory (MpegEngine ⊕ ScriptedEngine)} {medium : Medium}

theorem Bundled.emitted (bundled : Bundled session) (data : Bytes) :
    ∀ emission ∈ session.emitted data, emission.Hands (Row session.params.output.Portion) := by
  unfold Session.emitted
  split
  · exact nofun
  · next engine running => exact ((bundled.engine engine running).remuxed _).2

theorem Bundled.analyse (bundled : Bundled session) (input : Bytes) : Bundled (session.analyse input) := by
  have writes (chunks : List Bytes) {engine : MpegEngine ⊕ ScriptedEngine}
      (writes : Writes session.params.output engine) :
      Writes session.params.output
        (chunks.foldl (fun engine chunk => (Engine.analyse engine chunk).2) engine) := by
    induction chunks generalizing engine with
    | nil => exact writes
    | cons chunk later ih => exact ih (writes.analyse chunk)
  unfold Session.analyse
  split
  · next stopped => exact ⟨bundled.factory, bundled.engine, bundled.silent⟩
  · next engine running =>
    refine ⟨bundled.factory, fun engine same => ?_, bundled.silent⟩
    rw [← Option.some.inj same]
    exact writes _ (bundled.engine _ running)

theorem Bundled.analyseRetained (bundled : Bundled session) : Bundled session.analyseRetained := by
  have writes (chunks : List Bytes) {state : Bool × (MpegEngine ⊕ ScriptedEngine)}
      (writes : Writes session.params.output state.2) :
      Writes session.params.output (chunks.foldl Reliable.analyseWanted state).2 := by
    induction chunks generalizing state with
    | nil => exact writes
    | cons chunk later ih =>
      refine ih ?_
      unfold Reliable.analyseWanted
      split
      · exact writes.analyse chunk
      · exact writes
  unfold Session.analyseRetained
  dsimp only
  split
  · exact ⟨bundled.factory, bundled.engine, bundled.silent⟩
  · next engine running =>
    refine ⟨bundled.factory, fun engine same => ?_, bundled.silent⟩
    rw [← Option.some.inj same]
    exact writes _ (bundled.engine _ running)

theorem reopenEngine_opens {φ ε : Type} [Engine ε] [EngineFactory φ ε] (session : Session φ ε)
    (medium : Medium) :
    let asked := EngineFactory.openEngine session.factory session.params
    (session.reopenEngine medium).2.1.engine = asked.1.toOption ∧
      (session.reopenEngine medium).2.1.factory = asked.2 := by
  intro asked
  have result : EngineFactory.openEngine session.factory session.params = asked := rfl
  unfold reopenEngine
  obtain ⟨opened, factory⟩ := asked
  cases opened <;> (simp only [result]; exact ⟨rfl, trivial⟩)

theorem bundled_reopenEngine (session : Session Factory (MpegEngine ⊕ ScriptedEngine))
    (factory : session.factory = .mpeg) (silent : session.output.accepting = false) (medium : Medium) :
    Bundled (session.reopenEngine medium).2.1 := by
  obtain ⟨engine, asked⟩ := session.reopenEngine_opens medium
  have same := session.outlet_reopenEngine medium
  rw [Output.taken_of_silent silent] at same
  have output : (session.reopenEngine medium).2.1.output = session.output := congrArg Prod.fst same
  have opened : EngineFactory.openEngine session.factory session.params =
      ((MpegEngine.open? session.params).map .inl, .mpeg) := by
    rw [factory]
    rfl
  rw [opened] at engine asked
  refine ⟨asked, fun running there => ?_, fun _ => output ▸ silent⟩
  rw [engine] at there
  rw [reopenEngine_params]
  unfold MpegEngine.open? at there
  split at there
  · exact ⟨_, (Option.some.inj there).symm, rfl⟩
  · cases there

theorem Bundled.record (bundled : Bundled session) (medium : Medium) (data : Bytes) :
    Bundled (session.record medium data).1 := by
  unfold Session.record
  split
  · exact bundled
  · next engine running =>
    simp only [recordChunks_eq]
    refine ⟨bundled.factory, fun engine same => ?_, fun unknown => ?_⟩
    · rw [← Option.some.inj same]
      exact ((bundled.engine _ running).remuxed _).1
    · exact (Output.accepting_receiveAll ..).trans (bundled.silent unknown)

/-- What is handed over between two states of a session: nothing, as long as its container is unknown. -/
structure Hands (before : Session Factory (MpegEngine ⊕ ScriptedEngine)) (acts : List Act)
    (after : Session Factory (MpegEngine ⊕ ScriptedEngine)) : Prop where
  bundled : Bundled after
  feeds : ∀ act ∈ acts, act.Feeds after.params.output (Row after.params.output.Portion)
  quiet : after.container = none → ∀ act ∈ acts, act.Rests
  known : before.container.isSome → after.container.isSome ∧ after.params.output = before.params.output
  corrected : before.params.output = .transport → after.params.output = .transport

section Hands

variable {first second third : Session Factory (MpegEngine ⊕ ScriptedEngine)} {acts more : List Act}

theorem Hands.nothing (bundled : Bundled second) (container : second.container = first.container)
    (format : second.params.output = first.params.output) : Hands first [] second :=
  ⟨bundled, nofun, fun _ => nofun, fun there => ⟨container ▸ there, format⟩, format.trans⟩

theorem Hands.earlier (hands : Hands first acts second) {kind : Container.Kind}
    (known : second.container.isSome → kind = second.params.output) :
    ∀ act ∈ acts, act.Feeds kind (Row kind.Portion) := by
  cases unknown : second.container with
  | none => exact fun act member => (hands.quiet unknown act member).feeds
  | some container =>
    rw [known (unknown ▸ rfl)]
    exact hands.feeds

theorem Hands.trans (start : Hands first acts second) (rest : Hands second more third) :
    Hands first (acts ++ more) third where
  bundled := rest.bundled
  feeds := List.forall_mem_append.mpr ⟨start.earlier fun known => (rest.known known).2, rest.feeds⟩
  quiet unknown := by
    have before : second.container = none := by
      cases known : second.container with
      | none => rfl
      | some container =>
        have there := (rest.known (known ▸ rfl)).1
        rw [unknown] at there
        cases there
    exact List.forall_mem_append.mpr ⟨start.quiet before, rest.quiet unknown⟩
  known there :=
    ⟨(rest.known (start.known there).1).1,
      (rest.known (start.known there).1).2.trans (start.known there).2⟩
  corrected given := rest.corrected (start.corrected given)

end Hands

theorem Bundled.hands_record (bundled : Bundled session) (medium : Medium) (data : Bytes) :
    Hands session (session.output.taken (session.emitted data)) (session.record medium data).1 := by
  refine ⟨bundled.record medium data, ?_, fun unknown => ?_, fun known => ?_, ?_⟩
  · rw [record_params]
    exact Output.feeds_taken (bundled.emitted data)
  · rw [record_container] at unknown
    rw [Output.taken_of_silent (bundled.silent unknown)]
    exact nofun
  · rw [record_container, record_params]
    exact ⟨known, rfl⟩
  · rw [record_params]
    exact id

theorem Bundled.hands_startRecording (bundled : Bundled session) (medium : Medium)
    (container : Container) :
    Bundled (session.startRecording medium container).1 ∧
      ∀ act ∈ session.beginActs container,
        act.Feeds session.params.output (Row session.params.output.Portion) := by
  have restarted : Bundled session.restartRetained := ⟨bundled.factory, bundled.engine, bundled.silent⟩
  refine ⟨?_, ?_⟩
  · have begun (started : Session Factory (MpegEngine ⊕ ScriptedEngine)) (data : Bytes)
        (factory : started.factory = session.factory) (engine : started.engine = session.engine)
        (params : started.params = session.params) (known : started.container = some container) :
        Bundled (started.record medium data).1 := by
      refine Bundled.record ⟨factory.trans bundled.factory, fun running same => ?_, fun unknown => ?_⟩ ..
      · exact params ▸ bundled.engine running (engine ▸ same)
      · cases known.symm.trans unknown
    exact begun _ _ rfl rfl rfl rfl
  · intro act member
    rcases List.mem_append.mp member with setting | handing
    · rcases List.mem_cons.mp setting with rfl | setting
      · exact rfl
      · rw [List.mem_singleton.mp setting]
        trivial
    · exact Output.feeds_asked (restarted.emitted session.retained) act handing

theorem Bundled.hands_poll (bundled : Bundled session) (unknown : session.container = none)
    (medium : Medium) : Hands session (session.pollActs medium) (session.poll medium).2.1 := by
  have silent := bundled.silent unknown
  have hidden : ¬ session.container.isSome = true := by
    rw [unknown]
    exact Bool.false_ne_true
  -- The recording begins in a session that has not handed over anything.
  have begins {ready : Session Factory (MpegEngine ⊕ ScriptedEngine)} (bundled : Bundled ready)
      (format : ready.params.output = .transport ∨ ready.params.output = session.params.output)
      (place : Medium) (container : Container) :
      Hands session (ready.beginActs container) (ready.startRecording place container).1 := by
    obtain ⟨begun, feeds⟩ := bundled.hands_startRecording place container
    have params := startRecording_params ready place container
    rw [← params] at feeds
    refine ⟨begun, feeds, fun none => ?_, fun known => absurd known hidden, fun given => ?_⟩
    · rw [startRecording_container] at none
      cases none
    · rw [params]
      exact format.elim id fun same => same.trans given
  have nothing {after : Session Factory (MpegEngine ⊕ ScriptedEngine)} (bundled : Bundled after)
      (container : after.container = session.container)
      (format : after.params.output = .transport ∨ after.params.output = session.params.output) :
      Hands session [] after :=
    ⟨bundled, nofun, fun _ => nofun, fun known => absurd known hidden, fun given =>
      format.elim id fun same => same.trans given⟩
  unfold poll pollActs
  rw [Output.taken_of_silent silent]
  cases found : session.detected? with
  | none =>
    dsimp only
    rw [ite_self]
    unfold onUndetected
    split
    · exact nothing bundled rfl (.inr rfl)
    · split
      · exact nothing ⟨bundled.factory, bundled.engine, bundled.silent⟩ rfl (.inr rfl)
      · have params := session.emptied.reopenEngine_params medium
        have again : Bundled (session.emptied.reopenEngine medium).2.1 :=
          bundled_reopenEngine session.emptied bundled.factory silent medium
        exact nothing again (reopenEngine_container ..) (.inr (params ▸ rfl))
  | some container =>
    dsimp only
    by_cases needed : session.params.output = .program ∧ container.needsTransport = true
    · have again : Bundled (session.corrected.reopenEngine medium).2.1 :=
        bundled_reopenEngine session.corrected bundled.factory silent medium
      have kept : (session.corrected.reopenEngine medium).2.1.container = session.container :=
        reopenEngine_container ..
      have format : (session.corrected.reopenEngine medium).2.1.params.output = .transport :=
        congrArg EngineParams.output (session.corrected.reopenEngine_params medium)
      rw [onDetected_of_needed medium needed, if_pos needed, List.nil_append]
      obtain ⟨⟨opened, reopened, now⟩, same⟩ :
          ∃ answer, session.corrected.reopenEngine medium = answer :=
        ⟨_, rfl⟩
      rw [same] at again kept format ⊢
      cases opened with
      | false => exact nothing again kept (.inl format)
      | true =>
        have still : reopened.analyseRetained.params.output = .transport := by
          rw [analyseRetained_params]
          exact format
        dsimp only
        cases reopened.analyseRetained.detected? with
        | none =>
          exact nothing again.analyseRetained ((analyseRetained_container _).trans kept) (.inl still)
        | some container => exact begins again.analyseRetained (.inl still) now container
    · rw [onDetected, if_neg needed, if_neg needed]
      exact begins bundled (.inr rfl) medium container

theorem Bundled.hands_step (step : Step Factory (MpegEngine ⊕ ScriptedEngine))
    (bundled : Bundled step.session) : Hands step.session step.acts step.next.1 := by
  cases unknown : step.session.container with
  | some container =>
    have known : step.session.container.isSome = true := unknown ▸ rfl
    rw [Step.acts, Step.next_of_known known, if_pos known]
    exact bundled.hands_record step.medium step.rest
  | none =>
    rw [Step.acts, Step.next_of_unknown unknown, if_neg (Step.not_known unknown)]
    have hands := (bundled.analyse step.rest).hands_poll
      ((analyse_container ..).trans unknown) step.medium
    refine ⟨hands.bundled, hands.feeds, hands.quiet, fun known => ?_, fun given => ?_⟩
    · exact absurd known (Step.not_known unknown)
    · exact hands.corrected ((congrArg EngineParams.output (analyse_params ..)).trans given)

theorem Step.Lead.hands {first last : Session Factory (MpegEngine ⊕ ScriptedEngine) × Medium}
    {steps : List (Step Factory (MpegEngine ⊕ ScriptedEngine))} (lead : Lead first steps last)
    (bundled : Bundled first.1) : Hands first.1 (steps.flatMap Step.acts) last.1 := by
  induction lead with
  | done => exact .nothing bundled rfl rfl
  | @step session medium rest later next last came _ ih =>
    have hands : Hands session (acts ⟨session, medium, rest⟩) next.1 :=
      came ▸ Bundled.hands_step ⟨session, medium, rest⟩ bundled
    rw [List.flatMap_cons]
    exact hands.trans (ih hands.bundled)

theorem Bundled.hands_ask (bundled : Bundled session) (operation : Output.Operation)
    (rests : (Act.ask operation).Rests) (medium : Medium) :
    Hands session [.ask operation]
      { session with output := (operation.perform (session.output, medium)).1 } where
  bundled := ⟨bundled.factory, bundled.engine, fun unknown =>
    (Output.accepting_perform operation (session.output, medium)).trans (bundled.silent unknown)⟩
  feeds := List.forall_mem_singleton.mpr rests.feeds
  quiet _ := List.forall_mem_singleton.mpr rests
  known there := ⟨there, rfl⟩
  corrected := id

theorem Bundled.hands_call (bundled : Bundled session) {call : Call} (goes : call ≠ .close)
    (medium : Medium) : Hands session (call.acts session medium) (call.perform session medium).1 := by
  cases call with
  | feed data =>
    simp only [Call.acts, Call.perform, Session.feed]
    split
    · exact .nothing bundled rfl rfl
    · exact (session.stepsFrom_lead medium data).1.hands bundled
  | startSwitch name token => exact bundled.hands_ask (.startSwitch name token) (fun _ => trivial) medium
  | forceSwitch => exact bundled.hands_ask .forceSwitch (fun _ => trivial) medium
  | awaitSwitch => exact bundled.hands_ask .awaitSwitch (fun _ => trivial) medium
  | detach => exact bundled.hands_ask .detach (fun _ => trivial) medium
  | close => exact absurd rfl goes

theorem Bundled.recorded_close (bundled : Bundled session) :
    Act.Recorded session.params.output (Row session.params.output.Portion) session.params.output.Ended
      (session.output.taken session.drained ++ Act.ending ++ [.leave]) := by
  have ends (quiet : List Act) (rests : ∀ act ∈ quiet, act.Rests) :
      ∀ act ∈ quiet ++ (Act.ending ++ [.leave]), act.Rests := by
    intro act member kind
    rcases List.mem_append.mp member with earlier | last
    · exact rests act earlier kind
    · simp only [Act.ending, List.cons_append, List.nil_append, List.mem_cons, List.not_mem_nil,
        or_false] at last
      rcases last with rfl | rfl | rfl | rfl | rfl <;> trivial
  rw [List.append_assoc]
  by_cases accepts : session.output.accepting = true
  · rw [Output.taken, if_pos accepts]
    unfold drained
    split
    · exact .rests (ends [] (List.forall_mem_nil _))
    · next engine running =>
      dsimp only
      obtain ⟨writes, hands⟩ := (bundled.engine engine running).remuxed
        (if session.container.isSome then session.feeder.finish.1 else [])
      rw [List.map_append, List.append_assoc]
      refine .behind (Output.feeds_asked hands) ?_
      have flushes : ∀ act ∈ [Act.ask .flush], act.Rests := fun act member kind => by
        rw [List.mem_singleton.mp member]
        trivial
      rcases writes.closes with none | flush | ⟨data, last, ended⟩
      · rw [none]
        exact .rests (ends [] (List.forall_mem_nil _))
      · rw [flush]
        exact .rests (ends [.ask .flush] flushes)
      · rw [last]
        exact .last ended (ends [.ask .flush] flushes)
  · rw [Output.taken_of_silent (Bool.not_eq_true _ ▸ accepts)]
    exact .rests (ends [] (List.forall_mem_nil _))

theorem quiet_of_closed (ended : session.closed = true) (call : Call) (medium : Medium) :
    (call.perform session medium).1.closed = true ∧
      (call.perform session medium).1.params = session.params ∧
      ∀ act ∈ call.acts session medium, act.Rests := by
  have one {operation : Output.Operation} (rests : (Act.ask operation).Rests) :
      ∀ act ∈ [Act.ask operation], act.Rests :=
    List.forall_mem_singleton.mpr rests
  cases call with
  | feed data =>
    simp only [Call.perform, Call.acts, Session.feed, if_pos ended]
    exact ⟨ended, trivial, List.forall_mem_nil _⟩
  | startSwitch name token => exact ⟨ended, rfl, one fun _ => trivial⟩
  | forceSwitch => exact ⟨ended, rfl, one fun _ => trivial⟩
  | awaitSwitch => exact ⟨ended, rfl, one fun _ => trivial⟩
  | detach => exact ⟨ended, rfl, one fun _ => trivial⟩
  | close =>
    simp only [Call.perform, Call.acts, Session.close, if_pos ended]
    exact ⟨ended, trivial, List.forall_mem_nil _⟩

theorem quiet_run (state : Session Factory (MpegEngine ⊕ ScriptedEngine) × Medium)
    (ended : state.1.closed = true) (calls : List Call) :
    (run calls state).1.params = state.1.params ∧ ∀ act ∈ acts calls state, act.Rests := by
  induction calls generalizing state with
  | nil => exact ⟨rfl, nofun⟩
  | cons call later ih =>
    obtain ⟨still, params, quiet⟩ := quiet_of_closed ended call state.2
    obtain ⟨same, rests⟩ := ih _ still
    exact ⟨same.trans params, List.forall_mem_append.mpr ⟨quiet, rests⟩⟩

theorem close_ends (medium : Medium) (going : session.closed = false) :
    (session.close medium).1.closed = true ∧ (session.close medium).1.params = session.params := by
  unfold Session.close
  rw [going, if_neg Bool.false_ne_true]
  unfold Session.drain
  dsimp only
  split
  · exact ⟨rfl, rfl⟩
  · exact ⟨rfl, rfl⟩

/-- Whatever is called, the acts of a session are those of a recording in the format that it comes to record. -/
theorem Bundled.recorded (state : Session Factory (MpegEngine ⊕ ScriptedEngine) × Medium)
    (bundled : Bundled state.1) (calls : List Call) :
    let format := (run calls state).1.params.output
    Act.Recorded format (Row format.Portion) format.Ended (acts calls state) ∧
      (state.1.container.isSome → format = state.1.params.output) ∧
      (state.1.params.output = .transport → format = .transport) := by
  induction calls generalizing state with
  | nil => exact ⟨.rests nofun, fun _ => rfl, id⟩
  | cons call later ih =>
    obtain ⟨session, medium⟩ := state
    by_cases closes : call = .close
    · subst closes
      cases going : session.closed with
      | true =>
        have stays : Call.close.perform session medium = (session, medium) := if_pos going
        have nothing : Call.close.acts session medium = [] := if_pos going
        have parts : acts (.close :: later) (session, medium) = acts later (session, medium) := by
          rw [acts, nothing, stays, List.nil_append]
        have same : run (.close :: later) (session, medium) = run later (session, medium) :=
          congrArg (run later) stays
        rw [parts, same]
        exact ih _ bundled
      | false =>
        obtain ⟨ended, params⟩ := close_ends medium going
        obtain ⟨same, quiet⟩ := quiet_run (session.close medium) ended later
        have format : (run (.close :: later) (session, medium)).1.params.output = session.params.output :=
          congrArg EngineParams.output (same.trans params)
        have parts : acts (.close :: later) (session, medium) =
            (session.output.taken session.drained ++ Act.ending ++ [.leave]) ++
              acts later (session.close medium) :=
          congrArg (· ++ _) (if_neg (going ▸ Bool.false_ne_true))
        rw [parts, format]
        exact ⟨bundled.recorded_close.quiet quiet, fun _ => rfl, id⟩
    · have hands := bundled.hands_call closes medium
      obtain ⟨recorded, known, corrected⟩ := ih _ hands.bundled
      exact ⟨recorded.behind (hands.earlier known), fun there =>
        (known (hands.known there).1).trans (hands.known there).2,
        fun given => corrected (hands.corrected given)⟩

theorem start_bundled (setup : Setup Factory) (valid : setup.config.Valid) (plain : setup.factory = .mpeg)
    (recording : Nat) (medium : Medium) :
    ∃ session started, start setup recording medium = .ok (session, started) ∧ Bundled session ∧
      session.params = setup.params ∧ session.output = setup.newOutput recording ∧
      started.storage = medium.storage := by
  have opened : EngineFactory.openEngine setup.factory setup.params =
      (.ok (.inl (.new setup.params)), .mpeg) := by
    rw [plain]
    rfl
  unfold start
  split
  · next fault faulty =>
    rw [valid] at faulty
    cases faulty
  · simp only [opened]
    refine ⟨_, _, rfl, ⟨rfl, fun engine same => ?_, fun _ => rfl⟩, rfl, rfl, ?_⟩
    · exact ⟨_, (Option.some.inj same).symm, rfl⟩
    · split <;> rfl

/--
A session of the plain factory starts with a file in which there is nothing yet. Whatever is called then, it
hands over portions of the format that it comes to record.
-/
theorem start_recorded (setup : Setup Factory) (valid : setup.config.Valid) (plain : setup.factory = .mpeg)
    (recording : Nat) (medium : Medium) (opens : setup.opener.Faultless) (stored : medium.storage.Faultless)
    (ready : medium.storage.Ready setup.destination)
    (fresh : medium.storage.content setup.destination.file = []) :
    ∃ session started, start setup recording medium = .ok (session, started) ∧
      session.output = setup.newOutput recording ∧
      (∀ (kind : Container.Kind) (whole : Bytes → Prop), whole [] →
        Output.Portioned kind whole whole [setup.destination.file] (session.output, started)) ∧
      ∀ calls : List Call,
        let format := (run calls (session, started)).1.params.output
        Act.Recorded format (Row format.Portion) format.Ended (acts calls (session, started)) ∧
          (setup.output = .transport → format = .transport) := by
  obtain ⟨session, started, opened, bundled, params, output, same⟩ :=
    start_bundled setup valid plain recording medium
  refine ⟨session, started, opened, output, fun kind whole empty => ?_, fun calls => ?_⟩
  · rw [output]
    exact Output.portioned_start setup recording opens (same ▸ stored) (same ▸ ready) (same ▸ fresh) empty
  · obtain ⟨recorded, -, stays⟩ := Bundled.recorded (session, started) bundled calls
    exact ⟨recorded, fun asked => stays ((congrArg EngineParams.output params).trans asked)⟩

end Session

end MpegRecorder
