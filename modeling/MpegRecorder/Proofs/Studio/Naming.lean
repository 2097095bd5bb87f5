import MpegRecorder.Engine.Scripted
import MpegRecorder.Proofs.Studio.Outcome

/-!
Sessions that share a registry. Whatever is done with them, in any order, an entry names a session that
records into its path, and a session meets the entry of another only where it arrives, by being opened there
or by moving there: the entry is then its own. This is so as long as no session moves away from a path whose
entry was taken over, since it would move that entry along.
-/

namespace MpegRecorder.Studio

open Storage

variable {φ ε : Type}

def oversteps (studio : Studio φ ε) (actor : Option Nat) (after : Studio φ ε) : Bool :=
  match actor.bind studio.session?, actor.bind after.session? with
  | some session, some later => session.output.oversteps later.output studio.medium.registry
  | _, _ => false

/-- The session that acts was opened at a path or has moved there, and is registered. -/
def Arrives (studio : Studio φ ε) (actor : Option Nat) (after : Studio φ ε) (path : String) : Prop :=
  ∃ number session, actor = some number ∧ after.session? number = some session ∧
    session.output.registered = true ∧ Path.same path session.output.path = true ∧
      ∀ earlier, studio.session? number = some earlier →
        earlier.output.switches < session.output.switches

/-- The session that acts has an entry once it is opened, and keeps it until it is closed or detached. -/
def KeepsEntry (studio : Studio φ ε) (actor : Option Nat) (after : Studio φ ε) : Prop :=
  ∀ number session, actor = some number → after.session? number = some session →
    session.output.registered = true → session.output.closed = false →
      studio.session? number = none ∨ studio.medium.registry.Lists number →
        after.medium.registry.Lists number

def straight [Engine ε] [EngineFactory φ ε] : List (Operation φ) → Studio φ ε → Bool
  | [], _ => true
  | operation :: later, studio =>
    !studio.oversteps (operation.actor? studio) (operation.perform studio)
      && straight later (operation.perform studio)

structure Sound (studio : Studio φ ε) : Prop where
  numbered : ∀ {number session}, studio.session? number = some session →
    session.output.recording = number
  distinct : studio.medium.registry.Distinct

def Named (studio : Studio φ ε) : Prop :=
  ∀ entry ∈ studio.medium.registry.entries, ∃ session, studio.session? entry.2 = some session ∧
    session.output.registered = true ∧ Path.same entry.1 session.output.path = true

section Sessions

variable {studio : Studio φ ε} {number : Nat} {session later : Session φ ε} {medium : Medium}

theorem session?_set_self (found : studio.session? number = some session) :
    session? ⟨medium, studio.sessions.set number later⟩ number = some later :=
  List.getElem?_set_self (List.getElem?_eq_some_iff.mp found).1

theorem session?_set_of_ne {other : Nat} (different : other ≠ number) :
    session? ⟨medium, studio.sessions.set number later⟩ other = studio.session? other :=
  List.getElem?_set_ne different.symm

theorem session?_concat_self :
    session? ⟨medium, studio.sessions ++ [session]⟩ studio.sessions.length = some session :=
  List.getElem?_concat_length

theorem session?_concat_of_ne {other : Nat} (different : other ≠ studio.sessions.length) :
    session? ⟨medium, studio.sessions ++ [session]⟩ other = studio.session? other := by
  rcases Nat.lt_or_gt_of_ne different with earlier | later
  · exact List.getElem?_append_left earlier
  · have beyond : (studio.sessions ++ [session]).length ≤ other := by
      rw [List.length_append, List.length_singleton]
      exact later
    exact (List.getElem?_eq_none beyond).trans (List.getElem?_eq_none (Nat.le_of_lt later)).symm

theorem session?_length : studio.session? studio.sessions.length = none :=
  List.getElem?_eq_none (Nat.le_refl _)

theorem Named.own (named : studio.Named) (sound : studio.Sound)
    (found : studio.session? number = some session) :
    Output.Located (session.output, studio.medium) := by
  intro entry member own
  obtain ⟨same, there, registered, path⟩ := named entry member
  rw [own, sound.numbered found, found] at there
  obtain rfl := Option.some.inj there
  exact ⟨registered, path⟩

end Sessions

section Invariant

variable {studio after : Studio φ ε} {actor : Option Nat}

theorem Outcome.sound (outcome : Outcome studio actor after) (sound : studio.Sound) :
    after.Sound := by
  cases outcome with
  | idle storage => exact ⟨sound.numbered, sound.distinct⟩
  | opens acts recording entered =>
    refine ⟨fun {number session} found => ?_, ?_⟩
    · by_cases last : number = studio.sessions.length
      · rw [last, session?_concat_self] at found
        rw [← Option.some.inj found, recording, last]
      · rw [session?_concat_of_ne last] at found
        exact sound.numbered found
    · dsimp only
      rw [entered]
      split
      · exact sound.distinct.register ..
      · exact sound.distinct
  | @works acting before later medium acts there conduct =>
    refine ⟨fun {number session} found => ?_, conduct.distinct sound.distinct⟩
    by_cases acts : number = acting
    · rw [acts, session?_set_self there] at found
      rw [← Option.some.inj found, acts, ← sound.numbered there]
      exact conduct.recording
    · rw [session?_set_of_ne acts] at found
      exact sound.numbered found

theorem Outcome.straight_of_works {number : Nat} {session later : Session φ ε} {medium : Medium}
    (found : studio.session? number = some session)
    (straight : studio.oversteps (some number) ⟨medium, studio.sessions.set number later⟩ = false) :
    session.output.oversteps later.output studio.medium.registry = false := by
  simpa only [oversteps, Option.bind_some, found, session?_set_self found] using straight

theorem Outcome.named (outcome : Outcome studio actor after) (sound : studio.Sound)
    (straight : studio.oversteps actor after = false) (named : studio.Named) : after.Named := by
  cases outcome with
  | idle storage => exact named
  | @opens opened medium acts recording entered =>
    intro entry member
    have earlier (before : entry ∈ studio.medium.registry.entries) : ∃ session,
        session? ⟨medium, studio.sessions ++ [opened]⟩ entry.2 = some session ∧
          session.output.registered = true ∧ Path.same entry.1 session.output.path = true := by
      obtain ⟨session, found, named⟩ := named entry before
      have different : entry.2 ≠ studio.sessions.length := fun last => by
        rw [last, session?_length] at found
        cases found
      exact ⟨session, (session?_concat_of_ne different).trans found, named⟩
    dsimp only at member
    rw [entered] at member
    split at member
    · next registered =>
      rcases Registry.of_mem_register member with before | made
      · exact earlier before.1
      · refine ⟨opened, ?_, registered, made.2⟩
        rw [made.1]
        exact session?_concat_self
    · exact earlier member
  | @works number session later medium acts found conduct =>
    obtain rfl := acts
    have straight := straight_of_works found straight
    intro entry member
    -- The entry of the session that acts went where it is now; those of others were there before.
    by_cases own : entry.2 = number
    · have mine := conduct.located sound.distinct straight (named.own sound found) entry member
        (by rw [own, conduct.recording, sound.numbered found])
      exact ⟨later, by rw [own, session?_set_self found], mine⟩
    · have before := (conduct.spares sound.distinct straight).only entry member
        (by rwa [sound.numbered found])
      rw [session?_set_of_ne own]
      exact named entry before

theorem Outcome.spares (outcome : Outcome studio actor after) (sound : studio.Sound)
    (straight : studio.oversteps actor after = false) {entry : String × Nat}
    (other : actor ≠ some entry.2) :
    (entry ∈ after.medium.registry.entries → entry ∈ studio.medium.registry.entries) ∧
      (entry ∈ studio.medium.registry.entries →
        entry ∈ after.medium.registry.entries ∨ studio.Arrives actor after entry.1) := by
  cases outcome with
  | idle storage => exact ⟨id, .inl⟩
  | @opens opened medium acts recording entered =>
    obtain rfl := acts
    have others : entry.2 ≠ studio.sessions.length := fun same => other (same ▸ rfl)
    dsimp only
    rw [entered]
    split
    · next registered =>
      have spares := Registry.spares_register studio.medium.registry opened.output.path
        studio.sessions.length registered
      refine ⟨fun member => spares.only entry member others, fun member => ?_⟩
      refine (spares.kept entry member others).imp_right fun ⟨_, path⟩ => ?_
      refine ⟨_, opened, rfl, session?_concat_self, registered, path, fun earlier there => ?_⟩
      rw [session?_length] at there
      cases there
    · exact ⟨id, .inl⟩
  | @works number session later medium acts found conduct =>
    obtain rfl := acts
    have straight := straight_of_works found straight
    have others : entry.2 ≠ session.output.recording := by
      rw [sound.numbered found]
      exact fun same => other (same ▸ rfl)
    have spares := conduct.spares sound.distinct straight
    refine ⟨fun member => spares.only entry member others, fun member => ?_⟩
    refine (spares.kept entry member others).imp_right fun ⟨⟨registered, moved⟩, path⟩ => ?_
    refine ⟨number, later, rfl, session?_set_self found, registered, path, fun earlier there => ?_⟩
    obtain rfl := Option.some.inj (found.symm.trans there)
    exact moved

theorem Outcome.keepsEntry (outcome : Outcome studio actor after) (sound : studio.Sound)
    (straight : studio.oversteps actor after = false) : studio.KeepsEntry actor after := by
  intro number session acting there registered going had
  cases outcome with
  | idle storage =>
    rcases had with missing | lists
    · cases missing.symm.trans there
    · exact lists
  | opens acts recording entered =>
    obtain rfl := Option.some.inj (acting.symm.trans acts)
    rw [session?_concat_self] at there
    obtain rfl := Option.some.inj there
    dsimp only
    rw [entered, if_pos registered]
    exact Registry.lists_register ..
  | works acts found conduct =>
    obtain rfl := acts
    obtain rfl := Option.some.inj acting
    rw [session?_set_self found] at there
    obtain rfl := Option.some.inj there
    rcases had with missing | lists
    · cases missing.symm.trans found
    · have keeps := conduct.keeps (straight_of_works found straight)
      rw [sound.numbered found] at keeps
      exact keeps lists registered going

end Invariant

theorem sound_empty (workingDirectory : List String) :
    (empty workingDirectory : Studio φ ε).Sound :=
  ⟨nofun, .nil⟩

variable [Engine ε] [EngineFactory φ ε]

theorem Sound.run {studio : Studio φ ε} (sound : studio.Sound) (operations : List (Operation φ)) :
    (run operations studio).Sound := by
  induction operations generalizing studio with
  | nil => exact sound
  | cons operation later ih => exact ih ((studio.outcome_perform operation).sound sound)

theorem Named.run {studio : Studio φ ε} (named : studio.Named) (sound : studio.Sound)
    (operations : List (Operation φ)) (keeps : straight operations studio = true) :
    (run operations studio).Named := by
  induction operations generalizing studio with
  | nil => exact named
  | cons operation later ih =>
    rw [straight, Bool.and_eq_true, Bool.not_eq_true'] at keeps
    have outcome := studio.outcome_perform operation
    exact ih (outcome.named sound keeps.1 named) (outcome.sound sound) keeps.2

/--
After a run in which no session oversteps, every entry of the registry belongs to a session that records
into its path. Whatever the run was, a session that acts and does not overstep keeps its own entry, adds no
entry of another session, and removes none but the one of a path where it arrives.
-/
theorem registry_names_sessions (workingDirectory : List String) (operations : List (Operation φ)) :
    let start : Studio φ ε := empty workingDirectory
    let studio := run operations start
    (straight operations start = true → studio.Named) ∧
      ∀ operation : Operation φ,
        let actor := operation.actor? studio
        let after := operation.perform studio
        studio.oversteps actor after = false →
          studio.KeepsEntry actor after ∧
            ∀ entry : String × Nat, actor ≠ some entry.2 →
              (entry ∈ after.medium.registry.entries → entry ∈ studio.medium.registry.entries) ∧
                (entry ∈ studio.medium.registry.entries →
                  entry ∈ after.medium.registry.entries ∨ studio.Arrives actor after entry.1) := by
  intro start studio
  have sound : start.Sound := sound_empty workingDirectory
  have named : start.Named := nofun
  refine ⟨named.run sound operations, ?_⟩
  intro operation actor after straight
  have outcome := studio.outcome_perform operation
  have still : studio.Sound := sound.run operations
  exact ⟨outcome.keepsEntry still straight, fun entry other => outcome.spares still straight other⟩

def entered (path : String) (file : Nat) : Operation ScriptedFactory :=
  .start {
    destination := ⟨file, 0, path⟩
    factory := .new .never .h264 none
    opener := .healthy
    output := .transport
    capture := .other
    delivery := .unknown
    tuning := .automatic
    config := .standard
    registered := true }

def twoFiles : Storage :=
  (((Storage.empty []).addFile "first.ts" .healthy).2.addFile "second.ts" .healthy).2

def converging : List (Operation ScriptedFactory) :=
  [.changeStorage twoFiles, entered "first.ts" 0, entered "second.ts" 1,
    .startSwitch 0 "third.ts" 7, .forceSwitch 0, .startSwitch 1 "third.ts" 7]

/-- The second session arrives where the first one records, and the entry is its own from then on. -/
theorem registry_names_sessions_converging :
    let start : Studio ScriptedFactory ScriptedEngine := empty []
    let studio := run converging start
    let after := studio.forceSwitch 1
    straight converging start = true ∧ studio.Named ∧
      studio.medium.registry.entries = [("second.ts", 1), ("third.ts", 0)] ∧
      studio.oversteps (some 1) after = false ∧ after.medium.registry.entries = [("third.ts", 1)] ∧
      studio.KeepsEntry (some 1) after ∧ studio.Arrives (some 1) after "third.ts" := by
  intro start studio after
  obtain ⟨named, acts⟩ :=
    @registry_names_sessions ScriptedFactory ScriptedEngine _ _ [] converging
  have straight : straight converging start = true := by decide +kernel
  have entries : studio.medium.registry.entries = [("second.ts", 1), ("third.ts", 0)] := by
    decide +kernel
  have moves : studio.oversteps (some 1) after = false := by decide +kernel
  have taken : after.medium.registry.entries = [("third.ts", 1)] := by decide +kernel
  have before : ("third.ts", 0) ∈ studio.medium.registry.entries := by
    rw [entries]
    decide
  have gone : ("third.ts", 0) ∉ after.medium.registry.entries := by
    rw [taken]
    decide
  obtain ⟨keeps, others⟩ := acts (.forceSwitch 1) moves
  have kept := (others ("third.ts", 0) (by decide)).2 before
  exact ⟨straight, named straight, entries, moves, taken, keeps, kept.resolve_left gone⟩

/-- A session that is opened where another records removes its entry. -/
theorem entry_taken_over :
    ¬ ∀ (operations : List (Operation ScriptedFactory)) (operation : Operation ScriptedFactory)
        (entry : String × Nat),
      let studio : Studio ScriptedFactory ScriptedEngine := run operations (empty [])
      operation.actor? studio ≠ some entry.2 → entry ∈ studio.medium.registry.entries →
        entry ∈ (operation.perform studio).medium.registry.entries := by
  intro always
  have kept := always [.changeStorage twoFiles, entered "first.ts" 0] (entered "first.ts" 1)
    ("first.ts", 0) (by decide +kernel) (by decide +kernel)
  exact absurd kept (by decide +kernel)

end MpegRecorder.Studio
