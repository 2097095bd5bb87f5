import MpegRecorder.Proofs.Output.Conduct
import MpegRecorder.Proofs.Session.Whereabouts
import MpegRecorder.Studio

/-!
What is done with the sessions of a studio, one operation after the other, and all that one operation can
come to: the studio stays as it is but for the storage, a session is opened, or one session acts.
-/

namespace MpegRecorder

open Output (Conduct)

namespace Session

variable {φ ε : Type} [Engine ε]

theorem conduct_close (session : Session φ ε) (medium : Medium) :
    Conduct (session.output, medium) (outlet (session.close medium)) := by
  unfold close
  split
  · exact (Output.Stays.refl _).conduct
  · have drained := whereabouts_drain { session with closed := true } medium
    have finished := drained.trans (Output.whereabouts_finish _ _)
    have ended := Output.conduct_of_stays_or_moves finished.stays_or_moves
    dsimp only
    split
    · exact ended.leave (Output.closed_finish ..)
    · exact ended

omit [Engine ε] in
theorem start_enters [EngineFactory φ ε] {setup : Setup φ} {recording : Nat} {medium started : Medium}
    {session : Session φ ε} (opened : start setup recording medium = .ok (session, started)) :
    session.output = setup.newOutput recording ∧
      started = { medium with registry :=
        if setup.registered then medium.registry.register setup.destination.path recording
        else medium.registry } := by
  unfold start at opened
  split at opened
  · cases opened
  · split at opened
    · cases opened
    · obtain ⟨rfl, rfl⟩ := Prod.mk.inj (Except.ok.inj opened)
      refine ⟨rfl, ?_⟩
      split <;> rfl

end Session

namespace Studio

/-- What is done with the sessions of a studio, and with the files that they write to. -/
inductive Operation (φ : Type) where
  | start (setup : Session.Setup φ)
  | feed (number : Nat) (data : Bytes)
  | close (number : Nat)
  | startSwitch (number : Nat) (name : String) (token : UInt32)
  | startSwitchAt (path name : String) (token : UInt32)
  | awaitSwitch (number : Nat)
  | forceSwitch (number : Nat)
  | detach (number : Nat)
  | setRingLimit (number limit : Nat)
  | authorize (number : Nat) (token : UInt32)
  /-- Others change the storage, or open a destination there for the next session. -/
  | changeStorage (storage : Storage)

variable {φ ε : Type}

section Run

variable [Engine ε] [EngineFactory φ ε]

namespace Operation

def actor? (operation : Operation φ) (studio : Studio φ ε) : Option Nat :=
  match operation with
  | start _ => some studio.sessions.length
  | startSwitchAt path _ _ => studio.medium.registry.get? path
  | feed number _ | close number | startSwitch number _ _ | awaitSwitch number | forceSwitch number
  | detach number | setRingLimit number _ | authorize number _ => some number
  | changeStorage _ => none

def perform (operation : Operation φ) (studio : Studio φ ε) : Studio φ ε :=
  match operation with
  | start setup => (studio.start setup).2
  | feed number data => (studio.feed number data).2
  | close number => studio.close number
  | startSwitch number name token => (studio.startSwitch number name token).2
  | startSwitchAt path name token => (studio.startSwitchAt path name token).2
  | awaitSwitch number => (studio.awaitSwitch number).2
  | forceSwitch number => studio.forceSwitch number
  | detach number => studio.detach number
  | setRingLimit number limit =>
    (studio.act number fun session medium => ((), session.setRingLimit limit, medium)).2
  | authorize number token =>
    (studio.actOutput number fun output medium =>
      ((), { output with opener := output.opener.authorize token }, medium)).2
  | changeStorage storage => { studio with medium := { studio.medium with storage } }

end Operation

def run (operations : List (Operation φ)) (studio : Studio φ ε) : Studio φ ε :=
  operations.foldl (fun studio operation => operation.perform studio) studio

end Run

inductive Outcome (studio : Studio φ ε) (actor : Option Nat) : Studio φ ε → Prop where
  | idle (storage : Storage) :
      Outcome studio actor { studio with medium := { studio.medium with storage } }
  | opens {session : Session φ ε} {medium : Medium} (acts : actor = some studio.sessions.length)
      (recording : session.output.recording = studio.sessions.length)
      (entered : medium.registry =
        if session.output.registered then
          studio.medium.registry.register session.output.path studio.sessions.length
        else studio.medium.registry) :
      Outcome studio actor ⟨medium, studio.sessions ++ [session]⟩
  | works {number : Nat} {session later : Session φ ε} {medium : Medium} (acts : actor = some number)
      (found : studio.session? number = some session)
      (conduct : Conduct (session.output, studio.medium) (later.output, medium)) :
      Outcome studio actor ⟨medium, studio.sessions.set number later⟩

section Outcome

variable (studio : Studio φ ε)

theorem outcome_act {α : Type} (number : Nat)
    (action : Session φ ε → Medium → α × Session φ ε × Medium)
    (conduct : ∀ session medium,
      Conduct (session.output, medium) (Session.outlet (action session medium).2)) :
    Outcome studio (some number) (studio.act number action).2 := by
  unfold act
  split
  · exact .idle studio.medium.storage
  · next session found => exact .works rfl found (conduct session studio.medium)

theorem outcome_actOutput {α : Type} (number : Nat) (action : Output → Medium → α × Output × Medium)
    (conduct : ∀ output medium, Conduct (output, medium) (action output medium).2) :
    Outcome studio (some number) (studio.actOutput number action).2 :=
  studio.outcome_act number _ fun session medium => conduct session.output medium

theorem outcome_startSwitch (number : Nat) (name : String) (token : UInt32) :
    Outcome studio (some number) (studio.startSwitch number name token).2 :=
  studio.outcome_actOutput number _ fun output medium =>
    Output.conduct_of_stays_or_moves (output.startSwitch_stays_or_moves medium name token)

variable [EngineFactory φ ε]

theorem outcome_start (setup : Session.Setup φ) :
    Outcome studio (some studio.sessions.length) (studio.start setup).2 := by
  unfold start
  split
  · exact .idle studio.medium.storage
  · next session started opened =>
    obtain ⟨output, entered⟩ := Session.start_enters opened
    refine .opens rfl (by rw [output]; rfl) ?_
    rw [entered, output]
    rfl

theorem outcome_perform [Engine ε] (operation : Operation φ) :
    Outcome studio (operation.actor? studio) (operation.perform studio) := by
  cases operation with
  | start setup => exact studio.outcome_start setup
  | feed number data =>
    exact studio.outcome_act number _ fun session medium =>
      Output.conduct_of_stays_or_moves (session.whereabouts_feed medium data).stays_or_moves
  | close number =>
    exact studio.outcome_act number (fun session medium => ((), session.close medium))
      fun session medium => session.conduct_close medium
  | startSwitch number name token => exact studio.outcome_startSwitch number name token
  | startSwitchAt path name token =>
    simp only [Operation.actor?, Operation.perform, startSwitchAt]
    cases studio.medium.registry.get? path with
    | none => exact .idle studio.medium.storage
    | some number => exact studio.outcome_startSwitch number name token
  | awaitSwitch number =>
    exact studio.outcome_actOutput number _ fun output medium =>
      Output.conduct_of_stays_or_moves (output.whereabouts_awaitSwitch medium).stays_or_moves
  | forceSwitch number =>
    exact studio.outcome_actOutput number (fun output medium => ((), output.forceSwitch medium))
      fun output medium =>
        Output.conduct_of_stays_or_moves (output.whereabouts_forceSwitch medium).stays_or_moves
  | detach number =>
    exact studio.outcome_actOutput number (fun output medium => ((), output.detach medium))
      fun output medium => output.conduct_detach medium
  | setRingLimit number limit =>
    have stays (session : Session φ ε) (medium : Medium) : Output.Stays (session.output, medium)
        ((session.setRingLimit limit).output, medium) := ⟨rfl, rfl, rfl, rfl, rfl⟩
    exact studio.outcome_act number _ fun session medium => (stays session medium).conduct
  | authorize number token =>
    have stays (output : Output) (medium : Medium) : Output.Stays (output, medium)
        ({ output with opener := output.opener.authorize token }, medium) := ⟨rfl, rfl, rfl, rfl, rfl⟩
    exact studio.outcome_actOutput number _ fun output medium => (stays output medium).conduct
  | changeStorage storage => exact .idle storage

end Outcome

end Studio

end MpegRecorder
