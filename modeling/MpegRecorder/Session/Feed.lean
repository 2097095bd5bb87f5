import MpegRecorder.Session.Basic

/-!
Feeding a session, and ending it. A piece of the capture is taken in steps: while the container is
unknown a step takes what the detection buffer has room for, and once it is known one step takes the
rest. A step that takes nothing brings the session closer to one that does, so every feed ends.
-/

namespace MpegRecorder.Session

open Capture

variable {φ ε : Type} [Engine ε]

/--
How many times a session can go on without taking a byte: the output format may still be corrected,
the container may become known, and a full detection buffer may make room.
-/
def patience (session : Session φ ε) : Nat :=
  (if session.params.output = .program then 1 else 0) + (if session.container.isNone then 1 else 0)
    + (if session.detection.isFull then 1 else 0)

theorem startRecording_isFull (session : Session φ ε) (medium : Medium) (container : Container) :
    (session.startRecording medium container).1.detection.isFull = false := by
  simp only [startRecording, restartRetained, record_detection]
  exact Detection.isFull_reset session.limit_pos

theorem patience_startRecording (session : Session φ ε) (medium : Medium) (container : Container)
    (unknown : session.container = none) :
    (session.startRecording medium container).1.patience < session.patience := by
  simp only [patience, startRecording_params, startRecording_container, startRecording_isFull,
    unknown, Option.isNone_some, Option.isNone_none, Bool.false_eq_true, if_false, if_true]
  omega

variable [EngineFactory φ ε]

theorem patience_onDetected (session : Session φ ε) (medium : Medium) (container : Container)
    (unknown : session.container = none) :
    (session.onDetected medium container).1 = true →
      (session.onDetected medium container).2.1.patience < session.patience := by
  unfold onDetected
  split
  · rename_i needed
    let corrected : Session φ ε := { session with
      params := { session.params with output := .transport }
      stats := { session.stats with corrections := session.stats.corrections + 1 } }
    have less : corrected.patience < session.patience := by
      simp only [patience, corrected, needed.1, if_true]
      rw [if_neg (by decide)]
      omega
    have kept := reopenEngine_params corrected medium
    have retained := reopenEngine_detection corrected medium
    have known := reopenEngine_container corrected medium
    dsimp only
    split
    · rintro ⟨⟩
    · rename_i reopened reopenedMedium equal
      rw [equal] at kept retained known
      dsimp only at kept retained known
      have same : reopened.analyseRetained.patience = corrected.patience := by
        simp only [patience, analyseRetained_params, analyseRetained_container,
          analyseRetained_detection, kept, retained, known]
      split
      · exact fun _ => same ▸ less
      · refine fun _ => Nat.lt_trans (patience_startRecording _ _ _ ?_) (same ▸ less)
        rw [analyseRetained_container, known]
        exact unknown
  · exact fun _ => patience_startRecording session medium container unknown

theorem patience_onUndetected (session : Session φ ε) (medium : Medium)
    (full : session.detection.isFull = true) :
    (session.onUndetected medium).1.patience < session.patience := by
  unfold onUndetected
  simp only [full, Bool.not_true, Bool.false_eq_true, if_false]
  split
  · rename_i below
    have roomy := Detection.isFull_grow session.limit_pos (by simpa using below)
    simp only [patience, roomy, full, Bool.false_eq_true, if_false, if_true]
    omega
  · simp only [patience, reopenEngine_params, reopenEngine_container, reopenEngine_detection,
      Detection.isFull_reset session.limit_pos, full, Bool.false_eq_true, if_false, if_true]
    omega

theorem patience_poll (session : Session φ ε) (medium : Medium)
    (unknown : session.container = none) (full : session.detection.isFull = true) :
    (session.poll medium).1 = true → (session.poll medium).2.1.patience < session.patience := by
  unfold poll
  split
  · exact patience_onDetected session medium _ unknown
  · exact fun _ => patience_onUndetected session medium full

theorem turn_decreases (session : Session φ ε) (medium : Medium) {rest : Bytes} (more : rest ≠ [])
    (unknown : session.container = none)
    (going : ((session.analyse rest).poll medium).1 = true) :
    Prod.Lex (· < ·) (· < ·)
      ((rest.drop (session.detection.fitting rest).length).length,
        ((session.analyse rest).poll medium).2.1.patience)
      (rest.length, session.patience) := by
  have some := List.length_pos_iff.mpr more
  by_cases nothing : session.detection.fitting rest = []
  · have full := Detection.isFull_of_fitting more nothing
    have same : session.detection.append rest = session.detection := by
      simp only [Detection.append, nothing]
      rfl
    have less := patience_poll (session.analyse rest) medium
      (by rw [analyse_container]; exact unknown)
      (by rw [analyse_detection, same]; exact full) going
    have equal : (session.analyse rest).patience = session.patience := by
      simp only [patience, analyse_params, analyse_container, analyse_detection, same]
    rw [nothing, List.length_nil, List.drop_zero]
    exact Prod.Lex.right _ (equal ▸ less)
  · have := List.length_pos_iff.mpr nothing
    refine Prod.Lex.left _ _ ?_
    rw [List.length_drop]
    omega

def feedFrom (session : Session φ ε) (medium : Medium) (rest : Bytes) :
    Bool × Session φ ε × Medium :=
  if _more : rest = [] then (true, session, medium)
  else
    match _unknown : session.container with
    | some _ => (true, session.record medium rest)
    | none =>
      let polled := (session.analyse rest).poll medium
      if _going : polled.1 = true then
        feedFrom polled.2.1 polled.2.2 (rest.drop (session.detection.fitting rest).length)
      else (false, polled.2)
termination_by (rest.length, session.patience)
decreasing_by exact turn_decreases session medium _more _unknown _going

/--
Takes a piece of the capture and says whether all of it was taken. Nothing is taken after the end.
-/
def feed (session : Session φ ε) (medium : Medium) (data : Bytes) : Bool × Session φ ε × Medium :=
  if session.closed then (false, session, medium) else session.feedFrom medium data

def drain (session : Session φ ε) (medium : Medium) : Session φ ε × Medium :=
  match session.engine with
  | none => (session, medium)
  | some engine =>
    let (chunks, feeder) :=
      if session.container.isSome then session.feeder.finish else ([], session.feeder)
    let (engine, output, medium) := recordChunks engine session.output medium chunks
    let (output, medium) := output.receiveAll medium (Engine.close engine).1
    ({ session with engine := none, feeder, output }, medium)

/-- Ends the recording and leaves the registry. Once ended, a session stays as it is. -/
def close (session : Session φ ε) (medium : Medium) : Session φ ε × Medium :=
  if session.closed then (session, medium)
  else
    let (session, medium) := { session with closed := true }.drain medium
    let (output, medium) := session.output.finish medium
    ({ session with output },
      if output.registered then
        { medium with registry := medium.registry.unregister output.path output.recording }
      else medium)

/-- Rewinds the destination whenever `limit` bytes are written; zero lets it grow without end. -/
def setRingLimit (session : Session φ ε) (limit : Nat) : Session φ ε :=
  { session with
    output := { session.output with ring := { session.output.ring with limit } } }

def dropped (session : Session φ ε) : Nat :=
  session.feeder.dropped - session.superseded

end MpegRecorder.Session
