import MpegRecorder.Output.Basic

/-!
What callers ask of an output while it records, one request after the other. The lock around an
output makes every interleaving of the producer with those who switch such a sequence.
-/

namespace MpegRecorder.Output

inductive Operation where
  | append (data : Bytes)
  | flush
  | startSwitch (name : String) (token : UInt32)
  | forceSwitch
  | awaitSwitch
  | setPolicy (kind : Container.Kind) (family : Option Elementary.Family) (videoPid : Option UInt16)
  | setRingLimit (limit : Nat)
  | detach

namespace Operation

def perform : Operation → Output × Medium → Output × Medium
  | append data, (output, medium) => output.append medium data
  | flush, (output, medium) => output.flush medium
  | startSwitch name token, (output, medium) => (output.startSwitch medium name token).2
  | forceSwitch, (output, medium) => output.forceSwitch medium
  | awaitSwitch, (output, medium) => (output.awaitSwitch medium).2
  | setPolicy kind family videoPid, (output, medium) =>
    ({ output with policy := { output.policy with output := kind, family, videoPid } }, medium)
  | setRingLimit limit, (output, medium) =>
    ({ output with ring := { output.ring with limit } }, medium)
  | detach, (output, medium) => output.detach medium

def data : Operation → Bytes
  | append data => data
  | _ => []

end Operation

def run (operations : List Operation) (state : Output × Medium) : Output × Medium :=
  operations.foldl (fun state operation => operation.perform state) state

def appended (operations : List Operation) : Bytes :=
  operations.flatMap Operation.data

/-- The request once everything that waits counts as searched. -/
def Request.after (request : Request) (output : Output) : Request :=
  { request with scanned := request.scanned + output.buffer.content.length }

section Search

variable {output : Output} {request : Request} {force : Bool}

theorem tryCut_of_idle (idle : output.request = none) (medium : Medium) (force : Bool) :
    output.tryCut medium force = (false, output, medium) := by
  simp only [tryCut, idle]

theorem flush_of_idle (idle : output.request = none) (medium : Medium) :
    output.flush medium = output.flushAll medium := by
  rw [flush, idle]
  rfl

theorem finish_of_idle (idle : output.request = none) (medium : Medium) :
    output.finish medium =
      let written := { output with closed := true }.flushAll medium
      ({ (written.1.closeDestination written.2).1 with accepting := false },
        (written.1.closeDestination written.2).2) := by
  have waits : { output with closed := true }.request = none := idle
  simp only [finish, forceSwitch, tryCut_of_idle waits]

theorem tryCut_of_empty (empty : output.buffer.content = []) (medium : Medium) :
    output.tryCut medium false = (false, output, medium) := by
  unfold tryCut
  split
  · rfl
  · simp [empty]

theorem tryCut_of_found (waits : output.request = some request)
    (filled : output.buffer.content ≠ [] ∨ force = true) {cut : Nat}
    (found : output.policy.findCut output.buffer.content = some cut) (medium : Medium) :
    output.tryCut medium force =
      { output with request := some (request.after output) }.moveAt medium
        (request.after output) cut := by
  have searches : (output.buffer.content.isEmpty && !force) = false := by
    rcases filled with filled | rfl
    · simp [filled]
    · simp
  simp only [tryCut, waits, searches, found, Request.after, Bool.false_eq_true, ↓reduceIte]

theorem tryCut_of_given_up (waits : output.request = some request)
    (filled : output.buffer.content ≠ [] ∨ force = true)
    (missing : output.policy.findCut output.buffer.content = none)
    (beyond : force = true ∨ output.scanLimit < (request.after output).scanned) (medium : Medium) :
    output.tryCut medium force =
      { output with request := some (request.after output) }.moveAt medium
        (request.after output) 0 := by
  have searches : (output.buffer.content.isEmpty && !force) = false := by
    rcases filled with filled | rfl
    · simp [filled]
    · simp
  have gives : (force || decide (output.scanLimit < (request.after output).scanned)) = true := by
    rw [Bool.or_eq_true, decide_eq_true_eq]
    exact beyond
  simp only [tryCut, waits, searches, missing, Bool.false_eq_true, ↓reduceIte]
  exact if_pos gives

theorem tryCut_of_missing (waits : output.request = some request)
    (filled : output.buffer.content ≠ [])
    (missing : output.policy.findCut output.buffer.content = none)
    (under : ¬ output.scanLimit < (request.after output).scanned) (medium : Medium) :
    output.tryCut medium false =
      (false, { output with request := some (request.after output) }.flushAll medium) := by
  have searches : (output.buffer.content.isEmpty && !false) = false := by
    simp [filled]
  have goesOn : ¬ (false || decide (output.scanLimit < (request.after output).scanned)) = true := by
    rw [Bool.false_or, decide_eq_true_eq]
    exact under
  simp only [tryCut, waits, searches, missing, Bool.false_eq_true, ↓reduceIte]
  exact if_neg goesOn

end Search

theorem append_of_full {output : Output} {data : Bytes}
    (full : output.buffer.remaining < data.length) (medium : Medium) :
    output.append medium data =
      ({ (output.flush medium).1 with
          buffer := ((output.flush medium).1.buffer.makeRoom data.length).extend data },
        (output.flush medium).2) := by
  simp only [append, full, ↓reduceIte]

theorem append_of_room {output : Output} {data : Bytes}
    (room : ¬ output.buffer.remaining < data.length) (medium : Medium) :
    output.append medium data = ({ output with buffer := output.buffer.extend data }, medium) := by
  simp only [append, room, ↓reduceIte]

theorem run_append (earlier later : List Operation) (state : Output × Medium) :
    run (earlier ++ later) state = run later (run earlier state) :=
  List.foldl_append ..

theorem appended_append (earlier later : List Operation) :
    appended (earlier ++ later) = appended earlier ++ appended later :=
  List.flatMap_append ..

end MpegRecorder.Output
