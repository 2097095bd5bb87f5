import MpegRecorder.Command.Job
import MpegRecorder.Command.Splitter
import MpegRecorder.Engine.Mpeg
import MpegRecorder.Session.Feed

/-!
Running a job: the input is read piece by piece and fed to one session, as a device would deliver it.
-/

namespace MpegRecorder.Command

instance : EngineFactory Unit MpegEngine := ⟨fun factory params => (MpegEngine.open? params, factory)⟩

structure Summary where
  read : Nat
  written : Nat
  dropped : Nat
  files : List String
deriving Repr, DecidableEq

inductive Source where
  | standardInput
  | file (id : Nat)
deriving Repr, DecidableEq

namespace Recording

/-- How much of a file is read ahead for small reads. -/
def readAhead : Nat := 8192

/--
The pieces that reads of `chunk` bytes give. Small reads are served from what was read ahead, and a
piece ends where that does.
-/
def pieces (chunk : Nat) (data : Bytes) : List Bytes :=
  if readAhead ≤ chunk then data.chunks chunk
  else (data.chunks readAhead).flatMap fun block => block.chunks chunk

def dash : String := "-"

/-- A dash stands for standard input; anything else must name a file. -/
def openInput (storage : Storage) (input : String) : Except CommandError Source :=
  if input = dash then .ok .standardInput
  else
    match storage.tree.file? input with
    | some id => .ok (.file id)
    | none => .error (.invalidInput s!"Input file does not exist: {input}")

def openSession (job : Job) (storage : Storage) :
    Except CommandError (Session Unit MpegEngine) × Medium :=
  match storage.create job.args.output with
  | (.error e, storage) => (.error (.io e), ⟨storage, .empty⟩)
  | (.ok destination, storage) =>
    let setup : Session.Setup Unit :=
      { destination
        factory := ()
        opener := .files ⟨none, none⟩
        output := job.args.format
        capture := job.capture
        delivery := job.args.subFormat
        tuning := job.tuning
        config := { Config.standard with switchWait := job.args.switchTimeout * 1000 }
        registered := false }
    match Session.start setup 0 ⟨storage, .empty⟩ with
    | .error e => (.error (.recorder e), ⟨storage, .empty⟩)
    | .ok (session, medium) => (.ok (session.setRingLimit job.ringSize), medium)

def feedAll (session : Session Unit MpegEngine) (medium : Medium) (read : Nat) :
    List Bytes → Nat × Session Unit MpegEngine × Medium
  | [] => (read, session, medium)
  | piece :: rest =>
    match session.feed medium piece with
    | (true, session, medium) => feedAll session medium (read + piece.length) rest
    | (false, session, medium) => (read + piece.length, session, medium)

/--
Runs a job on storage. A file is split only while its capture is being read; at the end, the
splitter finds the recording closed.
-/
def run (job : Job) (storage : Storage) (standardInput : Bytes) :
    Except CommandError Summary × Storage :=
  match openInput storage job.args.input with
  | .error e => (.error e, storage)
  | .ok source =>
    match openSession job storage with
    | (.error e, medium) => (.error e, medium.storage)
    | (.ok session, medium) =>
      let data :=
        match source with
        | .standardInput => standardInput
        | .file id => medium.storage.content id
      let (read, session, medium) := feedAll session medium 0 (pieces job.chunkSize data)
      let (session, medium) := session.close medium
      let splitter : Splitter := ⟨job.args.output, job.splitSize, job.args.switchToken, []⟩
      let (splitter, output, medium) :=
        if job.splitSize = 0 then (splitter, session.output, medium)
        else splitter.run session.output medium 1
      (.ok {
          read
          written := output.counters.total
          dropped := session.dropped
          files := job.args.output :: splitter.files },
        medium.storage)

end Recording

end MpegRecorder.Command
