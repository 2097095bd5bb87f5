import MpegRecorder.Command.Recording

/-!
The whole command: arguments in, exit code and printed lines out, files changed on the way.
-/

namespace MpegRecorder.Command

structure Outcome where
  code : Nat
  lines : List String
  error : Option CommandError
deriving Repr, DecidableEq

namespace Outcome

def versionLine : String := "tsremux 0.1.0"

def ofUsage : UsageError → Outcome
  | .help => ⟨0, [], none⟩
  | .version => ⟨0, [versionLine], none⟩
  | _ => ⟨2, [], none⟩

def failed (error : CommandError) : Outcome :=
  ⟨1, [], some error⟩

def summaryLines (summary : Summary) : List String :=
  [ s!"Read:     {Number.Size.format summary.read}",
    s!"Written:  {Number.Size.format summary.written}" ]
  ++ (if summary.dropped = 0 then []
    else [s!"Dropped:  {Number.Size.format summary.dropped}"])
  ++ summary.files.map fun file => s!"Output:   {file}"

def errorLine (outcome : Outcome) : Option String :=
  outcome.error.map fun error => s!"Error: {error.message}"

end Outcome

def paths (arguments : List String) : List String :=
  match Args.parse arguments with
  | .error _ => []
  | .ok args => [args.input, args.output, args.logFile]

def readsStandardInput (arguments : List String) : Bool :=
  match Args.parse arguments with
  | .error _ => false
  | .ok args => args.input == Recording.dash

/-- Runs the command: the log is opened before the sizes among the arguments are made out. -/
def run (arguments : List String) (storage : Storage) (standardInput : Bytes) :
    Outcome × Storage :=
  match Args.parse arguments with
  | .error usage => (.ofUsage usage, storage)
  | .ok args =>
    match storage.truncate args.logFile with
    | (.error e, storage) => (.failed (.io e), storage)
    | (.ok _, storage) =>
      match Job.ofArgs args with
      | .error e => (.failed e, storage)
      | .ok job =>
        match Recording.run job storage standardInput with
        | (.error e, storage) => (.failed e, storage)
        | (.ok summary, storage) => (⟨0, Outcome.summaryLines summary, none⟩, storage)

end MpegRecorder.Command
