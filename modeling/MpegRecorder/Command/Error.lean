import MpegRecorder.Error

/-!
The errors that end the command.
-/

namespace MpegRecorder.Command

inductive CommandError where
  | io (error : Storage.IoError)
  | recorder (error : RecorderError)
  | invalidInput (reason : String)
  | parse (reason : String)
  | initialization (reason : String)
deriving Repr, DecidableEq

namespace CommandError

def message : CommandError → String
  | io error => s!"I/O error: {error.text}"
  | recorder error => s!"Remux error: {error.message}"
  | invalidInput reason => s!"Invalid input: {reason}"
  | parse reason => s!"Parse error: {reason}"
  | initialization reason => s!"Initialization failed: {reason}"

end CommandError

end MpegRecorder.Command
