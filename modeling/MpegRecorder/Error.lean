import MpegRecorder.Malformed
import MpegRecorder.Storage.Error

/-!
The errors that keep a recording from being started. Failures later on are absorbed.
-/

namespace MpegRecorder

inductive RecorderError where
  | engineOpen (reason : String)
  | unsupportedFormat (reason : String)
  | invalidConfig (reason : String)
  | destination (reason : String)
  | io (error : Storage.IoError)
  | malformed (error : Malformed)
deriving Repr, DecidableEq

namespace RecorderError

def message : RecorderError → String
  | engineOpen reason => s!"Unable to open remux engine: {reason}"
  | unsupportedFormat reason => s!"Unsupported format: {reason}"
  | invalidConfig reason => s!"Invalid configuration: {reason}"
  | destination reason => s!"Destination error: {reason}"
  | io error => s!"I/O error: {error.text}"
  | malformed error => s!"Container parse error: {error.message}"

end RecorderError

end MpegRecorder
