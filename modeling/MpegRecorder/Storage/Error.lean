/-!
The ways in which storage refuses a request.
-/

namespace MpegRecorder.Storage

inductive IoError where
  /-- A write call that was offered bytes took none. -/
  | noProgress
  | unauthorized (token : UInt32) (name : String)
  /-- A failure that a test of error handling asks for. -/
  | staged (reason : String)
  | notFound
  | alreadyExists
  | isDirectory
  | notDirectory
  | nameTooLong
  /-- A name with a zero character in it. -/
  | unnameable
deriving Repr, DecidableEq

namespace IoError

/-- What the library says about an error; the errors of the file system carry no text of ours. -/
def detail : IoError → Option String
  | noProgress => some "destination accepted no bytes"
  | unauthorized token name => some s!"token {token} is not authorized to open {name}"
  | staged reason => some reason
  | unnameable => some "file name contained an unexpected NUL byte"
  | _ => none

def text (error : IoError) : String :=
  error.detail.getD ""

end IoError

end MpegRecorder.Storage
