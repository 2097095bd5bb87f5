/-!
File paths as text, and what their text stands for: the components that name a file. Two spellings
with the same components are the same path.
-/

namespace MpegRecorder.Storage

inductive Component where
  | root
  | here
  | up
  | name (text : String)
deriving Repr, DecidableEq

namespace Path

def stretches (path : String) : List String :=
  (path.toList.splitOn '/').map String.ofList

def segments (path : String) : List String :=
  (stretches path).filter fun segment => segment ≠ ""

def isAbsolute (path : String) : Bool :=
  path.startsWith "/"

def component (segment : String) : Component :=
  if segment = ".." then .up else .name segment

/--
The components of a path. Repeated and trailing separators do not count, and neither does a dot,
unless a relative path starts with it.
-/
def components (path : String) : List Component :=
  let named (segments : List String) :=
    (segments.filter fun segment => segment ≠ ".").map component
  if isAbsolute path then .root :: named (segments path)
  else
    match segments path with
    | "." :: rest => .here :: named rest
    | segments => named segments

def same (left right : String) : Bool :=
  components left == components right

/-- The paths that lead to a path step by step, itself last. -/
def way (path : String) : List String :=
  let lead := if isAbsolute path then "/" else ""
  (List.range (segments path).length).map fun count =>
    lead ++ "/".intercalate ((segments path).take (count + 1))

def join (base path : String) : String :=
  if isAbsolute path || base = "" then path
  else if base.endsWith '/' then base ++ path
  else base ++ "/" ++ path

theorem same_refl (path : String) : same path path = true := by
  simp [same]

theorem same_comm (left right : String) : same left right = same right left := by
  simp [same, Bool.beq_comm]

end Path

end MpegRecorder.Storage
