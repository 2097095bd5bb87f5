import MpegRecorder.Storage.Path

/-!
The last name of a path, the stem and extension it consists of, and paths beside it. A dot at the
start of a name belongs to the stem.
-/

namespace MpegRecorder.Storage.Path

def dropTrailing (segments : List String) : List String :=
  (segments.reverse.dropWhile fun segment => segment = "" ∨ segment = ".").reverse

/--
The text of a path after its root, cut at separators: the dot that a relative path may start with,
and the segments after it up to the last that counts.
-/
def body (path : String) : List String × List String :=
  let cut := stretches path
  let (lead, rest) :=
    if isAbsolute path then ([], cut.drop 1)
    else
      match cut with
      | "." :: rest => (["."], rest)
      | cut => ([], cut)
  (lead, dropTrailing rest)

def fileName? (path : String) : Option String :=
  match (body path).2.getLast? with
  | none => none
  | some ".." => none
  | some name => some name

def parentText (path : String) : String :=
  let (lead, segments) := body path
  let above := "/".intercalate (lead ++ dropTrailing segments.dropLast)
  if isAbsolute path then "/" ++ above else above

def splitExtension (name : String) : String × Option String :=
  let reversed := name.toList.reverse
  let extension := reversed.takeWhile fun c => c ≠ '.'
  let stem := (reversed.dropWhile fun c => c ≠ '.').drop 1
  if stem = [] then (name, none)
  else (String.ofList stem.reverse, some (String.ofList extension.reverse))

/-- The path of another file in the same directory. Without a name to replace, the new one is added. -/
def withFileName (path name : String) : String :=
  if (fileName? path).isSome then join (parentText path) name else join path name

/-- The path of part number `index` of a recording: `out/rec.ts` has the parts `out/rec-2.ts`, … -/
def numbered (path : String) (index : Nat) : String :=
  let (stem, extension) := splitExtension ((fileName? path).getD "")
  withFileName path <|
    match extension with
    | some extension => s!"{stem}-{index}.{extension}"
    | none => s!"{stem}-{index}"

end MpegRecorder.Storage.Path
