import MpegRecorder.Container
import MpegRecorder.Tuning

/-!
The arguments of the command line. An option takes its value attached, or as the next argument; two
dashes end the options. A value that was the next argument is looked at only when the following
option or file name is read, and an argument that cannot be an option is reported before it.
-/

namespace MpegRecorder.Command

/-- Why the command line is refused, or answered without running. -/
inductive UsageError where
  | missingArgument
  | unknownArgument
  /-- A value is missing, or is none of those that the option knows. -/
  | invalidValue
  /-- A value is no number, or out of range. -/
  | valueValidation
  | tooManyValues
  | conflict
  | help
  | version
deriving Repr, DecidableEq

inductive Setting where
  | output
  | format
  | chunkSize
  | ringSize
  | splitSize
  | switchToken
  | program
  | channel
  | subFormat
  | switchTimeout
  | logFile
deriving Repr, DecidableEq

inductive Switch where
  | tv
  | verbose
  | help
  | version
deriving Repr, DecidableEq

structure Args where
  input : String
  output : String
  format : Container.Kind
  chunkSize : String
  ringSize : String
  splitSize : String
  switchToken : UInt32
  program : Option UInt16
  channel : Option UInt16
  tv : Bool
  subFormat : Delivery
  /-- Seconds to wait for a splice point before a move is forced. -/
  switchTimeout : Nat
  logFile : String
  verbose : Bool
deriving Repr, DecidableEq

namespace Args

def defaults : Args where
  input := ""
  output := ""
  format := .transport
  chunkSize := "64KB"
  ringSize := "0"
  splitSize := "0"
  switchToken := 0
  program := none
  channel := none
  tv := false
  subFormat := .unknown
  switchTimeout := 30
  logFile := "tsremux.log"
  verbose := false

def longName? (name : String) : Option (Setting ⊕ Switch) :=
  [ ("output", .inl .output), ("format", .inl .format), ("chunk-size", .inl .chunkSize),
    ("ring-size", .inl .ringSize), ("split-size", .inl .splitSize),
    ("switch-token", .inl .switchToken), ("program", .inl .program), ("channel", .inl .channel),
    ("sub-format", .inl .subFormat), ("switch-timeout", .inl .switchTimeout),
    ("log-file", .inl .logFile), ("tv", .inr .tv), ("verbose", .inr .verbose),
    ("help", .inr .help), ("version", .inr .version) ].lookup name

def shortName? (name : Char) : Option (Setting ⊕ Switch) :=
  [ ('o', .inl .output), ('f', .inl .format), ('c', .inl .chunkSize), ('s', .inl .splitSize),
    ('p', .inl .program), ('v', .inr .verbose), ('h', .inr .help),
    ('V', .inr .version) ].lookup name

/-- Digits, which may stand behind a plus sign. -/
def digits? (text : List Char) : Option Nat :=
  let digits :=
    match text with
    | '+' :: rest => rest
    | rest => rest
  if digits ≠ [] ∧ digits.all Char.isDigit then
    some (digits.foldl (fun value digit => value * 10 + (digit.toNat - '0'.toNat)) 0)
  else none

/-- A number below a bound; zero may have a minus sign. -/
def number? (bound : Nat) (text : String) : Option Nat :=
  let value :=
    match text.toList with
    | '-' :: rest => if rest ≠ [] ∧ rest.all (· = '0') then some 0 else none
    | characters => digits? characters
  value.filter fun value => value < bound

def unsigned? (bound : Nat) (text : String) : Option Nat :=
  (digits? text.toList).filter fun value => value < bound

def format? (text : String) : Option Container.Kind :=
  [("ts", .transport), ("ps", .program)].lookup text

def delivery? (text : String) : Option Delivery :=
  [ ("unknown", .unknown), ("terrestrial", .terrestrial), ("cable", .cable),
    ("satellite", .satellite) ].lookup text

def path? (text : String) : Option String :=
  if text = "" then none else some text

def set (args : Args) (setting : Setting) (value : String) : Except UsageError Args :=
  match setting with
  | .output => (path? value).elim (.error .invalidValue) fun output => .ok { args with output }
  | .format => (format? value).elim (.error .invalidValue) fun format => .ok { args with format }
  | .chunkSize => .ok { args with chunkSize := value }
  | .ringSize => .ok { args with ringSize := value }
  | .splitSize => .ok { args with splitSize := value }
  | .switchToken =>
    (number? UInt32.size value).elim (.error .valueValidation) fun token =>
      .ok { args with switchToken := UInt32.ofNat token }
  | .program =>
    (number? UInt16.size value).elim (.error .valueValidation) fun program =>
      .ok { args with program := some (UInt16.ofNat program) }
  | .channel =>
    (number? UInt16.size value).elim (.error .valueValidation) fun channel =>
      .ok { args with channel := some (UInt16.ofNat channel) }
  | .subFormat =>
    (delivery? value).elim (.error .invalidValue) fun subFormat => .ok { args with subFormat }
  | .switchTimeout =>
    (unsigned? UInt64.size value).elim (.error .valueValidation) fun switchTimeout =>
      .ok { args with switchTimeout }
  | .logFile => (path? value).elim (.error .invalidValue) fun logFile => .ok { args with logFile }

structure Reading where
  args : Args
  settings : List Setting
  switches : List Switch
  hasInput : Bool
  /-- The latest option, and its value as far as that was the next argument. -/
  pending : Option (Setting × Option String)
deriving Repr, DecidableEq

namespace Reading

def empty : Reading := ⟨defaults, [], [], false, none⟩

/-- Gives a value to an option that was not given before. -/
def assign (reading : Reading) (setting : Setting) (value : String) :
    Except UsageError Reading :=
  if reading.settings.contains setting then .error .conflict
  else do
    let args ← reading.args.set setting value
    return { reading with args, settings := setting :: reading.settings }

/-- Settles the pending option, which must have got its value by now. -/
def settle (reading : Reading) : Except UsageError Reading :=
  match reading.pending with
  | none => .ok reading
  | some (_, none) => .error .invalidValue
  | some (setting, some value) => { reading with pending := none }.assign setting value

def turnOn (reading : Reading) (switch : Switch) : Except UsageError Reading := do
  let reading ← reading.settle
  if reading.switches.contains switch then throw .conflict
  match switch with
  | .help => throw .help
  | .version => throw .version
  | .tv =>
    return { reading with
      args := { reading.args with tv := true }, switches := switch :: reading.switches }
  | .verbose =>
    return { reading with
      args := { reading.args with verbose := true }, switches := switch :: reading.switches }

def begin (reading : Reading) (setting : Setting) (attached : Option String) :
    Except UsageError Reading := do
  let reading ← reading.settle
  match attached with
  | some value => reading.assign setting value
  | none => return { reading with pending := some (setting, none) }

def long (reading : Reading) (text : List Char) : Except UsageError Reading :=
  let name := String.ofList (text.takeWhile fun c => c ≠ '=')
  let attached :=
    match text.dropWhile fun c => c ≠ '=' with
    | [] => none
    | _ :: value => some (String.ofList value)
  match longName? name, attached with
  | none, _ => .error .unknownArgument
  | some (.inl setting), attached => reading.begin setting attached
  | some (.inr _), some _ => .error .tooManyValues
  | some (.inr switch), none => reading.turnOn switch

/-- Options by their letters, the last of which may have a value attached. -/
def short (reading : Reading) : List Char → Except UsageError Reading
  | [] => .ok reading
  | letter :: rest =>
    match shortName? letter with
    | none => .error .unknownArgument
    | some (.inr switch) =>
      match reading.turnOn switch with
      | .error e => .error e
      | .ok reading => reading.short rest
    | some (.inl setting) =>
      reading.begin setting <|
        match rest with
        | [] => none
        | '=' :: value => some (String.ofList value)
        | value => some (String.ofList value)

def positional (reading : Reading) (text : String) : Except UsageError Reading :=
  if reading.hasInput then .error .unknownArgument
  else do
    let reading ← reading.settle
    return { reading with args := { reading.args with input := text }, hasInput := true }

def take (reading : Reading) (text : String) : Except UsageError Reading :=
  match text.toList, reading.pending with
  | '-' :: '-' :: name, _ => reading.long name
  | '-' :: letter :: letters, _ => reading.short (letter :: letters)
  | _, some (setting, none) => .ok { reading with pending := some (setting, some text) }
  | _, _ => reading.positional text

def takeAll (reading : Reading) : List String → Except UsageError Reading
  | [] => reading.settle
  | "--" :: rest => do (← rest.foldlM positional reading).settle
  | text :: rest =>
    match reading.take text with
    | .error e => .error e
    | .ok reading => reading.takeAll rest

end Reading

def parse (arguments : List String) : Except UsageError Args := do
  let reading ← Reading.empty.takeAll arguments
  if reading.args.channel.isSome ∧ reading.args.program.isSome then
    throw .conflict
  if ¬ reading.hasInput ∨ reading.args.output = "" then
    throw .missingArgument
  return reading.args

end Args

end MpegRecorder.Command
