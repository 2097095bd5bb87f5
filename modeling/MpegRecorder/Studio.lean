import MpegRecorder.Session.Feed

/-!
A studio runs several sessions on one medium. A session is known by its number, also after its end,
and the registry leads from the path of a recording to the session that writes it.
-/

namespace MpegRecorder

structure Studio (φ ε : Type) where
  medium : Medium
  /-- All sessions that were ever started, by number. -/
  sessions : List (Session φ ε)

namespace Studio

variable {φ ε α : Type} [Engine ε] [EngineFactory φ ε]

def empty (workingDirectory : List String) : Studio φ ε :=
  ⟨⟨.empty workingDirectory, .empty⟩, []⟩

def session? (studio : Studio φ ε) (number : Nat) : Option (Session φ ε) :=
  studio.sessions[number]?

def start (studio : Studio φ ε) (setup : Session.Setup φ) :
    Except RecorderError Nat × Studio φ ε :=
  match Session.start setup studio.sessions.length studio.medium with
  | .error e => (.error e, studio)
  | .ok (session, medium) =>
    (.ok studio.sessions.length, ⟨medium, studio.sessions ++ [session]⟩)

/-- Lets a session act on the medium; without the session nothing happens. -/
def act (studio : Studio φ ε) (number : Nat)
    (action : Session φ ε → Medium → α × Session φ ε × Medium) : Option α × Studio φ ε :=
  match studio.session? number with
  | none => (none, studio)
  | some session =>
    let (answer, session, medium) := action session studio.medium
    (some answer, ⟨medium, studio.sessions.set number session⟩)

/-- Lets the output of a session act, as those do who only hold its handle. -/
def actOutput (studio : Studio φ ε) (number : Nat)
    (action : Output → Medium → α × Output × Medium) : Option α × Studio φ ε :=
  studio.act number fun session medium =>
    let (answer, output, medium) := action session.output medium
    (answer, { session with output }, medium)

def feed (studio : Studio φ ε) (number : Nat) (data : Bytes) : Option Bool × Studio φ ε :=
  studio.act number fun session medium => session.feed medium data

def close (studio : Studio φ ε) (number : Nat) : Studio φ ε :=
  (studio.act number fun session medium => ((), session.close medium)).2

def startSwitch (studio : Studio φ ε) (number : Nat) (name : String) (token : UInt32) :
    Option Bool × Studio φ ε :=
  studio.actOutput number fun output medium => output.startSwitch medium name token

def awaitSwitch (studio : Studio φ ε) (number : Nat) : Option Bool × Studio φ ε :=
  studio.actOutput number Output.awaitSwitch

def forceSwitch (studio : Studio φ ε) (number : Nat) : Studio φ ε :=
  (studio.actOutput number fun output medium => ((), output.forceSwitch medium)).2

def detach (studio : Studio φ ε) (number : Nat) : Studio φ ε :=
  (studio.actOutput number fun output medium => ((), output.detach medium)).2

def find? (studio : Studio φ ε) (path : String) : Option Output :=
  (studio.medium.registry.get? path).bind fun number =>
    (studio.session? number).map Session.output

def startSwitchAt (studio : Studio φ ε) (path name : String) (token : UInt32) :
    Bool × Studio φ ε :=
  match studio.medium.registry.get? path with
  | none => (false, studio)
  | some number =>
    let (switched, studio) := studio.startSwitch number name token
    (switched.getD false, studio)

def sizeAt? (studio : Studio φ ε) (path : String) : Option Nat :=
  (studio.find? path).map fun output => output.counters.current

def withRegistry (studio : Studio φ ε) (change : Registry → Registry) : Studio φ ε :=
  { studio with medium := { studio.medium with registry := change studio.medium.registry } }

end Studio

end MpegRecorder
