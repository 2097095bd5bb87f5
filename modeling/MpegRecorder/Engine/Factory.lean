import MpegRecorder.Engine.Mpeg
import MpegRecorder.Engine.Scripted

/-!
Factories of engines: the one for transport stream captures, a scripted one, and one that follows a
plan of what each attempt to open an engine comes to.
-/

namespace MpegRecorder

inductive Attempt where
  | failing
  | mpeg
  | scripted (script : Script) (video : Elementary.Kind)
deriving Repr, DecidableEq

structure PlannedFactory where
  plan : Nat → Attempt
  /-- What each attempt was made for, oldest first. -/
  attempted : List EngineParams

inductive Factory where
  | mpeg
  | scripted (factory : ScriptedFactory)
  | planned (factory : PlannedFactory)

namespace PlannedFactory

def openEngine (factory : PlannedFactory) (params : EngineParams) :
    Except RecorderError (MpegEngine ⊕ ScriptedEngine) × PlannedFactory :=
  (match factory.plan factory.attempted.length with
    | .failing => .error ScriptedFactory.failure
    | .mpeg => (MpegEngine.open? params).map .inl
    | .scripted script video =>
      ((ScriptedFactory.new script video none).openEngine params).1.map .inr,
    { factory with attempted := factory.attempted ++ [params] })

instance : EngineFactory PlannedFactory (MpegEngine ⊕ ScriptedEngine) := ⟨openEngine⟩

end PlannedFactory

namespace Factory

def openEngine (factory : Factory) (params : EngineParams) :
    Except RecorderError (MpegEngine ⊕ ScriptedEngine) × Factory :=
  match factory with
  | .mpeg => ((MpegEngine.open? params).map .inl, .mpeg)
  | .scripted factory =>
    let (opened, factory) := factory.openEngine params
    (opened.map .inr, .scripted factory)
  | .planned factory =>
    let (opened, factory) := factory.openEngine params
    (opened, .planned factory)

instance : EngineFactory Factory (MpegEngine ⊕ ScriptedEngine) := ⟨openEngine⟩

/-- What engines were asked for so far; the plain factory keeps no record. -/
def record : Factory → List EngineParams
  | .mpeg => []
  | .scripted factory => factory.opened
  | .planned factory => factory.attempted

end Factory

end MpegRecorder
