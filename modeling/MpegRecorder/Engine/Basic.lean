import MpegRecorder.Container
import MpegRecorder.Error
import MpegRecorder.Tuning

/-!
Engines find out the layout of a capture and turn it into the bytes of a recording. What an engine
hands to its sink comes back as a list; it never learns what became of it.
-/

namespace MpegRecorder

structure EngineParams where
  input : Container.Kind
  output : Container.Kind
  standard : Standard
  delivery : Delivery
  tuning : Tuning
deriving Repr, DecidableEq

/-- A request of an engine to the sink that takes its output. -/
inductive Emission where
  | write (data : Bytes)
  | flush
deriving Repr, DecidableEq

class Engine (ε : Type) where
  /-- Takes data for analysis only; says whether it needs no more of it. -/
  analyse : ε → Bytes → Bool × ε
  remux : ε → Bytes → List Emission × ε
  container? : ε → Option Container
  close : ε → List Emission × ε

class EngineFactory (φ : Type) (ε : outParam Type) where
  openEngine : φ → EngineParams → Except RecorderError ε × φ

instance {α β : Type} [Engine α] [Engine β] : Engine (α ⊕ β) where
  analyse
    | .inl engine, data => let result := Engine.analyse engine data; (result.1, .inl result.2)
    | .inr engine, data => let result := Engine.analyse engine data; (result.1, .inr result.2)
  remux
    | .inl engine, data => let result := Engine.remux engine data; (result.1, .inl result.2)
    | .inr engine, data => let result := Engine.remux engine data; (result.1, .inr result.2)
  container?
    | .inl engine => Engine.container? engine
    | .inr engine => Engine.container? engine
  close
    | .inl engine => let result := Engine.close engine; (result.1, .inl result.2)
    | .inr engine => let result := Engine.close engine; (result.1, .inr result.2)

namespace Engine

def written (emissions : List Emission) : Bytes :=
  emissions.flatMap fun
    | .write data => data
    | .flush => []

end Engine

end MpegRecorder
