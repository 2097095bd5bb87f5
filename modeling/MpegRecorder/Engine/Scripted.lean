import MpegRecorder.Engine.Basic
import MpegRecorder.Transport.Synthetic

/-!
A scripted engine knows its container after a number of bytes, whatever they are, and passes data
through unchanged. It stands in for a real engine where only the session around it matters.
-/

namespace MpegRecorder

open Transport

inductive Script where
  | never
  | after (bytes : Nat)
  | failing
deriving Repr, DecidableEq

structure ScriptedEngine where
  script : Script
  analysed : Nat
  container : Container
deriving Repr, DecidableEq

structure ScriptedFactory where
  script : Script
  video : Elementary.Kind
  /-- If given, engines after the first know their container after so many bytes. -/
  reopened : Option Nat
  opened : List EngineParams
deriving Repr, DecidableEq

namespace ScriptedEngine

def container? (engine : ScriptedEngine) : Option Container :=
  match engine.script with
  | .after bytes => if bytes ≤ engine.analysed then some engine.container else none
  | _ => none

def analyse (engine : ScriptedEngine) (data : Bytes) : Bool × ScriptedEngine :=
  let engine := { engine with analysed := engine.analysed + data.length }
  (engine.container?.isSome, engine)

instance : Engine ScriptedEngine where
  analyse := analyse
  remux engine data := ([.write data], engine)
  container? := container?
  close engine := ([.flush], engine)

end ScriptedEngine

namespace ScriptedFactory

def failure : RecorderError := .engineOpen "scripted failure"

def new (script : Script) (video : Elementary.Kind) (reopened : Option Nat) : ScriptedFactory :=
  ⟨script, video, reopened, []⟩

def openEngine (factory : ScriptedFactory) (params : EngineParams) :
    Except RecorderError ScriptedEngine × ScriptedFactory :=
  if factory.script = .failing then (.error failure, factory)
  else
    let script :=
      match factory.reopened, factory.opened with
      | some bytes, _ :: _ => .after bytes
      | _, _ => factory.script
    let container : Container :=
      { kind := params.output
        programNumber := some Synthetic.programNumber
        video := some ⟨factory.video, Synthetic.videoPid⟩
        audio := [⟨.mpeg1Audio, Synthetic.audioPid⟩] }
    (.ok ⟨script, 0, container⟩, { factory with opened := factory.opened ++ [params] })

instance : EngineFactory ScriptedFactory ScriptedEngine := ⟨openEngine⟩

end ScriptedFactory

end MpegRecorder
