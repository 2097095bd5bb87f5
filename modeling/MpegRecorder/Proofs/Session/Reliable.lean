import MpegRecorder.Session.Feed

/-!
What a session may rely on in engines and their factories, and what an analysis that ends early has
shown to an engine.
-/

namespace MpegRecorder

theorem Output.receiveAll_append (output : Output) (medium : Medium) (emissions more : List Emission) :
    output.receiveAll medium (emissions ++ more) =
      (output.receiveAll medium emissions).1.receiveAll (output.receiveAll medium emissions).2 more :=
  List.foldl_append ..

theorem Output.receiveAll_of_silent {output : Output} (silent : output.accepting = false)
    (medium : Medium) (emissions : List Emission) :
    output.receiveAll medium emissions = (output, medium) := by
  induction emissions with
  | nil => rfl
  | cons emission rest ih =>
    have refused : output.receive medium emission = (output, medium) := by
      rw [receive.eq_def, silent]
      rfl
    rw [receiveAll, List.foldl_cons]
    dsimp only
    rw [refused]
    exact ih

/--
What a session may rely on: a usable factory opens an engine and stays usable, and `seen` follows what
the engine has been handed since. An engine that wants no more, and yet reports no container, counts as
one that has seen the rest.
-/
structure Reliable {φ ε : Type} [Engine ε] [EngineFactory φ ε] (usable : φ → EngineParams → Prop)
    (seen : List Bytes → ε → Prop) : Prop where
  opens : ∀ {factory params}, usable factory params → ∃ engine next,
    EngineFactory.openEngine factory params = (.ok engine, next) ∧ usable next params ∧ seen [] engine
  retuned : ∀ {factory params}, usable factory params →
    usable factory { params with tuning := .automatic }
  corrected : ∀ {factory params}, usable factory params →
    usable factory { params with output := .transport }
  analysed : ∀ {chunks engine} chunk, seen chunks engine →
    seen (chunks ++ [chunk]) (Engine.analyse engine chunk).2
  satisfied : ∀ {chunks engine chunk}, seen chunks engine → (Engine.analyse engine chunk).1 = true →
    Engine.container? (Engine.analyse engine chunk).2 = none →
    ∀ later, seen (chunks ++ chunk :: later) (Engine.analyse engine chunk).2

namespace Reliable

variable {φ ε : Type} [Engine ε] [EngineFactory φ ε] {usable : φ → EngineParams → Prop}
  {seen : List Bytes → ε → Prop} {engine : ε} {before : List Bytes}

theorem analyseAll (reliable : Reliable usable seen) (saw : seen before engine) (chunks : List Bytes) :
    seen (before ++ chunks)
      (chunks.foldl (fun engine chunk => (Engine.analyse engine chunk).2) engine) := by
  induction chunks generalizing before engine with
  | nil => rwa [List.append_nil]
  | cons chunk later ih =>
    rw [List.append_cons, List.foldl_cons]
    exact ih (reliable.analysed chunk saw)

def analyseWanted (state : Bool × ε) (chunk : Bytes) : Bool × ε :=
  if state.1 then (!(Engine.analyse state.2 chunk).1, (Engine.analyse state.2 chunk).2) else state

theorem analyseUntilDone_eq (engine : ε) (chunks : List Bytes) :
    Session.analyseUntilDone engine chunks = (chunks.foldl analyseWanted (true, engine)).2 := rfl

theorem foldl_analyseWanted_done (engine : ε) (chunks : List Bytes) :
    chunks.foldl analyseWanted (false, engine) = (false, engine) := by
  induction chunks with
  | nil => rfl
  | cons chunk later ih => exact ih

theorem analyseUntilDone (reliable : Reliable usable seen) (saw : seen before engine)
    (chunks : List Bytes) :
    (∃ front, front <+: before ++ chunks ∧ seen front (Session.analyseUntilDone engine chunks)) ∧
      (Engine.container? (Session.analyseUntilDone engine chunks) = none →
        seen (before ++ chunks) (Session.analyseUntilDone engine chunks)) := by
  rw [analyseUntilDone_eq]
  induction chunks generalizing before engine with
  | nil =>
    rw [List.append_nil]
    exact ⟨⟨before, List.prefix_rfl, saw⟩, fun _ => saw⟩
  | cons chunk later ih =>
    have next := reliable.analysed chunk saw
    cases wants : (Engine.analyse engine chunk).1 with
    | false =>
      have step : analyseWanted (true, engine) chunk = (true, (Engine.analyse engine chunk).2) := by
        simp only [analyseWanted, wants, if_true, Bool.not_false]
      rw [List.foldl_cons, step, List.append_cons]
      exact ih next
    | true =>
      have step : analyseWanted (true, engine) chunk = (false, (Engine.analyse engine chunk).2) := by
        simp only [analyseWanted, wants, if_true, Bool.not_true]
      rw [List.foldl_cons, step, foldl_analyseWanted_done]
      refine ⟨⟨before ++ [chunk], ?_, next⟩, fun none => reliable.satisfied saw wants none later⟩
      rw [List.append_cons before chunk later]
      exact List.prefix_append ..

end Reliable

end MpegRecorder
