import MpegRecorder.Proofs.Engine.Passing
import MpegRecorder.Proofs.Output.Steady
import MpegRecorder.Transport.Synthetic

/-!
What a recording holds is a function of the capture. A transport stream recording with the automatic
choice of a program keeps the packets that can be read, of all that the feeder passes on behind the last
block in which nothing was found; the pieces that the capture came in leave no trace.
-/

namespace MpegRecorder

open Config

namespace Config

variable {config : Config}

/-- What is written of a capture by engines that write `kept` of each chunk. -/
def contentOf (valid : config.Valid) (reports : List Bytes → Bool) (kept : Bytes → Bytes)
    (capture : Bytes) : Bytes :=
  if finds valid reports (since valid reports capture) then
    (forwarded valid (since valid reports capture)).flatMap kept
  else []

def droppedOf (valid : config.Valid) (reports : List Bytes → Bool) (capture : Bytes) : Nat :=
  droppedIn valid (givenUp valid reports capture) +
    if finds valid reports (since valid reports capture) then
      wasted valid (since valid reports capture)
    else ((newFeeder valid).push (since valid reports capture)).2.dropped

end Config

theorem Output.Steady.recordChunks {ε : Type} [Engine ε] {live : ε → Prop} {kept : Bytes → Bytes}
    (transparent : Transparent live kept) {engine : ε} (lives : live engine) {file : Nat}
    {output : Output} {medium : Medium} {total : Bytes}
    (steady : Steady file output medium.storage total) (accepting : output.accepting = true)
    (chunks : List Bytes) :
    let recorded := Session.recordChunks engine output medium chunks
    live recorded.1 ∧
      Steady file recorded.2.1 recorded.2.2.storage (total ++ chunks.flatMap kept) ∧
      recorded.2.1.accepting = true := by
  induction chunks generalizing engine output medium total with
  | nil =>
    rw [List.flatMap_nil, List.append_nil]
    exact ⟨lives, steady, accepting⟩
  | cons chunk rest ih =>
    obtain ⟨still, wrote⟩ := transparent.passes chunk lives
    obtain ⟨next, takes⟩ := steady.receiveAll accepting (Engine.remux engine chunk).1
    rw [List.flatMap_cons, ← List.append_assoc, ← wrote]
    exact ih still next takes

namespace Session

open Factory

theorem Setup.steady {φ : Type} (setup : Setup φ) (recording : Nat) {storage : Storage}
    (ready : storage.Ready setup.destination) (empty : storage.content setup.destination.file = []) :
    (setup.newOutput recording).Steady setup.destination.file storage [] where
  idle := rfl
  off := rfl
  current := ⟨setup.destination, rfl, rfl, ready⟩
  complete := by rw [empty]; rfl
  counted := by rw [empty]; rfl

section Ended

variable {φ ε : Type} [Engine ε] {config : Config} {valid : config.Valid}
  {usable : φ → EngineParams → Prop} {seen : List Bytes → ε → Prop} {reports : List Bytes → Bool}
  {live : ε → Prop} {kept : Bytes → Bytes} {output : Output} {medium : Medium} {capture : Bytes}

structure Ended (valid : config.Valid) (reports : List Bytes → Bool) (kept : Bytes → Bytes)
    (file : Nat) (capture : Bytes) (state : Session φ ε × Medium) : Prop where
  known : state.1.container.isSome = finds valid reports (since valid reports capture)
  resets : state.1.stats.resets = (givenUp valid reports capture).length
  content : (state.1.close state.2).2.storage.content file = contentOf valid reports kept capture
  total : (state.1.close state.2).1.output.counters.total =
    (contentOf valid reports kept capture).length
  dropped : (state.1.close state.2).1.dropped = droppedOf valid reports capture

theorem Course.ended (decisive : Decisive seen reports) (transparent : Transparent live kept)
    (lives : ∀ {chunks engine}, seen chunks engine → live engine)
    (silent : output.accepting = false) {file : Nat} (steady : output.Steady file medium.storage [])
    {state : Session φ ε × Medium}
    (course : Course valid usable seen reports output medium capture state) :
    Ended valid reports kept file capture state := by
  cases course with
  | @watching session blocks parted barren short missed lost watching =>
    have ends (long : config.maxDetection ≤ session.retained.length) :
        finds valid reports (session.retained.take config.maxDetection) = true :=
      absurd long (Nat.not_le.mpr short)
    have given : givenUp valid reports capture = blocks := parted.spent ▸ givenUp_eq barren ends
    have behind : since valid reports capture = session.retained := parted.spent ▸ since_eq barren ends
    -- The file is as it was: a session that has not found its container writes nothing.
    obtain ⟨engine, running, -⟩ := watching.analysed
    obtain ⟨last, stored, dropped⟩ := watching.toRetaining.close running silent medium
    obtain ⟨held, counted⟩ := steady.finish
    refine ⟨?_, ?_, ?_, ?_, ?_⟩
    · rw [behind, missed, watching.unknown]
      rfl
    · rw [given, parted.resets]
    · rw [stored, held, contentOf, behind, missed]
      rfl
    · rw [last, counted, contentOf, behind, missed]
      rfl
    · rw [dropped, lost, droppedOf, given, behind, missed]
      rfl
  | @underway session now blocks since engine front params container parted barren found saw
      underway =>
    have given : givenUp valid reports capture = blocks := parted.spent ▸ givenUp_eq barren fun _ => found
    have behind : Config.since valid reports capture = since :=
      parted.spent ▸ since_eq barren fun _ => found
    have all : finds valid reports since = true :=
      finds_of_front decisive (List.take_prefix ..) found
    obtain ⟨later, output', place, recorded, last, stored, dropped⟩ := underway.close
    -- From here on the file grows with every chunk, and closing the engine adds nothing to it.
    have begun : (output.begun params container).Steady file medium.storage [] :=
      ⟨steady.idle, steady.off, steady.current, steady.complete, steady.counted⟩
    obtain ⟨living, wrote, takes⟩ :=
      begun.recordChunks transparent (lives saw) rfl (forwarded valid since)
    rw [recorded] at living wrote takes
    obtain ⟨closing, -⟩ := wrote.receiveAll takes (Engine.close later).1
    rw [transparent.ends living, List.append_nil, List.nil_append] at closing
    obtain ⟨held, counted⟩ := closing.finish
    refine ⟨?_, ?_, ?_, ?_, ?_⟩
    · rw [behind, all, underway.known]
    · rw [given, parted.resets]
    · rw [stored, held, contentOf, behind, all]
      rfl
    · rw [last, counted, contentOf, behind, all]
      rfl
    · rw [dropped, droppedOf, given, behind, all]
      rfl

end Ended

/--
However the capture is cut into pieces, the session takes all of them, and at the end its file holds, in
order, the packets that can be read of those that the feeder passes on behind the last block given up, if
a program is found there; as many bytes are counted as written, and what is dropped depends on the capture
alone.
-/
theorem recording_of_capture (setup : Setup Factory) (recording : Nat) (medium : Medium)
    (bundled : setup.factory = .mpeg) (transport : setup.output = .transport)
    (automatic : setup.tuning.selection = .automatic) (valid : setup.config.Valid)
    (ready : medium.storage.Ready setup.destination)
    (empty : medium.storage.content setup.destination.file = []) (pieces : List Bytes) :
    ∃ session started, start setup recording medium = .ok (session, started) ∧
      let fed := session.feedAll started pieces
      let ended := fed.2.1.close fed.2.2
      let capture := pieces.flatten
      let since := since valid discovers capture
      let content := if finds valid discovers since then
          ((forwarded valid since).flatMap packetsOf).flatten
        else []
      fed.1 = true ∧
        fed.2.1.container.isSome = finds valid discovers since ∧
        fed.2.1.stats.resets = (givenUp valid discovers capture).length ∧
        ended.2.storage.content setup.destination.file = content ∧
        ended.1.output.counters.total = content.length ∧
        ended.1.dropped = droppedOf valid discovers capture := by
  have plain : Plain setup.factory setup.params := ⟨bundled, rfl, transport, automatic⟩
  obtain ⟨session, started, opened, watching, nothing, resets, lost, stored⟩ :=
    start_watching plain_reliable setup valid plain recording medium
  have steady := setup.steady recording ready empty
  rw [← stored] at steady
  have course : Course valid Plain Saw discovers (setup.newOutput recording) started []
      (session, started) :=
    .start plain_decisive watching nothing resets lost
  have silent : (setup.newOutput recording).accepting = false := rfl
  obtain ⟨took, -, last, -⟩ :=
    (Course.kept plain_reliable plain_decisive silent).feedAll [] course pieces
  have ended := last.ended plain_decisive plain_transparent Saw.passing silent steady
  have content : contentOf valid discovers (fun chunk => (packetsOf chunk).flatten) pieces.flatten =
      if finds valid discovers (since valid discovers pieces.flatten) then
        ((forwarded valid (since valid discovers pieces.flatten)).flatMap packetsOf).flatten
      else [] := by
    simp only [contentOf, List.flatten_eq_flatMap, List.flatMap_assoc]
  refine ⟨session, started, opened, took, ended.known, ended.resets, ?_, ?_, ended.dropped⟩
  · exact ended.content.trans content
  · exact ended.total.trans (congrArg List.length content)

def lateSetup : Setup Factory where
  destination := ⟨0, 0, "late.ts"⟩
  factory := .mpeg
  opener := .files ⟨none, none⟩
  output := .transport
  capture := .other
  delivery := .unknown
  tuning := .automatic
  config := { standard with
    maxTransfer := 3 * 188, initialDetection := 3 * 188, maxDetection := 6 * 188 }
  registered := false

theorem late_valid : lateSetup.config.Valid := by decide

def lateMedium : Medium :=
  ⟨((Storage.empty []).addFile "late.ts" .healthy).2, .empty⟩

/-- Six packets of video, and only then the tables and more video. -/
def lateCapture : Bytes :=
  (((Transport.Synthetic.empty.videoPackets 6).tables .h264).videoPackets 4).bytes

def latePieces : List Bytes :=
  [lateCapture.take 700, (lateCapture.drop 700).take 800, lateCapture.drop 1500]

theorem recording_of_capture_late :
    lateSetup.config.Valid ∧ lateMedium.storage.Ready lateSetup.destination ∧
      ∃ session started, start lateSetup 0 lateMedium = .ok (session, started) ∧
        let fed := session.feedAll started latePieces
        let ended := fed.2.1.close fed.2.2
        fed.2.1.stats.resets = 1 ∧
          ended.2.storage.content 0 = lateCapture.drop (6 * 188) ∧
          ended.1.output.counters.total = 6 * 188 ∧ ended.1.dropped = 0 := by
  have ready : lateMedium.storage.Ready lateSetup.destination :=
    ⟨.new .healthy, rfl, Storage.Behaviour.healthy_accepts, rfl⟩
  have whole : latePieces.flatten = lateCapture := by decide +kernel
  obtain ⟨session, started, opened, -, -, resets, content, total, dropped⟩ :=
    recording_of_capture lateSetup 0 lateMedium rfl rfl rfl late_valid ready rfl latePieces
  rw [whole] at resets content total dropped
  refine ⟨late_valid, ready, session, started, opened, resets.trans ?_, content.trans ?_, total.trans ?_,
    dropped.trans ?_⟩ <;> decide +kernel

end Session

end MpegRecorder
