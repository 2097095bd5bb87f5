import MpegRecorder.Proofs.Engine.Passing
import MpegRecorder.Proofs.Pack.Framing

/-!
What the engine for transport stream captures writes. Whatever program it follows and whatever chunks it is
given, all of it are packets that can be read, or packs of a program stream, each in full; at the end of a
program stream comes its end code.
-/

namespace MpegRecorder

open Transport

def Row (piece : Bytes → Prop) (data : Bytes) : Prop :=
  ∃ pieces : List Bytes, pieces.flatten = data ∧ ∀ other ∈ pieces, piece other

namespace Row

variable {piece : Bytes → Prop} {data more : Bytes}

theorem nil : Row piece [] := ⟨[], rfl, nofun⟩

theorem single (one : piece data) : Row piece data :=
  ⟨[data], List.flatten_singleton, List.forall_mem_singleton.mpr one⟩

theorem append (row : Row piece data) (rest : Row piece more) : Row piece (data ++ more) := by
  obtain ⟨pieces, rfl, all⟩ := row
  obtain ⟨others, rfl, each⟩ := rest
  exact ⟨pieces ++ others, List.flatten_append, List.forall_mem_append.mpr ⟨all, each⟩⟩

theorem mono {other : Bytes → Prop} (row : Row piece data) (covers : ∀ one, piece one → other one) :
    Row other data := by
  obtain ⟨pieces, whole, all⟩ := row
  exact ⟨pieces, whole, fun one member => covers one (all one member)⟩

end Row

def Transport.Readable (packet : Bytes) : Prop :=
  ∃ read, Packet.parse packet = .ok read

namespace Container.Kind

/-- What recordings of the kind are made of. -/
def Portion : Container.Kind → Bytes → Prop
  | .transport => Readable
  | .program => Pack.WellFormed

/-- Portions, with the end code behind them or not if they are those of a program stream. -/
def Ended (kind : Container.Kind) (data : Bytes) : Prop :=
  Row kind.Portion data ∨
    kind = .program ∧ ∃ packs, Row kind.Portion packs ∧ data = packs ++ Pack.endCode

end Container.Kind

def Emission.Hands (form : Bytes → Prop) : Emission → Prop
  | write data => form data
  | flush => True

namespace MpegEngine

theorem portions_remuxPacket (engine : MpegEngine) (chunk : Bytes) :
    (engine.remuxPacket chunk).2.output = engine.output ∧
      Row engine.output.Portion (engine.remuxPacket chunk).1 := by
  cases parsed : Packet.parse chunk with
  | error refused =>
    have step : engine.remuxPacket chunk = ([], engine) := by
      simp only [remuxPacket, parsed]
    rw [step]
    exact ⟨rfl, .nil⟩
  | ok packet =>
    have kept := engine.output_probed packet
    cases kind : engine.output with
    | transport =>
      have readable : Readable chunk := ⟨packet, parsed⟩
      rw [remuxPacket_of_transport kind parsed]
      refine ⟨kept.trans kind, ?_⟩
      dsimp only
      split
      · exact .single readable
      · exact .nil
    | program =>
      have step : engine.remuxPacket chunk =
          (((engine.probed packet).muxer.pushPacket packet).1,
            { engine.probed packet with muxer := ((engine.probed packet).muxer.pushPacket packet).2 }) := by
        simp only [remuxPacket, parsed]
        rw [← probed, kept, kind]
      rw [step]
      exact ⟨kept.trans kind, Pack.Muxer.framed_pushPacket ..⟩

theorem portions_remuxPackets (engine : MpegEngine) (chunks : List Bytes) :
    (engine.remuxPackets chunks).2.output = engine.output ∧
      Row engine.output.Portion (engine.remuxPackets chunks).1.flatten := by
  induction chunks generalizing engine with
  | nil => exact ⟨rfl, .nil⟩
  | cons chunk rest ih =>
    obtain ⟨kept, first⟩ := engine.portions_remuxPacket chunk
    obtain ⟨same, later⟩ := ih (engine.remuxPacket chunk).2
    rw [kept] at same later
    exact ⟨same, first.append later⟩

theorem hands_emission {form : Bytes → Prop} {data : Bytes} (handed : form data) :
    ∀ handing ∈ emission data, handing.Hands form := by
  intro handing member
  unfold emission at member
  split at member
  · cases member
  · rw [List.mem_singleton.mp member]
    exact handed

theorem portions_remux (engine : MpegEngine) (data : Bytes) :
    (engine.remux data).2.output = engine.output ∧
      ∀ emission ∈ (engine.remux data).1, emission.Hands (Row engine.output.Portion) := by
  unfold remux
  split
  · exact ⟨rfl, nofun⟩
  · obtain ⟨kept, row⟩ := engine.portions_remuxPackets (data.wholeChunks packetSize)
    exact ⟨kept, hands_emission row⟩

theorem ended_close (engine : MpegEngine) :
    engine.close.2.output = engine.output ∧
      (engine.close.1 = [] ∨ engine.close.1 = [.flush] ∨
        ∃ data, engine.close.1 = [.write data, .flush] ∧ engine.output.Ended data) := by
  by_cases closed : engine.closed = true
  · rw [close, if_pos closed]
    exact ⟨rfl, .inl rfl⟩
  · rw [close, if_neg closed]
    dsimp only
    split
    · next program =>
      obtain ⟨units, finished, framed⟩ := engine.muxer.finish_eq
      have some : (units ++ Pack.endCode).isEmpty = false := by
        rw [List.isEmpty_eq_false_iff]
        exact List.append_ne_nil_of_right_ne_nil _ (by decide)
      refine ⟨rfl, .inr (.inr ⟨units ++ Pack.endCode, ?_, .inr ⟨program.1, units, ?_, rfl⟩⟩)⟩
      · rw [finished, emission, some]
        rfl
      · rw [program.1]
        exact framed
    · exact ⟨rfl, .inr (.inl rfl)⟩

end MpegEngine

end MpegRecorder
