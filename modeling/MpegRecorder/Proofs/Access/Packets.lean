import MpegRecorder.Proofs.Access.Basic
import MpegRecorder.Transport.Packet

/-!
Packets, read by offset. A view keeps the packet as it came, with the offsets at which its adaptation field
and its payload begin; both are cut out of it only when they are asked for. No such read goes beyond the
packet, and each gives what the packet that was parsed holds.
-/

namespace MpegRecorder.Access

open Transport

/-- A packet whose parts are found by their offsets. -/
structure View where
  data : Bytes
  transportError : Bool
  unitStart : Bool
  priority : Bool
  pid : UInt16
  scrambling : UInt8
  adaptationControl : UInt8
  continuity : UInt8
  /-- Where the length byte of the adaptation field stands. -/
  adaptationOffset : Option Nat
  payloadOffset : Option Nat

namespace View

/-- Where the adaptation field ends, or the header of a packet without one. -/
def adaptationEnd (present : Bool) (data : Bytes) : Except Fault (Except Malformed Nat) :=
  if present then do
    let length ← index data 4
    if data.length < 5 + length.toNat then
      return .error (.tooShort (5 + length.toNat) data.length)
    else return .ok (5 + length.toNat)
  else return .ok 4

def parse (data : Bytes) : Except Fault (Except Malformed View) := do
  if data.length ≠ packetSize then return .error (.packetSize packetSize data.length)
  let sync ← index data 0
  if sync ≠ syncByte then return .error (.syncByte sync)
  let first ← index data 1
  let second ← index data 2
  let third ← index data 3
  let control := third >>> 4 &&& 0x03
  match ← adaptationEnd (control &&& 0x02 != 0) data with
  | .error e => return .error e
  | .ok stop =>
    return .ok {
      data
      transportError := first &&& 0x80 != 0
      unitStart := first &&& 0x40 != 0
      priority := first &&& 0x20 != 0
      pid := Bytes.pidAt [first, second] 0
      scrambling := third >>> 6 &&& 0x03
      adaptationControl := control
      continuity := third &&& 0x0F
      adaptationOffset := if control &&& 0x02 != 0 then some 4 else none
      payloadOffset := if control &&& 0x01 != 0 && stop < data.length then some stop else none }

def adaptation (view : View) : Except Fault (Option Bytes) :=
  match view.adaptationOffset with
  | none => return none
  | some offset => do
    let length ← index view.data offset
    let field ← slice view.data (offset + 1) (offset + 1 + length.toNat)
    return some field

def payload (view : View) : Except Fault (Option Bytes) :=
  match view.payloadOffset with
  | none => return none
  | some offset => do
    let payload ← slice view.data offset view.data.length
    return some payload

def tableSection (view : View) : Except Fault (Option Bytes) := do
  match ← view.payload with
  | none => return none
  | some payload =>
    if view.unitStart then
      match payload with
      | [] => return none
      | pointer :: rest =>
        let content := rest.drop pointer.toNat
        return if content.isEmpty then none else some content
    else return some payload

def clockBase (view : View) : Except Fault (Option Nat) := do
  match ← view.adaptation with
  | none => return none
  | some field =>
    if field.length < 7 then return none
    let flags ← index field 0
    if flags &&& 0x10 = 0 then return none
    let b1 ← index field 1
    let b2 ← index field 2
    let b3 ← index field 3
    let b4 ← index field 4
    let b5 ← index field 5
    return some (b1.toNat <<< 25 + b2.toNat <<< 17 + b3.toNat <<< 9 + b4.toNat <<< 1 + b5.toNat >>> 7)

/-- A view of this packet, with offsets that all lie inside. -/
structure Shows (view : View) (packet : Packet) : Prop where
  unitStart : view.unitStart = packet.unitStart
  pid : view.pid = packet.pid
  adaptation : view.adaptation = .ok packet.adaptation
  payload : view.payload = .ok packet.payload

namespace Shows

variable {view : View} {packet : Packet}

theorem tableSection (shows : view.Shows packet) : view.tableSection = .ok packet.tableSection := by
  simp only [View.tableSection, Packet.tableSection, shows.payload, shows.unitStart, ok_bind]
  cases packet.payload with
  | none => rfl
  | some payload =>
    cases packet.unitStart with
    | false => rfl
    | true => cases payload <;> rfl

theorem clockBase (shows : view.Shows packet) : view.clockBase = .ok packet.clockBase := by
  simp only [View.clockBase, Packet.clockBase, shows.adaptation, ok_bind]
  cases packet.adaptation with
  | none => rfl
  | some field =>
    dsimp only
    by_cases short : field.length < 7
    · simp only [short, if_true, true_or, pure_eq_ok]
    · simp (disch := omega) only [index_byte, short, if_false, false_or, ok_bind, pure_eq_ok]
      split <;> rfl

end Shows

theorem adaptationEnd_sound {data : Bytes} (whole : data.length = packetSize) (present : Bool) :
    (∃ error, Packet.splitAdaptation present (data.drop 4) = .error error
        ∧ adaptationEnd present data = .ok (.error error))
      ∨ ∃ field stop, Packet.splitAdaptation present (data.drop 4) = .ok (field, data.drop stop)
        ∧ adaptationEnd present data = .ok (.ok stop) ∧ stop ≤ data.length
        ∧ ∀ view : View, view.data = data →
          view.adaptationOffset = (if present then some 4 else none) → view.adaptation = .ok field := by
  cases present with
  | false =>
    refine .inr ⟨none, 4, rfl, rfl, whole ▸ (by decide), ?_⟩
    intro view _ offset
    simp only [adaptation, offset, Bool.false_eq_true, if_false, pure_eq_ok]
  | true =>
    have room : 4 < data.length := whole ▸ (by decide)
    have body : data.drop 4 = data.byteAt 4 :: data.drop 5 := by
      rw [List.drop_eq_getElem_cons room, Bytes.byteAt, List.getD_eq_getElem?_getD,
        List.getElem?_eq_getElem room, Option.getD_some]
    have rest : 5 + (data.drop 5).length = data.length := by
      rw [List.length_drop]
      omega
    simp only [adaptationEnd, body, Packet.splitAdaptation, if_true, index_byte room, ok_bind,
      pure_eq_ok, rest]
    by_cases long : data.length < 5 + (data.byteAt 4).toNat
    · have beyond : (data.drop 5).length < (data.byteAt 4).toNat := by omega
      rw [if_pos long, if_pos beyond]
      exact .inl ⟨_, rfl, rfl⟩
    · have within : ¬ (data.drop 5).length < (data.byteAt 4).toNat := by omega
      rw [if_neg long, if_neg within, List.drop_drop]
      refine .inr ⟨_, _, rfl, rfl, by omega, ?_⟩
      intro view same offset
      have cut : slice data 5 (5 + (data.byteAt 4).toNat) =
          .ok ((data.drop 5).take (data.byteAt 4).toNat) := by
        rw [slice_of_le (Nat.le_add_right ..) (by omega), List.take_drop]
      simp only [adaptation, same, offset, index_byte room, ok_bind, Nat.reduceAdd, cut, pure_eq_ok]

theorem payload_of_offset {view : View} {carries : Bool} {stop : Nat}
    (offset : view.payloadOffset = if carries && stop < view.data.length then some stop else none) :
    view.payload = .ok
      (if carries && !(view.data.drop stop).isEmpty then some (view.data.drop stop) else none) := by
  have left : decide (stop < view.data.length) = !(view.data.drop stop).isEmpty := by
    rw [Bool.eq_iff_iff]
    simp
  rw [left] at offset
  by_cases something : (carries && !(view.data.drop stop).isEmpty) = true
  · have within : stop ≤ view.data.length := by
      simp at something
      omega
    rw [if_pos something] at offset ⊢
    simp only [payload, offset, slice_rest within, ok_bind, pure_eq_ok]
  · rw [if_neg something] at offset ⊢
    simp only [payload, offset, pure_eq_ok]

theorem parse_sound (data : Bytes) :
    (∃ error, Packet.parse data = .error error ∧ View.parse data = .ok (.error error))
      ∨ ∃ packet view, Packet.parse data = .ok packet ∧ View.parse data = .ok (.ok view)
        ∧ view.Shows packet := by
  unfold Packet.parse View.parse
  by_cases whole : data.length = packetSize
  · have long : data.length = 188 := whole
    simp (disch := omega) only [index_byte, whole, ne_eq, not_true_eq_false, if_false, ok_bind, pure_eq_ok]
    by_cases sync : data.byteAt 0 = syncByte
    · simp only [sync, not_true_eq_false, if_false]
      obtain ⟨error, refused, measured⟩ | ⟨field, stop, parted, measured, within, cut⟩ :=
        adaptationEnd_sound whole (data.byteAt 3 >>> 4 &&& 0x03 &&& 0x02 != 0)
      · rw [refused, measured]
        exact .inl ⟨error, rfl, rfl⟩
      · rw [parted, measured]
        refine .inr ⟨_, _, rfl, rfl, rfl, rfl, cut _ rfl rfl, ?_⟩
        exact payload_of_offset (by rw [whole])
    · simp only [sync, not_false_eq_true, if_true]
      exact .inl ⟨_, rfl, rfl⟩
  · simp only [ne_eq, whole, not_false_eq_true, if_true]
    exact .inl ⟨_, rfl, rfl⟩

end View

end MpegRecorder.Access
