import MpegRecorder.Number.Binary
import MpegRecorder.Transport.Sync

/-!
The sizes that a recording works with, and the relations between them that it relies on.
-/

namespace MpegRecorder

structure Config where
  packetSize : Nat
  /-- The size of the units that an engine takes. -/
  maxTransfer : Nat
  initialDetection : Nat
  maxDetection : Nat
  writeBuffer : Nat
  /-- Bytes searched for a splice point before a move goes ahead without one. -/
  scanLimit : Nat
  /-- How long to wait for a splice point before a move is forced, in milliseconds. -/
  switchWait : Nat
  /-- Bytes from the start of a pack that are searched for an entry marker. -/
  packWindow : Nat
deriving Repr, DecidableEq

namespace Config

inductive Fault where
  | zeroPacket
  | unalignedTransfer (transfer packet : Nat)
  | shortTransfer (transfer : Nat)
  | unalignedDetection (name : String) (size packet : Nat)
  | initialAboveMax (initial max : Nat)
  | zeroWriteBuffer
deriving Repr, DecidableEq

namespace Fault

def message : Fault → String
  | zeroPacket => "packet_size must be non-zero"
  | unalignedTransfer transfer packet =>
    s!"max_transfer ({transfer}) must be a non-zero multiple of the packet size ({packet})"
  | shortTransfer transfer => s!"max_transfer ({transfer}) must hold at least three packets"
  | unalignedDetection name size packet =>
    s!"{name} ({size}) must be a non-zero multiple of the packet size ({packet})"
  | initialAboveMax initial max =>
    s!"initial_detection_size ({initial}) exceeds max_detection_size ({max})"
  | zeroWriteBuffer => "write_buffer_size must be non-zero"

end Fault

def standard : Config where
  packetSize := Transport.packetSize
  maxTransfer := 176 * Transport.packetSize
  initialDetection := 27888 * Transport.packetSize
  maxDetection := 111550 * Transport.packetSize
  writeBuffer := 16384
  scanLimit := 8 * 1024 * 1024
  switchWait := 30000
  packWindow := 2048

def isAligned (config : Config) (size : Nat) : Bool :=
  size ≠ 0 && size % config.packetSize = 0

def fault? (config : Config) : Option Fault :=
  if config.packetSize = 0 then some .zeroPacket
  else if !config.isAligned config.maxTransfer then
    some (.unalignedTransfer config.maxTransfer config.packetSize)
  else if config.maxTransfer < Transport.Sync.span config.packetSize then
    some (.shortTransfer config.maxTransfer)
  else if !config.isAligned config.initialDetection then
    some (.unalignedDetection "initial_detection_size" config.initialDetection config.packetSize)
  else if !config.isAligned config.maxDetection then
    some (.unalignedDetection "max_detection_size" config.maxDetection config.packetSize)
  else if config.maxDetection < config.initialDetection then
    some (.initialAboveMax config.initialDetection config.maxDetection)
  else if config.writeBuffer = 0 then some .zeroWriteBuffer
  else none

def Valid (config : Config) : Prop :=
  config.fault? = none

instance (config : Config) : Decidable config.Valid :=
  inferInstanceAs (Decidable (config.fault? = none))

theorem ne_zero_of_isAligned {config : Config} {size : Nat} (aligned : config.isAligned size = true) :
    0 < size := by
  simp only [isAligned, Bool.and_eq_true, decide_eq_true_eq] at aligned
  exact Nat.pos_of_ne_zero aligned.1

theorem Valid.aligned {config : Config} (valid : config.Valid) :
    config.isAligned config.maxTransfer = true ∧ config.isAligned config.initialDetection = true
      ∧ config.isAligned config.maxDetection = true := by
  unfold Valid fault? at valid
  simp only [Bool.not_eq_eq_eq_not, Bool.not_true] at valid
  repeat' split at valid
  all_goals simp_all

theorem Valid.transfer_pos {config : Config} (valid : config.Valid) : 0 < config.maxTransfer :=
  ne_zero_of_isAligned valid.aligned.1

theorem Valid.detection_pos {config : Config} (valid : config.Valid) :
    0 < min config.initialDetection config.maxDetection := by
  have := ne_zero_of_isAligned valid.aligned.2.1
  have := ne_zero_of_isAligned valid.aligned.2.2
  omega

/--
A time in milliseconds as seconds with two decimal places. Whole seconds and the rest are turned
into numbers of 53 bits each before they are added, and the sum is written exactly.
-/
def seconds (milliseconds : Nat) : String :=
  ((Number.Binary.ofNat (milliseconds / 1000)).add
    (Number.Binary.ofQuotient (milliseconds % 1000) 1000)).hundredths 1

def description (config : Config) : String :=
  "RemuxConfig \x7b " ++ s!"packet_size: {config.packetSize}, "
    ++ s!"max_transfer: {config.maxTransfer} bytes, "
    ++ s!"detection: {config.initialDetection}..{config.maxDetection} bytes, "
    ++ s!"write_buffer: {config.writeBuffer} bytes, "
    ++ s!"switch_scan_limit: {config.scanLimit} bytes, "
    ++ s!"switch_wait_timeout: {seconds config.switchWait}s " ++ "\x7d"

end Config

end MpegRecorder
