import MpegRecorder.Medium
import MpegRecorder.Output.Buffer
import MpegRecorder.Output.Cut
import MpegRecorder.Output.Ring
import MpegRecorder.Storage.Opener
import MpegRecorder.Text.Quoted

/-!
The output of a recording: bytes that wait to be written, the destination they go to, and a request
to move to another destination. The move happens at a splice point of the bytes that wait, or, when
it is forced or too much was searched in vain, at the first of them. While no destination can be
opened the request stays, and the next flush tries again.
-/

namespace MpegRecorder

open Storage

structure Output.Request where
  name : String
  token : UInt32
  /-- Bytes searched for a splice point so far. -/
  scanned : Nat
deriving Repr, DecidableEq

structure Output where
  recording : Nat
  buffer : Output.Buffer
  /-- Missing while the next destination could not be opened, and after the end. -/
  destination : Option Destination
  /-- The path of the current destination, or of the last one. -/
  path : String
  ring : Output.Ring
  counters : Output.Counters
  policy : Output.CutPolicy
  request : Option Output.Request
  opener : Opener
  registered : Bool
  /-- Bytes searched for a splice point before a move goes ahead without one. -/
  scanLimit : Nat
  /-- Moves that went through. -/
  switches : Nat
  /-- Whether bytes of an engine are taken at all. -/
  accepting : Bool
  closed : Bool

namespace Output

/-- Writes bytes to the current destination. Without one, or after a failure, they are lost. -/
def writeOut (output : Output) (medium : Medium) (data : Bytes) : Output × Medium :=
  match output.destination with
  | none => (output, medium)
  | some destination =>
    let writer :=
      (Writer.write ⟨output.ring, output.counters, destination, medium.storage⟩ data).2
    ({ output with
        ring := writer.ring, counters := writer.counters, destination := some writer.destination },
      { medium with storage := writer.storage })

def flushAll (output : Output) (medium : Medium) : Output × Medium :=
  { output with buffer := output.buffer.clear }.writeOut medium output.buffer.content

def closeDestination (output : Output) (medium : Medium) : Output × Medium :=
  match output.destination with
  | none => (output, medium)
  | some destination =>
    ({ output with destination := none },
      { medium with storage := (medium.storage.close destination).2 })

def adopt (output : Output) (medium : Medium) (destination : Destination) : Output × Medium :=
  let (moved, medium) :=
    { output with
      destination := some destination, path := destination.path, request := none
      switches := output.switches + 1
      counters := output.counters.startDestination, ring := output.ring.restart
    }.flushAll medium
  (moved,
    if output.registered then
      { medium with registry := medium.registry.rename output.path destination.path }
    else medium)

/-- Ends the current destination after `cut` buffered bytes and opens the one asked for. -/
def moveAt (output : Output) (medium : Medium) (request : Request) (cut : Nat) :
    Bool × Output × Medium :=
  let (before, buffer) := output.buffer.splitTo cut
  let (output, medium) := { output with buffer }.writeOut medium before
  let (output, medium) := output.closeDestination medium
  match output.opener.openFile medium.storage request.name request.token with
  | (.error _, opener, storage) => (false, { output with opener }, { medium with storage })
  | (.ok destination, opener, storage) =>
    (true, { output with opener }.adopt { medium with storage } destination)

/--
Looks for a splice point in the buffer and moves there, and says whether it moved. Without one the
buffer is written out, so that no byte is searched twice.
-/
def tryCut (output : Output) (medium : Medium) (force : Bool) : Bool × Output × Medium :=
  match output.request with
  | none => (false, output, medium)
  | some request =>
    if output.buffer.content.isEmpty && !force then (false, output, medium)
    else
      let scanned := request.scanned + output.buffer.content.length
      let request := { request with scanned }
      let output := { output with request := some request }
      match output.policy.findCut output.buffer.content with
      | some cut => output.moveAt medium request cut
      | none =>
        if force || output.scanLimit < scanned then output.moveAt medium request 0
        else (false, output.flushAll medium)

def flush (output : Output) (medium : Medium) : Output × Medium :=
  if output.request.isSome then (output.tryCut medium false).2 else output.flushAll medium

def append (output : Output) (medium : Medium) (data : Bytes) : Output × Medium :=
  let (output, medium) :=
    if output.buffer.remaining < data.length then
      let (output, medium) := output.flush medium
      ({ output with buffer := output.buffer.makeRoom data.length }, medium)
    else (output, medium)
  ({ output with buffer := output.buffer.extend data }, medium)

/--
Asks to move to the destination `name`. Refused after the end, while another request waits, and when
`name` spells the current path.
-/
def startSwitch (output : Output) (medium : Medium) (name : String) (token : UInt32) :
    Bool × Output × Medium :=
  if output.closed || output.request.isSome || output.path == name then (false, output, medium)
  else
    (true, ({ output with request := some ⟨name, token, 0⟩ }.tryCut medium false).2)

def isSwitched (output : Output) : Bool :=
  output.request.isNone

def forceSwitch (output : Output) (medium : Medium) : Output × Medium :=
  (output.tryCut medium true).2

/-- Waits in vain for a splice point and then moves without one; says whether no request is left. -/
def awaitSwitch (output : Output) (medium : Medium) : Bool × Output × Medium :=
  let (output, medium) := if output.closed then (output, medium) else output.forceSwitch medium
  (output.isSwitched, output, medium)

def finish (output : Output) (medium : Medium) : Output × Medium :=
  let (output, medium) := { output with closed := true }.forceSwitch medium
  let (output, medium) := output.flushAll medium
  let (output, medium) := output.closeDestination medium
  ({ output with accepting := false }, medium)

def detach (output : Output) (medium : Medium) : Output × Medium :=
  if output.registered then
    ({ output with registered := false },
      { medium with registry := medium.registry.unregister output.path output.recording })
  else (output, medium)

def description (output : Output) : String :=
  "SessionHandle \x7b destination: " ++ Text.Quoted.encode output.path
    ++ s!", closed: {output.closed} " ++ "\x7d"

end Output

end MpegRecorder
