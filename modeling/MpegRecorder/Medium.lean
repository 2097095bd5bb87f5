import MpegRecorder.Registry
import MpegRecorder.Storage.Basic

/-!
What recordings act on together: the storage that they write to, and the registry that they are
found by.
-/

namespace MpegRecorder

structure Medium where
  storage : Storage
  registry : Registry

end MpegRecorder
