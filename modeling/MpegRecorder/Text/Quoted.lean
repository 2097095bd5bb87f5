import MpegRecorder.Hex
import MpegRecorder.Text.Hidden

/-!
Text in double quotes, with a backslash before what could be mistaken and a code in braces for what
would not show.
-/

namespace MpegRecorder.Text.Quoted

def escape (c : Char) : String :=
  if c = '"' then "\\\""
  else if c = '\\' then "\\\\"
  else if c = '\n' then "\\n"
  else if c = '\r' then "\\r"
  else if c = '\t' then "\\t"
  else if c.toNat = 0 then "\\0"
  else if isHidden c then "\\u\x7b" ++ Hex.lower 1 c.toNat ++ "\x7d"
  else c.toString

def encode (text : String) : String :=
  "\"" ++ String.join (text.toList.map escape) ++ "\""

end MpegRecorder.Text.Quoted
