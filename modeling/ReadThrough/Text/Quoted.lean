import ReadThrough.Text.Hex
import ReadThrough.Text.Unprintable

/-! Text between quotes in a message, with everything escaped that would not be seen. -/

namespace ReadThrough.Quoted

def escape (char : Char) : List Char :=
  if char = '"' then ['\\', '"']
  else if char = '\\' then ['\\', '\\']
  else if char = '\n' then ['\\', 'n']
  else if char = '\r' then ['\\', 'r']
  else if char = '\t' then ['\\', 't']
  else if char = '\x00' then ['\\', '0']
  else if Unprintable.contains char then ['\\', 'u', '\x7b'] ++ Hex.ofNat char.toNat ++ ['\x7d']
  else [char]

def quote (text : String) : String :=
  String.ofList ('"' :: text.toList.flatMap escape ++ ['"'])

end ReadThrough.Quoted
