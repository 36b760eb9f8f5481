import ReadThrough.Json.Number
import ReadThrough.Text.Hex
import ReadThrough.Text.Utf8

/-! Strings of a JSON document, read from behind the opening quote. `read` gives the text
up to the closing quote and wants surrogate escapes in pairs; `skip` only checks the form
and leaves what follows the closing quote. -/

namespace ReadThrough.Json.Text

/-- The character that a one-letter escape stands for. -/
def unescape? : Char → Option Char
  | '"' => some '"'
  | '\\' => some '\\'
  | '/' => some '/'
  | 'b' => some '\x08'
  | 'f' => some '\x0c'
  | 'n' => some '\n'
  | 'r' => some '\r'
  | 't' => some '\t'
  | _ => none

/-- The 16-bit unit that four hexadecimal digits write. -/
def unit? (first second third fourth : Char) : Option Nat := do
  return (((← Hex.digit? first) * 16 + (← Hex.digit? second)) * 16 + (← Hex.digit? third)) * 16 +
    (← Hex.digit? fourth)

/-- What is wrong with a unit escape that fewer than four characters follow: a document
that has no four bytes left has ended too soon. -/
def shortUnit (rest : List Char) : Fault :=
  if (Utf8.encode (rest.take 4)).length < 4 then .incomplete else .malformed

def isLeading (unit : Nat) : Bool := 0xd800 ≤ unit && unit < 0xdc00

def isTrailing (unit : Nat) : Bool := 0xdc00 ≤ unit && unit < 0xe000

/-- The character beyond the basic plane that a pair of surrogates stands for. -/
def pair (leading trailing : Nat) : Char :=
  Char.ofNat (0x10000 + (leading - 0xd800) * 0x400 + (trailing - 0xdc00))

/-- What is wrong with a leading surrogate that no second unit follows. -/
def unpaired : List Char → Fault
  | [] | ['\\'] => .incomplete
  | '\\' :: 'u' :: rest => shortUnit rest
  | _ => .malformed

def read : List Char → Except Fault (List Char)
  | [] => .error .incomplete
  | '"' :: _ => .ok []
  | '\\' :: 'u' :: first :: second :: third :: fourth :: rest =>
    match unit? first second third fourth with
    | none => .error .malformed
    | some leading =>
      if isTrailing leading then .error .malformed
      else if isLeading leading then
        match rest with
        | '\\' :: 'u' :: first :: second :: third :: fourth :: rest =>
          match unit? first second third fourth with
          | none => .error .malformed
          | some trailing =>
            if isTrailing trailing then (pair leading trailing :: ·) <$> read rest
            else .error .malformed
        | rest => .error (unpaired rest)
      else (Char.ofNat leading :: ·) <$> read rest
  | '\\' :: 'u' :: rest => .error (shortUnit rest)
  | ['\\'] => .error .incomplete
  | '\\' :: escape :: rest =>
    match unescape? escape with
    | some char => (char :: ·) <$> read rest
    | none => .error .malformed
  | char :: rest => if char < ' ' then .error .malformed else (char :: ·) <$> read rest

def skip : List Char → Except Fault (List Char)
  | [] => .error .incomplete
  | '"' :: rest => .ok rest
  | '\\' :: 'u' :: first :: second :: third :: fourth :: rest =>
    if (unit? first second third fourth).isSome then skip rest else .error .malformed
  | '\\' :: 'u' :: rest => .error (shortUnit rest)
  | ['\\'] => .error .incomplete
  | '\\' :: escape :: rest =>
    if (unescape? escape).isSome then skip rest else .error .malformed
  | char :: rest => if char < ' ' then .error .malformed else skip rest

end ReadThrough.Json.Text
