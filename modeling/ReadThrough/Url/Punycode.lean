/-! Punycode: text outside ASCII written in letters, digits and hyphens. The ASCII
characters stand first, then a hyphen, then one number for each other character that says
how far it lies behind the character inserted before it, counted over all positions of the
growing text and all characters in between. -/

namespace ReadThrough.Punycode

def digit (value : Nat) : Char :=
  Char.ofNat (if value < 26 then value + 'a'.toNat else value - 26 + '0'.toNat)

/-- The value of a digit, in either case. -/
def digit? (char : Char) : Option Nat :=
  if char.isLower then some (char.toNat - 'a'.toNat)
  else if char.isUpper then some (char.toNat - 'A'.toNat)
  else if char.isDigit then some (char.toNat - '0'.toNat + 26)
  else none

/-- A digit below the threshold of its place ends a number. Places count in steps of 36. -/
def threshold (bias place : Nat) : Nat := min 26 (max 1 (place - bias))

theorem threshold_range (bias place : Nat) :
    1 ≤ threshold bias place ∧ threshold bias place ≤ 26 := by
  unfold threshold; omega

/-- Scales a distance down to 455 and counts the steps. -/
def scale (distance : Nat) : Nat × Nat :=
  if 455 < distance then
    let (rest, steps) := scale (distance / 35)
    (rest, steps + 1)
  else (distance, 0)
termination_by distance
decreasing_by omega

/-- The bias for the number behind one that wrote `distance` into a text now of `length`. -/
def adapt (distance length : Nat) (isFirst : Bool) : Nat :=
  let damped := if isFirst then distance / 700 else distance / 2
  let (rest, steps) := scale (damped + damped / length)
  36 * steps + 36 * rest / (rest + 38)

/-- The digits of a number, from a place on. -/
def number (bias place value : Nat) : List Char :=
  let least := threshold bias place
  if value < least then [digit value]
  else
    digit (least + (value - least) % (36 - least)) ::
      number bias (place + 36) ((value - least) / (36 - least))
termination_by value
decreasing_by
  have range := threshold_range bias place
  exact Nat.lt_of_le_of_lt (Nat.div_le_self ..) (by omega)

/-- The first character outside ASCII. -/
def firstCode : Nat := 128

def firstBias : Nat := 72

/-- How far writing has come: `distance` counts the insertions skipped since the last. -/
structure Writer where
  written : List Char := []
  inserted : Nat := 0
  distance : Nat := 0
  bias : Nat := firstBias

/-- Passes one character of the text while characters equal to `code` are inserted. -/
def Writer.pass (basics code : Nat) (writer : Writer) (char : Char) : Writer :=
  if char.toNat < code then { writer with distance := writer.distance + 1 }
  else if char.toNat = code then {
    written := writer.written ++ number writer.bias 36 writer.distance
    inserted := writer.inserted + 1
    distance := 0
    bias := adapt writer.distance (basics + writer.inserted + 1) (writer.inserted == 0) }
  else writer

/-- Inserts the characters with the given codes, which ascend from `code` on. -/
def Writer.insert (text : List Char) (basics : Nat) : (code : Nat) → List Nat → Writer → Writer
  | _, [], writer => writer
  | code, next :: rest, writer =>
    let skipped := (next - code) * (basics + writer.inserted + 1)
    let writer := text.foldl (pass basics next) { writer with distance := writer.distance + skipped }
    insert text basics (next + 1) rest { writer with distance := writer.distance + 1 }

def encode (text : List Char) : List Char :=
  let basics := text.filter fun char => char.toNat < firstCode
  let codes := (text.map Char.toNat).filter fun code => firstCode ≤ code
  let codes := (codes.mergeSort fun first second => first ≤ second).eraseDups
  let separator := if basics.isEmpty then [] else ['-']
  basics ++ separator ++ (Writer.insert text basics.length firstCode codes {}).written

/-- How far reading has come: the text so far, the character inserted last, the position
behind it and the bias. -/
structure Reader where
  text : List Char
  code : Nat := firstCode
  position : Nat := 0
  bias : Nat := firstBias

/-- Inserts the character that lies `distance` behind the last one. -/
def Reader.advance (reader : Reader) (distance : Nat) : Option Reader :=
  let places := reader.text.length + 1
  let code := reader.code + (reader.position + distance) / places
  let position := (reader.position + distance) % places
  if code.isValidChar then some {
    text := reader.text.take position ++ Char.ofNat code :: reader.text.drop position
    code
    position := position + 1
    bias := adapt distance places (reader.position == 0) }
  else none

/-- Reads numbers to the end. Within a number, `value` is what its digits gave so far and
`weight` what the next one counts. -/
def Reader.read (reader : Reader) (value weight place : Nat) : List Char → Option Reader
  | [] => if place = 36 then some reader else none
  | char :: rest => do
    let digit ← digit? char
    let value := value + digit * weight
    let least := threshold reader.bias place
    if digit < least then
      let reader ← reader.advance value
      reader.read 0 1 36 rest
    else reader.read value (weight * (36 - least)) (place + 36) rest

/-- Splits at the last hyphen, which must not be the first character. -/
def split (text : List Char) : List Char × List Char :=
  match (text.reverse.dropWhile (· ≠ '-')).tail.reverse with
  | [] => ([], text)
  | basics => (basics, text.drop (basics.length + 1))

def decode? (text : List Char) : Option (List Char) :=
  let (basics, numbers) := split text
  if basics.all fun char => char.toNat < firstCode then
    (({ text := basics : Reader }).read 0 1 36 numbers).map (·.text)
  else none

end ReadThrough.Punycode
