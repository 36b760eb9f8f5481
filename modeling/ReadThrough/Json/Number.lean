/-! Numbers of a JSON document. `read` gives the value of a number whose value matters;
`skip` only checks the form. Both leave what follows the number. -/

namespace ReadThrough.Json

/-- Why a document cannot be read on: a character that does not fit, or its early end. -/
inductive Fault where
  | malformed
  | incomplete
deriving Repr, DecidableEq

/-- Whole numbers of at most 64 bits keep their exact value; `negative` holds a magnitude
of at least one. -/
inductive Number where
  | natural (value : Nat)
  | negative (magnitude : Nat)
  | float (value : Float)

namespace Number

/-- The largest significand kept. -/
def limit : Nat := 0xffffffffffffffff

def digitsThen (text : List Char) : List Char × List Char :=
  (text.takeWhile Char.isDigit, text.dropWhile Char.isDigit)

def value (digit : Char) : Nat := digit.toNat - '0'.toNat

/-- Appends digits to a significand up to the first that no longer fits, which is left over
with all that follow. -/
def extend (significand : Nat) : List Char → Nat × List Char
  | [] => (significand, [])
  | digit :: rest =>
    let larger := significand * 10 + value digit
    if larger ≤ limit then extend larger rest else (significand, digit :: rest)

/-- The double nearest to a power of ten of at most 308. -/
def powerOfTen (exponent : Nat) : Float := Float.ofScientific 1 false exponent

/-- A double moved by a power of ten in double arithmetic, in steps of at most 308 places;
`none` when it exceeds all doubles. -/
def scale (value : Float) (exponent : Int) : Option Float :=
  if exponent.natAbs ≤ 308 then
    if 0 ≤ exponent then
      let scaled := value * powerOfTen exponent.natAbs
      if scaled.isInf then none else some scaled
    else some (value / powerOfTen exponent.natAbs)
  else if value == 0 then some value
  else if 0 ≤ exponent then none
  else scale (value / powerOfTen 308) (exponent + 308)
termination_by exponent.natAbs
decreasing_by omega

/-- A number with a fraction, an exponent or too many digits. -/
def ofParts (positive : Bool) (significand : Nat) (exponent : Int) : Except Fault Number :=
  match scale significand.toUInt64.toFloat exponent with
  | some value => .ok (.float (if positive then value else -value))
  | none => .error .malformed

/-- The largest exponent that is read as written. -/
def exponentLimit : Nat := 0x7fffffff

/-- The exponent that digits write; what exceeds the limit counts as one more than it. -/
def magnitude (digits : List Char) : Nat :=
  digits.foldl (fun sum digit => min (exponentLimit + 1) (sum * 10 + value digit)) 0

/-- The sign in front of an exponent and what follows it. -/
def exponentSign : List Char → Bool × List Char
  | '+' :: rest => (true, rest)
  | '-' :: rest => (false, rest)
  | rest => (true, rest)

/-- The rest of a number behind its `e`. -/
def readExponent (positive : Bool) (significand : Nat) (exponent : Int) (text : List Char) :
    Except Fault (Number × List Char) :=
  let (raised, text) := exponentSign text
  match digitsThen text with
  | ([], []) => .error .incomplete
  | ([], _) => .error .malformed
  | (digits, rest) =>
    let written := magnitude digits
    if exponentLimit < written then
      if significand ≠ 0 ∧ raised then .error .malformed
      else .ok (.float (if positive then 0 else -0.0), rest)
    else do
      let shift : Int := if raised then written else -written
      return (← ofParts positive significand (exponent + shift), rest)

/-- The rest of a number behind its point. Digits that no longer fit are dropped. -/
def readFraction (positive : Bool) (significand : Nat) (exponent : Int) (text : List Char) :
    Except Fault (Number × List Char) :=
  match digitsThen text with
  | ([], []) => .error .incomplete
  | ([], _) => .error .malformed
  | (digits, rest) =>
    let (significand, dropped) := extend significand digits
    let exponent := exponent - (digits.length - dropped.length : Nat)
    match rest with
    | 'e' :: rest | 'E' :: rest => readExponent positive significand exponent rest
    | _ => do return (← ofParts positive significand exponent, rest)

/-- A whole number without a fraction; negative zero and what exceeds 64 bits are floats. -/
def ofWhole (positive : Bool) (significand : Nat) : Number :=
  if positive then .natural significand
  else if 0 < significand ∧ significand ≤ 0x8000000000000000 then .negative significand
  else .float (-significand.toUInt64.toFloat)

/-- Reads a number behind its sign. -/
def readUnsigned (positive : Bool) (text : List Char) : Except Fault (Number × List Char) :=
  match digitsThen text with
  | ([], []) => .error .incomplete
  | ([], _) => .error .malformed
  | ('0' :: _ :: _, _) => .error .malformed
  | (digits, rest) =>
    let (significand, dropped) := extend 0 digits
    match rest with
    | '.' :: rest => readFraction positive significand dropped.length rest
    | 'e' :: rest | 'E' :: rest => readExponent positive significand dropped.length rest
    | _ =>
      if dropped.isEmpty then .ok (ofWhole positive significand, rest)
      else do return (← ofParts positive significand dropped.length, rest)

def read : List Char → Except Fault (Number × List Char)
  | '-' :: text => readUnsigned false text
  | text => readUnsigned true text

/-- Drops digits, of which there must be one. -/
def skipDigits (text : List Char) : Except Fault (List Char) :=
  match digitsThen text with
  | ([], _) => .error .malformed
  | (_, rest) => .ok rest

def skipExponent : List Char → Except Fault (List Char)
  | 'e' :: rest | 'E' :: rest => skipDigits (exponentSign rest).2
  | rest => .ok rest

def skipUnsigned (text : List Char) : Except Fault (List Char) :=
  match digitsThen text with
  | ([], _) => .error .malformed
  | ('0' :: _ :: _, _) => .error .malformed
  | (_, '.' :: rest) => skipDigits rest >>= skipExponent
  | (_, rest) => skipExponent rest

def skip : List Char → Except Fault (List Char)
  | '-' :: text => skipUnsigned text
  | text => skipUnsigned text

end Number

end ReadThrough.Json
