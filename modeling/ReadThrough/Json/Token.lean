import ReadThrough.Json.Number
import ReadThrough.Json.Text

/-! The tokens of a JSON document. A string or a number carries two outcomes, since a
reader that wants its value is stricter than one that passes over it. Tokens end where
passing over one fails; nothing behind that place is ever looked at. -/

namespace ReadThrough.Json

inductive Literal where
  | null
  | bool (value : Bool)
deriving Repr, DecidableEq

/-- `stray` is a character that starts no token. -/
inductive Token where
  | openBrace
  | closeBrace
  | openBracket
  | closeBracket
  | comma
  | colon
  | text (value : Except Fault String) (form : Except Fault Unit)
  | number (value : Except Fault Number) (form : Except Fault Unit)
  | literal (value : Except Fault Literal)
  | stray

namespace Token

def isBlank (char : Char) : Bool :=
  char == ' ' || char == '\n' || char == '\t' || char == '\r'

/-- Reads the remaining letters of a word. -/
def word : List Char → List Char → Except Fault (List Char)
  | [], rest => .ok rest
  | _ :: _, [] => .error .incomplete
  | letter :: letters, char :: rest =>
    if char = letter then word letters rest else .error .malformed

def ofWord (value : Literal) (outcome : Except Fault (List Char)) : Token × List Char :=
  match outcome with
  | .ok rest => (.literal (.ok value), rest)
  | .error fault => (.literal (.error fault), [])

def ofText (rest : List Char) : Token × List Char :=
  let value := (Text.read rest).map String.ofList
  match Text.skip rest with
  | .ok rest => (.text value (.ok ()), rest)
  | .error fault => (.text value (.error fault), [])

def ofNumber (text : List Char) : Token × List Char :=
  let value := (Number.read text).map (·.1)
  match Number.skip text with
  | .ok rest => (.number value (.ok ()), rest)
  | .error fault => (.number value (.error fault), [])

/-- The token that a character starts, and what follows it. -/
def start (char : Char) (rest : List Char) : Token × List Char :=
  match char with
  | '\x7b' => (.openBrace, rest)
  | '\x7d' => (.closeBrace, rest)
  | '[' => (.openBracket, rest)
  | ']' => (.closeBracket, rest)
  | ',' => (.comma, rest)
  | ':' => (.colon, rest)
  | '"' => ofText rest
  | 'n' => ofWord .null (word ['u', 'l', 'l'] rest)
  | 't' => ofWord (.bool true) (word ['r', 'u', 'e'] rest)
  | 'f' => ofWord (.bool false) (word ['a', 'l', 's', 'e'] rest)
  | _ => if char = '-' ∨ char.isDigit then ofNumber (char :: rest) else (.stray, [])

theorem length_word {letters text rest : List Char} (read : word letters text = .ok rest) :
    rest.length ≤ text.length := by
  induction letters generalizing text with
  | nil =>
    obtain rfl : text = rest := by simpa only [word, Except.ok.injEq] using read
    exact Nat.le_refl _
  | cons letter letters ih =>
    cases text with
    | nil => simp [word] at read
    | cons char text =>
      simp only [word] at read
      split at read
      · exact Nat.le_succ_of_le (ih read)
      · simp at read

theorem length_skipText {text rest : List Char} (skipped : Text.skip text = .ok rest) :
    rest.length < text.length := by
  -- the text ends or goes on behind what was read; every other branch is a fault
  fun_induction Text.skip text with
  | case2 after =>
    obtain rfl := Except.ok.inj skipped
    exact Nat.lt_succ_self _
  | case3 _ _ _ _ _ _ ih =>
    have shorter := ih skipped
    simp only [List.length_cons]
    omega
  | case7 _ _ _ _ _ ih =>
    have shorter := ih skipped
    simp only [List.length_cons]
    omega
  | case10 _ _ _ _ _ _ _ _ ih => exact Nat.lt_succ_of_lt (ih skipped)
  | _ => nomatch skipped

theorem length_digitsThen (text : List Char) :
    (Number.digitsThen text).1.length + (Number.digitsThen text).2.length = text.length := by
  rw [Number.digitsThen, ← List.length_append, List.takeWhile_append_dropWhile]

theorem length_behind_digits {text digits rest : List Char}
    (same : Number.digitsThen text = (digits, rest)) (nonempty : digits ≠ []) :
    rest.length < text.length := by
  have whole : digits.length + rest.length = text.length := by
    simpa only [same] using length_digitsThen text
  have positive := List.length_pos_iff.mpr nonempty
  omega

theorem length_skipDigits {text rest : List Char} (skipped : Number.skipDigits text = .ok rest) :
    rest.length < text.length := by
  unfold Number.skipDigits at skipped
  split at skipped
  next => nomatch skipped
  next nonempty same =>
    obtain rfl := Except.ok.inj skipped
    exact length_behind_digits same nonempty

theorem length_exponentSign (text : List Char) :
    (Number.exponentSign text).2.length ≤ text.length := by
  unfold Number.exponentSign
  split <;> simp

theorem length_skipExponent {text rest : List Char}
    (skipped : Number.skipExponent text = .ok rest) : rest.length ≤ text.length := by
  have marked {behind : List Char}
      (read : Number.skipDigits (Number.exponentSign behind).2 = .ok rest) :
      rest.length ≤ behind.length + 1 := by
    have digits := length_skipDigits read
    have sign := length_exponentSign behind
    omega
  unfold Number.skipExponent at skipped
  split at skipped
  next => exact marked skipped
  next => exact marked skipped
  next =>
    obtain rfl := Except.ok.inj skipped
    exact Nat.le_refl _

theorem length_skipUnsigned {text rest : List Char}
    (skipped : Number.skipUnsigned text = .ok rest) : rest.length < text.length := by
  unfold Number.skipUnsigned at skipped
  split at skipped
  next => nomatch skipped
  next => nomatch skipped
  next point nonempty _ same =>
    have behind : point.length + 1 < text.length := length_behind_digits same nonempty
    cases fraction : Number.skipDigits point with
    | error fault =>
      rw [fraction] at skipped
      nomatch skipped
    | ok after =>
      rw [fraction] at skipped
      have decimals := length_skipDigits fraction
      have scale := length_skipExponent skipped
      omega
  next nonempty _ _ same =>
    have behind := length_behind_digits same nonempty
    have scale := length_skipExponent skipped
    omega

theorem length_skipNumber {text rest : List Char} (skipped : Number.skip text = .ok rest) :
    rest.length < text.length := by
  unfold Number.skip at skipped
  split at skipped
  next => exact Nat.lt_succ_of_lt (length_skipUnsigned skipped)
  next => exact length_skipUnsigned skipped

theorem length_start (char : Char) (rest : List Char) :
    (start char rest).2.length ≤ rest.length := by
  have ofWord (value : Literal) (letters : List Char) :
      (ofWord value (word letters rest)).2.length ≤ rest.length := by
    cases read : word letters rest with
    | ok after => exact length_word read
    | error fault => simp [Token.ofWord]
  have ofText : (ofText rest).2.length ≤ rest.length := by
    unfold Token.ofText
    cases skipped : Text.skip rest with
    | ok after => exact Nat.le_of_lt (length_skipText skipped)
    | error fault => simp
  have ofNumber : (ofNumber (char :: rest)).2.length ≤ rest.length := by
    unfold Token.ofNumber
    cases skipped : Number.skip (char :: rest) with
    | ok after => exact Nat.le_of_lt_succ (length_skipNumber skipped)
    | error fault => simp
  unfold start
  split <;> first | exact Nat.le_refl _ | exact ofText | exact ofWord _ _ | skip
  split
  · exact ofNumber
  · simp

end Token

/-- The tokens of a text. -/
def tokens : List Char → List Token
  | [] => []
  | char :: rest =>
    if Token.isBlank char then tokens rest
    else (Token.start char rest).1 :: tokens (Token.start char rest).2
termination_by text => text.length
decreasing_by
  · simp
  · exact Nat.lt_succ_of_le (Token.length_start char rest)

end ReadThrough.Json
