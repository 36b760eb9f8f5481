import Mathlib.Data.List.TakeWhile
import ReadThrough.Json.Token

/-! The grammar of JSON, and that the readers of strings and numbers follow it. A value that is
passed over has the form of a value and nothing more; a string that is read also spells a text,
which units of surrogates that are not in pairs do not. -/

namespace ReadThrough.Json

def Blank (text : List Char) : Prop :=
  ∀ char ∈ text, char = ' ' ∨ char = '\n' ∨ char = '\t' ∨ char = '\r'

/-- Four hexadecimal digits, and the 16-bit unit that they write. -/
inductive Quad : List Char → Nat → Prop where
  | digits {first second third fourth : Char} {a b c d : Nat}
      (thousands : Hex.digit? first = some a) (hundreds : Hex.digit? second = some b)
      (tens : Hex.digit? third = some c) (ones : Hex.digit? fourth = some d) :
      Quad [first, second, third, fourth] (((a * 16 + b) * 16 + c) * 16 + d)

/-- The letters that may follow a backslash, and the characters that they stand for there. -/
inductive Escape : Char → Char → Prop where
  | quote : Escape '"' '"'
  | backslash : Escape '\\' '\\'
  | slash : Escape '/' '/'
  | backspace : Escape 'b' '\x08'
  | formFeed : Escape 'f' '\x0c'
  | lineFeed : Escape 'n' '\n'
  | carriageReturn : Escape 'r' '\r'
  | tab : Escape 't' '\t'

/-- A character that may stand for itself in a string. -/
def Bare (char : Char) : Prop := ' ' ≤ char ∧ char ≠ '"' ∧ char ≠ '\\'

/-- What may stand between the quotes of a string. -/
inductive Body : List Char → Prop where
  | nil : Body []
  | bare {char : Char} {rest : List Char} (bare : Bare char) (body : Body rest) :
      Body (char :: rest)
  | escape {letter char : Char} {rest : List Char} (known : Escape letter char)
      (body : Body rest) : Body ('\\' :: letter :: rest)
  | unit {digits rest : List Char} {unit : Nat} (quad : Quad digits unit) (body : Body rest) :
      Body ('\\' :: 'u' :: (digits ++ rest))

/-- What stands between the quotes of a string, and the text that it spells. -/
inductive Spells : List Char → List Char → Prop where
  | nil : Spells [] []
  | bare {char : Char} {body text : List Char} (bare : Bare char) (spells : Spells body text) :
      Spells (char :: body) (char :: text)
  | escape {letter char : Char} {body text : List Char} (known : Escape letter char)
      (spells : Spells body text) : Spells ('\\' :: letter :: body) (char :: text)
  | unit {digits body text : List Char} {unit : Nat} (quad : Quad digits unit)
      (whole : unit < 0xd800 ∨ 0xe000 ≤ unit) (spells : Spells body text) :
      Spells ('\\' :: 'u' :: (digits ++ body)) (Char.ofNat unit :: text)
  | pair {first second body text : List Char} {high low : Nat} (leading : Quad first high)
      (trailing : Quad second low) (highRange : 0xd800 ≤ high ∧ high < 0xdc00)
      (lowRange : 0xdc00 ≤ low ∧ low < 0xe000) (spells : Spells body text) :
      Spells ('\\' :: 'u' :: (first ++ '\\' :: 'u' :: (second ++ body)))
        (Char.ofNat (0x10000 + (high - 0xd800) * 0x400 + (low - 0xdc00)) :: text)

def Digits (text : List Char) : Prop := text ≠ [] ∧ ∀ char ∈ text, char.isDigit = true

/-- Digits without leading zeros. -/
def Whole (text : List Char) : Prop := Digits text ∧ (text.head? = some '0' → text = ['0'])

inductive Fraction : List Char → Prop where
  | none : Fraction []
  | digits {text : List Char} (digits : Digits text) : Fraction ('.' :: text)

inductive Exponent : List Char → Prop where
  | none : Exponent []
  | digits {mark : Char} {sign text : List Char} (marked : mark = 'e' ∨ mark = 'E')
      (signed : sign = [] ∨ sign = ['+'] ∨ sign = ['-']) (digits : Digits text) :
      Exponent (mark :: (sign ++ text))

inductive Numeral : List Char → Prop where
  | parts {sign whole fraction exponent : List Char} (signed : sign = [] ∨ sign = ['-'])
      (integer : Whole whole) (decimals : Fraction fraction) (scale : Exponent exponent) :
      Numeral (sign ++ (whole ++ (fraction ++ exponent)))

/-- What has a form of its own. An element is a value with blanks around it. -/
inductive Part where
  | value
  | element
  | elements
  | member
  | members

inductive Form : Part → List Char → Prop where
  | text {text : List Char} (body : Body text) : Form .value ('"' :: (text ++ ['"']))
  | number {text : List Char} (numeral : Numeral text) : Form .value text
  | null : Form .value ['n', 'u', 'l', 'l']
  | true : Form .value ['t', 'r', 'u', 'e']
  | false : Form .value ['f', 'a', 'l', 's', 'e']
  | emptyArray {text : List Char} (blank : Blank text) : Form .value ('[' :: (text ++ [']']))
  | array {text : List Char} (elements : Form .elements text) :
      Form .value ('[' :: (text ++ [']']))
  | emptyObject {text : List Char} (blank : Blank text) :
      Form .value ('\x7b' :: (text ++ ['\x7d']))
  | object {text : List Char} (members : Form .members text) :
      Form .value ('\x7b' :: (text ++ ['\x7d']))
  | element {left text right : List Char} (before : Blank left) (value : Form .value text)
      (after : Blank right) : Form .element (left ++ (text ++ right))
  | lastElement {text : List Char} (element : Form .element text) : Form .elements text
  | elements {text rest : List Char} (element : Form .element text)
      (others : Form .elements rest) : Form .elements (text ++ ',' :: rest)
  | member {left name right text : List Char} (before : Blank left) (body : Body name)
      (after : Blank right) (element : Form .element text) :
      Form .member (left ++ '"' :: (name ++ '"' :: (right ++ ':' :: text)))
  | lastMember {text : List Char} (member : Form .member text) : Form .members text
  | members {text rest : List Char} (member : Form .member text) (others : Form .members rest) :
      Form .members (text ++ ',' :: rest)

variable {text rest body digits : List Char} {char letter : Char} {unit : Nat}

theorem Quad.unit? {first second third fourth : Char}
    (quad : Quad [first, second, third, fourth] unit) :
    Text.unit? first second third fourth = some unit := by
  obtain ⟨thousands, hundreds, tens, ones⟩ := quad
  simp only [Text.unit?, thousands, hundreds, tens, ones, Option.bind_eq_bind, Option.bind_some]
  rfl

theorem Quad.exists_digits (quad : Quad digits unit) :
    ∃ first second third fourth, digits = [first, second, third, fourth] := by
  obtain ⟨⟩ := quad
  exact ⟨_, _, _, _, rfl⟩

namespace Text

theorem skip_bare (bare : Bare char) (rest : List Char) : skip (char :: rest) = skip rest := by
  obtain ⟨visible, quote, slash⟩ := bare
  rw [skip, if_neg (Char.not_lt.mpr visible)]
  · exact quote
  all_goals intros; exact slash ‹_›

theorem skip_escape (known : Escape letter char) (rest : List Char) :
    skip ('\\' :: letter :: rest) = skip rest := by
  cases known <;> rfl

theorem skip_unit (quad : Quad digits unit) (rest : List Char) :
    skip ('\\' :: 'u' :: (digits ++ rest)) = skip rest := by
  obtain ⟨first, second, third, fourth, rfl⟩ := quad.exists_digits
  simp only [List.cons_append, List.nil_append, skip, quad.unit?, Option.isSome_some, if_true]

theorem read_bare (bare : Bare char) (rest : List Char) :
    read (char :: rest) = (char :: ·) <$> read rest := by
  obtain ⟨visible, quote, slash⟩ := bare
  rw [read, if_neg (Char.not_lt.mpr visible)]
  · exact quote
  all_goals intros; exact slash ‹_›

theorem read_escape (known : Escape letter char) (rest : List Char) :
    read ('\\' :: letter :: rest) = (char :: ·) <$> read rest := by
  cases known <;> rfl

theorem read_unit (quad : Quad digits unit) (whole : unit < 0xd800 ∨ 0xe000 ≤ unit)
    (rest : List Char) :
    read ('\\' :: 'u' :: (digits ++ rest)) = (Char.ofNat unit :: ·) <$> read rest := by
  obtain ⟨first, second, third, fourth, rfl⟩ := quad.exists_digits
  have trailing : isTrailing unit = false := by simp [isTrailing]; omega
  have leading : isLeading unit = false := by simp [isLeading]; omega
  simp only [List.cons_append, List.nil_append, read, quad.unit?, trailing, leading]
  simp

theorem read_pair {first second : List Char} {high low : Nat} (leading : Quad first high)
    (trailing : Quad second low) (highRange : 0xd800 ≤ high ∧ high < 0xdc00)
    (lowRange : 0xdc00 ≤ low ∧ low < 0xe000) (rest : List Char) :
    read ('\\' :: 'u' :: (first ++ '\\' :: 'u' :: (second ++ rest))) =
      (pair high low :: ·) <$> read rest := by
  obtain ⟨_, _, _, _, rfl⟩ := leading.exists_digits
  obtain ⟨_, _, _, _, rfl⟩ := trailing.exists_digits
  have single : isTrailing high = false := by simp [isTrailing]; omega
  have high : isLeading high = true := by simp [isLeading]; omega
  have low : isTrailing low = true := by simp [isTrailing]; omega
  simp only [List.cons_append, List.nil_append, read, leading.unit?, trailing.unit?, single, high,
    low]
  simp

end Text

theorem Body.skip (body : Body text) (rest : List Char) :
    Text.skip (text ++ '"' :: rest) = .ok rest := by
  induction body with
  | nil => rfl
  | bare bare _ ih => exact (Text.skip_bare bare _).trans ih
  | escape known _ ih => exact (Text.skip_escape known _).trans ih
  | unit quad _ ih =>
    rw [List.cons_append, List.cons_append, List.append_assoc]
    exact (Text.skip_unit quad _).trans ih

theorem Spells.toBody (spells : Spells body text) : Body body := by
  induction spells with
  | nil => exact .nil
  | bare bare _ ih => exact .bare bare ih
  | escape known _ ih => exact .escape known ih
  | unit quad _ _ ih => exact .unit quad ih
  | pair leading trailing _ _ _ ih => exact .unit leading (.unit trailing ih)

theorem Spells.read (spells : Spells body text) (rest : List Char) :
    Text.read (body ++ '"' :: rest) = .ok text := by
  induction spells with
  | nil => rfl
  | bare bare _ ih => exact (Text.read_bare bare _).trans (congrArg _ ih)
  | escape known _ ih => exact (Text.read_escape known _).trans (congrArg _ ih)
  | unit quad whole _ ih =>
    rw [List.cons_append, List.cons_append, List.append_assoc]
    exact (Text.read_unit quad whole _).trans (congrArg _ ih)
  | pair leading trailing highRange lowRange _ ih =>
    simp only [List.cons_append, List.append_assoc]
    exact (Text.read_pair leading trailing highRange lowRange _).trans (congrArg _ ih)

/-- No digit follows. -/
def Undigited (rest : List Char) : Prop := ∀ char ∈ rest.head?, char.isDigit = false

/-- Nothing follows that could belong to a number. -/
def Apart (rest : List Char) : Prop :=
  ∀ char ∈ rest.head?, char.isDigit = false ∧ char ≠ '.' ∧ char ≠ 'e' ∧ char ≠ 'E'

theorem Apart.undigited (apart : Apart rest) : Undigited rest :=
  fun char first => (apart char first).1

theorem Exponent.undigited {exponent : List Char} (scale : Exponent exponent) (apart : Apart rest) :
    ∀ char ∈ (exponent ++ rest).head?, char.isDigit = false ∧ char ≠ '.' := by
  cases scale with
  | none =>
    intro char first
    obtain ⟨undigited, pointless, _⟩ := apart char first
    exact ⟨undigited, pointless⟩
  | digits marked =>
    rintro char ⟨⟩
    rcases marked with rfl | rfl <;> exact ⟨by decide, by decide⟩

theorem Fraction.undigited {fraction exponent : List Char} (decimals : Fraction fraction)
    (scale : Exponent exponent) (apart : Apart rest) :
    Undigited (fraction ++ (exponent ++ rest)) := by
  cases decimals with
  | none => exact fun char first => (scale.undigited apart char first).1
  | digits => rintro char ⟨⟩; decide

namespace Number

theorem digitsThen_append (all : ∀ char ∈ digits, char.isDigit = true) (ended : Undigited rest) :
    digitsThen (digits ++ rest) = (digits, rest) := by
  rw [digitsThen, List.takeWhile_append_of_pos all, List.dropWhile_append_of_pos all]
  cases rest with
  | nil => simp
  | cons char rest => simp [ended char rfl]

theorem skipDigits_append (number : Digits digits) (ended : Undigited rest) :
    skipDigits (digits ++ rest) = .ok rest := by
  obtain ⟨some, all⟩ := number
  unfold skipDigits
  rw [digitsThen_append all ended]
  cases digits with
  | nil => exact absurd rfl some
  | cons => rfl

theorem exponentSign_append {sign : List Char} (signed : sign = [] ∨ sign = ['+'] ∨ sign = ['-'])
    (number : Digits digits) (rest : List Char) :
    (exponentSign (sign ++ (digits ++ rest))).2 = digits ++ rest := by
  rcases signed with rfl | rfl | rfl
  · obtain ⟨some, all⟩ := number
    cases digits with
    | nil => exact absurd rfl some
    | cons first digits =>
      have digit : first.isDigit = true := all first List.mem_cons_self
      have noPlus : first ≠ '+' := by
        rintro rfl
        exact absurd digit (by decide)
      have noMinus : first ≠ '-' := by
        rintro rfl
        exact absurd digit (by decide)
      unfold exponentSign
      split
      next same => exact absurd (List.cons.inj same).1 noPlus
      next same => exact absurd (List.cons.inj same).1 noMinus
      next => rfl
  · rfl
  · rfl

theorem skipExponent_append {exponent : List Char} (scale : Exponent exponent)
    (apart : Apart rest) : skipExponent (exponent ++ rest) = .ok rest := by
  cases scale with
  | none =>
    rw [List.nil_append]
    unfold skipExponent
    split
    next => exact absurd rfl (apart 'e' rfl).2.2.1
    next => exact absurd rfl (apart 'E' rfl).2.2.2
    next => rfl
  | digits marked signed number =>
    have skipped := skipDigits_append number apart.undigited
    rw [← exponentSign_append signed number] at skipped
    rw [List.cons_append, List.append_assoc]
    rcases marked with rfl | rfl <;> exact skipped

/-- What passing over a number does behind its whole digits. -/
def skipBehind : List Char → Except Fault (List Char)
  | '.' :: rest => skipDigits rest >>= skipExponent
  | rest => skipExponent rest

theorem skipUnsigned_whole (integer : Whole digits) (ended : Undigited rest) :
    skipUnsigned (digits ++ rest) = skipBehind rest := by
  obtain ⟨⟨some, all⟩, single⟩ := integer
  unfold skipUnsigned
  rw [digitsThen_append all ended]
  split
  next same => exact absurd (Prod.mk.inj same).1 some
  next same =>
    obtain ⟨rfl, _⟩ := Prod.mk.inj same
    nomatch single rfl
  next same =>
    obtain ⟨_, rfl⟩ := Prod.mk.inj same
    rfl
  next pointless same =>
    obtain ⟨_, rfl⟩ := Prod.mk.inj same
    unfold skipBehind
    split
    next => exact (pointless _ rfl).elim
    next => rfl

theorem skipBehind_append {fraction exponent : List Char} (decimals : Fraction fraction)
    (scale : Exponent exponent) (apart : Apart rest) :
    skipBehind (fraction ++ (exponent ++ rest)) = .ok rest := by
  have following := scale.undigited apart
  cases decimals with
  | none =>
    rw [List.nil_append]
    unfold skipBehind
    split
    next same => exact absurd rfl (following '.' (by rw [same]; rfl)).2
    next => exact skipExponent_append scale apart
  | digits number =>
    have ended : Undigited (exponent ++ rest) := fun char first => (following char first).1
    rw [List.cons_append, skipBehind, skipDigits_append number ended]
    exact skipExponent_append scale apart

/-- Digits do not start with a sign. -/
theorem unsigned (integer : Whole digits) (rest behind : List Char) :
    digits ++ rest ≠ '-' :: behind := by
  obtain ⟨⟨some, all⟩, _⟩ := integer
  intro same
  cases digits with
  | nil => exact some rfl
  | cons digit =>
    obtain ⟨rfl, _⟩ := List.cons.inj same
    exact absurd (all '-' List.mem_cons_self) (by decide)

theorem skip_append (numeral : Numeral text) (apart : Apart rest) :
    skip (text ++ rest) = .ok rest := by
  obtain ⟨signed, integer, decimals, scale⟩ := numeral
  have skipped := skipUnsigned_whole integer (decimals.undigited scale apart)
  rw [skipBehind_append decimals scale apart] at skipped
  simp only [List.append_assoc]
  rcases signed with rfl | rfl
  · rw [List.nil_append]
    unfold skip
    split
    next same => exact absurd same (unsigned integer _ _)
    next => exact skipped
  · exact skipped

theorem le_ofDigitChars (digits : List Char) (significand : Nat) :
    significand ≤ Nat.ofDigitChars 10 digits significand := by
  induction digits generalizing significand with
  | nil => exact Nat.le_refl _
  | cons digit digits ih =>
    rw [Nat.ofDigitChars_cons]
    have := ih (10 * significand + (digit.toNat - '0'.toNat))
    omega

/-- Digits of a value within the limit are all kept. -/
theorem extend_eq {significand : Nat} (small : Nat.ofDigitChars 10 digits significand ≤ limit) :
    extend significand digits = (Nat.ofDigitChars 10 digits significand, []) := by
  induction digits generalizing significand with
  | nil => rfl
  | cons digit digits ih =>
    rw [Nat.ofDigitChars_cons] at small ⊢
    have larger :
        significand * 10 + value digit = 10 * significand + (digit.toNat - '0'.toNat) := by
      rw [value, Nat.mul_comm]
    have fits := (le_ofDigitChars digits _).trans small
    simp only [extend, larger, fits, if_true]
    exact ih small

theorem read_whole (integer : Whole digits) (small : Nat.ofDigitChars 10 digits 0 ≤ limit)
    (apart : Apart rest) :
    read (digits ++ rest) = .ok (.natural (Nat.ofDigitChars 10 digits 0), rest) := by
  have positive : read (digits ++ rest) = readUnsigned true (digits ++ rest) := by
    unfold read
    split
    next same => exact absurd same (unsigned integer _ _)
    next => rfl
  obtain ⟨⟨some, all⟩, single⟩ := integer
  rw [positive]
  unfold readUnsigned
  rw [digitsThen_append all apart.undigited]
  split
  next same => exact absurd (Prod.mk.inj same).1 some
  next same => exact absurd (Prod.mk.inj same).1 some
  next same =>
    obtain ⟨rfl, _⟩ := Prod.mk.inj same
    nomatch single rfl
  next same =>
    obtain ⟨rfl, rfl⟩ := Prod.mk.inj same
    simp only [extend_eq small]
    split
    next => exact absurd rfl (apart '.' rfl).2.1
    next => exact absurd rfl (apart 'e' rfl).2.2.1
    next => exact absurd rfl (apart 'E' rfl).2.2.2
    next => rfl

end Number

theorem apart_of_mark (mark : char = ',' ∨ char = ']' ∨ char = '\x7d') : Apart (char :: rest) := by
  rintro first ⟨⟩
  rcases mark with rfl | rfl | rfl <;> decide

theorem Apart.blank (apart : Apart rest) (blank : Blank text) : Apart (text ++ rest) := by
  cases text with
  | nil => exact apart
  | cons first text =>
    rintro _ ⟨⟩
    have white := blank first List.mem_cons_self
    rcases white with rfl | rfl | rfl | rfl <;> decide

theorem Whole.numeral (whole : Whole digits) : Numeral digits := by
  have parts := Numeral.parts (.inl rfl) whole .none .none
  rwa [List.append_nil, List.append_nil, List.nil_append] at parts

theorem Numeral.exists_first (numeral : Numeral text) :
    ∃ first behind, text = first :: behind ∧ (first = '-' ∨ first.isDigit = true) := by
  obtain ⟨signed, ⟨⟨some, all⟩, _⟩, _, _⟩ := numeral
  rcases signed with rfl | rfl
  · obtain ⟨first, behind, rfl⟩ := List.exists_cons_of_ne_nil some
    exact ⟨first, _, rfl, .inr (all first List.mem_cons_self)⟩
  · exact ⟨'-', _, rfl, .inl rfl⟩

namespace Token

theorem isBlank_iff :
    isBlank char = true ↔ char = ' ' ∨ char = '\n' ∨ char = '\t' ∨ char = '\r' := by
  simp [isBlank, or_assoc]

theorem start_text (body : Body text) (rest : List Char) :
    start '"' (text ++ '"' :: rest) =
      (.text ((Text.read (text ++ '"' :: rest)).map String.ofList) (.ok ()), rest) := by
  have started : start '"' (text ++ '"' :: rest) = ofText (text ++ '"' :: rest) := rfl
  rw [started]
  unfold ofText
  rw [body.skip]

theorem solid_of_first (first : char = '-' ∨ char.isDigit = true) : isBlank char = false := by
  rw [← Bool.not_eq_true, isBlank_iff]
  intro white
  rcases white with rfl | rfl | rfl | rfl <;> exact absurd first (by decide)

theorem start_number (first : char = '-' ∨ char.isDigit = true) (rest : List Char) :
    start char rest = ofNumber (char :: rest) := by
  unfold start
  split
  all_goals first
    | exact absurd first (by decide)
    | exact if_pos first

end Token

end ReadThrough.Json
