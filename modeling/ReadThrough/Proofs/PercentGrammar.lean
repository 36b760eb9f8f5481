import Mathlib
import ReadThrough.Text.Percent

/-! What percent-encoded text stands for, character by character. Decoding works on bytes and looks
two of them ahead; since a digit is one byte and no byte of another character looks like one, it
finds the escapes that the characters write, and these only. -/

namespace ReadThrough

namespace Hex

theorem ascii_of_digit? {char : Char} {value : Nat} (digit : digit? char = some value) :
    char.toNat < 128 := by
  have bounded {last : Char} (below : char ≤ last) (small : last.toNat < 128) : char.toNat < 128 :=
    Nat.lt_of_le_of_lt below small
  unfold digit? at digit
  split at digit
  next range => exact bounded range.2 (by decide)
  next =>
    split at digit
    next range => exact bounded range.2 (by decide)
    next =>
      split at digit
      next range => exact bounded range.2 (by decide)
      next => nomatch digit

end Hex

namespace Utf8

theorem encode_cons (char : Char) (text : List Char) :
    encode (char :: text) = String.utf8EncodeChar char ++ encode text :=
  List.flatMap_cons

theorem encodeChar_ascii {char : Char} (ascii : char.toNat < 128) :
    String.utf8EncodeChar char = [UInt8.ofNat char.toNat] := by
  have small : char.val.toNat ≤ 127 := Nat.le_of_lt_succ ascii
  rw [String.utf8EncodeChar]
  simp only [small, if_true]
  rfl

theorem encode_ascii {text : List Char} (ascii : ∀ char ∈ text, char.toNat < 128) :
    encode text = text.map fun char => UInt8.ofNat char.toNat := by
  induction text with
  | nil => rfl
  | cons char rest ih =>
    rw [encode_cons, encodeChar_ascii (ascii char List.mem_cons_self),
      ih fun other member => ascii other (List.mem_cons_of_mem _ member)]
    rfl

/-- Bytes below 128 stand for themselves alone. -/
theorem toNat_of_mem_utf8EncodeChar {char : Char} {byte : UInt8}
    (member : byte ∈ String.utf8EncodeChar char) (small : byte.toNat < 128) :
    char.toNat = byte.toNat := by
  have bound : char.val.toNat < 0x110000 := by
    rcases char.valid with below | ⟨_, below⟩
    · exact Nat.lt_trans below (by decide)
    · exact below
  change char.val.toNat = byte.toNat
  simp only [String.utf8EncodeChar] at member
  split_ifs at member
  all_goals
    simp only [List.mem_cons, List.not_mem_nil, or_false] at member
    rcases member with rfl | rfl | rfl | rfl
    all_goals
      rw [UInt8.toNat_ofNat'] at small ⊢
      omega

theorem decode?_encode (text : List Char) : decode? (encode text) = some (String.ofList text) :=
  dif_pos ⟨text, rfl⟩

theorem decode?_eq_some_iff {bytes : List UInt8} {text : String} :
    decode? bytes = some text ↔ bytes = encode text.toList := by
  constructor
  · intro decoded
    unfold decode? String.fromUTF8? at decoded
    split at decoded
    next valid =>
      obtain rfl := Option.some.inj decoded
      apply List.toByteArray_inj.mp
      exact (String.utf8Encode_toList (b := String.fromUTF8 _ valid)).symm
    next => nomatch decoded
  · rintro rfl
    rw [decode?_encode, String.ofList_toList]

end Utf8

namespace Percent

theorem ofUInt8_ofNat {char : Char} (ascii : char.toNat < 128) :
    Char.ofUInt8 (UInt8.ofNat char.toNat) = char := by
  apply Char.ext
  apply UInt32.toNat_inj.mp
  change (UInt8.ofNat char.toNat).toUInt32.toNat = char.toNat
  simp
  omega

end Percent

namespace Utf8

/-- A byte below 128 is a character by itself. -/
theorem cons_of_encode {text : List Char} {byte : UInt8} {bytes : List UInt8}
    (written : encode text = byte :: bytes) (small : byte.toNat < 128) :
    ∃ char rest, text = char :: rest ∧ char = Char.ofUInt8 byte ∧ encode rest = bytes := by
  cases text with
  | nil => nomatch written
  | cons char rest =>
    obtain ⟨first, others, shape⟩ :=
      List.exists_cons_of_ne_nil (l := String.utf8EncodeChar char) (by simp)
    rw [encode_cons, shape, List.cons_append] at written
    obtain ⟨rfl, tail⟩ := List.cons.inj written
    have same : char.toNat = first.toNat :=
      toNat_of_mem_utf8EncodeChar (by simp [shape]) small
    have ascii : char.toNat < 128 := same ▸ small
    rw [encodeChar_ascii ascii] at shape
    obtain ⟨rfl, rfl⟩ := List.cons.inj shape
    exact ⟨char, rest, rfl, (Percent.ofUInt8_ofNat ascii).symm, tail⟩

end Utf8

namespace Percent

/-- A text begins with `%` and two digits, which write a byte. -/
def Escapes (text : List Char) (byte : UInt8) (rest : List Char) : Prop :=
  ∃ high low first second, text = '%' :: high :: low :: rest ∧ Hex.digit? high = some first ∧
    Hex.digit? low = some second ∧ byte = UInt8.ofNat (first * 16 + second)

/-- A text stands for the byte of each escape and for the UTF-8 bytes of every other character. -/
inductive Stands : List Char → List UInt8 → Prop where
  | empty : Stands [] []
  | escape {text rest : List Char} {byte : UInt8} {bytes : List UInt8}
      (escapes : Escapes text byte rest) (stands : Stands rest bytes) : Stands text (byte :: bytes)
  | literal {char : Char} {rest : List Char} {bytes : List UInt8}
      (plain : ∀ byte behind, ¬Escapes (char :: rest) byte behind) (stands : Stands rest bytes) :
      Stands (char :: rest) (String.utf8EncodeChar char ++ bytes)

theorem byte?_eq_some {high low byte : UInt8} (read : byte? high low = some byte) :
    ∃ first second, Hex.digit? (Char.ofUInt8 high) = some first ∧
      Hex.digit? (Char.ofUInt8 low) = some second ∧ byte = UInt8.ofNat (first * 16 + second) := by
  unfold byte? at read
  split at read
  next first second tens ones => exact ⟨first, second, tens, ones, (Option.some.inj read).symm⟩
  next => nomatch read

theorem Escapes.decodeBytes {text rest : List Char} {byte : UInt8}
    (escapes : Escapes text byte rest) :
    decodeBytes (Utf8.encode text) = byte :: decodeBytes (Utf8.encode rest) := by
  obtain ⟨high, low, first, second, rfl, tens, ones, rfl⟩ := escapes
  have read : byte? (UInt8.ofNat high.toNat) (UInt8.ofNat low.toNat) =
      some (UInt8.ofNat (first * 16 + second)) := by
    rw [byte?, ofUInt8_ofNat (Hex.ascii_of_digit? tens), ofUInt8_ofNat (Hex.ascii_of_digit? ones),
      tens, ones]
  have sign : String.utf8EncodeChar '%' = [percentSign] := by decide
  rw [Utf8.encode_cons, Utf8.encode_cons, Utf8.encode_cons, sign,
    Utf8.encodeChar_ascii (Hex.ascii_of_digit? tens),
    Utf8.encodeChar_ascii (Hex.ascii_of_digit? ones)]
  simp only [List.singleton_append, Percent.decodeBytes, if_true, read]

theorem decodeBytes_cons {byte : UInt8} (plain : byte ≠ percentSign) (rest : List UInt8) :
    decodeBytes (byte :: rest) = byte :: decodeBytes rest := by
  match rest with
  | [] => rfl
  | [_] => rfl
  | _ :: _ :: _ => rw [decodeBytes, if_neg plain]

theorem decodeBytes_append {front : List UInt8} (plain : percentSign ∉ front)
    (bytes : List UInt8) : decodeBytes (front ++ bytes) = front ++ decodeBytes bytes := by
  induction front with
  | nil => rfl
  | cons byte front ih =>
    have other : byte ≠ percentSign := fun same => plain (same ▸ List.mem_cons_self)
    rw [List.cons_append, decodeBytes_cons other,
      ih fun inside => plain (List.mem_cons_of_mem _ inside), List.cons_append]

theorem decodeBytes_sign {bytes : List UInt8} (plain : ∀ high low rest,
    bytes = high :: low :: rest → byte? high low = none) :
    decodeBytes (percentSign :: bytes) = percentSign :: decodeBytes bytes := by
  match bytes with
  | [] => rfl
  | [_] => rfl
  | high :: low :: rest =>
    rw [decodeBytes, if_pos rfl, plain high low rest rfl]

/-- Two bytes that decoding takes for digits are the characters behind the sign. -/
theorem escapes_of_byte? {text : List Char} {high low byte : UInt8} {bytes : List UInt8}
    (written : Utf8.encode text = high :: low :: bytes) (read : byte? high low = some byte) :
    ∃ rest, Escapes ('%' :: text) byte rest := by
  obtain ⟨first, second, tens, ones, value⟩ := byte?_eq_some read
  have small {digit : UInt8} {found : Nat} (digits : Hex.digit? (Char.ofUInt8 digit) = some found) :
      digit.toNat < 128 := by
    have ascii := Hex.ascii_of_digit? digits
    simpa [Char.ofUInt8, Char.toNat] using ascii
  obtain ⟨_, text, rfl, rfl, behind⟩ := Utf8.cons_of_encode written (small tens)
  obtain ⟨_, rest, rfl, rfl, _⟩ := Utf8.cons_of_encode behind (small ones)
  exact ⟨rest, _, _, first, second, rfl, tens, ones, value⟩

theorem decodeBytes_literal {char : Char} {rest : List Char}
    (plain : ∀ byte behind, ¬Escapes (char :: rest) byte behind) :
    decodeBytes (Utf8.encode (char :: rest)) =
      String.utf8EncodeChar char ++ decodeBytes (Utf8.encode rest) := by
  rw [Utf8.encode_cons]
  by_cases sign : char = '%'
  · subst sign
    apply decodeBytes_sign
    intro high low bytes written
    cases read : byte? high low with
    | none => rfl
    | some byte =>
      obtain ⟨behind, escapes⟩ := escapes_of_byte? written read
      exact absurd escapes (plain byte behind)
  · apply decodeBytes_append
    intro inside
    apply sign
    apply Char.toNat_inj.mp
    exact Utf8.toNat_of_mem_utf8EncodeChar inside (by decide)

theorem Stands.decodeBytes {text : List Char} {bytes : List UInt8} (stands : Stands text bytes) :
    decodeBytes (Utf8.encode text) = bytes := by
  induction stands with
  | empty => rfl
  | escape escapes _ ih => rw [escapes.decodeBytes, ih]
  | literal plain _ ih => rw [decodeBytes_literal plain, ih]

theorem Escapes.length_lt {text rest : List Char} {byte : UInt8}
    (escapes : Escapes text byte rest) : rest.length < text.length := by
  obtain ⟨high, low, _, _, rfl, _⟩ := escapes
  simp only [List.length_cons]
  omega

theorem exists_stands (text : List Char) : ∃ bytes, Stands text bytes := by
  match text with
  | [] => exact ⟨[], .empty⟩
  | char :: rest =>
    by_cases escapes : ∃ byte behind, Escapes (char :: rest) byte behind
    · obtain ⟨byte, behind, escapes⟩ := escapes
      have shorter : behind.length ≤ rest.length := Nat.le_of_lt_succ escapes.length_lt
      obtain ⟨bytes, stands⟩ := exists_stands behind
      exact ⟨byte :: bytes, .escape escapes stands⟩
    · obtain ⟨bytes, stands⟩ := exists_stands rest
      exact ⟨_, .literal (fun byte behind found => escapes ⟨byte, behind, found⟩) stands⟩
termination_by text.length

theorem decodeBytes_eq_iff {text : List Char} {bytes : List UInt8} :
    decodeBytes (Utf8.encode text) = bytes ↔ Stands text bytes := by
  constructor
  · rintro rfl
    obtain ⟨bytes, stands⟩ := exists_stands text
    rwa [stands.decodeBytes]
  · exact Stands.decodeBytes

/-- A text is the spelling of another one if it stands for its bytes. -/
def Spells (spelling : List Char) (text : String) : Prop :=
  Stands spelling (Utf8.encode text.toList)

theorem decode?_eq_some_iff {spelling : List Char} {text : String} :
    decode? spelling = some text ↔ Spells spelling text := by
  rw [decode?, Utf8.decode?_eq_some_iff, decodeBytes_eq_iff, Spells]

theorem Spells.eq_nil {spelling : List Char} (spells : Spells spelling "") : spelling = [] := by
  have empty : Utf8.encode "".toList = [] := rfl
  unfold Spells at spells
  generalize Utf8.encode "".toList = bytes at spells empty
  cases spells with
  | empty => rfl
  | escape => nomatch empty
  | literal => simp at empty

end Percent

end ReadThrough
