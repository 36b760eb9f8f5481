import ReadThrough.Proofs.PercentGrammar

/-! What percent-encoding writes reads back as the text, and it writes nothing that has a
meaning of its own in a URL. -/

namespace ReadThrough

namespace Hex

theorem digit?_upper : ∀ value < 16, digit? (upper value) = some value := by decide

theorem upper_alphanum : ∀ value < 16, (upper value).isAlphanum = true := by decide

end Hex

namespace Percent

theorem ofNat_toNat_ofUInt8 (byte : UInt8) : UInt8.ofNat (Char.ofUInt8 byte).toNat = byte := by
  simp [Char.ofUInt8, Char.toNat]

theorem ascii_of_alphanum {char : Char} (alphanum : char.isAlphanum = true) : char.toNat < 128 := by
  simp only [Char.isAlphanum, Char.isAlpha, Char.isUpper, Char.isLower, Char.isDigit,
    Bool.or_eq_true, Bool.and_eq_true, decide_eq_true_eq, UInt32.le_iff_toNat_le] at alphanum
  change char.val.toNat < 128
  rcases alphanum with (⟨_, upper⟩ | ⟨_, lower⟩) | ⟨_, digit⟩
  · exact Nat.lt_of_le_of_lt upper (by decide)
  · exact Nat.lt_of_le_of_lt lower (by decide)
  · exact Nat.lt_of_le_of_lt digit (by decide)

/-- Letters, digits and five marks are all that encoding writes. -/
def written (char : Char) : Bool := unreserved char || char == '%'

theorem ascii_of_written {char : Char} (plain : written char = true) : char.toNat < 128 := by
  simp only [written, unreserved, Bool.or_eq_true, beq_iff_eq] at plain
  rcases plain with ((((alphanum | rfl) | rfl) | rfl) | rfl) | rfl
  · exact ascii_of_alphanum alphanum
  all_goals decide

theorem written_of_mem_escape {byte : UInt8} {char : Char} (member : char ∈ escape byte) :
    written char = true := by
  have digit : ∀ value < 16, written (Hex.upper value) = true := by
    intro value small
    simp [written, unreserved, Hex.upper_alphanum value small]
  have bound := byte.toNat_lt
  simp only [escape, List.mem_cons, List.not_mem_nil, or_false] at member
  rcases member with rfl | rfl | rfl
  · decide
  · exact digit _ (by omega)
  · exact digit _ (by omega)

theorem written_of_mem_encodeByte {byte : UInt8} {char : Char} (member : char ∈ encodeByte byte) :
    written char = true := by
  unfold encodeByte at member
  split at member
  next plain =>
    obtain rfl := List.mem_singleton.mp member
    simp [written, plain]
  next => exact written_of_mem_escape member

theorem written_of_mem_encodeChars {text : List Char} {char : Char}
    (member : char ∈ encodeChars text) : written char = true := by
  obtain ⟨byte, _, inside⟩ := List.mem_flatMap.mp member
  exact written_of_mem_encodeByte inside

theorem escapes_escape (byte : UInt8) (rest : List Char) :
    Escapes (escape byte ++ rest) byte rest := by
  have bound := byte.toNat_lt
  refine ⟨_, _, byte.toNat / 16, byte.toNat % 16, rfl, Hex.digit?_upper _ (by omega),
    Hex.digit?_upper _ (by omega), ?_⟩
  rw [Nat.div_add_mod', UInt8.ofNat_toNat]

theorem Stands.encodeByte {text : List Char} {bytes : List UInt8} (stands : Stands text bytes)
    (byte : UInt8) : Stands (encodeByte byte ++ text) (byte :: bytes) := by
  unfold Percent.encodeByte
  split
  next kept =>
    have unsigned : ∀ escaped behind, ¬Escapes (Char.ofUInt8 byte :: text) escaped behind := by
      rintro escaped behind ⟨_, _, _, _, same, _⟩
      rw [(List.cons.inj same).1] at kept
      exact absurd kept (by decide)
    have ascii : (Char.ofUInt8 byte).toNat < 128 := ascii_of_written (by simp [written, kept])
    have literal := Stands.literal unsigned stands
    rwa [Utf8.encodeChar_ascii ascii, ofNat_toNat_ofUInt8] at literal
  next => exact .escape (escapes_escape byte text) stands

theorem stands_flatMap_encodeByte (bytes : List UInt8) :
    Stands (bytes.flatMap encodeByte) bytes := by
  induction bytes with
  | nil => exact .empty
  | cons byte rest ih =>
    rw [List.flatMap_cons]
    exact ih.encodeByte byte

theorem spells_encodeChars (text : List Char) : Spells (encodeChars text) (String.ofList text) := by
  rw [Spells, String.toList_ofList]
  exact stands_flatMap_encodeByte (Utf8.encode text)

theorem decode?_encodeChars (text : List Char) :
    decode? (encodeChars text) = some (String.ofList text) :=
  decode?_eq_some_iff.mpr (spells_encodeChars text)

end Percent
end ReadThrough
