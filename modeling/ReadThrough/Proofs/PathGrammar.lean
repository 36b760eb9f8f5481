import ReadThrough.PeerPath
import ReadThrough.Proofs.PercentGrammar

/-! The grammar of request paths. A request is the base path, a group, a slash and a key; the first
slash behind the base path ends the group, so only the key may hold further ones. Whatever is no
request is refused for the first fault in it, from left to right. -/

namespace ReadThrough.PeerPath
open Percent

/-- What stands before and behind the first slash. -/
structure Parted (rest group key : List Char) : Prop where
  joined : rest = group ++ '/' :: key
  apart : '/' ∉ group

/-- What a path is read as, below a base path. -/
inductive Reads (base : List Char) : List Char → Except Rejection (String × String) → Prop where
  | elsewhere {path : List Char} (outside : ¬base <+: path) :
      Reads base path (.error (.unexpectedPath (String.ofList path)))
  | whole {rest : List Char} (undivided : '/' ∉ rest) : Reads base (base ++ rest) (.error .badRequest)
  | unnamed {rest key : List Char} (parted : Parted rest [] key) :
      Reads base (base ++ rest) (.error .badRequest)
  | garbledGroup {rest group key : List Char} (parted : Parted rest group key) (named : group ≠ [])
      (garbled : ∀ name, ¬Spells group name) :
      Reads base (base ++ rest) (.error (.badEncoding (String.ofList group)))
  | garbledKey {rest group key : List Char} {name : String} (parted : Parted rest group key)
      (named : group ≠ []) (spelled : Spells group name) (garbled : ∀ sought, ¬Spells key sought) :
      Reads base (base ++ rest) (.error (.badEncoding (String.ofList key)))
  | request {rest group key : List Char} {name sought : String} (parted : Parted rest group key)
      (named : group ≠ []) (spelledGroup : Spells group name) (spelledKey : Spells key sought) :
      Reads base (base ++ rest) (.ok (name, sought))

variable {base path : String} {segment group key rest : List Char} {name sought : String}
  {outcome : Except Rejection (String × String)}

theorem dropWhile_of_whole (undivided : '/' ∉ rest) : rest.dropWhile (· ≠ '/') = [] := by
  rw [List.dropWhile_eq_nil_iff]
  intro char member
  refine decide_eq_true ?_
  rintro rfl
  exact undivided member

theorem Parted.takeWhile (parted : Parted rest group key) : rest.takeWhile (· ≠ '/') = group := by
  have before : ∀ char ∈ group, decide (char ≠ '/') = true := by
    intro char member
    refine decide_eq_true ?_
    rintro rfl
    exact parted.apart member
  rw [parted.joined, List.takeWhile_append_of_pos before, List.takeWhile_cons_of_neg (by simp),
    List.append_nil]

theorem Parted.dropWhile (parted : Parted rest group key) :
    rest.dropWhile (· ≠ '/') = '/' :: key := by
  have joined : rest.takeWhile (· ≠ '/') ++ rest.dropWhile (· ≠ '/') = rest :=
    List.takeWhile_append_dropWhile
  rw [parted.takeWhile] at joined
  exact List.append_cancel_left (joined.trans parted.joined)

theorem decodeSegment_of_spells (spelled : Spells segment name) :
    decodeSegment segment = .ok name := by
  rw [decodeSegment, decode?_eq_some_iff.mpr spelled]

theorem decodeSegment_of_garbled (garbled : ∀ name, ¬Spells segment name) :
    decodeSegment segment = .error (.badEncoding (String.ofList segment)) := by
  unfold decodeSegment
  cases decoded : decode? segment with
  | none => rfl
  | some name => exact absurd (decode?_eq_some_iff.mp decoded) (garbled name)

theorem spells_or_garbled (segment : List Char) :
    (∃ name, Spells segment name) ∨ ∀ name, ¬Spells segment name := by
  by_cases spelled : ∃ name, Spells segment name
  · exact .inl spelled
  · exact .inr (not_exists.mp spelled)

theorem isPrefixOf?_append (front rest : List Char) :
    front.isPrefixOf? (front ++ rest) = some rest := by
  induction front with
  | nil => rfl
  | cons char front ih =>
    rw [List.cons_append, List.isPrefixOf?, if_pos (beq_self_eq_true char), ih]

theorem parse_of_outside (outside : ¬base.toList <+: path.toList) :
    parse base path = .error (.unexpectedPath path) := by
  unfold parse
  cases below : base.toList.isPrefixOf? path.toList with
  | none => rfl
  | some rest => exact absurd ⟨rest, List.append_eq_of_isPrefixOf?_eq_some below⟩ outside

theorem parse_of_whole (below : path.toList = base.toList ++ rest) (undivided : '/' ∉ rest) :
    parse base path = .error .badRequest := by
  rw [parse, below, isPrefixOf?_append]
  simp only [dropWhile_of_whole undivided]

theorem parse_of_unnamed (below : path.toList = base.toList ++ rest) (parted : Parted rest [] key) :
    parse base path = .error .badRequest := by
  rw [parse, below, isPrefixOf?_append]
  simp only [parted.takeWhile, parted.dropWhile]

/-- A path with a named group comes down to its two segments, the group first. -/
theorem parse_of_parted (below : path.toList = base.toList ++ rest)
    (parted : Parted rest group key) (named : group ≠ []) :
    parse base path = do return (← decodeSegment group, ← decodeSegment key) := by
  obtain ⟨first, others, rfl⟩ := List.exists_cons_of_ne_nil named
  rw [parse, below, isPrefixOf?_append]
  simp only [parted.takeWhile, parted.dropWhile]

theorem Reads.parse (reads : Reads base.toList path.toList outcome) : parse base path = outcome := by
  generalize shown : path.toList = text at reads
  cases reads with
  | elsewhere outside =>
    subst shown
    rw [String.ofList_toList]
    exact parse_of_outside outside
  | whole undivided => exact parse_of_whole shown undivided
  | unnamed parted => exact parse_of_unnamed shown parted
  | garbledGroup parted named garbled =>
    rw [parse_of_parted shown parted named, decodeSegment_of_garbled garbled]
    rfl
  | garbledKey parted named spelled garbled =>
    rw [parse_of_parted shown parted named, decodeSegment_of_spells spelled,
      decodeSegment_of_garbled garbled]
    rfl
  | request parted named spelledGroup spelledKey =>
    rw [parse_of_parted shown parted named, decodeSegment_of_spells spelledGroup,
      decodeSegment_of_spells spelledKey]
    rfl

/-- Every path is read as something. -/
theorem exists_reads (base path : List Char) : ∃ outcome, Reads base path outcome := by
  by_cases below : base <+: path
  · obtain ⟨rest, rfl⟩ := below
    by_cases divided : '/' ∈ rest
    · obtain ⟨group, key, joined, apart⟩ := List.eq_append_cons_of_mem divided
      have parted : Parted rest group key := ⟨joined, apart⟩
      by_cases named : group = []
      · subst named
        exact ⟨_, .unnamed parted⟩
      · rcases spells_or_garbled group with ⟨name, spelledGroup⟩ | garbled
        · rcases spells_or_garbled key with ⟨sought, spelledKey⟩ | garbled
          · exact ⟨_, .request parted named spelledGroup spelledKey⟩
          · exact ⟨_, .garbledKey parted named spelledGroup garbled⟩
        · exact ⟨_, .garbledGroup parted named garbled⟩
    · exact ⟨_, .whole divided⟩
  · exact ⟨_, .elsewhere below⟩

theorem reads_parse (base path : String) : Reads base.toList path.toList (PeerPath.parse base path) := by
  obtain ⟨outcome, reads⟩ := exists_reads base.toList path.toList
  rwa [reads.parse]

/-- The parser accepts exactly the requests of the grammar and refuses every other path for the
fault that the grammar gives; the group of a request has a name. -/
theorem parse_eq_iff_reads (base path : String) :
    (∀ outcome, parse base path = outcome ↔ Reads base.toList path.toList outcome) ∧
      ∀ key, parse base path ≠ .ok ("", key) := by
  have grammar (outcome : Except Rejection (String × String)) :
      parse base path = outcome ↔ Reads base.toList path.toList outcome := by
    constructor
    · rintro rfl
      exact reads_parse base path
    · exact Reads.parse
  refine ⟨grammar, fun key parsed => ?_⟩
  have reads := (grammar _).mp parsed
  generalize path.toList = text at reads
  cases reads with
  | request parted named spelledGroup _ => exact named spelledGroup.eq_nil

-- Half an escape and a plus stand for themselves, and the group is read before the key.
example : parse "/c/" "/c/g/%4%41+%2Fx" = .ok ("g", "%4A+/x") := by cbv

example : parse "/c/" "/c/%ff/%fe" = .error (.badEncoding "%ff") := by cbv

end ReadThrough.PeerPath
