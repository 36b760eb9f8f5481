import ReadThrough.PeerPath
import ReadThrough.Url.Path
import ReadThrough.Proofs.PathGrammar
import ReadThrough.Proofs.PercentRoundTrip
import Mathlib.Data.List.TakeWhile

/-! Resolving and encoding the path of a URL, and what a node reads off the outcome. A path is
taken as the list of its segments, each led by a slash. If a node reads a group and a key off a
path at all, the base path came through unchanged, and then so did the group and the key,
unless the key was a single dot. -/

namespace ReadThrough.Url

/-- Characters that a segment keeps as they are. -/
def plain (char : Char) : Bool :=
  char.toNat < 128 && pathByte (UInt8.ofNat char.toNat) && !isSlash char

theorem pathByte_eq (byte : UInt8) : pathByte byte =
    (0x20 < byte && byte < 0x7f &&
      !List.contains ['"', '#', '<', '>', '?', '^', '\x60', '\x7b', '\x7d']
        (Char.ofUInt8 byte)) := by
  simp [pathByte, String.contains_char_eq]

theorem ascii_of_plain {char : Char} (kept : plain char = true) : char.toNat < 128 := by
  simp only [plain, Bool.and_eq_true, decide_eq_true_eq] at kept
  exact kept.1.1

/-- No plain character has a meaning of its own in a URL. -/
theorem unmarked_of_plain {char : Char} (kept : plain char = true) :
    isSlash char = false ∧ isBlank char = false ∧ isBreak char = false ∧ endsPath char = false := by
  have checked : ∀ value < 128, plain (Char.ofNat value) = true →
      isSlash (Char.ofNat value) = false ∧ isBlank (Char.ofNat value) = false ∧
        isBreak (Char.ofNat value) = false ∧ endsPath (Char.ofNat value) = false := by
    simp only [plain, pathByte_eq]
    decide +kernel
  simpa using checked char.toNat (ascii_of_plain kept) (by simpa using kept)

theorem plain_of_written {char : Char} (written : Percent.written char = true) :
    plain char = true := by
  have checked : ∀ value < 128, Percent.written (Char.ofNat value) = true →
      plain (Char.ofNat value) = true := by
    simp only [plain, pathByte_eq]
    decide +kernel
  simpa using checked char.toNat (Percent.ascii_of_written written) (by simpa using written)

/-- What stands for one byte of a segment. -/
def shown (byte : UInt8) : List Char :=
  if pathByte byte then [Char.ofUInt8 byte] else Percent.escape byte

theorem encodeSegment_eq_flatMap (segment : List Char) :
    encodeSegment segment = (Utf8.encode segment).flatMap shown := rfl

/-- Segments that are the same when encoded. -/
def Plain (segment : List Char) : Prop := ∀ char ∈ segment, plain char = true

theorem plain_encodeChars (text : List Char) : Plain (Percent.encodeChars text) :=
  fun _ member => plain_of_written (Percent.written_of_mem_encodeChars member)

theorem encodeSegment_of_plain {segment : List Char} (kept : Plain segment) :
    encodeSegment segment = segment := by
  have ascii : ∀ char ∈ segment, char.toNat < 128 :=
    fun char member => ascii_of_plain (kept char member)
  rw [encodeSegment_eq_flatMap, Utf8.encode_ascii ascii, List.flatMap_map]
  induction segment with
  | nil => rfl
  | cons char rest ih =>
    have first := kept char List.mem_cons_self
    simp only [plain, Bool.and_eq_true] at first
    rw [List.flatMap_cons, shown, if_pos first.1.2,
      Percent.ofUInt8_ofNat (ascii char List.mem_cons_self),
      ih (fun other member => kept other (List.mem_cons_of_mem _ member))
        (fun other member => ascii other (List.mem_cons_of_mem _ member))]
    rfl

theorem plain_encodeSegment {segment : List Char}
    (closed : ∀ char ∈ segment, isSlash char = false) : Plain (encodeSegment segment) := by
  intro char member
  rw [encodeSegment_eq_flatMap, Utf8.encode, List.flatMap_assoc] at member
  obtain ⟨source, inside, shows⟩ := List.mem_flatMap.mp member
  obtain ⟨byte, written, shows⟩ := List.mem_flatMap.mp shows
  unfold shown at shows
  split at shows
  next kept =>
    obtain rfl := List.mem_singleton.mp shows
    have small : byte.toNat < 128 := by
      simp only [pathByte, Bool.and_eq_true, decide_eq_true_eq, UInt8.lt_iff_toNat_lt] at kept
      exact Nat.lt_trans kept.1.2 (by decide)
    have same : byte = UInt8.ofNat source.toNat := by
      rw [Utf8.toNat_of_mem_utf8EncodeChar written small, UInt8.ofNat_toNat]
    have ascii : source.toNat < 128 := by
      rwa [Utf8.toNat_of_mem_utf8EncodeChar written small]
    rw [same, Percent.ofUInt8_ofNat ascii]
    simp [plain, ascii, ← same, kept, closed source inside]
  next => exact plain_of_written (Percent.written_of_mem_escape shows)

/-- Segments that resolving does not act on. -/
def Stays (segment : List Char) : Prop := dots segment ≠ some 1 ∧ dots segment ≠ some 2

theorem resolve_cons_of_stays {segment : List Char} (stays : Stays segment)
    (taken rest : List (List Char)) :
    resolve taken (segment :: rest) = resolve (encodeSegment segment :: taken) rest := by
  have one : (dots segment == some 1) = false := beq_eq_false_iff_ne.mpr stays.1
  have two : (dots segment == some 2) = false := beq_eq_false_iff_ne.mpr stays.2
  simp only [resolve, one, two, Bool.or_self, Bool.and_false, Bool.false_eq_true, if_false]
  split
  next dot => exact absurd dot stays.1
  next dots => exact absurd dots stays.2
  next => rfl

/-- A dot is left out and two dots take the segment before them along; at the end of a path
they leave an empty segment behind. -/
theorem resolve_cons_of_not_stays {segment : List Char} (moves : ¬Stays segment)
    (taken rest : List (List Char)) :
    ∃ count ≤ 1, resolve taken (segment :: rest) =
      if rest.isEmpty then [] :: taken.drop count else resolve (taken.drop count) rest := by
  have dotted : dots segment = some 1 ∨ dots segment = some 2 := by
    by_contra other
    exact moves (not_or.mp other)
  rcases dotted with dot | dot
  · refine ⟨0, Nat.zero_le 1, ?_⟩
    cases rest <;> simp [resolve, dot]
  · refine ⟨1, Nat.le_refl 1, ?_⟩
    cases rest <;> simp [resolve, dot]

/-- Where the segments of a resolved path come from. -/
theorem mem_resolve {segment : List Char} {taken path : List (List Char)}
    (member : segment ∈ resolve taken path) :
    segment = [] ∨ segment ∈ taken ∨
      ∃ source ∈ path, Stays source ∧ segment = encodeSegment source := by
  induction path generalizing taken with
  | nil => exact .inr (.inl member)
  | cons first rest ih =>
    by_cases stays : Stays first
    · rw [resolve_cons_of_stays stays] at member
      rcases ih member with empty | before | ⟨source, inside, stays, same⟩
      · exact .inl empty
      · rcases List.mem_cons.mp before with same | before
        · exact .inr (.inr ⟨first, List.mem_cons_self, stays, same⟩)
        · exact .inr (.inl before)
      · exact .inr (.inr ⟨source, List.mem_cons_of_mem _ inside, stays, same⟩)
    · obtain ⟨count, _, resolved⟩ := resolve_cons_of_not_stays stays taken rest
      rw [resolved] at member
      split at member
      next =>
        rcases List.mem_cons.mp member with empty | before
        · exact .inl empty
        · exact .inr (.inl (List.mem_of_mem_drop before))
      next =>
        rcases ih member with empty | before | ⟨source, behind, stays, same⟩
        · exact .inl empty
        · exact .inr (.inl (List.mem_of_mem_drop before))
        · exact .inr (.inr ⟨source, List.mem_cons_of_mem _ behind, stays, same⟩)

theorem resolve_ne_nil (taken : List (List Char)) {path : List (List Char)} (some : path ≠ []) :
    resolve taken path ≠ [] := by
  induction path generalizing taken with
  | nil => exact absurd rfl some
  | cons first rest ih =>
    by_cases stays : Stays first
    · rw [resolve_cons_of_stays stays]
      cases rest with
      | nil => exact List.cons_ne_nil _ _
      | cons => exact ih _ (List.cons_ne_nil _ _)
    · obtain ⟨count, _, resolved⟩ := resolve_cons_of_not_stays stays taken rest
      rw [resolved]
      cases rest with
      | nil => exact List.cons_ne_nil _ _
      | cons => exact ih _ (List.cons_ne_nil _ _)

theorem resolve_append {front : List (List Char)} (stays : ∀ segment ∈ front, Stays segment)
    (kept : ∀ segment ∈ front, encodeSegment segment = segment)
    (taken rest : List (List Char)) :
    resolve taken (front ++ rest) = resolve (front.reverse ++ taken) rest := by
  induction front generalizing taken with
  | nil => rfl
  | cons first front ih =>
    rw [List.cons_append, resolve_cons_of_stays (stays first List.mem_cons_self),
      kept first List.mem_cons_self,
      ih (fun segment member => stays segment (List.mem_cons_of_mem _ member))
        (fun segment member => kept segment (List.mem_cons_of_mem _ member))]
    simp

theorem length_resolve_le (taken path : List (List Char)) :
    (resolve taken path).length ≤ taken.length + path.length := by
  induction path generalizing taken with
  | nil => exact Nat.le_refl _
  | cons first rest ih =>
    by_cases stays : Stays first
    · rw [resolve_cons_of_stays stays]
      have bound := ih (encodeSegment first :: taken)
      simp only [List.length_cons] at bound ⊢
      omega
    · obtain ⟨count, _, resolved⟩ := resolve_cons_of_not_stays stays taken rest
      have bound := ih (taken.drop count)
      rw [resolved]
      split
      next =>
        simp only [List.length_cons, List.length_drop]
        omega
      next =>
        simp only [List.length_cons, List.length_drop] at bound ⊢
        omega

/-- Two segments at the end of a path come through, the last one perhaps as an empty one, or
the path gets longer by one segment at most. -/
theorem resolve_pair {first second : List Char} (keptFirst : encodeSegment first = first)
    (keptSecond : encodeSegment second = second) (taken : List (List Char)) :
    (∃ last, (last = second ∨ last = []) ∧
      resolve taken [first, second] = last :: first :: taken) ∨
    (resolve taken [first, second]).length ≤ taken.length + 1 := by
  by_cases staysFirst : Stays first
  · rw [resolve_cons_of_stays staysFirst, keptFirst]
    by_cases staysSecond : Stays second
    · rw [resolve_cons_of_stays staysSecond, keptSecond]
      exact .inl ⟨second, .inl rfl, rfl⟩
    · obtain ⟨count, few, resolved⟩ :=
        resolve_cons_of_not_stays staysSecond (first :: taken) []
      rw [resolved]
      cases count with
      | zero => exact .inl ⟨[], .inr rfl, rfl⟩
      | succ count =>
        obtain rfl : count = 0 := by omega
        exact .inr (Nat.le_refl _)
  · obtain ⟨count, _, resolved⟩ := resolve_cons_of_not_stays staysFirst taken [second]
    have bound := length_resolve_le (taken.drop count) [second]
    rw [resolved]
    simp only [List.length_drop, List.length_singleton] at bound
    exact .inr (Nat.le_trans bound (Nat.add_le_add_right (Nat.sub_le _ _) 1))

/-- The path of these segments, each led by a slash. -/
def led (path : List (List Char)) : List Char := path.flatMap ('/' :: ·)

theorem led_eq_intercalate {path : List (List Char)} (some : path ≠ []) :
    led path = '/' :: ['/'].intercalate path := by
  induction path with
  | nil => exact absurd rfl some
  | cons first rest ih =>
    cases rest with
    | nil => simp [led]
    | cons second rest =>
      rw [List.intercalate_cons_cons, led, List.flatMap_cons, ← led, ih (List.cons_ne_nil _ _)]
      simp

theorem led_append (front back : List (List Char)) : led (front ++ back) = led front ++ led back :=
  List.flatMap_append

theorem splitOn_led {path : List (List Char)} (some : path ≠ [])
    (closed : ∀ segment ∈ path, '/' ∉ segment) : (led path).tail.splitOn '/' = path := by
  rw [led_eq_intercalate some]
  exact List.splitOn_intercalate '/' closed some

/-- A path starts with another one only if its segments do. -/
theorem eq_append_of_led {front path : List (List Char)} {rest : List Char}
    (closedFront : ∀ segment ∈ front, '/' ∉ segment) (closed : ∀ segment ∈ path, '/' ∉ segment)
    (starts : led front ++ '/' :: rest = led path) : path = front ++ rest.splitOn '/' := by
  have some : path ≠ [] := by
    rintro rfl
    simp [led] at starts
  rw [← splitOn_led some closed, ← starts]
  by_cases none : front = []
  · subst none
    rfl
  · rw [led_eq_intercalate none, List.cons_append, List.tail_cons,
      List.splitOn_append_cons_of_beq _ _ (beq_self_eq_true '/'),
      List.splitOn_intercalate '/' closedFront none]

theorem of_mem_splitOn {text : List Char} {mark : Char} {segment : List Char}
    (member : segment ∈ text.splitOn mark) : mark ∉ segment ∧ ∀ char ∈ segment, char ∈ text := by
  induction text generalizing segment with
  | nil =>
    rw [List.splitOn_nil, List.mem_singleton] at member
    simp [member]
  | cons first text ih =>
    rw [List.splitOn_cons_eq_if_modifyHead] at member
    split at member
    next =>
      rcases List.mem_cons.mp member with rfl | member
      · simp
      · exact ⟨(ih member).1, fun char inside => List.mem_cons_of_mem _ ((ih member).2 char inside)⟩
    next differs =>
      obtain ⟨head, others, split⟩ := List.exists_cons_of_ne_nil (List.splitOn_ne_nil mark text)
      rw [split] at ih member
      rcases List.mem_cons.mp member with rfl | member
      · have ⟨apart, within⟩ := ih List.mem_cons_self
        have other : mark ≠ first := fun same => differs (beq_iff_eq.mpr same.symm)
        refine ⟨by simp [other, apart], fun char inside => ?_⟩
        rcases List.mem_cons.mp inside with rfl | inside
        · exact List.mem_cons_self
        · exact List.mem_cons_of_mem _ (within char inside)
      · have ⟨apart, within⟩ := ih (List.mem_cons_of_mem _ member)
        exact ⟨apart, fun char inside => List.mem_cons_of_mem _ (within char inside)⟩

theorem not_isSlash_of_mem_segments {path segment : List Char} (member : segment ∈ segments path) :
    ∀ char ∈ segment, isSlash char = false := by
  intro char inside
  have ⟨apart, within⟩ := of_mem_splitOn member
  obtain ⟨source, _, turned⟩ := List.mem_map.mp (within char inside)
  have forward : char ≠ '/' := fun same => apart (same ▸ inside)
  have backward : char ≠ '\\' := by
    rintro rfl
    split at turned
    · exact absurd turned (by decide)
    · contradiction
  simp [isSlash, forward, backward]

/-- What a request resolves: the path of the URL without the slash it starts with. -/
def target (url : Url) : List Char :=
  let path := url.rest.takeWhile (!endsPath ·)
  if path.head?.any isSlash then path.tail else path

theorem toList_requestPath (url : Url) :
    (requestPath url).toList = led (resolve [] (segments url.target)).reverse := by
  have some : (resolve [] (segments url.target)).reverse ≠ [] := fun none =>
    resolve_ne_nil [] (List.splitOn_ne_nil _ _) (List.reverse_eq_nil_iff.mp none)
  rw [led_eq_intercalate some]
  exact String.toList_ofList

theorem plain_of_mem_resolve {path segment : List Char}
    (member : segment ∈ resolve [] (segments path)) : Plain segment := by
  rcases mem_resolve member with rfl | none | ⟨source, inside, _, rfl⟩
  · exact fun _ none => absurd none List.not_mem_nil
  · exact absurd none List.not_mem_nil
  · exact plain_encodeSegment (not_isSlash_of_mem_segments inside)

theorem Plain.slash_not_mem {segment : List Char} (kept : Plain segment) : '/' ∉ segment :=
  fun member => absurd (unmarked_of_plain (kept '/' member)).1 (by decide)

/-- The only marks in a path of plain segments are slashes. -/
theorem unmarked_of_mem_led {path : List (List Char)} (kept : ∀ segment ∈ path, Plain segment)
    {char : Char} (member : char ∈ led path) :
    isBreak char = false ∧ endsPath char = false ∧ char ≠ '\\' := by
  obtain ⟨segment, inside, member⟩ := List.mem_flatMap.mp member
  rcases List.mem_cons.mp member with rfl | member
  · decide
  · have ⟨noSlash, _, noBreak, noEnd⟩ := unmarked_of_plain (kept segment inside char member)
    refine ⟨noBreak, noEnd, ?_⟩
    rintro rfl
    exact absurd noSlash (by decide)

/-- A path of plain segments is resolved as it stands. -/
theorem segments_target {url : Url} {path : List (List Char)} (some : path ≠ [])
    (rest : url.rest = led path) (kept : ∀ segment ∈ path, Plain segment) :
    segments url.target = path := by
  have whole : (led path).takeWhile (!endsPath ·) = led path := by
    refine List.takeWhile_eq_self_iff.mpr fun char member => ?_
    rw [(unmarked_of_mem_led kept member).2.1]
    rfl
  have starts : target url = (led path).tail := by
    rw [target, rest, whole, led_eq_intercalate some]
    rfl
  have forward : (led path).tail.map (fun char => if char = '\\' then '/' else char) =
      (led path).tail := by
    refine (List.map_congr_left fun char member => ?_).trans (List.map_id _)
    exact if_neg (unmarked_of_mem_led kept (List.mem_of_mem_tail member)).2.2
  rw [segments, starts, forward]
  exact splitOn_led some fun segment inside => (kept segment inside).slash_not_mem

/-- If resolving leaves the front of a path in place, the two segments behind it come through,
the last one perhaps as an empty one, or there are no two segments behind it. -/
theorem eq_of_resolve_pair {front more : List (List Char)} {first second one : List Char}
    (kept : ∀ segment ∈ front ++ [first, second], Plain segment)
    (some : more ≠ [])
    (resolved : (resolve [] (front ++ [first, second])).reverse = front ++ one :: more) :
    one = first ∧ (more = [second] ∨ more = [[]]) := by
  have same : ∀ segment ∈ front ++ [first, second], encodeSegment segment = segment :=
    fun segment member => encodeSegment_of_plain (kept segment member)
  have stays : ∀ segment ∈ front, Stays segment := by
    intro segment member
    have out : segment ∈ (resolve [] (front ++ [first, second])).reverse := by
      rw [resolved]
      exact List.mem_append_left _ member
    rcases mem_resolve (List.mem_reverse.mp out) with rfl | none | ⟨source, inside, stays, rfl⟩
    · exact ⟨by decide, by decide⟩
    · exact absurd none List.not_mem_nil
    · rwa [same source inside]
  rw [resolve_append stays fun segment member => same segment (List.mem_append_left _ member)]
    at resolved
  rcases resolve_pair (same first (by simp)) (same second (by simp)) (front.reverse ++ []) with
    ⟨last, kept, pair⟩ | short
  · rw [pair, List.reverse_cons, List.reverse_cons, List.append_nil, List.reverse_reverse,
      List.append_assoc] at resolved
    obtain ⟨sameFirst, sameLast⟩ := List.cons.inj (List.append_cancel_left resolved)
    subst sameFirst sameLast
    exact ⟨rfl, kept.imp (congrArg (fun segment => [segment])) (congrArg fun segment => [segment])⟩
  · have bound : 0 < more.length := List.length_pos_iff.mpr some
    have length := congrArg List.length resolved
    simp only [List.length_reverse, List.length_append, List.length_cons, List.length_nil]
      at short length
    omega

end ReadThrough.Url

namespace ReadThrough.PeerPath
open Url

/-- A normalised base path is any segments between slashes. -/
theorem normalizeBase_eq_led (base : String) :
    ∃ front, (normalizeBase base).toList = led front ++ ['/'] ∧
      ∀ segment ∈ front, '/' ∉ segment := by
  unfold normalizeBase
  cases dropTrailingSlashes (base.toList.dropWhile (· = '/')) with
  | nil => exact ⟨[], rfl, by simp⟩
  | cons char rest =>
    refine ⟨(char :: rest).splitOn '/', ?_, fun segment member => (of_mem_splitOn member).1⟩
    rw [led_eq_intercalate (List.splitOn_ne_nil _ _), List.intercalate_splitOn]
    simp

theorem decodeSegment_encodeChars (text : String) :
    decodeSegment (Percent.encodeChars text.toList) = .ok text := by
  rw [decodeSegment, Percent.decode?_encodeChars, String.ofList_toList]

theorem decodeSegment_nil : decodeSegment [] = .ok "" := decodeSegment_encodeChars ""

/-- What a path looks like that asks for a group and a key. -/
theorem parse_eq_ok {base path group key : String} (parsed : parse base path = .ok (group, key)) :
    ∃ first second, path.toList = base.toList ++ (first ++ '/' :: second) ∧ '/' ∉ first ∧
      decodeSegment first = .ok group ∧ decodeSegment second = .ok key := by
  have reads := reads_parse base path
  rw [parsed] at reads
  generalize path.toList = text at reads
  cases reads with
  | request parted _ spelledGroup spelledKey =>
    obtain ⟨rfl, apart⟩ := parted
    exact ⟨_, _, rfl, apart, decodeSegment_of_spells spelledGroup,
      decodeSegment_of_spells spelledKey⟩

theorem eq_of_splitOn_eq_singleton {text segment : List Char}
    (same : text.splitOn '/' = [segment]) : text = segment := by
  have joined : ['/'].intercalate (text.splitOn '/') = text := List.intercalate_splitOn '/'
  simpa [same] using joined.symm

/-- What the URL for a group and a key holds behind the address of the peer. -/
def asked (base group key : String) : List Char :=
  (normalizeBase base).toList.filter (!isBreak ·) ++
    (Percent.encodeChars group.toList ++ '/' :: Percent.encodeChars key.toList)

/-- A requested path that starts with these segments has them all from its resolution. -/
theorem resolve_of_requestPath {front : List (List Char)} {one two : List Char} {url : Url}
    (closed : ∀ segment ∈ front, '/' ∉ segment) (apart : '/' ∉ one)
    (read : (requestPath url).toList = led front ++ ['/'] ++ (one ++ '/' :: two)) :
    (resolve [] (segments url.target)).reverse = front ++ one :: two.splitOn '/' ∧
      ∀ segment ∈ front, Plain segment := by
  have plain : ∀ segment ∈ (resolve [] (segments url.target)).reverse, Plain segment :=
    fun segment member => plain_of_mem_resolve (List.mem_reverse.mp member)
  rw [toList_requestPath, List.append_assoc, List.singleton_append] at read
  have resolved := eq_append_of_led closed
    (fun segment member => (plain segment member).slash_not_mem) read.symm
  rw [List.splitOn_append_cons_self_of_not_mem apart] at resolved
  refine ⟨resolved, fun segment member => plain segment ?_⟩
  rw [resolved]
  exact List.mem_append_left _ member

/-- A path that asks below a base path, requested for a group and a key, ends in what was sent
for them, or in nothing for the key. -/
theorem resolve_of_parse {base group key name found : String} {url : Url}
    (requested : url.rest = asked base group key)
    (parsed : parse (normalizeBase base) (requestPath url) = .ok (name, found)) :
    ∃ front last, (resolve [] (segments url.target)).reverse =
        front ++ [Percent.encodeChars group.toList, last] ∧
      (last = Percent.encodeChars key.toList ∨ last = []) ∧
      decodeSegment (Percent.encodeChars group.toList) = .ok name ∧
      decodeSegment last = .ok found ∧ ∀ segment ∈ segments url.target, Plain segment := by
  obtain ⟨one, two, read, apart, decodedOne, decodedTwo⟩ := parse_eq_ok parsed
  obtain ⟨front, based, closed⟩ := normalizeBase_eq_led base
  rw [based] at read
  -- The base path came out of the resolution, so it is plain and went in as it stands.
  have ⟨resolved, plainFront⟩ := resolve_of_requestPath closed apart read
  have whole : (led front ++ ['/']).filter (!isBreak ·) = led front ++ ['/'] := by
    refine List.filter_eq_self.mpr fun char member => ?_
    rcases List.mem_append.mp member with inside | last
    · rw [(unmarked_of_mem_led plainFront inside).1]
      rfl
    · rw [List.mem_singleton.mp last]
      rfl
  have kept : ∀ segment ∈ front ++ [Percent.encodeChars group.toList,
      Percent.encodeChars key.toList], Plain segment := by
    intro segment member
    rcases List.mem_append.mp member with inFront | behind
    · exact plainFront segment inFront
    · simp only [List.mem_cons, List.not_mem_nil, or_false] at behind
      rcases behind with rfl | rfl
      · exact plain_encodeChars group.toList
      · exact plain_encodeChars key.toList
  have path : segments url.target =
      front ++ [Percent.encodeChars group.toList, Percent.encodeChars key.toList] := by
    refine segments_target (List.append_ne_nil_of_right_ne_nil _ (List.cons_ne_nil _ _)) ?_ kept
    rw [requested, asked, based, whole, led_append]
    simp [led]
  rw [path] at resolved ⊢
  obtain ⟨rfl, ends⟩ := eq_of_resolve_pair kept (List.splitOn_ne_nil '/' two) resolved
  have alone : two.splitOn '/' = [two] := by
    rcases ends with same | same
    all_goals rw [same, ← eq_of_splitOn_eq_singleton same]
  refine ⟨front, two, ?_, ends.imp eq_of_splitOn_eq_singleton eq_of_splitOn_eq_singleton,
    decodedOne, decodedTwo, kept⟩
  rw [resolved, alone]

/-- The group and the key that are read off such a path are those that were asked for, unless the
key was left out. -/
theorem parse_requestPath {base group key name found : String} {url : Url}
    (requested : url.rest = asked base group key)
    (parsed : parse (normalizeBase base) (requestPath url) = .ok (name, found)) :
    name = group ∧ (found = key ∨ found = "") := by
  obtain ⟨_, last, _, ends, decodedGroup, decodedLast, _⟩ := resolve_of_parse requested parsed
  rw [decodeSegment_encodeChars] at decodedGroup
  refine ⟨Except.ok.inj decodedGroup.symm, ends.imp ?_ ?_⟩
  · rintro rfl
    rw [decodeSegment_encodeChars] at decodedLast
    exact Except.ok.inj decodedLast.symm
  · rintro rfl
    rw [decodeSegment_nil] at decodedLast
    exact Except.ok.inj decodedLast.symm

end ReadThrough.PeerPath
