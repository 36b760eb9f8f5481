import ReadThrough.Proofs.KeyRoundTrip

/-! Base paths that two nodes spell with different slashes at the ends. Normalising takes those
slashes away, so what one node asks for below its base path the other reads below its own. Only
a group without a name is refused. -/

namespace ReadThrough.PeerPath

/-- A base path with slashes before and after it. It may hold further slashes, at its own ends
too. -/
def spelled (before : Nat) (inner : String) (after : Nat) : String :=
  String.ofList (List.replicate before '/' ++ inner.toList ++ List.replicate after '/')

theorem dropWhile_slashes (count : Nat) (text : List Char) :
    (List.replicate count '/' ++ text).dropWhile (· = '/') = text.dropWhile (· = '/') := by
  apply List.dropWhile_append_of_pos
  intro char member
  simp [List.eq_of_mem_replicate member]

theorem dropTrailingSlashes_slashes (text : List Char) (count : Nat) :
    dropTrailingSlashes (text ++ List.replicate count '/') = dropTrailingSlashes text := by
  rw [dropTrailingSlashes, List.reverse_append, List.reverse_replicate, dropWhile_slashes]
  rfl

theorem normalizeBase_spelled (before : Nat) (inner : String) (after : Nat) :
    normalizeBase (spelled before inner after) = normalizeBase inner := by
  have trimmed : dropTrailingSlashes ((spelled before inner after).toList.dropWhile (· = '/')) =
      dropTrailingSlashes (inner.toList.dropWhile (· = '/')) := by
    rw [spelled, String.toList_ofList, List.append_assoc, dropWhile_slashes, List.dropWhile_append]
    split
    next empty =>
      -- Nothing but slashes inside, so the slashes after it are leading ones too.
      have none : (List.replicate after '/').dropWhile (· = '/') = [] := by
        have slashes := dropWhile_slashes after []
        rwa [List.append_nil] at slashes
      rw [none, List.isEmpty_iff.mp empty]
    next => exact dropTrailingSlashes_slashes _ after
  rw [normalizeBase, normalizeBase, trimmed]

/-- Without a name for the group there is nothing before the slash that ends it. -/
theorem parse_fetchUrl_unnamed (base key : String) :
    parse base (fetchUrl base "" key) = .error .badRequest := by
  have parted : Parted (Percent.encodeChars "".toList ++ '/' :: Percent.encodeChars key.toList) []
      (Percent.encodeChars key.toList) := ⟨rfl, List.not_mem_nil⟩
  exact parse_of_unnamed (toList_fetchUrl base "" key) parted

/-- Two nodes that spell one base path with any slashes around it understand each other: a group
and a key are read as they were asked for exactly when the group has a name, and otherwise the
request is refused as a bad one. -/
theorem asked_is_read (inner : String) (before after others behind : Nat) (group key : String) :
    let client := normalizeBase (spelled before inner after)
    let server := normalizeBase (spelled others inner behind)
    (parse server (fetchUrl client group key) = .ok (group, key) ↔ group ≠ "") ∧
      (group = "" → parse server (fetchUrl client group key) = .error .badRequest) := by
  simp only [normalizeBase_spelled]
  refine ⟨⟨?_, parse_fetchUrl_self _ key⟩, ?_⟩
  · rintro read rfl
    rw [parse_fetchUrl_unnamed] at read
    nomatch read
  · rintro rfl
    exact parse_fetchUrl_unnamed _ key

end ReadThrough.PeerPath
