import ReadThrough.Url.Basic
import Mathlib.Data.List.Basic
import Mathlib.Data.List.TakeWhile

/-! A URL of the scheme `http` that goes on behind its path is read as before, with a longer
path. Scheme, host and port are cut off in front of the path, so each step that cuts is shown
not to look behind it. -/

namespace ReadThrough.Url

theorem isBreak_of_inked {char : Char} (inked : isBlank char = false) : isBreak char = false := by
  refine Bool.eq_false_iff.mpr fun broken => ?_
  simp only [isBreak, Bool.or_eq_true, decide_eq_true_eq] at broken
  rcases broken with (rfl | rfl) | rfl
  all_goals exact absurd inked (by decide)

theorem not_of_head?_dropWhile {α : Type} {p : α → Bool} {list : List α} {first : α}
    (head : first ∈ (list.dropWhile p).head?) : p first = false := by
  have stops := List.head?_dropWhile_not p list
  rw [Option.mem_def.mp head] at stops
  simpa using stops

theorem dropWhile_append_of_ne_nil {α : Type} {p : α → Bool} {front : List α}
    (some : front.dropWhile p ≠ []) (back : List α) :
    (front ++ back).dropWhile p = front.dropWhile p ++ back := by
  rw [List.dropWhile_append, if_neg (by simpa using some)]

theorem takeWhile_append_of_ne_nil {α : Type} {p : α → Bool} {front : List α}
    (some : front.dropWhile p ≠ []) (back : List α) :
    (front ++ back).takeWhile p = front.takeWhile p := by
  rw [List.takeWhile_append, if_neg]
  intro whole
  have total := congrArg List.length (List.takeWhile_append_dropWhile (p := p) (l := front))
  rw [List.length_append, whole] at total
  exact some (List.length_eq_zero_iff.mp (by omega))

theorem strip_of_last {text : List Char} (last : ∀ char ∈ text.getLast?, isBlank char = false) :
    strip text = (text.dropWhile isBlank).filter (!isBreak ·) := by
  rw [strip]
  congr 1
  rw [List.reverse_eq_iff]
  generalize inked : text.dropWhile isBlank = shown
  cases ends : shown.reverse with
  | nil => rfl
  | cons char before =>
    have final : shown.getLast? = some char := by
      rw [← List.head?_reverse, ends, List.head?_cons]
    have same : text.getLast? = some char := by
      rw [← List.takeWhile_append_dropWhile (p := isBlank) (l := text), inked,
        List.getLast?_append_of_ne_nil, final]
      rintro rfl
      nomatch final
    exact List.dropWhile_cons_of_neg (by simp [last char same])

theorem strip_append {text tail : List Char} (some : text ≠ [])
    (last : ∀ char ∈ text.getLast?, isBlank char = false)
    (inked : ∀ char ∈ tail, isBlank char = false) : strip (text ++ tail) = strip text ++ tail := by
  have ends : ∀ char ∈ (text ++ tail).getLast?, isBlank char = false := by
    intro char final
    rw [List.getLast?_append] at final
    cases behind : tail.getLast? with
    | none => exact last char (by simpa [behind] using final)
    | some other =>
      obtain rfl : other = char := by simpa [behind] using final
      exact inked other (List.mem_of_getLast? behind)
  have begins : text.dropWhile isBlank ≠ [] := by
    intro blank
    obtain ⟨front, char, rfl⟩ := (List.eq_nil_or_concat text).resolve_left some
    have noBlank := last char (by simp)
    rw [List.dropWhile_eq_nil_iff.mp blank char (by simp)] at noBlank
    nomatch noBlank
  have whole : tail.filter (!isBreak ·) = tail := by
    apply List.filter_eq_self.mpr
    intro char member
    rw [isBreak_of_inked (inked char member)]
    rfl
  rw [strip_of_last ends, strip_of_last last, dropWhile_append_of_ne_nil begins,
    List.filter_append, whole]

theorem splitScheme?_append {text rest : List Char} {scheme : String}
    (split : splitScheme? text = some (scheme, rest)) (tail : List Char) :
    splitScheme? (text ++ tail) = some (scheme, rest ++ tail) := by
  unfold splitScheme? at split ⊢
  split at split
  next letter =>
    have some : text ≠ [] := by
      rintro rfl
      nomatch letter
    split at split
    next behind found =>
      obtain ⟨rfl, rfl⟩ := Prod.mk.inj (Option.some.inj split)
      have ends : text.dropWhile schemeChar ≠ [] := by
        rw [found]
        exact List.cons_ne_nil _ _
      rw [List.head?_append_of_ne_nil _ some, if_pos letter, dropWhile_append_of_ne_nil ends,
        found, takeWhile_append_of_ne_nil ends]
      rfl
    next => nomatch split
  next => nomatch split

theorem ofAuthority_append (scheme : String) (authority : List Char) {rest : List Char}
    (some : rest ≠ []) (tail : List Char) :
    ofAuthority scheme authority (rest ++ tail) =
      (ofAuthority scheme authority rest).map fun url => { url with rest := url.rest ++ tail } := by
  have known : (rest ++ tail).isEmpty = rest.isEmpty := by
    cases rest with
    | nil => exact absurd rfl some
    | cons => rfl
  simp only [ofAuthority, known, bind, Except.bind, pure, Except.pure, throw, throwThe,
    MonadExceptOf.throw, ← List.append_assoc]
  repeat' split
  all_goals rfl

theorem ofAuthority_eq_ok {scheme : String} {authority rest : List Char} {url : Url}
    (read : ofAuthority scheme authority rest = .ok url) : url.scheme = scheme ∧
      ∃ behind, url.rest = behind ++ rest ∧ ∀ char ∈ behind.head?, char = '\\' := by
  simp only [ofAuthority, bind, Except.bind, pure, Except.pure, throw, throwThe,
    MonadExceptOf.throw] at read
  repeat' split at read
  all_goals cases read
  all_goals
    refine ⟨rfl, _, rfl, fun char first => ?_⟩
    simpa using not_of_head?_dropWhile first

theorem scheme_of_ofFile {rest : List Char} {url : Url} (read : ofFile rest = .ok url) :
    url.scheme = "file" := by
  unfold ofFile at read
  simp only [bind, Except.bind, pure, Except.pure] at read
  repeat' split at read
  all_goals cases read
  all_goals rfl

/-- A URL with the scheme `http` is an authority and what follows it. -/
theorem parse_eq_ok {text : String} {url : Url} (read : parse text = .ok url)
    (http : url.scheme = "http") : ∃ rest, splitScheme? (strip text.toList) = some ("http", rest) ∧
      ofAuthority "http" ((rest.dropWhile isSlash).takeWhile (!endsHost true ·))
        ((rest.dropWhile isSlash).dropWhile (!endsHost true ·)) = .ok url := by
  unfold parse at read
  split at read
  next => nomatch read
  next scheme rest split =>
    split at read
    next file =>
      have other := scheme_of_ofFile read
      rw [http] at other
      exact absurd other (by decide)
    next =>
      split at read
      next =>
        obtain rfl : "http" = scheme := http.symm.trans (ofAuthority_eq_ok read).1
        exact ⟨rest, split, read⟩
      next unknown =>
        split at read
        next =>
          obtain rfl : "http" = scheme := http.symm.trans (ofAuthority_eq_ok read).1
          exact absurd rfl unknown
        next =>
          obtain rfl := Except.ok.inj read
          obtain rfl : scheme = "http" := http
          exact absurd rfl unknown

/-- Characters behind a URL whose path is not empty belong to its path. -/
theorem parse_append {text : String} {url : Url} (read : parse text = .ok url)
    (http : url.scheme = "http") (path : url.rest.head? = some '/') {tail : String}
    (last : ∀ char ∈ text.toList.getLast?, isBlank char = false)
    (inked : ∀ char ∈ tail.toList, isBlank char = false) :
    parse (text ++ tail) = .ok { url with rest := url.rest ++ tail.toList } := by
  obtain ⟨rest, split, authority⟩ := parse_eq_ok read http
  have some : text.toList ≠ [] := by
    intro none
    rw [none] at split
    nomatch split
  -- The path starts with a slash, so it is no part of what the authority left over.
  have ends : (rest.dropWhile isSlash).dropWhile (!endsHost true ·) ≠ [] := by
    intro none
    obtain ⟨_, behind, joined, backslash⟩ := ofAuthority_eq_ok authority
    rw [none, List.append_nil] at joined
    exact absurd (backslash '/' (joined ▸ path)) (by decide)
  have begins : rest.dropWhile isSlash ≠ [] := by
    intro none
    rw [none] at ends
    exact ends rfl
  have known : (knownPort? "http").isSome = true := rfl
  rw [parse, String.toList_append, strip_append some last inked, splitScheme?_append split]
  simp only [known, if_true, dropWhile_append_of_ne_nil begins, dropWhile_append_of_ne_nil ends,
    takeWhile_append_of_ne_nil ends, ofAuthority_append _ _ ends, authority]
  rfl

end ReadThrough.Url
