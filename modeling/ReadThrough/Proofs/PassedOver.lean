import ReadThrough.Config.Reader
import ReadThrough.Proofs.JsonGrammar

/-! The reader of configurations takes a document one token at a time. Blanks change nothing, and
a value inside a member that is passed over takes the reader from where a value is due to behind
the value, whatever the value holds and however deep it is nested. -/

namespace ReadThrough.Config

open Json (Token Blank Body Spells Numeral Form Apart)

variable {text rest : List Char} {char : Char} {state after : State} {draft : Draft}
  {phase : Phase} {brackets outer : List Bracket}

/-- The state behind a text. -/
def consume (state : State) (text : List Char) : Outcome State :=
  (Json.tokens text).foldlM step state

theorem consume_nil (state : State) : consume state [] = .ok state := by
  rw [consume, Json.tokens]
  rfl

theorem consume_start (solid : Token.isBlank char = false) (state : State) (rest : List Char) :
    consume state (char :: rest) =
      step state (Token.start char rest).1 >>= (consume · (Token.start char rest).2) := by
  rw [consume, Json.tokens]
  simp only [solid, Bool.false_eq_true, if_false, List.foldlM_cons]
  rfl

theorem consume_token {token : Token} {behind : List Char} (solid : Token.isBlank char = false)
    (started : Token.start char rest = (token, behind)) (stepped : step state token = .ok after) :
    consume state (char :: rest) = consume after behind := by
  rw [consume_start solid, started]
  simp only [stepped]
  rfl

theorem consume_blank (blank : Blank text) (state : State) (rest : List Char) :
    consume state (text ++ rest) = consume state rest := by
  induction text with
  | nil => rfl
  | cons char text ih =>
    have white := Token.isBlank_iff.mpr (blank char List.mem_cons_self)
    rw [← ih fun other member => blank other (List.mem_cons_of_mem _ member), List.cons_append,
      consume, Json.tokens]
    simp only [white, if_true]
    rfl

theorem consume_blanks (blank : Blank text) (state : State) : consume state text = .ok state := by
  have whole := consume_blank blank state []
  rwa [List.append_nil, consume_nil] at whole

theorem consume_text (body : Body text) (state : State) (rest : List Char) :
    consume state ('"' :: (text ++ '"' :: rest)) =
      step state (.text ((Json.Text.read (text ++ '"' :: rest)).map String.ofList) (.ok ())) >>=
        (consume · rest) := by
  rw [consume_start (by decide), Token.start_text body]

theorem consume_number (numeral : Numeral text) (apart : Apart rest) (state : State) :
    consume state (text ++ rest) =
      step state (.number ((Json.Number.read (text ++ rest)).map (·.1)) (.ok ())) >>=
        (consume · rest) := by
  have skipped := Json.Number.skip_append numeral apart
  obtain ⟨first, behind, rfl, starts⟩ := numeral.exists_first
  rw [List.cons_append, consume_start (Token.solid_of_first starts), Token.start_number starts,
    Token.ofNumber, ← List.cons_append, skipped]

/-- A text takes the reader from one state to another, in front of everything that could not be
part of a number. -/
def Reads (text : List Char) (state after : State) : Prop :=
  ∀ rest, Apart rest → consume state (text ++ rest) = consume after rest

def ValueDue (phase : Phase) : Prop := phase = .value ∨ phase = .firstElement

def NameDue (phase : Phase) : Prop := phase = .name ∨ phase = .firstName

theorem step_value {token : Token} {passed : Phase × List Bracket} (due : ValueDue phase)
    (stays : token ≠ .closeBracket) (passes : passValue brackets token = .ok passed) :
    step (.skipped draft phase brackets) token = .ok (afterSkipped draft passed) := by
  have same : passOver brackets phase token = passValue brackets token := by
    rcases due with rfl | rfl
    · rfl
    · cases token <;> first | rfl | exact absurd rfl stays
  simp only [step, same, passes]
  rfl

theorem step_name {value : Except Json.Fault String} (due : NameDue phase) :
    step (.skipped draft phase (.brace :: outer)) (.text value (.ok ())) =
      .ok (.skipped draft .colon (.brace :: outer)) := by
  rcases due with rfl | rfl <;> rfl

/-- What passing over a part of a value does. -/
def Passes : Json.Part → List Char → Prop
  | .value, text | .element, text => ∀ draft phase brackets, ValueDue phase →
    Reads text (.skipped draft phase brackets) (afterSkipped draft (.next, brackets))
  | .elements, text => ∀ draft phase outer, ValueDue phase →
    Reads text (.skipped draft phase (.bracket :: outer))
      (.skipped draft .next (.bracket :: outer))
  | .member, text | .members, text => ∀ draft phase outer, NameDue phase →
    Reads text (.skipped draft phase (.brace :: outer)) (.skipped draft .next (.brace :: outer))

theorem passes {part : Json.Part} (form : Form part text) : Passes part text := by
  -- The depth is in the brackets, over which `Passes` ranges, so a nested value is as good as any.
  induction form with
  | text body =>
    intro draft phase brackets due rest apart
    rw [List.cons_append, List.append_assoc, List.singleton_append, consume_text body,
      step_value due (by simp) rfl]
    rfl
  | number numeral =>
    intro draft phase brackets due rest apart
    rw [consume_number numeral apart, step_value due (by simp) rfl]
    rfl
  | null | true | false =>
    intro draft phase brackets due rest apart
    exact consume_token (by decide) rfl (step_value due (by simp) rfl)
  | emptyArray blank =>
    intro draft phase brackets due rest apart
    rw [List.cons_append, List.append_assoc, List.singleton_append]
    refine (consume_token (by decide) rfl (step_value due (by simp) rfl)).trans ?_
    refine (consume_blank blank _ _).trans ?_
    exact consume_token (by decide) rfl rfl
  | array elements ih =>
    intro draft phase brackets due rest apart
    rw [List.cons_append, List.append_assoc, List.singleton_append]
    refine (consume_token (by decide) rfl (step_value due (by simp) rfl)).trans ?_
    refine (ih draft .firstElement brackets (.inr rfl) _ (Json.apart_of_mark (by simp))).trans ?_
    exact consume_token (by decide) rfl rfl
  | emptyObject blank =>
    intro draft phase brackets due rest apart
    rw [List.cons_append, List.append_assoc, List.singleton_append]
    refine (consume_token (by decide) rfl (step_value due (by simp) rfl)).trans ?_
    refine (consume_blank blank _ _).trans ?_
    exact consume_token (by decide) rfl rfl
  | object members ih =>
    intro draft phase brackets due rest apart
    rw [List.cons_append, List.append_assoc, List.singleton_append]
    refine (consume_token (by decide) rfl (step_value due (by simp) rfl)).trans ?_
    refine (ih draft .firstName brackets (.inr rfl) _ (Json.apart_of_mark (by simp))).trans ?_
    exact consume_token (by decide) rfl rfl
  | element before value after ih =>
    intro draft phase brackets due rest apart
    rw [List.append_assoc, List.append_assoc, consume_blank before,
      ih draft phase brackets due _ (apart.blank after), consume_blank after]
  | lastElement element ih =>
    exact fun draft phase outer due => ih draft phase (.bracket :: outer) due
  | elements element others ih ihOthers =>
    intro draft phase outer due rest apart
    rw [List.append_assoc, List.cons_append]
    refine (ih draft phase _ due _ (Json.apart_of_mark (by simp))).trans ?_
    refine (consume_token (by decide) rfl rfl).trans ?_
    exact ihOthers draft .value outer (.inl rfl) rest apart
  | member before body after element ih =>
    intro draft phase outer due rest apart
    simp only [List.append_assoc, List.cons_append]
    rw [consume_blank before, consume_text body, step_name due]
    refine (consume_blank after _ _).trans ?_
    refine (consume_token (by decide) rfl rfl).trans ?_
    exact ih draft .value _ (.inl rfl) rest apart
  | lastMember member ih => exact ih
  | members member others ih ihOthers =>
    intro draft phase outer due rest apart
    rw [List.append_assoc, List.cons_append]
    refine (ih draft phase outer due _ (Json.apart_of_mark (by simp))).trans ?_
    refine (consume_token (by decide) rfl rfl).trans ?_
    exact ihOthers draft .name outer (.inl rfl) rest apart

end ReadThrough.Config
