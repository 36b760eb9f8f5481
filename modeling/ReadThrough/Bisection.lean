/-! Bisection: the place from which on a test holds, found by halving the places that are
left. For a test that holds at every place behind one where it holds, that place is the
first one. -/

namespace ReadThrough.Bisection

/-- The first place from `low` on, and below `high`, where a test holds; else `high`. -/
def first (holds : Nat → Bool) (low high : Nat) : Nat :=
  if low < high then
    let middle := (low + high) / 2
    if holds middle then first holds low middle else first holds (middle + 1) high
  else low
termination_by high - low

theorem first_range (holds : Nat → Bool) {low high : Nat} (ordered : low ≤ high) :
    low ≤ first holds low high ∧ first holds low high ≤ high := by
  fun_induction first holds low high with
  | case1 low high inside middle _ step =>
    have := step (by omega)
    omega
  | case2 low high inside middle _ step =>
    have := step (by omega)
    omega
  | case3 low high outside => omega

/-- The test fails everywhere before the place that is found. -/
theorem not_holds_of_lt_first {holds : Nat → Bool} {low high : Nat}
    (upward : ∀ place next, place ≤ next → holds place → holds next)
    {place : Nat} (after : low ≤ place) (before : place < first holds low high) :
    holds place = false := by
  fun_induction first holds low high with
  | case1 low high inside middle _ step => exact step after before
  | case2 low high inside middle failed step =>
    by_cases early : place ≤ middle
    · cases result : holds place with
      | false => rfl
      | true => exact absurd (upward place middle early result) failed
    · exact step (by omega) before
  | case3 low high outside => omega

/-- The test holds at the place that is found, unless that is the end. -/
theorem holds_first {holds : Nat → Bool} {low high : Nat}
    (inside : first holds low high < high) : holds (first holds low high) := by
  fun_induction first holds low high with
  | case1 low high inside middle held step =>
    by_cases early : first holds low middle < middle
    · exact step early
    · have := first_range holds (show low ≤ middle by omega)
      have found : first holds low middle = middle := by omega
      rw [found]
      exact held
  | case2 low high _ middle _ step => exact step inside
  | case3 low high outside => omega

end ReadThrough.Bisection
