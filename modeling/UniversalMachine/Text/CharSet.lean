/-! Sets of characters as ranges of code points. -/
namespace UniversalMachine.Text

/-- Whether ranges ascend, with a gap between any two. -/
def CharSet.isAscending : List (Nat × Nat) → Bool
  | [] => true
  | [(low, high)] => low ≤ high
  | (low, high) :: (next, last) :: rest =>
    low ≤ high && high + 1 < next && isAscending ((next, last) :: rest)

/-- Closed ranges of code points. -/
structure CharSet where
  ranges : List (Nat × Nat)
  ascending : CharSet.isAscending ranges := by decide +kernel

namespace CharSet

/-- Looks for a code point. The search ends at the first range beyond it. -/
def search (code : Nat) : List (Nat × Nat) → Bool
  | [] => false
  | (low, high) :: rest => if code < low then false else code ≤ high || search code rest

def contains (set : CharSet) (c : Char) : Bool := search c.toNat set.ranges

/-- Every range lies above those before it. -/
theorem lt_of_isAscending {first : Nat × Nat} {rest : List (Nat × Nat)}
    (h : isAscending (first :: rest)) : ∀ range ∈ rest, first.2 < range.1 := by
  induction rest generalizing first with
  | nil => simp
  | cons next rest ih =>
    simp only [isAscending, Bool.and_eq_true, decide_eq_true_eq] at h
    intro range hrange
    rcases List.mem_cons.mp hrange with rfl | hrest
    · omega
    · have hnext : next.1 ≤ next.2 := by
        cases rest with
        | nil => simp only [isAscending, decide_eq_true_eq] at h; exact h.2
        | cons => simp only [isAscending, Bool.and_eq_true, decide_eq_true_eq] at h; exact h.2.1.1
      have := ih h.2 range hrest
      omega

theorem isAscending_tail {first : Nat × Nat} {rest : List (Nat × Nat)}
    (h : isAscending (first :: rest)) : isAscending rest := by
  cases rest with
  | nil => rfl
  | cons => simp only [isAscending, Bool.and_eq_true] at h; exact h.2

/-- The early end of the search loses nothing. -/
theorem search_iff {code : Nat} {ranges : List (Nat × Nat)} (h : isAscending ranges) :
    search code ranges ↔ ∃ range ∈ ranges, range.1 ≤ code ∧ code ≤ range.2 := by
  induction ranges with
  | nil => simp [search]
  | cons first rest ih =>
    have htail := ih (isAscending_tail h)
    have habove := lt_of_isAscending h
    have hfirst : first.1 ≤ first.2 := by
      cases rest with
      | nil => simpa [isAscending] using h
      | cons => simp only [isAscending, Bool.and_eq_true, decide_eq_true_eq] at h; exact h.1.1
    by_cases hlow : code < first.1
    · simp only [search, hlow, if_true, Bool.false_eq_true, false_iff, not_exists, not_and]
      intro range hrange
      rcases List.mem_cons.mp hrange with rfl | hrest
      · omega
      · have := habove range hrest
        omega
    · simp only [search, hlow, if_false, Bool.or_eq_true, decide_eq_true_eq, htail,
        List.mem_cons, exists_eq_or_imp]
      exact or_congr_left ⟨fun hhigh => ⟨by omega, hhigh⟩, fun hboth => hboth.2⟩

theorem contains_iff (set : CharSet) (c : Char) :
    set.contains c ↔ ∃ range ∈ set.ranges, range.1 ≤ c.toNat ∧ c.toNat ≤ range.2 :=
  search_iff set.ascending

end CharSet
end UniversalMachine.Text
