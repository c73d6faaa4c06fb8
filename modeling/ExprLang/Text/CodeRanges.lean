/-! Sets of code points, written as closed ranges in ascending order. A search can
stop at the first range above the code point it looks for, and finds all the same. -/
namespace ExprLang.Text

abbrev CodeRanges := List (Nat × Nat)

namespace CodeRanges

def covers : CodeRanges → Nat → Bool
  | [], _ => false
  | (first, last) :: ranges, code =>
    if code < first then false else code ≤ last || covers ranges code

def Holds (ranges : CodeRanges) (code : Nat) : Prop :=
  ∃ range ∈ ranges, range.1 ≤ code ∧ code ≤ range.2

def ascendFrom : CodeRanges → Nat → Bool
  | [], _ => true
  | (first, last) :: ranges, bound =>
    bound ≤ first && first ≤ last && ascendFrom ranges (last + 1)

private theorem bound_le_of_mem (ranges : CodeRanges) (bound : Nat) (ascending : ranges.ascendFrom bound)
    (range : Nat × Nat) (member : range ∈ ranges) : bound ≤ range.1 := by
  induction ranges generalizing bound with
  | nil => cases member
  | cons head ranges ih =>
    simp only [ascendFrom, Bool.and_eq_true, decide_eq_true_eq] at ascending
    obtain ⟨⟨above, nonempty⟩, later⟩ := ascending
    cases member with
    | head => exact above
    | tail _ member => have := ih (head.2 + 1) later member; omega

/-- Ascending ranges cover exactly the code points that one of them holds. -/
theorem covers_iff (ranges : CodeRanges) (bound : Nat) (ascending : ranges.ascendFrom bound)
    (code : Nat) : ranges.covers code = true ↔ ranges.Holds code := by
  unfold Holds
  induction ranges generalizing bound with
  | nil => simp [covers]
  | cons head ranges ih =>
    have lowest := bound_le_of_mem (head :: ranges) bound ascending
    simp only [ascendFrom, Bool.and_eq_true, decide_eq_true_eq] at ascending
    obtain ⟨⟨_, nonempty⟩, later⟩ := ascending
    have above := bound_le_of_mem ranges (head.2 + 1) later
    by_cases below : code < head.1
    · simp only [covers, below, if_true, Bool.false_eq_true, false_iff]
      rintro ⟨range, member, first, _⟩
      cases member with
      | head => omega
      | tail _ member => have := above range member; omega
    · simp only [covers, below, if_false, Bool.or_eq_true, decide_eq_true_eq, ih _ later,
        List.mem_cons, exists_eq_or_imp]
      have : head.1 ≤ code := by omega
      simp [this]

end CodeRanges

end ExprLang.Text
