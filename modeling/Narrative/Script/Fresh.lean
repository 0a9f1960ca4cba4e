/-!
# Keys not yet seen

A walk through a script ends because each step sees a key that was not seen before, and there are
only so many.
-/

namespace Narrative

/-- How many of the keys have not been seen. -/
def fresh (keys seen : List String) : Nat := keys.countP fun k => !seen.contains k

theorem fresh_cons_le (keys seen : List String) (key : String) :
    fresh keys (key :: seen) ≤ fresh keys seen :=
  List.countP_mono_left fun k _ h => by
    simp only [List.contains_cons, Bool.not_or, Bool.and_eq_true] at h
    exact h.2

theorem fresh_cons_lt {keys seen : List String} {key : String} (hk : key ∈ keys)
    (hs : key ∉ seen) : fresh keys (key :: seen) < fresh keys seen := by
  induction keys with
  | nil => simp at hk
  | cons k ks ih =>
    have hle := fresh_cons_le ks seen key
    unfold fresh at hle ih ⊢
    by_cases h : k = key
    · subst h
      rw [List.countP_cons_of_neg (by simp), List.countP_cons_of_pos (by simpa using hs)]
      omega
    · have ih := ih (by simpa [Ne.symm h] using hk)
      rw [List.countP_cons, List.countP_cons]
      have : (!(key :: seen).contains k) = !seen.contains k := by simp [h]
      rw [this]
      omega

end Narrative
