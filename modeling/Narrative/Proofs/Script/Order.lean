import Narrative.Proofs.Script.Coherence

/-!
# The order of a script

The keys of a script can be visited one by one: the first key, then each time the key behind
(`Script.visited?`).  Where no key is listed twice this goes through the order and then ends
(`visited?_eq`).  So it does for every script that is built from entries, whatever the entries are:
a key keeps its first place and its last event (`first_places_last_events_ofEntries`).
-/

namespace Narrative

namespace Script

variable {s : Script} {key : String}

/-- The key that is visited after `n` steps from the first key, each of them to the key behind. -/
def visited? (s : Script) : Nat → Option String
  | 0 => s.first?
  | n + 1 => (s.visited? n).bind s.after?

theorem visited?_eq (hs : s.order.Nodup) (n : Nat) : s.visited? n = s.order[n]? := by
  induction n with
  | zero => exact List.head?_eq_getElem?
  | succ n ih =>
      rw [visited?, ih]
      cases h : s.order[n]? with
      | some key => exact afterIn?_of_getElem? hs h
      | none =>
          have hend : s.order.length ≤ n := List.getElem?_eq_none_iff.1 h
          exact (List.getElem?_eq_none_iff.2 (Nat.le_succ_of_le hend)).symm

theorem existsUnique_visited?_iff (hs : s.order.Nodup) :
    (∃! n, s.visited? n = some key) ↔ key ∈ s.order := by
  simp only [visited?_eq hs]
  constructor
  · rintro ⟨n, hn, -⟩
    exact List.mem_of_getElem? hn
  · intro hk
    obtain ⟨n, hn⟩ := List.getElem?_of_mem hk
    refine ⟨n, hn, fun i hi => ?_⟩
    have hlt : i < s.order.length := (List.getElem?_eq_some_iff.1 hi).1
    exact (List.getElem?_inj hlt hs).1 (hi.trans hn.symm)

theorem after?_eq_none_iff (hs : s.order.Nodup) :
    s.after? key = none ↔ s.order.getLast? = some key ∨ key ∉ s.order := by
  by_cases hk : key ∈ s.order
  · rw [after?, afterIn?_eq_none_iff hs hk, or_iff_left (not_not_intro hk)]
  · exact iff_of_true (afterIn?_of_not_mem hk) (Or.inr hk)

/-- The order of a script that is built from entries lists the keys of the entries, each of them
once and in its first place.  These are the keys that have an event, and it is the one that came
last with the key.  To start at the first key and to go on to the key behind visits each of them
once, in order, and then nothing; there is no key behind the last one and behind what is no key of
the script, but there is one behind every other. -/
theorem first_places_last_events_ofEntries (entries : List (String × Node)) :
    let s := ofEntries entries
    s.order.Nodup ∧
    (∀ key, key ∈ s.order ↔ ∃ node, s.node? key = some node) ∧
    s.order = (entries.map Prod.fst).eraseDups ∧
    (∀ key, s.node? key = (entries.filter fun e => e.1 = key).getLast?.map Prod.snd) ∧
    (∀ n, s.visited? n = s.order[n]?) ∧
    (∀ key, (∃! n, s.visited? n = some key) ↔ key ∈ s.order) ∧
    (∀ n, s.visited? n = none ↔ s.size ≤ n) ∧
    ∀ key, s.after? key = none ↔ s.order.getLast? = some key ∨ key ∉ s.order := by
  intro s
  have hs : s.Coherent := coherent_ofEntries entries
  refine ⟨hs.nodup, fun key => ?_, Keyed.keys_ofEntries entries, Keyed.get?_ofEntries entries,
    visited?_eq hs.nodup, fun key => existsUnique_visited?_iff hs.nodup, fun n => ?_,
    fun key => after?_eq_none_iff hs.nodup⟩
  · rw [hs.mem_order_iff, defines_iff, ← Keyed.get?_isSome_iff, Option.isSome_iff_exists]
    rfl
  · rw [visited?_eq hs.nodup, List.getElem?_eq_none_iff, size]

end Script

end Narrative
