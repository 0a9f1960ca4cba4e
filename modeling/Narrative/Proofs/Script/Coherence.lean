import Narrative.Proofs.Keyed
import Narrative.Script.Reach

/-!
# Coherent scripts

In a coherent script the keys in order are those that have an event, each of them once.  A script
that is built from entries is coherent, whatever the entries are; a script whose two parts come
from somewhere else need not be.
-/

namespace Narrative

namespace Script

/-- The keys in order are those that have an event, each of them once. -/
structure Coherent (s : Script) : Prop where
  order_eq : s.order = s.nodes.keys
  nodup : s.order.Nodup

theorem coherent_ofEntries (entries : List (String × Node)) : (ofEntries entries).Coherent :=
  ⟨rfl, Keyed.nodup_keys_ofEntries entries⟩

theorem defines_eq_false_iff {s : Script} {key : String} :
    s.defines key = false ↔ s.node? key = none := by
  simp [defines, Keyed.has, node?]

theorem Coherent.mem_order_iff {s : Script} (hs : s.Coherent) {key : String} :
    key ∈ s.order ↔ s.defines key = true := by
  rw [hs.order_eq, defines_iff]

theorem Coherent.mem_order_of_node? {s : Script} (hs : s.Coherent) {key : String} {n : Node}
    (h : s.node? key = some n) : key ∈ s.order :=
  hs.mem_order_iff.2 (defines_of_node? h)

theorem Coherent.defines_of_first? {s : Script} (hs : s.Coherent) {key : String}
    (h : s.first? = some key) : s.defines key = true :=
  hs.mem_order_iff.1 (List.mem_of_mem_head? h)

theorem mem_of_afterIn? {key next : String} {keys : List String}
    (h : afterIn? key keys = some next) : next ∈ keys := by
  induction keys with
  | nil => simp [afterIn?] at h
  | cons k keys ih =>
      rw [afterIn?] at h
      split at h
      · exact List.mem_cons_of_mem _ (List.mem_of_mem_head? h)
      · exact List.mem_cons_of_mem _ (ih h)

theorem afterIn?_append {before after : List String} {key : String} (hbefore : key ∉ before) :
    afterIn? key (before ++ key :: after) = after.head? := by
  induction before with
  | nil => simp [afterIn?]
  | cons k before ih =>
      have hk : k ≠ key := by
        rintro rfl
        exact hbefore List.mem_cons_self
      rw [List.cons_append, afterIn?, if_neg hk]
      exact ih fun h => hbefore (List.mem_cons_of_mem _ h)

theorem afterIn?_of_nodup {before after : List String} {key : String}
    (h : (before ++ key :: after).Nodup) : afterIn? key (before ++ key :: after) = after.head? :=
  afterIn?_append fun hmem => (List.nodup_append.1 h).2.2 _ hmem _ List.mem_cons_self rfl

/-- Behind the key in one place comes the key in the next one. -/
theorem afterIn?_of_getElem? {keys : List String} {key : String} {n : Nat} (hkeys : keys.Nodup)
    (h : keys[n]? = some key) : afterIn? key keys = keys[n + 1]? := by
  obtain ⟨hn, rfl⟩ := List.getElem?_eq_some_iff.1 h
  have hsplit : keys.take n ++ keys[n] :: keys.drop (n + 1) = keys := by simp
  have hafter := afterIn?_of_nodup (hsplit.symm ▸ hkeys)
  rwa [hsplit, List.head?_drop] at hafter

theorem afterIn?_of_not_mem {keys : List String} {key : String} (h : key ∉ keys) :
    afterIn? key keys = none := by
  induction keys with
  | nil => rfl
  | cons k keys ih =>
      have hk : k ≠ key := by
        rintro rfl
        exact h List.mem_cons_self
      rw [afterIn?, if_neg hk]
      exact ih fun hmem => h (List.mem_cons_of_mem _ hmem)

/-- Nothing comes after a key of an order without repetition exactly if it is the last one. -/
theorem afterIn?_eq_none_iff {keys : List String} {key : String} (hkeys : keys.Nodup)
    (hk : key ∈ keys) : afterIn? key keys = none ↔ keys.getLast? = some key := by
  obtain ⟨before, after, rfl⟩ := List.append_of_mem hk
  have hafter : key ∉ after := (List.nodup_cons.1 (List.nodup_append.1 hkeys).2.1).1
  rw [afterIn?_of_nodup hkeys, List.getLast?_append]
  cases after with
  | nil => simp
  | cons next after =>
      have hlast : (next :: after).getLast (List.cons_ne_nil _ _) ≠ key :=
        ne_of_mem_of_not_mem (List.getLast_mem _) hafter
      simp [List.getLast?_eq_some_getLast, hlast]

theorem Coherent.defines_of_after? {s : Script} (hs : s.Coherent) {key next : String}
    (h : s.after? key = some next) : s.defines next = true :=
  hs.mem_order_iff.1 (mem_of_afterIn? h)

/-- Only by name can a run go from an event to an undefined one. -/
theorem Coherent.next_eq_of_successor? {s : Script} (hs : s.Coherent) {key next : String}
    {d : Dialogue} (h : s.successor? key d = some next) (hn : ¬s.defines next = true) :
    d.next = some next := by
  rcases Option.or_eq_some_iff.1 h with hd | ⟨_, ha⟩
  · exact hd
  · exact absurd (hs.defines_of_after? ha) hn

end Script

end Narrative
