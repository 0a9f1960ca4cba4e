import Narrative.Proofs.Check.Cycles

/-!
# Where the list of a cycle begins

The finder goes through the keys in order, and lists a cycle when it comes to the first key that
leads into it.  The list begins where the way from that key enters the cycle
(`cycle_begins_where_entered`).  That is the member which comes first in order if the key is itself
a member, but not always otherwise: a dialogue further up may lead into the middle of the cycle
(`exists_cycle_not_from_earliest`).
-/

namespace Narrative

namespace Script

open Relation

variable {s : Script} {key start entry : String} {cycle : List String}

/-- Passing on from `start` comes to the cycle at `entry`, and to no key of the cycle before. -/
structure Enters (s : Script) (cycle : List String) (start entry : String) : Prop where
  mem : entry ∈ cycle
  leads : ReflTransGen (fun a b => s.PassesTo a b ∧ a ∉ cycle) start entry

theorem Enters.eq_of_mem (h : s.Enters cycle start entry) (hstart : start ∈ cycle) :
    entry = start := by
  rcases h.leads.cases_head with heq | ⟨_, hnext, _⟩
  · exact heq.symm
  · exact absurd hstart hnext.2

/-- A cycle is entered in one place. -/
theorem Enters.unique {entry' : String} (h : s.Enters cycle start entry)
    (h' : s.Enters cycle start entry') : entry = entry' := by
  have hunique : Relator.RightUnique fun a b => s.PassesTo a b ∧ a ∉ cycle :=
    fun a b c hb hc => passesTo_rightUnique s hb.1 hc.1
  rcases h.leads.total_of_right_unique hunique h'.leads with hr | hr
  · exact (Enters.eq_of_mem ⟨h'.mem, hr⟩ h.mem).symm
  · exact Enters.eq_of_mem ⟨h.mem, hr⟩ h'.mem

/-! ## The search from one key -/

/-- The cycle that a search finds begins where the way of the search has entered it. -/
theorem enters_of_cycleFrom? (hl : s.isLineless start = true)
    (h : s.cycleFrom? [] start = some cycle) :
    ∃ first rest, cycle = first :: rest ∧ s.Enters cycle start first := by
  obtain ⟨next, path, hnodup, hpath, hp, hlast, rfl⟩ :=
    exists_path_of_cycleFrom? [] start (by simp) (by simp) hl rfl h
  refine ⟨next, _, rfl, List.mem_cons_self, ?_⟩
  -- the keys behind the first visit of `next` are the cycle, those before it the way there
  obtain ⟨way, hway⟩ := eq_takeWhile_append hp
  generalize path.takeWhile (· ≠ next) = behind at hway ⊢
  subst hway
  obtain ⟨-, hnext, hdisjoint⟩ := List.nodup_append.1 hnodup
  refine reflTransGen_of_isChain hpath.tail.right_of_append (fun k hk hkc => ?_)
    (by simpa using hlast)
  rcases List.mem_cons.1 hkc with rfl | hkb
  · exact (List.nodup_cons.1 hnext).1 hk
  · exact hdisjoint k (List.mem_reverse.1 hkb) k (List.mem_cons_of_mem _ hk) rfl

/-! ## The first key that leads into a cycle -/

/-- A cycle that is found among some keys was added at one of them. -/
theorem exists_start_of_mem_foldl {found : List (List String)} {keys : List String}
    (h : cycle ∈ keys.foldl s.withCycleFrom found) :
    cycle ∈ found ∨ ∃ before start after, keys = before ++ start :: after ∧
      s.isLineless start = true ∧ s.cycleFrom? [] start = some cycle ∧
        ∀ c ∈ before.foldl s.withCycleFrom found, List.Disjoint c cycle := by
  induction keys generalizing found with
  | nil => exact Or.inl h
  | cons k keys ih =>
      rcases ih h with hmem | ⟨before, start, after, rfl, hadded⟩
      · rcases s.withCycleFrom_eq_or found k with heq | ⟨c, hl, hc, hdisjoint, heq⟩
        · exact Or.inl (heq ▸ hmem)
        · rw [heq] at hmem
          rcases List.mem_append.1 hmem with hmem | hmem
          · exact Or.inl hmem
          · obtain rfl := List.mem_singleton.1 hmem
            exact Or.inr ⟨[], k, keys, rfl, hl, hc, hdisjoint⟩
      · exact Or.inr ⟨k :: before, start, after, rfl, hadded⟩

/-- No key before the one at which a cycle was added leads into the cycle. -/
theorem not_leads_of_disjoint {keys : List String} (hIs : s.IsCycle cycle)
    (hdisjoint : ∀ c ∈ keys.foldl s.withCycleFrom [], List.Disjoint c cycle) (hkey : key ∈ keys)
    {k : String} (hk : k ∈ cycle) : ¬ReflTransGen s.PassesTo key k := by
  intro hr
  have hempty : ∀ c ∈ ([] : List (List String)), s.IsCycle c := by simp
  obtain ⟨c, hc, hkc⟩ := mem_foldl_withCycleFrom_of_circles hempty hkey hr (hIs.circles hk)
  exact hdisjoint c hc hkc hk

/-- The list of a cycle begins where the first key in order that leads into the cycle enters it, and
the check reports the cycle there, from that key to that key.  So it begins with the member that
comes first in order exactly if the cycle is entered there; this is so if no other key leads into
the cycle before all of its members. -/
theorem cycle_begins_where_entered {entries : List (String × Node)} {cycle : List String}
    (h : cycle ∈ (ofEntries entries).linelessCycles) :
    let s := ofEntries entries
    ∃ first rest before start after, cycle = first :: rest ∧ s.order = before ++ start :: after ∧
      (∀ key ∈ before, ∀ k ∈ cycle, ¬ReflTransGen s.PassesTo key k) ∧
      s.Enters cycle start first ∧
      (∀ earliest, s.order.find? (· ∈ cycle) = some earliest →
        (earliest = first ↔ s.Enters cycle start earliest)) ∧
      (start ∈ cycle → s.order.find? (· ∈ cycle) = some first) ∧
      ⟨.error, some first, "events without lines form a cycle: " ++
        " -> ".intercalate (first :: rest ++ [first])⟩ ∈ s.check := by
  intro s
  have hIs := isCycle_of_mem_linelessCycles h
  rcases exists_start_of_mem_foldl h with hnil | ⟨before, start, after, horder, hl, hc, hdisjoint⟩
  · simp at hnil
  obtain ⟨first, rest, rfl, henters⟩ := enters_of_cycleFrom? hl hc
  have hbefore : ∀ key ∈ before, ∀ k ∈ first :: rest, ¬ReflTransGen s.PassesTo key k :=
    fun key hkey k hk => not_leads_of_disjoint hIs hdisjoint hkey hk
  refine ⟨first, rest, before, start, after, rfl, horder, hbefore, henters, ?_, ?_,
    mem_check_of_linelessCycle h⟩
  · intro earliest _
    constructor
    · rintro rfl
      exact henters
    · exact fun hearliest => hearliest.unique henters
  · intro hstart
    have hnone : before.find? (· ∈ first :: rest) = none := by
      refine List.find?_eq_none.2 fun key hkey hmem => ?_
      exact hbefore key hkey key (by simpa using hmem) .refl
    rw [horder, List.find?_append, hnone, henters.eq_of_mem hstart]
    simp

theorem cycle_begins_millpond :
    let s := ofEntries millpond
    ["mill", "bank"] ∈ s.linelessCycles ∧ s.Enters ["mill", "bank"] "lane" "mill" ∧
      ¬s.Enters ["mill", "bank"] "lane" "bank" := by
  intro s
  have hmem : ["mill", "bank"] ∈ s.linelessCycles := by decide +kernel
  have hbank : s.order.find? (· ∈ ["mill", "bank"]) = some "bank" := by decide
  have hlane : s.PassesTo "lane" "mill" := landing_eq_passes_iff.2 ⟨_, rfl, rfl, rfl⟩
  obtain ⟨first, rest, before, start, after, hcycle, horder, hbefore, henters, hiff, -⟩ :=
    cycle_begins_where_entered hmem
  obtain ⟨rfl, rfl⟩ := List.cons.inj hcycle
  cases before with
  | cons key before =>
      obtain ⟨rfl, -⟩ := List.cons.inj horder
      exact absurd (.single hlane) (hbefore "lane" List.mem_cons_self "mill" List.mem_cons_self)
  | nil =>
      obtain ⟨rfl, -⟩ := List.cons.inj horder
      exact ⟨hmem, henters, fun h => absurd ((hiff "bank" hbank).2 h) (by decide)⟩

/-- The list of a cycle need not begin with the member that comes first in order, and it is not
there that the check reports the cycle. -/
theorem exists_cycle_not_from_earliest :
    let s := ofEntries millpond
    s.linelessCycles = [["mill", "bank"]] ∧
      s.order.find? (· ∈ ["mill", "bank"]) = some "bank" ∧
      s.check.filter (·.isErrorAt ["mill", "bank"]) = [⟨.error, some "mill",
        "events without lines form a cycle: mill -> bank -> mill"⟩] := by
  intro s
  have hcycles : s.linelessCycles = [["mill", "bank"]] := by decide +kernel
  have hIs : s.IsCycle ["mill", "bank"] :=
    isCycle_of_mem_linelessCycles (hcycles ▸ List.mem_cons_self)
  have honce : s.linelessCycles.filter ("mill" ∈ ·) = [["mill", "bank"]] := by
    rw [hcycles]
    decide
  exact ⟨hcycles, by decide, filter_check_eq honce hIs List.mem_cons_self⟩

end Script

end Narrative
