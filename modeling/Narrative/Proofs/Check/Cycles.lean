import Narrative.Proofs.Script.Chain
import Narrative.Proofs.Script.Findings

/-!
# Each cycle is found once

The dialogues without lines that lead to one another form a partial map, and the cycles of this map
are what the finder lists: each of them in exactly one list, from one of its keys on, and nothing
else.  The check reports one error for each list, and no other error at the keys of a cycle
(`cycles_found_once`).
-/

namespace Narrative

/-- The cycle that a problem is about. -/
def Problem.cycle? : Problem → Option (List String)
  | .linelessCycle first rest => some (first :: rest)
  | _ => none

/-- The finding is an error at one of these events. -/
def Finding.isErrorAt (f : Finding) (events : List String) : Bool :=
  f.severity = .error ∧ f.event ∈ events.map some

theorem Finding.isErrorAt_of_iff {event : String} {p : Problem} {events : List String} :
    (Finding.of (some event) p).isErrorAt events = true ↔
      p.severity = .error ∧ event ∈ events := by
  simp [isErrorAt, Finding.of]

namespace Script

open Relation

variable {s : Script} {key k first : String} {rest cycle : List String}

/-- The dialogue without lines that comes after a dialogue without lines. -/
def linelessNext? (s : Script) (key : String) : Option String :=
  (s.passesOn? key).filter fun next => s.isLineless next

/-- One dialogue without lines leads to another. -/
def LinelessTo (s : Script) (key next : String) : Prop := s.linelessNext? key = some next

theorem linelessTo_iff {next : String} :
    s.LinelessTo key next ↔ s.PassesTo key next ∧ s.isLineless next = true := by
  rw [LinelessTo, linelessNext?, Option.filter_eq_some_iff, passesOn?_eq_some_iff]

theorem circles_of_transGen_linelessTo (h : TransGen s.LinelessTo key key) : s.Circles key :=
  TransGen.mono (fun _ _ hk => (linelessTo_iff.1 hk).1) key key h

/-- On a circle every key that a run is passed on to is a dialogue without lines. -/
theorem Circles.transGen_linelessTo_iff (h : s.Circles key) :
    TransGen s.LinelessTo key k ↔ TransGen s.PassesTo key k := by
  constructor
  · exact fun hk => TransGen.mono (fun _ _ hab => (linelessTo_iff.1 hab).1) key k hk
  · intro hk
    induction hk with
    | single hb => exact .single (linelessTo_iff.2 ⟨hb, (h.of_passesTo (.single hb)).isLineless⟩)
    | tail hb hbc ih =>
        have hc := (h.of_passesTo hb.to_reflTransGen).of_passesTo (.single hbc)
        exact ih.tail (linelessTo_iff.2 ⟨hbc, hc.isLineless⟩)

theorem IsCycle.isLineless (h : s.IsCycle cycle) (hk : key ∈ cycle) : s.isLineless key = true :=
  (h.circles hk).isLineless

theorem IsCycle.isChain_linelessTo (h : s.IsCycle (first :: rest)) :
    List.IsChain s.LinelessTo (first :: rest ++ [first]) := by
  refine h.2.imp_of_mem_imp fun a b _ hb hab => linelessTo_iff.2 ⟨hab, ?_⟩
  rcases List.mem_append.1 hb with hb | hb
  · exact h.isLineless hb
  · exact h.isLineless (by simp_all)

theorem IsCycle.mem_iff (h : s.IsCycle cycle) (hkey : key ∈ cycle) :
    k ∈ cycle ↔ TransGen s.PassesTo key k := by
  constructor
  · exact fun hk => TransGen.trans_left (h.circles hkey) (h.reflTransGen hkey hk)
  · exact fun hk => h.mem_of_reflTransGen hkey hk.to_reflTransGen

/-! ## Each cycle in one list -/

theorem pairwise_disjoint_foldl_withCycleFrom {found : List (List String)} (keys : List String)
    (hfound : found.Pairwise List.Disjoint) :
    (keys.foldl s.withCycleFrom found).Pairwise List.Disjoint := by
  induction keys generalizing found with
  | nil => exact hfound
  | cons key keys ih =>
      refine ih ?_
      rcases s.withCycleFrom_eq_or found key with h | ⟨cycle, -, -, hdisjoint, h⟩
      · rwa [h]
      · rw [h, List.pairwise_append]
        refine ⟨hfound, List.pairwise_singleton _ _, fun c hc c' hc' => ?_⟩
        obtain rfl := List.mem_singleton.1 hc'
        exact hdisjoint c hc

theorem pairwise_disjoint_linelessCycles (s : Script) :
    s.linelessCycles.Pairwise List.Disjoint :=
  pairwise_disjoint_foldl_withCycleFrom s.order .nil

/-- Among lists without common keys a key is in one list at most. -/
theorem filter_mem_eq_singleton {lists : List (List String)} (h : lists.Pairwise List.Disjoint)
    (hmem : cycle ∈ lists) (hkey : key ∈ cycle) : lists.filter (key ∈ ·) = [cycle] := by
  induction lists with
  | nil => simp at hmem
  | cons c lists ih =>
      obtain ⟨hdisjoint, hlists⟩ := List.pairwise_cons.1 h
      rcases List.mem_cons.1 hmem with rfl | hmem
      · rw [List.filter_cons_of_pos (by simpa using hkey), List.filter_eq_nil_iff.2]
        exact fun c' hc' hkey' => hdisjoint c' hc' hkey (by simpa using hkey')
      · have hnot : key ∉ c := fun hc => hdisjoint cycle hmem hc hkey
        rw [List.filter_cons_of_neg (by simpa using hnot), ih hlists hmem]

/-- On a circle of a script whose keys are those of its events, a key is in exactly one of the lists
found, and that list is the circle. -/
theorem Coherent.exists_filter_linelessCycles_eq (hs : s.Coherent) (h : s.Circles key) :
    ∃ first rest, s.linelessCycles.filter (key ∈ ·) = [first :: rest] ∧
      s.IsCycle (first :: rest) ∧ key ∈ first :: rest := by
  obtain ⟨d, hn, -⟩ := isLineless_iff.1 h.isLineless
  obtain ⟨cycle, hcycle, hkey⟩ := exists_linelessCycle_of_circles (hs.mem_order_of_node? hn) h
  have honce := filter_mem_eq_singleton s.pairwise_disjoint_linelessCycles hcycle hkey
  have hIs := isCycle_of_mem_linelessCycles hcycle
  cases cycle with
  | nil => exact hIs.elim
  | cons first rest => exact ⟨first, rest, honce, hIs, hkey⟩

/-! ## One error for each list -/

theorem cycle?_of_mem_nodeProblems {n : Node} {p : Problem} (h : p ∈ s.nodeProblems n) :
    p.cycle? = none := by
  rcases faulty_or_of_mem_nodeProblems h with hf | rfl | ⟨branch, rfl⟩
  · cases hf <;> rfl
  · rfl
  · rfl

/-- The problem that a cycle is reported as, at the first of its keys. -/
def cycleProblem? (cycle : List String) : Option (String × Problem) :=
  cycle.head?.map fun first => (first, .linelessCycle first cycle.tail)

theorem cycleProblems_eq (s : Script) :
    s.cycleProblems = s.linelessCycles.filterMap cycleProblem? :=
  List.filterMap_congr fun cycle _ => by cases cycle <;> rfl

theorem filterMap_cycle?_cycleProblems (s : Script) :
    s.cycleProblems.filterMap (fun p => p.2.cycle?) = s.linelessCycles := by
  have hsome : ∀ cycle ∈ s.linelessCycles,
      (cycleProblem? cycle).bind (fun p => p.2.cycle?) = some cycle := by
    intro cycle hcycle
    cases cycle with
    | nil => exact (isCycle_of_mem_linelessCycles hcycle).elim
    | cons first rest => rfl
  rw [cycleProblems_eq, List.filterMap_filterMap, List.filterMap_congr hsome, List.filterMap_some]

/-- The cycle problems of a script are its cycles, one for each, in the same order. -/
theorem filterMap_cycle?_problems (s : Script) :
    s.problems.filterMap (fun p => p.2.cycle?) = s.linelessCycles := by
  unfold problems
  split
  · rename_i ho
    rw [linelessCycles, List.isEmpty_iff.1 ho]
    rfl
  · have hnodes : (s.entries.flatMap fun e => (s.nodeProblems e.2).map (some e.1, ·)).filterMap
        (fun p => p.2.cycle?) = [] := by
      refine List.filterMap_eq_nil_iff.2 fun p hp => ?_
      obtain ⟨e, -, hpe⟩ := List.mem_flatMap.1 hp
      obtain ⟨q, hq, rfl⟩ := List.mem_map.1 hpe
      exact cycle?_of_mem_nodeProblems hq
    have hunreached : (s.unreached.map fun key => (some key, Problem.neverReached)).filterMap
        (fun p => p.2.cycle?) = [] := by
      simp [Problem.cycle?]
    rw [List.filterMap_append, List.filterMap_append, hnodes, hunreached, List.filterMap_map,
      List.nil_append, List.append_nil]
    exact s.filterMap_cycle?_cycleProblems

/-- A dialogue on a cycle has no fault of its own: what it leads to is an event. -/
theorem IsCycle.not_faulty (h : s.IsCycle cycle) (hkey : key ∈ cycle) {n : Node}
    (hn : s.node? key = some n) {p : Problem} : ¬s.Faulty n p := by
  obtain ⟨next, hpasses, hr⟩ := (h.circles hkey).exists_passesTo .refl
  obtain ⟨d, hd, -, hnext⟩ := landing_eq_passes_iff.1 hpasses
  obtain rfl : n = .dialogue d := Option.some.inj (hn.symm.trans hd)
  intro hf
  cases hf with
  | undefinedNext hnamed hundefined =>
      rw [successor?, hnamed] at hnext
      obtain rfl := Option.some.inj hnext
      obtain ⟨e, he, -⟩ :=
        isLineless_iff.1 (h.isLineless (h.mem_of_passesTo hkey hpasses))
      rw [defines_of_node? he] at hundefined
      cases hundefined

/-- Two cycles that have a key in common have all keys in common. -/
theorem IsCycle.mem_comm {cycle' : List String} (h : s.IsCycle cycle) (h' : s.IsCycle cycle')
    (hkey : key ∈ cycle) (hk : k ∈ cycle') : k ∈ cycle ↔ key ∈ cycle' :=
  ⟨fun hk' => h'.mem_of_reflTransGen hk (h.reflTransGen hk' hkey),
    fun hkey' => h.mem_of_reflTransGen hkey (h'.reflTransGen hkey' hk)⟩

theorem filter_cycleProblems_eq (honce : s.linelessCycles.filter (key ∈ ·) = [first :: rest])
    (hIs : s.IsCycle (first :: rest)) (hkey : key ∈ first :: rest) :
    s.cycleProblems.filter (fun p => p.1 ∈ first :: rest) =
      [(first, .linelessCycle first rest)] := by
  have hcommon : ∀ c ∈ s.linelessCycles, ∀ first' rest', c = first' :: rest' →
      (first' ∈ first :: rest ↔ key ∈ c) := by
    rintro c hc first' rest' rfl
    exact hIs.mem_comm (isCycle_of_mem_linelessCycles hc) hkey List.mem_cons_self
  have hfilter : s.cycleProblems.filter (fun p => p.1 ∈ first :: rest) =
      (s.linelessCycles.filter (key ∈ ·)).filterMap cycleProblem? := by
    rw [cycleProblems_eq, List.filter_filterMap, List.filterMap_filter]
    refine List.filterMap_congr fun c hc => ?_
    cases c with
    | nil => simp [cycleProblem?]
    | cons first' rest' =>
        simp only [cycleProblem?, List.head?_cons, Option.map_some, Option.filter_some,
          decide_eq_true_eq, hcommon _ hc first' rest' rfl]
  rw [hfilter, honce]
  rfl

theorem filter_check_nodes_eq_nil (hIs : s.IsCycle cycle) :
    ((s.entries.flatMap fun e => (s.nodeProblems e.2).map (some e.1, ·)).map
      fun p => Finding.of p.1 p.2).filter (·.isErrorAt cycle) = [] := by
  refine List.filter_eq_nil_iff.2 fun f hf => ?_
  obtain ⟨p, hp, rfl⟩ := List.mem_map.1 hf
  obtain ⟨⟨k, n⟩, he, hpe⟩ := List.mem_flatMap.1 hp
  obtain ⟨q, hq, rfl⟩ := List.mem_map.1 hpe
  intro herror
  obtain ⟨hseverity, hk⟩ := Finding.isErrorAt_of_iff.1 herror
  rcases faulty_or_of_mem_nodeProblems hq with hfault | rfl | ⟨branch, rfl⟩
  · exact hIs.not_faulty hk (mem_entries_iff.1 he).2 hfault
  · cases hseverity
  · cases hseverity

theorem filter_check_unreached_eq_nil (s : Script) (cycle : List String) :
    ((s.unreached.map fun key => (some key, Problem.neverReached)).map
      fun p => Finding.of p.1 p.2).filter (·.isErrorAt cycle) = [] := by
  refine List.filter_eq_nil_iff.2 fun f hf => ?_
  obtain ⟨p, hp, rfl⟩ := List.mem_map.1 hf
  obtain ⟨k, -, rfl⟩ := List.mem_map.1 hp
  intro herror
  cases (Finding.isErrorAt_of_iff.1 herror).1

theorem filter_check_cycles_eq (honce : s.linelessCycles.filter (key ∈ ·) = [first :: rest])
    (hIs : s.IsCycle (first :: rest)) (hkey : key ∈ first :: rest) :
    ((s.cycleProblems.map fun p => (some p.1, p.2)).map
      fun p => Finding.of p.1 p.2).filter (·.isErrorAt (first :: rest)) =
        [.of (some first) (.linelessCycle first rest)] := by
  have hfilter : s.cycleProblems.filter
      (fun p => (Finding.of (some p.1) p.2).isErrorAt (first :: rest)) =
        s.cycleProblems.filter fun p => p.1 ∈ first :: rest := by
    refine List.filter_congr fun p hp => ?_
    obtain ⟨rest', -, hproblem⟩ :=
      mem_cycleProblems_iff.1 (show (p.1, p.2) ∈ s.cycleProblems from hp)
    rw [Bool.eq_iff_iff, Finding.isErrorAt_of_iff, hproblem]
    simp [Problem.severity]
  rw [List.map_map, List.filter_map]
  exact congrArg _ (hfilter.trans (filter_cycleProblems_eq honce hIs hkey))

/-- At the keys of a cycle the check reports one error: that they form the cycle. -/
theorem filter_check_eq (honce : s.linelessCycles.filter (key ∈ ·) = [first :: rest])
    (hIs : s.IsCycle (first :: rest)) (hkey : key ∈ first :: rest) :
    s.check.filter (·.isErrorAt (first :: rest)) =
      [.of (some first) (.linelessCycle first rest)] := by
  have horder : s.order ≠ [] := by
    intro ho
    simp [linelessCycles, ho] at honce
  rw [check, problems, if_neg (by simpa using horder), List.map_append, List.map_append,
    List.filter_append, List.filter_append, filter_check_nodes_eq_nil hIs,
    filter_check_cycles_eq honce hIs hkey, filter_check_unreached_eq_nil]
  rfl

/-- In a script that is built from entries, the lists that the finder gives are cycles of dialogues
without lines, and no two of them have a key in common.  Each key that comes back to itself through
such dialogues is in exactly one list, and the keys of this list are those that it comes through.
The check reports the cycles found, each one once and in this order; at the keys of a cycle it
reports no other error. -/
theorem cycles_found_once (entries : List (String × Node)) :
    let s := Script.ofEntries entries
    (∀ cycle ∈ s.linelessCycles, ∃ first rest, cycle = first :: rest ∧ cycle.Nodup ∧
      List.IsChain s.LinelessTo (cycle ++ [first])) ∧
    s.linelessCycles.Pairwise List.Disjoint ∧
    (∀ key, TransGen s.LinelessTo key key → ∃ first rest,
      s.linelessCycles.filter (key ∈ ·) = [first :: rest] ∧
      (∀ k, k ∈ first :: rest ↔ TransGen s.LinelessTo key k) ∧
      s.check.filter (·.isErrorAt (first :: rest)) = [⟨.error, some first,
        "events without lines form a cycle: " ++ " -> ".intercalate (first :: rest ++ [first])⟩]) ∧
    s.problems.filterMap (fun p => p.2.cycle?) = s.linelessCycles := by
  intro s
  refine ⟨fun cycle hcycle => ?_, s.pairwise_disjoint_linelessCycles, fun key hkey => ?_,
    s.filterMap_cycle?_problems⟩
  · have hIs := isCycle_of_mem_linelessCycles hcycle
    cases cycle with
    | nil => exact hIs.elim
    | cons first rest => exact ⟨first, rest, rfl, hIs.nodup, hIs.isChain_linelessTo⟩
  · have hcircles := circles_of_transGen_linelessTo hkey
    obtain ⟨first, rest, honce, hIs, hmem⟩ :=
      (coherent_ofEntries entries).exists_filter_linelessCycles_eq hcircles
    refine ⟨first, rest, honce, fun k => ?_, filter_check_eq honce hIs hmem⟩
    rw [hIs.mem_iff hmem, hcircles.transGen_linelessTo_iff]

/-- A lane that leads to the mill, and a bank and a mill that lead to each other. -/
def millpond : List (String × Node) :=
  [("lane", .dialogue { next := some "mill" }),
    ("bank", .dialogue {}),
    ("mill", .dialogue { next := some "bank" })]

theorem cycles_found_millpond :
    let s := ofEntries millpond
    TransGen s.LinelessTo "bank" "bank" ∧
      s.linelessCycles.filter ("bank" ∈ ·) = [["mill", "bank"]] ∧
      (∀ k, k ∈ ["mill", "bank"] ↔ TransGen s.LinelessTo "bank" k) ∧
      s.check.filter (·.isErrorAt ["mill", "bank"]) = [⟨.error, some "mill",
        "events without lines form a cycle: mill -> bank -> mill"⟩] := by
  intro s
  have hbank : TransGen s.LinelessTo "bank" "bank" :=
    .tail (.single (show s.linelessNext? "bank" = some "mill" by decide))
      (show s.linelessNext? "mill" = some "bank" by decide)
  have hcycle : s.linelessCycles.filter ("bank" ∈ ·) = [["mill", "bank"]] := by decide +kernel
  obtain ⟨-, -, honce, -⟩ := cycles_found_once millpond
  obtain ⟨first, rest, hfilter, hmem, hcheck⟩ := honce "bank" hbank
  obtain ⟨rfl, rfl⟩ := List.cons.inj (List.cons.inj (hfilter.symm.trans hcycle)).1
  exact ⟨hbank, hcycle, hmem, hcheck⟩

end Script

end Narrative
