import Mathlib.Data.List.Chain
import Narrative.Proofs.Script.Passing
import Narrative.Script.Cycle

/-!
# Cycles without lines

A cycle is a list of keys without repetition, each of which passes a run on to the next one and the
last of which passes it back to the first.  The finder lists nothing but cycles
(`isCycle_of_mem_linelessCycles`), and each key that passing on comes back to is in one of them
(`exists_linelessCycle_of_circles`).
-/

namespace Narrative

namespace Script

open Relation

/-- Each key passes a run on to the next, and the last one to the first. -/
def IsCycle (s : Script) : List String → Prop
  | [] => False
  | first :: rest => (first :: rest).Nodup ∧ List.IsChain s.PassesTo (first :: rest ++ [first])

theorem isLineless_iff {s : Script} {key : String} :
    s.isLineless key = true ↔ ∃ d, s.node? key = some (.dialogue d) ∧ d.lines = [] := by
  unfold isLineless
  cases hn : s.node? key with
  | none => simp
  | some n => cases n <;> simp

theorem PassesTo.isLineless {s : Script} {key next : String} (h : s.PassesTo key next) :
    s.isLineless key = true := by
  obtain ⟨d, hn, hl, _⟩ := landing_eq_passes_iff.1 h
  exact isLineless_iff.2 ⟨d, hn, hl⟩

theorem Circles.isLineless {s : Script} {key : String} (h : s.Circles key) :
    s.isLineless key = true := by
  obtain ⟨_, hb, _⟩ := TransGen.head'_iff.1 h
  exact hb.isLineless

theorem linelessAfter?_eq_some_iff {s : Script} {key next : String}
    (hkey : s.isLineless key = true) :
    s.linelessAfter? key = some next ↔ s.PassesTo key next ∧ s.isLineless next = true := by
  obtain ⟨d, hn, hl⟩ := isLineless_iff.1 hkey
  have hpasses : s.PassesTo key next ↔ s.successor? key d = some next := by
    refine landing_eq_passes_iff.trans ⟨fun h => ?_, fun h => ⟨d, hn, hl, h⟩⟩
    obtain ⟨d', hn', _, hd⟩ := h
    obtain rfl : d = d' := by simpa [hn] using hn'
    exact hd
  simp [linelessAfter?, hn, Option.filter_eq_some_iff, hpasses]

/-! ## Cycles -/

theorem IsCycle.nodup {s : Script} {cycle : List String} (h : s.IsCycle cycle) : cycle.Nodup := by
  cases cycle with
  | nil => simp
  | cons first rest => exact h.1

/-- All keys of a cycle come before its first key comes back. -/
theorem IsCycle.transGen_head {s : Script} {first : String} {rest : List String}
    (h : s.IsCycle (first :: rest)) {key : String} (hk : key ∈ first :: rest) :
    TransGen s.PassesTo key first := by
  have hpairs : List.Pairwise (TransGen s.PassesTo) (first :: rest ++ [first]) :=
    (h.2.imp fun _ _ => TransGen.single).pairwise
  exact (List.pairwise_append.1 hpairs).2.2 key hk first (by simp)

theorem IsCycle.transGen_of_head {s : Script} {first : String} {rest : List String}
    (h : s.IsCycle (first :: rest)) {key : String} (hk : key ∈ rest) :
    TransGen s.PassesTo first key := by
  have hpairs : List.Pairwise (TransGen s.PassesTo) (first :: (rest ++ [first])) :=
    (h.2.imp fun _ _ => TransGen.single).pairwise
  exact (List.pairwise_cons.1 hpairs).1 key (List.mem_append_left _ hk)

theorem IsCycle.circles {s : Script} {cycle : List String} (h : s.IsCycle cycle) {key : String}
    (hk : key ∈ cycle) : s.Circles key := by
  cases cycle with
  | nil => exact h.elim
  | cons first rest =>
      rcases List.mem_cons.1 hk with rfl | hr
      · exact h.transGen_head List.mem_cons_self
      · exact (h.transGen_head hk).trans (h.transGen_of_head hr)

theorem IsCycle.reflTransGen {s : Script} {cycle : List String} (h : s.IsCycle cycle)
    {a b : String} (ha : a ∈ cycle) (hb : b ∈ cycle) : ReflTransGen s.PassesTo a b := by
  cases cycle with
  | nil => exact h.elim
  | cons first rest =>
      have hfirst : ReflTransGen s.PassesTo a first := (h.transGen_head ha).to_reflTransGen
      rcases List.mem_cons.1 hb with rfl | hb
      · exact hfirst
      · exact hfirst.trans (h.transGen_of_head hb).to_reflTransGen

theorem exists_rel_of_isChain {R : String → String → Prop} {key : String} (z : String) :
    ∀ l : List String, List.IsChain R (l ++ [z]) → key ∈ l → ∃ b ∈ l ++ [z], R key b
  | [], _, hk => absurd hk (by simp)
  | [a], h, hk => by
      obtain rfl : key = a := by simpa using hk
      exact ⟨z, by simp, by simpa using h⟩
  | a :: b :: l, h, hk => by
      rcases List.mem_cons.1 hk with rfl | hk
      · exact ⟨b, by simp, (List.isChain_cons_cons.1 h).1⟩
      · obtain ⟨c, hc, hR⟩ := exists_rel_of_isChain z (b :: l) (List.isChain_cons_cons.1 h).2 hk
        exact ⟨c, List.mem_cons_of_mem _ hc, hR⟩

/-- Passing on does not lead out of a cycle. -/
theorem IsCycle.mem_of_passesTo {s : Script} {cycle : List String} (h : s.IsCycle cycle)
    {key next : String} (hk : key ∈ cycle) (hn : s.PassesTo key next) : next ∈ cycle := by
  cases cycle with
  | nil => exact h.elim
  | cons first rest =>
      obtain ⟨b, hb, hkb⟩ := exists_rel_of_isChain first (first :: rest) h.2 hk
      obtain rfl : next = b := passesTo_rightUnique s hn hkb
      rcases List.mem_append.1 hb with hb | hb
      · exact hb
      · simp_all

theorem IsCycle.mem_of_reflTransGen {s : Script} {cycle : List String} (h : s.IsCycle cycle)
    {key k : String} (hk : key ∈ cycle) (hr : ReflTransGen s.PassesTo key k) : k ∈ cycle := by
  induction hr with
  | refl => exact hk
  | tail _ hbc ih => exact h.mem_of_passesTo ih hbc

/-- On a circle passing on also leads back. -/
theorem Circles.reflTransGen_symm {s : Script} {key k : String} (h : s.Circles key)
    (hk : ReflTransGen s.PassesTo key k) : ReflTransGen s.PassesTo k key := by
  induction hk with
  | refl => exact .refl
  | @tail b c hb hbc ih =>
      obtain ⟨c', hc', hc⟩ := TransGen.head'_iff.1 (h.of_passesTo hb)
      obtain rfl : c = c' := passesTo_rightUnique s hbc hc'
      exact hc.trans ih

/-! ## The search for a cycle -/

theorem cycleFrom?_of_none {s : Script} {key : String} (h : s.linelessAfter? key = none)
    (before : List String) : s.cycleFrom? before key = none := by
  rw [cycleFrom?]
  split
  · rfl
  · rename_i h'
    exact absurd (h.symm.trans h') (by simp)

theorem cycleFrom?_of_some {s : Script} {key next : String} {before : List String}
    (h : s.linelessAfter? key = some next) : s.cycleFrom? before key =
      if next ∈ key :: before then some (next :: ((key :: before).takeWhile (· ≠ next)).reverse)
      else s.cycleFrom? (key :: before) next := by
  rw [cycleFrom?]
  split
  · rename_i h'
    exact absurd (h.symm.trans h') (by simp)
  · rename_i next' h'
    obtain rfl : next = next' := Option.some.inj (h.symm.trans h')
    rfl

theorem cycleFrom?_of_mem {s : Script} {key next : String} {before : List String}
    (h : s.linelessAfter? key = some next) (hp : next ∈ key :: before) :
    s.cycleFrom? before key =
      some (next :: ((key :: before).takeWhile (· ≠ next)).reverse) := by
  rw [cycleFrom?_of_some h, if_pos hp]

theorem cycleFrom?_of_not_mem {s : Script} {key next : String} {before : List String}
    (h : s.linelessAfter? key = some next) (hp : next ∉ key :: before) :
    s.cycleFrom? before key = s.cycleFrom? (key :: before) next := by
  rw [cycleFrom?_of_some h, if_neg hp]

theorem eq_takeWhile_append {next : String} {path : List String} (hp : next ∈ path) :
    ∃ before, path = path.takeWhile (· ≠ next) ++ next :: before := by
  induction path with
  | nil => simp at hp
  | cons key path ih =>
      by_cases hk : key = next
      · exact ⟨path, by simp [hk]⟩
      · obtain ⟨before, hb⟩ := ih ((List.mem_cons.1 hp).resolve_left (Ne.symm hk))
        refine ⟨before, ?_⟩
        rw [List.takeWhile_cons_of_pos (by simpa using hk), List.cons_append, ← hb]

/-- A path that comes back to one of its keys has a cycle for its end.  The path is given last key
first, as the search carries it. -/
theorem isCycle_of_path {s : Script} {next : String} {path : List String} (hnodup : path.Nodup)
    (hpath : List.IsChain (fun a b => s.PassesTo b a) (next :: path)) (hp : next ∈ path) :
    s.IsCycle (next :: (path.takeWhile (· ≠ next)).reverse) := by
  obtain ⟨before, hb⟩ := eq_takeWhile_append hp
  generalize path.takeWhile (· ≠ next) = behind at hb ⊢
  have hsplit : next :: path = (next :: behind ++ [next]) ++ before := by simp [hb]
  constructor
  · have hnd : (behind ++ [next]).Nodup := by
      rw [hb, List.append_cons] at hnodup
      exact (List.nodup_append.1 hnodup).1
    simpa using (List.reverse_perm _).nodup_iff.2 hnd
  · rw [hsplit] at hpath
    simpa using List.isChain_reverse.2 hpath.left_of_append

/-- Along a path that is given last key first, its first key leads to its last one. -/
theorem reflTransGen_of_isChain {R : String → String → Prop} {P : String → Prop}
    {start key : String} {path : List String}
    (hpath : List.IsChain (fun a b => R b a) (key :: path)) (hP : ∀ k ∈ path, P k)
    (hstart : (key :: path).getLast? = some start) :
    ReflTransGen (fun a b => R a b ∧ P a) start key := by
  induction path generalizing key with
  | nil =>
      obtain rfl : key = start := by simpa using hstart
      exact .refl
  | cons k path ih =>
      obtain ⟨hk, hpath⟩ := List.isChain_cons_cons.1 hpath
      have hleads := ih hpath (fun k' hk' => hP k' (List.mem_cons_of_mem _ hk'))
        (by simpa using hstart)
      exact hleads.tail ⟨hk, hP k List.mem_cons_self⟩

/-- The search goes along a path without repetition, and what it finds is the end of the path from
the key on that it has come back to. -/
theorem exists_path_of_cycleFrom? {s : Script} (before : List String) (key : String)
    {start : String} {cycle : List String} :
    (key :: before).Nodup → List.IsChain (fun a b => s.PassesTo b a) (key :: before) →
      s.isLineless key = true → (key :: before).getLast? = some start →
        s.cycleFrom? before key = some cycle →
          ∃ next path, path.Nodup ∧ List.IsChain (fun a b => s.PassesTo b a) (next :: path) ∧
            next ∈ path ∧ path.getLast? = some start ∧
              cycle = next :: (path.takeWhile (· ≠ next)).reverse := by
  induction before, key using cycleFrom?.induct s with
  | case1 before key h =>
      intro _ _ _ _ hc
      simp [cycleFrom?_of_none h] at hc
  | case2 before key next h hp =>
      intro hnodup hpath hl hstart hc
      have hn := (linelessAfter?_eq_some_iff hl).1 h
      rw [cycleFrom?_of_mem h hp] at hc
      exact ⟨next, key :: before, hnodup, List.isChain_cons_cons.2 ⟨hn.1, hpath⟩, hp, hstart,
        (Option.some.inj hc).symm⟩
  | case3 before key next h hp _ ih =>
      intro hnodup hpath hl hstart hc
      have hn := (linelessAfter?_eq_some_iff hl).1 h
      rw [cycleFrom?_of_not_mem h hp] at hc
      exact ih (List.nodup_cons.2 ⟨hp, hnodup⟩) (List.isChain_cons_cons.2 ⟨hn.1, hpath⟩) hn.2
        (by simpa using hstart) hc

/-- What the search finds is a cycle, and the key that it starts from leads there. -/
theorem isCycle_of_cycleFrom? {s : Script} {key : String} {cycle : List String}
    (hl : s.isLineless key = true) (h : s.cycleFrom? [] key = some cycle) :
    s.IsCycle cycle ∧ ∃ k ∈ cycle, ReflTransGen s.PassesTo key k := by
  obtain ⟨next, path, hnodup, hpath, hp, hlast, rfl⟩ :=
    exists_path_of_cycleFrom? [] key (by simp) (by simp) hl rfl h
  refine ⟨isCycle_of_path hnodup hpath hp, next, List.mem_cons_self, ?_⟩
  have hleads := reflTransGen_of_isChain hpath (fun _ _ => trivial)
    (List.getLast?_cons_of_ne_nil (List.ne_nil_of_mem hp) ▸ hlast)
  exact ReflTransGen.mono (fun _ _ hab => hab.1) key next hleads

/-- On the way to a circle there is always a next key. -/
theorem Circles.exists_passesTo {s : Script} {key k : String} (h : s.Circles k)
    (hr : ReflTransGen s.PassesTo key k) :
    ∃ next, s.PassesTo key next ∧ ReflTransGen s.PassesTo next k := by
  rcases hr.cases_head with rfl | hnext
  · exact TransGen.head'_iff.1 h
  · exact hnext

/-- What leads to a circle is a dialogue without lines. -/
theorem Circles.isLineless_of_reflTransGen {s : Script} {key k : String} (h : s.Circles k)
    (hr : ReflTransGen s.PassesTo key k) : s.isLineless key = true := by
  obtain ⟨_, hnext, _⟩ := h.exists_passesTo hr
  exact hnext.isLineless

/-- On the way to a circle the search always finds a next key, so it ends by finding a cycle. -/
theorem exists_cycleFrom?_of_circles {s : Script} (before : List String) (key : String)
    {k : String} (hc : s.Circles k) :
    ReflTransGen s.PassesTo key k → ∃ cycle, s.cycleFrom? before key = some cycle := by
  induction before, key using cycleFrom?.induct s with
  | case1 before key h =>
      intro hr
      obtain ⟨next, hn, hnext⟩ := hc.exists_passesTo hr
      have hsome := (linelessAfter?_eq_some_iff hn.isLineless).2
        ⟨hn, hc.isLineless_of_reflTransGen hnext⟩
      exact absurd (h.symm.trans hsome) (by simp)
  | case2 before key next h hp =>
      intro _
      exact ⟨_, cycleFrom?_of_mem h hp⟩
  | case3 before key next h hp _ ih =>
      intro hr
      obtain ⟨b, hb, hbk⟩ := hc.exists_passesTo hr
      have hn := (linelessAfter?_eq_some_iff hb.isLineless).1 h
      obtain rfl : next = b := passesTo_rightUnique s hn.1 hb
      obtain ⟨cycle, hcycle⟩ := ih hbk
      exact ⟨cycle, (cycleFrom?_of_not_mem h hp).trans hcycle⟩

/-- A circle is in the cycle that is found from a key that leads to it. -/
theorem mem_of_cycleFrom?_of_circles {s : Script} {key k : String} {cycle : List String}
    (hr : ReflTransGen s.PassesTo key k) (hc : s.Circles k)
    (h : s.cycleFrom? [] key = some cycle) : s.IsCycle cycle ∧ k ∈ cycle := by
  obtain ⟨hcycle, k', hk', hr'⟩ := isCycle_of_cycleFrom? (hc.isLineless_of_reflTransGen hr) h
  refine ⟨hcycle, ?_⟩
  rcases hr.total_of_right_unique (passesTo_rightUnique s) hr' with hkk | hkk
  · exact hcycle.mem_of_reflTransGen hk' (hc.reflTransGen_symm hkk)
  · exact hcycle.mem_of_reflTransGen hk' hkk

/-! ## The list of cycles -/

/-- A cycle that is added has no key in common with those found before. -/
theorem withCycleFrom_eq_or (s : Script) (found : List (List String)) (key : String) :
    s.withCycleFrom found key = found ∨
      ∃ cycle, s.isLineless key = true ∧ s.cycleFrom? [] key = some cycle ∧
        (∀ c ∈ found, List.Disjoint c cycle) ∧ s.withCycleFrom found key = found ++ [cycle] := by
  unfold withCycleFrom
  split
  · rename_i hkey
    split
    · rename_i cycle hc
      split
      · exact Or.inl rfl
      · rename_i hnew
        have hl := (Bool.and_eq_true_iff.1 hkey).1
        refine Or.inr ⟨cycle, hl, hc, fun c hcf k hk hk' => hnew ?_, rfl⟩
        exact List.any_eq_true.2 ⟨k, hk', List.contains_iff_mem.2 (List.mem_flatten.2 ⟨c, hcf, hk⟩)⟩
    · exact Or.inl rfl
  · exact Or.inl rfl

theorem isCycle_withCycleFrom {s : Script} {found : List (List String)} {key : String}
    (hfound : ∀ cycle ∈ found, s.IsCycle cycle) :
    ∀ cycle ∈ s.withCycleFrom found key, s.IsCycle cycle := by
  rcases s.withCycleFrom_eq_or found key with h | ⟨cycle, hl, hc, -, h⟩
  · rwa [h]
  · intro c hmem
    rw [h] at hmem
    rcases List.mem_append.1 hmem with hmem | hmem
    · exact hfound c hmem
    · obtain rfl : c = cycle := by simpa using hmem
      exact (isCycle_of_cycleFrom? hl hc).1

theorem subset_withCycleFrom (s : Script) (found : List (List String)) (key : String) :
    found ⊆ s.withCycleFrom found key := by
  rcases s.withCycleFrom_eq_or found key with h | ⟨cycle, -, -, -, h⟩
  · simp [h]
  · simp [h]

/-- After a key that leads to a circle has been looked at, the circle is in one of the cycles found:
in the new one, or in an old one that has a key in common with it. -/
theorem mem_withCycleFrom_of_circles {s : Script} {found : List (List String)} {key k : String}
    (hfound : ∀ cycle ∈ found, s.IsCycle cycle) (hr : ReflTransGen s.PassesTo key k)
    (hc : s.Circles k) : ∃ cycle ∈ s.withCycleFrom found key, k ∈ cycle := by
  obtain ⟨cycle, h⟩ := exists_cycleFrom?_of_circles [] key hc hr
  obtain ⟨hcycle, hk⟩ := mem_of_cycleFrom?_of_circles hr hc h
  by_cases hold : key ∈ found.flatten
  · obtain ⟨c, hcf, hkey⟩ := List.mem_flatten.1 hold
    exact ⟨c, s.subset_withCycleFrom found key hcf, (hfound c hcf).mem_of_reflTransGen hkey hr⟩
  · by_cases hany : cycle.any found.flatten.contains = true
    · obtain ⟨k', hk', hkf⟩ := List.any_eq_true.1 hany
      obtain ⟨c, hcf, hkc⟩ := List.mem_flatten.1 (List.contains_iff_mem.1 hkf)
      exact ⟨c, s.subset_withCycleFrom found key hcf,
        (hfound c hcf).mem_of_reflTransGen hkc (hcycle.reflTransGen hk' hk)⟩
    · have hlook : (s.isLineless key && !found.flatten.contains key) = true := by
        rw [hc.isLineless_of_reflTransGen hr, List.contains_eq_mem, decide_eq_false hold]
        rfl
      refine ⟨cycle, ?_, hk⟩
      rw [withCycleFrom, if_pos hlook, h]
      simp [hany]

theorem isCycle_foldl_withCycleFrom {s : Script} {found : List (List String)}
    (keys : List String) (hfound : ∀ cycle ∈ found, s.IsCycle cycle) :
    ∀ cycle ∈ keys.foldl s.withCycleFrom found, s.IsCycle cycle := by
  induction keys generalizing found with
  | nil => exact hfound
  | cons key keys ih => exact ih (isCycle_withCycleFrom hfound)

theorem subset_foldl_withCycleFrom (s : Script) (found : List (List String))
    (keys : List String) : found ⊆ keys.foldl s.withCycleFrom found := by
  induction keys generalizing found with
  | nil => exact List.Subset.refl found
  | cons key keys ih => exact List.Subset.trans (s.subset_withCycleFrom found key) (ih _)

theorem mem_foldl_withCycleFrom_of_circles {s : Script} {found : List (List String)}
    {keys : List String} (hfound : ∀ cycle ∈ found, s.IsCycle cycle) {key k : String}
    (hkey : key ∈ keys) (hr : ReflTransGen s.PassesTo key k) (hc : s.Circles k) :
    ∃ cycle ∈ keys.foldl s.withCycleFrom found, k ∈ cycle := by
  induction keys generalizing found with
  | nil => simp at hkey
  | cons first keys ih =>
      rcases List.mem_cons.1 hkey with rfl | hkey
      · obtain ⟨cycle, hcycle, hmem⟩ := mem_withCycleFrom_of_circles hfound hr hc
        exact ⟨cycle, s.subset_foldl_withCycleFrom _ keys hcycle, hmem⟩
      · exact ih (isCycle_withCycleFrom hfound) hkey

theorem isCycle_of_mem_linelessCycles {s : Script} {cycle : List String}
    (h : cycle ∈ s.linelessCycles) : s.IsCycle cycle :=
  isCycle_foldl_withCycleFrom s.order (by simp) cycle h

/-- Each key in order that lies on a circle is in one of the cycles listed. -/
theorem exists_linelessCycle_of_circles {s : Script} {key : String} (hkey : key ∈ s.order)
    (hc : s.Circles key) : ∃ cycle ∈ s.linelessCycles, key ∈ cycle :=
  mem_foldl_withCycleFrom_of_circles (by simp) hkey .refl hc

end Script

end Narrative
