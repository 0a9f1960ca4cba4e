import Mathlib.Data.List.Perm.Subperm
import Mathlib.Data.Nat.Find
import Narrative.Proofs.Script.LinelessCycle

/-!
# Chains of dialogues without lines

The chain from a key lists what a run is passed on to, key by key.  It ends at an event that does
not pass a run on (`ChainStops`), behind a dialogue without lines that nothing comes after
(`ChainRunsOut`), or goes on for ever and then repeats a key (`ChainReturns`).  There is no fourth
way (`exists_chainEnd`), as the keys that differ are no more than the events of the script.  A
journey goes along the chain and ends where the chain does: `journey_of_restsAt`,
`journey_of_runsOut`, `journey_of_again`.
-/

namespace Narrative

namespace Script

open Relation

variable {s : Script} {start key : String} {n : Nat}

/-- The key that comes after a dialogue without lines. -/
def passesOn? (s : Script) (key : String) : Option String :=
  match s.node? key with
  | some (.dialogue d) => if d.lines = [] then s.successor? key d else none
  | _ => none

/-- The keys that a run comes through from a key on: each one is the successor of the one before,
as long as that is a dialogue without lines. -/
def chain (s : Script) (start : String) : Nat → Option String
  | 0 => some start
  | n + 1 => (s.chain start n).bind s.passesOn?

/-- The keys of the chain before place `n` are all different. -/
def ChainDistinct (s : Script) (start : String) (n : Nat) : Prop :=
  ∀ i j, i < j → j < n → s.chain start i ≠ s.chain start j

/-- The chain comes to an event that is no dialogue without lines. -/
def ChainStops (s : Script) (start key : String) : Prop :=
  ∃ n, s.chain start n = some key ∧ s.isLineless key = false

/-- The chain comes to a dialogue without lines that nothing comes after. -/
def ChainRunsOut (s : Script) (start key : String) : Prop :=
  ∃ n, s.chain start n = some key ∧ s.isLineless key = true ∧ s.chain start (n + 1) = none

/-- The key is the first one that the chain comes to again. -/
def ChainReturns (s : Script) (start key : String) : Prop :=
  ∃ n, s.chain start n = some key ∧ (∃ i < n, s.chain start i = some key) ∧
    s.ChainDistinct start n

theorem passesOn?_eq_some_iff {next : String} :
    s.passesOn? key = some next ↔ s.PassesTo key next := by
  refine Iff.trans ?_ landing_eq_passes_iff.symm
  unfold passesOn?
  cases hn : s.node? key with
  | none => simp
  | some node =>
      cases node with
      | dialogue d => by_cases hl : d.lines = [] <;> simp [hl]
      | _ => simp

theorem landing_of_lineless (h : s.isLineless key = true) (hnone : s.passesOn? key = none) :
    s.landing key = .passes none := by
  obtain ⟨d, hn, hl⟩ := isLineless_iff.1 h
  exact landing_eq_passes_iff.2 ⟨d, hn, hl, by simpa [passesOn?, hn, hl] using hnone⟩

theorem exists_restsAt_of_not_lineless (h : s.isLineless key = false) : ∃ a, s.RestsAt key a := by
  cases hlanding : s.landing key with
  | rests a => exact ⟨a, landing_eq_rests_iff.1 hlanding⟩
  | passes next =>
      obtain ⟨d, hn, hl, -⟩ := landing_eq_passes_iff.1 hlanding
      rw [isLineless_iff.2 ⟨d, hn, hl⟩] at h
      cases h

/-! ## Going along a chain -/

theorem chain_succ_of_eq (h : s.chain start n = some key) :
    s.chain start (n + 1) = s.passesOn? key := by
  rw [chain, h]
  rfl

theorem exists_passesTo_of_chain_succ (h : s.chain start (n + 1) = some key) :
    ∃ k, s.chain start n = some k ∧ s.PassesTo k key := by
  obtain ⟨k, hk, hnext⟩ := Option.bind_eq_some_iff.1 h
  exact ⟨k, hk, passesOn?_eq_some_iff.1 hnext⟩

/-- The chain comes to the keys that passing on leads to. -/
theorem exists_chain_iff :
    (∃ n, s.chain start n = some key) ↔ ReflTransGen s.PassesTo start key := by
  constructor
  · rintro ⟨n, h⟩
    induction n generalizing key with
    | zero =>
        obtain rfl : start = key := by simpa [chain] using h
        exact .refl
    | succ n ih =>
        obtain ⟨k, hk, hpasses⟩ := exists_passesTo_of_chain_succ h
        exact (ih hk).tail hpasses
  · intro h
    induction h with
    | refl => exact ⟨0, rfl⟩
    | tail _ hpasses ih =>
        obtain ⟨n, hn⟩ := ih
        exact ⟨n + 1, (chain_succ_of_eq hn).trans (passesOn?_eq_some_iff.2 hpasses)⟩

/-- From equal keys on, the chain goes on alike. -/
theorem chain_add_congr {i j : Nat} (h : s.chain start i = s.chain start j) (d : Nat) :
    s.chain start (i + d) = s.chain start (j + d) := by
  induction d with
  | zero => exact h
  | succ d ih => rw [← Nat.add_assoc, ← Nat.add_assoc, chain, chain, ih]

theorem exists_chain_of_le {i : Nat} (h : s.chain start n = some key) (hi : i ≤ n) :
    ∃ k, s.chain start i = some k := by
  induction n generalizing key with
  | zero => exact ⟨key, by rwa [Nat.le_zero.1 hi]⟩
  | succ n ih =>
      rcases Nat.le_succ_iff.1 hi with hi | rfl
      · obtain ⟨k, hk, -⟩ := exists_passesTo_of_chain_succ h
        exact ih hk hi
      · exact ⟨key, h⟩

/-- All keys of a chain but its last one are keys of events. -/
theorem exists_mem_keys_of_lt {i : Nat} (h : s.chain start n = some key) (hi : i < n) :
    ∃ k ∈ s.nodes.keys, s.chain start i = some k := by
  obtain ⟨next, hnext⟩ := exists_chain_of_le h (Nat.succ_le_of_lt hi)
  obtain ⟨k, hk, hpasses⟩ := exists_passesTo_of_chain_succ hnext
  exact ⟨k, mem_keys_of_landing_passes hpasses, hk⟩

theorem ChainDistinct.mono {i : Nat} (h : s.ChainDistinct start n) (hi : i ≤ n) :
    s.ChainDistinct start i :=
  fun a b hab hb => h a b hab (hb.trans_le hi)

/-- A chain that ends has not repeated a key: it would have gone round for ever. -/
theorem chainDistinct_of_succ_eq_none (h : s.chain start n = some key)
    (hnone : s.chain start (n + 1) = none) : s.ChainDistinct start (n + 1) := by
  intro i j hij hj heq
  have hlast := chain_add_congr heq (n + 1 - j)
  rw [Nat.add_sub_cancel' hj.le, hnone] at hlast
  obtain ⟨k, hk⟩ := exists_chain_of_le h (i := i + (n + 1 - j)) (by omega)
  rw [hk] at hlast
  cases hlast

theorem succ_eq_none_of_restsAt {a : Arrival} (h : s.chain start n = some key)
    (hrests : s.RestsAt key a) : s.chain start (n + 1) = none := by
  rw [chain_succ_of_eq h, Option.eq_none_iff_forall_ne_some]
  exact fun next hnext => hrests.not_passesTo (passesOn?_eq_some_iff.1 hnext)

theorem ChainDistinct.le_length (hdistinct : s.ChainDistinct start n)
    (h : s.chain start n = some key) : n ≤ s.nodes.length := by
  let seen := (List.range n).map (s.chain start)
  have hnodup : seen.Nodup :=
    List.pairwise_map.2 (List.pairwise_lt_range.imp_of_mem fun _ hj hij =>
      hdistinct _ _ hij (List.mem_range.1 hj))
  have hsubset : seen ⊆ s.nodes.keys.map some := by
    intro k hk
    obtain ⟨i, hi, rfl⟩ := List.mem_map.1 hk
    obtain ⟨k, hkeys, hchain⟩ := exists_mem_keys_of_lt h (List.mem_range.1 hi)
    exact hchain ▸ List.mem_map_of_mem hkeys
  have hle := (List.subperm_of_subset hnodup hsubset).length_le
  simpa [seen, Keyed.keys] using hle

/-! ## How a chain ends -/

/-- A chain that goes on for ever comes to a key again. -/
theorem exists_chainReturns (h : ∀ n, ∃ key, s.chain start n = some key) :
    ∃ key, s.ChainReturns start key := by
  have hrepeats : ∃ n, ∃ i < n, s.chain start i = s.chain start n := by
    by_contra hnever
    have hdistinct : s.ChainDistinct start (s.nodes.length + 1) :=
      fun i j hij _ heq => hnever ⟨j, i, hij, heq⟩
    obtain ⟨key, hkey⟩ := h (s.nodes.length + 1)
    exact absurd (hdistinct.le_length hkey) (by omega)
  classical
  obtain ⟨i, hi, heq⟩ := Nat.find_spec hrepeats
  obtain ⟨key, hkey⟩ := h (Nat.find hrepeats)
  exact ⟨key, _, hkey, ⟨i, hi, heq.trans hkey⟩,
    fun a b hab hb hab' => Nat.find_min hrepeats hb ⟨a, hab, hab'⟩⟩

/-- A chain stops, runs out, or returns. -/
theorem exists_chainEnd (s : Script) (start : String) :
    (∃ key, s.ChainStops start key) ∨ (∃ key, s.ChainRunsOut start key) ∨
      ∃ key, s.ChainReturns start key := by
  by_cases hends : ∃ n, s.chain start n = none
  · classical
    have hnone := Nat.find_spec hends
    cases hn : Nat.find hends with
    | zero =>
        rw [hn] at hnone
        cases hnone
    | succ n =>
        rw [hn] at hnone
        obtain ⟨key, hkey⟩ := Option.ne_none_iff_exists'.1 (Nat.find_min hends (m := n) (by omega))
        cases hl : s.isLineless key with
        | false => exact Or.inl ⟨key, n, hkey, hl⟩
        | true => exact Or.inr (Or.inl ⟨key, n, hkey, hl, hnone⟩)
  · refine Or.inr (Or.inr (exists_chainReturns fun n => ?_))
    exact Option.ne_none_iff_exists'.1 fun hnone => hends ⟨n, hnone⟩

/-! ## Journeys along a chain -/

/-- A journey whose keys so far are all different has passed over just these, and goes on from the
present one. -/
theorem journey_along (hdistinct : s.ChainDistinct start n) (h : s.chain start n = some key) :
    ∃ passed, (∀ k, k ∈ passed ↔ ∃ i < n, s.chain start i = some k) ∧
      (s.journey start).arrival = (s.journeyFrom passed key).arrival ∧
        (s.journey start).passed.map some =
          (List.range n).map (s.chain start) ++ (s.journeyFrom passed key).passed.map some := by
  induction n generalizing key with
  | zero =>
      obtain rfl : start = key := by simpa [chain] using h
      exact ⟨[], by simp, rfl, rfl⟩
  | succ n ih =>
      obtain ⟨k, hk, hpasses⟩ := exists_passesTo_of_chain_succ h
      obtain ⟨passed, hpassed, harrival, hkeys⟩ := ih (hdistinct.mono (Nat.le_succ n)) hk
      have hnew : k ∉ passed := by
        intro hmem
        obtain ⟨i, hi, hik⟩ := (hpassed k).1 hmem
        exact hdistinct i n hi (Nat.lt_succ_self n) (hik.trans hk.symm)
      rw [journeyFrom_of_passesTo hpasses hnew] at harrival hkeys
      refine ⟨k :: passed, fun k' => ?_, harrival, ?_⟩
      · simp only [List.mem_cons, hpassed, Nat.lt_succ_iff_lt_or_eq, or_and_right, exists_or,
          exists_eq_left, hk, Option.some.injEq, eq_comm (a := k), or_comm]
      · simpa [List.range_succ, hk, Journey.behind] using hkeys

/-- A journey passes over the first `n` keys of the chain, in order, and over no others. -/
def PassesOver (s : Script) (start : String) (n : Nat) : Prop :=
  (s.journey start).passed.map some = (List.range n).map (s.chain start)

/-- Where the chain comes to an event at which runs come to rest, the journey ends. -/
theorem journey_of_restsAt {a : Arrival} (h : s.chain start n = some key)
    (hrests : s.RestsAt key a) :
    (s.journey start).arrival = a ∧ s.PassesOver start n := by
  have hdistinct := chainDistinct_of_succ_eq_none h (succ_eq_none_of_restsAt h hrests)
  obtain ⟨passed, -, harrival, hkeys⟩ := journey_along (hdistinct.mono (Nat.le_succ n)) h
  rw [journeyFrom_of_rests (landing_eq_rests_iff.2 hrests)] at harrival hkeys
  exact ⟨harrival, by simpa [PassesOver] using hkeys⟩

/-- Where the chain runs out, the journey is finished. -/
theorem journey_of_runsOut (h : s.chain start n = some key) (hl : s.isLineless key = true)
    (hnone : s.chain start (n + 1) = none) :
    (s.journey start).arrival = .finished key ∧ s.PassesOver start (n + 1) := by
  have hlanding := landing_of_lineless hl ((chain_succ_of_eq h).symm.trans hnone)
  have hdistinct := chainDistinct_of_succ_eq_none h hnone
  obtain ⟨passed, hpassed, harrival, hkeys⟩ := journey_along (hdistinct.mono (Nat.le_succ n)) h
  have hnew : key ∉ passed := by
    intro hmem
    obtain ⟨i, hi, hkey⟩ := (hpassed key).1 hmem
    exact hdistinct i n hi (Nat.lt_succ_self n) (hkey.trans h.symm)
  rw [journeyFrom_of_passes_none hlanding hnew] at harrival hkeys
  exact ⟨harrival, by simpa [PassesOver, List.range_succ, h] using hkeys⟩

/-- At the first key that the chain comes to again, the journey breaks off. -/
theorem journey_of_again {i : Nat} (h : s.chain start n = some key) (hi : i < n)
    (hkey : s.chain start i = some key) (hdistinct : s.ChainDistinct start n) :
    (s.journey start).arrival = .broken key .lineless ∧ s.PassesOver start (n + 1) := by
  obtain ⟨passed, hpassed, harrival, hkeys⟩ := journey_along hdistinct h
  have hold : key ∈ passed := (hpassed key).2 ⟨i, hi, hkey⟩
  obtain ⟨next, hnext⟩ := exists_chain_of_le h (Nat.succ_le_of_lt hi)
  have hlanding : s.PassesTo key next :=
    passesOn?_eq_some_iff.1 ((chain_succ_of_eq hkey).symm.trans hnext)
  rw [journeyFrom_of_mem hlanding hold] at harrival hkeys
  exact ⟨harrival, by simpa [PassesOver, List.range_succ, h] using hkeys⟩

/-! ## Where passing on leads to -/

/-- A journey that comes to an event where runs come to rest ends there. -/
theorem arrival_eq_of_restsAt {a : Arrival} (hk : ReflTransGen s.PassesTo start key)
    (h : s.RestsAt key a) : (s.journey start).arrival = a := by
  obtain ⟨n, hn⟩ := exists_chain_iff.2 hk
  exact (journey_of_restsAt hn h).1

/-- A journey that comes to a dialogue without lines that nothing comes after ends there. -/
theorem arrival_eq_of_passes_none (hk : ReflTransGen s.PassesTo start key)
    (h : s.landing key = .passes none) : (s.journey start).arrival = .finished key := by
  obtain ⟨n, hn⟩ := exists_chain_iff.2 hk
  obtain ⟨d, hd, hl, hnext⟩ := landing_eq_passes_iff.1 h
  have hnone : s.chain start (n + 1) = none := by
    rw [chain_succ_of_eq hn]
    simp [passesOn?, hd, hl, hnext]
  exact (journey_of_runsOut hn (isLineless_iff.2 ⟨d, hd, hl⟩) hnone).1

/-- A chain that comes into a circle goes on for ever. -/
theorem exists_chain_of_circles (hk : ReflTransGen s.PassesTo start key) (h : s.Circles key)
    (n : Nat) : ∃ k, s.chain start n = some k := by
  induction n with
  | zero => exact ⟨start, rfl⟩
  | succ n ih =>
      obtain ⟨k, hchain⟩ := ih
      have hnext : ∃ next, s.PassesTo k next := by
        -- either the circle is still ahead or the key is on it
        rcases hk.total_of_right_unique (passesTo_rightUnique s) (exists_chain_iff.1 ⟨n, hchain⟩)
          with hbehind | hahead
        · exact ((h.of_passesTo hbehind).exists_passesTo .refl).imp fun _ hb => hb.1
        · exact (h.exists_passesTo hahead).imp fun _ hb => hb.1
      obtain ⟨next, hnext⟩ := hnext
      exact ⟨next, (chain_succ_of_eq hchain).trans (passesOn?_eq_some_iff.2 hnext)⟩

/-- A journey that comes into a circle breaks off. -/
theorem arrival_eq_of_circles (hk : ReflTransGen s.PassesTo start key) (h : s.Circles key) :
    ∃ k, (s.journey start).arrival = .broken k .lineless := by
  have hendless := exists_chain_of_circles hk h
  obtain ⟨k, n, hn, ⟨i, hi, hagain⟩, hdistinct⟩ := exists_chainReturns hendless
  exact ⟨k, (journey_of_again hn hi hagain hdistinct).1⟩

/-! ## How far a journey goes -/

/-- However a chain ends, the journey has passed over as many keys at most as there are events, and
one of them once more. -/
theorem exists_passesOver (s : Script) (start : String) :
    ∃ n ≤ s.nodes.length + 1, s.PassesOver start n := by
  rcases s.exists_chainEnd start with
    ⟨key, n, h, hl⟩ | ⟨key, n, h, hl, hnone⟩ | ⟨key, n, h, ⟨i, hi, hkey⟩, hdistinct⟩
  · obtain ⟨a, hrests⟩ := exists_restsAt_of_not_lineless hl
    have hdistinct := chainDistinct_of_succ_eq_none h (succ_eq_none_of_restsAt h hrests)
    have hle := (hdistinct.mono (Nat.le_succ n)).le_length h
    exact ⟨n, by omega, (journey_of_restsAt h hrests).2⟩
  · have hle := ((chainDistinct_of_succ_eq_none h hnone).mono (Nat.le_succ n)).le_length h
    exact ⟨n + 1, by omega, (journey_of_runsOut h hl hnone).2⟩
  · have hle := hdistinct.le_length h
    exact ⟨n + 1, by omega, (journey_of_again h hi hkey hdistinct).2⟩

end Script

end Narrative
