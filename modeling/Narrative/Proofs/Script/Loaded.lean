import Mathlib.Data.List.Nodup
import Narrative.Proofs.Json.Distinct
import Narrative.Proofs.Script.Coherence
import Narrative.Script.Load

/-!
# Scripts from a text

A script that a text holds is orderly: it is coherent, and no choice offers a key twice
(`orderly_of_ofText`).  So each of its options can be chosen by its key.
-/

namespace Narrative

namespace Script

/-- A coherent script in which no choice offers a key twice. -/
structure Orderly (s : Script) : Prop extends Coherent s where
  nodup_options {key : String} {c : Choice} :
    s.node? key = some (.choice c) → (c.options.map ChoiceOption.key).Nodup

end Script

namespace Choice

/-- A key that is offered once chooses the option that has it. -/
theorem option?_of_mem {c : Choice} (hc : (c.options.map ChoiceOption.key).Nodup)
    {o : ChoiceOption} (ho : o ∈ c.options) : c.option? o.key = some o := by
  cases h : c.option? o.key with
  | none =>
      have hnone := List.find?_eq_none.1 h o ho
      simp at hnone
  | some o' =>
      have hkey : o'.key = o.key := by simpa using List.find?_some h
      rw [List.inj_on_of_nodup_map hc (List.mem_of_find?_eq_some h) ho hkey]

theorem keys_options_ofMembers (j : Json) (data branches : Keyed Json) :
    (ofMembers j data branches).options.map ChoiceOption.key =
      (data.filter fun m => m.1 ≠ promptKey).map Prod.fst := by
  simp [ofMembers, ChoiceOption.ofJson, Function.comp_def]

theorem nodup_options_ofMembers {j : Json} {data branches : Keyed Json} (h : data.keys.Nodup) :
    ((ofMembers j data branches).options.map ChoiceOption.key).Nodup := by
  rw [keys_options_ofMembers]
  exact h.sublist (List.filter_sublist.map Prod.fst)

end Choice

theorem Node.nodup_options_ofJson {j : Json} (hj : j.Distinct) {c : Choice}
    (h : ofJson j = .choice c) : (c.options.map ChoiceOption.key).Nodup := by
  unfold ofJson at h
  split at h
  · simp at h
  · unfold Choice.nodeOfJson at h
    split at h
    · simp at h
    · simp at h
    · rename_i data branches hdata hbranches
      obtain rfl := Node.choice.inj h
      exact Choice.nodup_options_ofMembers (hj.membersAt? hdata).1
  · simp at h
  · simp at h

theorem Node.value_read (key : String) (j : Json) : (read key j).value = ofJson j := by
  unfold read
  dsimp only
  split <;> rfl

namespace Script

theorem value_ofJson_of_events {j : Json} {events : Keyed Json}
    (h : (j.member? "events").bind Json.members? = some events) :
    (ofJson j).value = ofEntries (events.map fun e => (e.1, Node.ofJson e.2)) := by
  unfold ofJson
  simp [h, Noted.value_mapM, Node.value_read]

theorem value_ofJson_of_no_events {j : Json}
    (h : (j.member? "events").bind Json.members? = none) : (ofJson j).value = {} := by
  unfold ofJson
  simp [h]

/-- The events of a value are those of the script, under the same keys and in order. -/
theorem nodes_ofJson {j : Json} (hj : j.Distinct) {events : Keyed Json}
    (h : (j.member? "events").bind Json.members? = some events) :
    (ofJson j).value.nodes = events.map fun e => (e.1, Node.ofJson e.2) := by
  have hnodup : events.keys.Nodup := (hj.membersAt? h).1
  have hkeys : Keyed.keys (events.map fun e => (e.1, Node.ofJson e.2)) = events.keys := by
    simp [Keyed.keys, Function.comp_def]
  rw [value_ofJson_of_events h, ofEntries, Keyed.ofEntries_of_nodup (by rwa [hkeys])]

theorem node?_ofJson {j : Json} (hj : j.Distinct) {events : Keyed Json}
    (h : (j.member? "events").bind Json.members? = some events) (key : String) :
    (ofJson j).value.node? key = (events.get? key).map Node.ofJson := by
  rw [node?, nodes_ofJson hj h, Keyed.get?_map]

theorem orderly_empty : Orderly {} where
  order_eq := rfl
  nodup := List.nodup_nil
  nodup_options h := by simp [node?] at h

theorem orderly_ofJson {j : Json} (hj : j.Distinct) : (ofJson j).value.Orderly := by
  cases h : (j.member? "events").bind Json.members? with
  | none =>
      rw [value_ofJson_of_no_events h]
      exact orderly_empty
  | some events =>
      rw [value_ofJson_of_events h]
      refine ⟨coherent_ofEntries _, fun {key c} hn => ?_⟩
      have hmem := Keyed.mem_of_mem_ofEntries (Keyed.mem_of_get? hn)
      obtain ⟨e, he, hpair⟩ := List.mem_map.1 hmem
      have hevent : e.2.Distinct := (hj.membersAt? h).2 e he
      exact Node.nodup_options_ofJson hevent (Prod.mk.inj hpair).2

theorem orderly_of_ofText {text : String} {s : Script} (h : (ofText text).value = .ok s) :
    s.Orderly := by
  unfold ofText at h
  split at h
  · rename_i j hj
    obtain rfl := Except.ok.inj h
    exact orderly_ofJson (Json.distinct_of_ofText hj)
  · simp at h

end Script

end Narrative
