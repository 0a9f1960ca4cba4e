import Mathlib.Data.List.Basic
import Mathlib.Data.List.Induction
import Narrative.Keyed

/-!
# Entries of ordered maps

A map that is built by putting entries has each name once, in the place where it came first
(`keys_ofEntries`) and with the value that came last (`get?_ofEntries`).  Entries whose names are
distinct are such a map already (`ofEntries_of_nodup`).
-/

namespace Narrative.Keyed

variable {α : Type}

theorem mem_put {m : Keyed α} {key : String} {value : α} {e : String × α}
    (h : e ∈ m.put key value) : e = (key, value) ∨ e ∈ m := by
  induction m with
  | nil => exact Or.inl (List.mem_singleton.1 h)
  | cons first m ih =>
      rw [put] at h
      split at h
      · rename_i hk
        rcases List.mem_cons.1 h with rfl | h
        · exact Or.inl (by rw [hk])
        · exact Or.inr (List.mem_cons_of_mem _ h)
      · rcases List.mem_cons.1 h with rfl | h
        · exact Or.inr List.mem_cons_self
        · rcases ih h with rfl | h
          · exact Or.inl rfl
          · exact Or.inr (List.mem_cons_of_mem _ h)

theorem mem_of_get? {m : Keyed α} {key : String} {value : α} (h : m.get? key = some value) :
    (key, value) ∈ m := by
  induction m with
  | nil => simp at h
  | cons e m ih =>
      obtain ⟨k, v⟩ := e
      rw [get?_cons] at h
      split at h
      · rename_i hk
        obtain rfl := Option.some.inj h
        exact List.mem_cons.2 (Or.inl (by rw [hk]))
      · exact List.mem_cons_of_mem _ (ih h)

theorem keys_concat (m : Keyed α) (e : String × α) : keys (m ++ [e]) = keys m ++ [e.1] :=
  List.map_append

theorem ofEntries_concat (entries : List (String × α)) (e : String × α) :
    ofEntries (entries ++ [e]) = (ofEntries entries).put e.1 e.2 := by
  rw [ofEntries, List.foldl_concat, ofEntries]

theorem mem_of_mem_ofEntries {entries : List (String × α)} {e : String × α}
    (h : e ∈ ofEntries entries) : e ∈ entries := by
  induction entries using List.reverseRecOn with
  | nil => exact absurd h List.not_mem_nil
  | append_singleton entries last ih =>
      rw [ofEntries_concat] at h
      rcases mem_put h with rfl | h
      · exact List.mem_append_right _ List.mem_cons_self
      · exact List.mem_append_left _ (ih h)

theorem nodup_keys_ofEntries (entries : List (String × α)) : (ofEntries entries).keys.Nodup := by
  induction entries using List.reverseRecOn with
  | nil => exact List.nodup_nil
  | append_singleton entries e ih =>
      rw [ofEntries_concat]
      exact nodup_keys_put ih e.1 e.2

/-- The names are those of the entries, each in its first place. -/
theorem keys_ofEntries (entries : List (String × α)) :
    (ofEntries entries).keys = (keys entries).eraseDups := by
  induction entries using List.reverseRecOn with
  | nil => rfl
  | append_singleton entries e ih =>
      rw [ofEntries_concat, keys_put, ih, keys_concat, List.eraseDups_append]
      by_cases h : e.1 ∈ keys entries
      · simp [List.removeAll, h]
      · have hnew : [e.1].eraseDups = [e.1] := rfl
        simp [List.removeAll, h, hnew]

/-- Under a name stands the value of the last entry of that name. -/
theorem get?_ofEntries (entries : List (String × α)) (key : String) :
    (ofEntries entries).get? key =
      (entries.filter fun e => e.1 = key).getLast?.map Prod.snd := by
  induction entries using List.reverseRecOn with
  | nil => rfl
  | append_singleton entries e ih =>
      rw [ofEntries_concat, get?_put, List.filter_append, ih]
      by_cases h : key = e.1
      · simp [h]
      · simp [h, Ne.symm h]

theorem put_of_not_mem {m : Keyed α} {key : String} (h : key ∉ m.keys) (value : α) :
    m.put key value = m ++ [(key, value)] := by
  induction m with
  | nil => rfl
  | cons e m ih =>
      obtain ⟨k, v⟩ := e
      have hk : k ≠ key := by
        rintro rfl
        exact h List.mem_cons_self
      rw [put, if_neg hk, ih fun hmem => h (List.mem_cons_of_mem _ hmem)]
      rfl

theorem ofEntries_of_nodup {entries : List (String × α)} (h : (keys entries).Nodup) :
    ofEntries entries = entries := by
  induction entries using List.reverseRecOn with
  | nil => rfl
  | append_singleton entries e ih =>
      rw [keys_concat] at h
      obtain ⟨hentries, -, hnew⟩ := List.nodup_append.1 h
      have hkey : e.1 ∉ keys entries := fun hmem => hnew _ hmem _ List.mem_cons_self rfl
      rw [ofEntries_concat, ih hentries, put_of_not_mem hkey]

theorem get?_of_mem {m : Keyed α} (hm : m.keys.Nodup) {e : String × α} (he : e ∈ m) :
    m.get? e.1 = some e.2 := by
  induction m with
  | nil => simp at he
  | cons first m ih =>
      obtain ⟨k, v⟩ := first
      obtain ⟨hk, hm⟩ := List.nodup_cons.1 hm
      rw [get?_cons]
      rcases List.mem_cons.1 he with rfl | hmem
      · exact if_pos rfl
      · have hkey : e.1 ∈ keys m := List.mem_map_of_mem hmem
        have hne : e.1 ≠ k := ne_of_mem_of_not_mem hkey hk
        rw [if_neg hne]
        exact ih hm hmem

/-- Keys without repetition and the values under them are the whole map. -/
theorem filterMap_keys_get? {m : Keyed α} (hm : m.keys.Nodup) :
    m.keys.filterMap (fun key => (m.get? key).map (key, ·)) = m := by
  rw [keys, List.filterMap_map]
  refine (List.filterMap_congr fun e he => ?_).trans List.filterMap_some
  simp [get?_of_mem hm he]

theorem get?_map {β : Type} (f : α → β) (m : Keyed α) (key : String) :
    get? (m.map fun e => (e.1, f e.2)) key = (m.get? key).map f := by
  induction m with
  | nil => rfl
  | cons e m ih =>
      obtain ⟨k, v⟩ := e
      rw [List.map_cons, get?_cons, get?_cons, ih]
      split <;> rfl

end Narrative.Keyed
