/-!
# Ordered maps by name

A list of pairs in which a name counts once, at the place where it first came, with the value
that came last.
-/

namespace Narrative

/-- Values by name, in the order in which the names came. -/
abbrev Keyed (α : Type) := List (String × α)

namespace Keyed

variable {α : Type}

/-- The names, in order. -/
def keys (m : Keyed α) : List String := m.map Prod.fst

/-- The value that stands under a name. -/
def get? (m : Keyed α) (key : String) : Option α := m.lookup key

/-- Whether a value stands under the name. -/
def has (m : Keyed α) (key : String) : Bool := (m.get? key).isSome

/-- Puts a value under a name: in the place of its value, or at the end if the name is new. -/
def put (m : Keyed α) (key : String) (value : α) : Keyed α :=
  match m with
  | [] => [(key, value)]
  | (k, v) :: rest => if k = key then (k, value) :: rest else (k, v) :: put rest key value

/-- Puts the entries one after the other. -/
def ofEntries (entries : List (String × α)) : Keyed α :=
  entries.foldl (fun m e => m.put e.1 e.2) []

@[simp] theorem keys_nil : keys ([] : Keyed α) = [] := rfl

@[simp] theorem keys_cons (k : String) (v : α) (m : Keyed α) :
    keys ((k, v) :: m) = k :: keys m := rfl

@[simp] theorem get?_nil (key : String) : get? ([] : Keyed α) key = none := rfl

theorem get?_cons (m : Keyed α) (k key : String) (v : α) :
    get? ((k, v) :: m) key = if key = k then some v else m.get? key := by
  by_cases h : key = k
  · simp [get?, h]
  · simp [get?, List.lookup_cons, h, beq_false_of_ne h]

theorem get?_put (m : Keyed α) (k key : String) (v : α) :
    (m.put k v).get? key = if key = k then some v else m.get? key := by
  induction m with
  | nil => simp [put, get?_cons]
  | cons e m ih =>
    obtain ⟨k', v'⟩ := e
    by_cases hk : k' = k
    · subst hk
      by_cases h : key = k' <;> simp [put, get?_cons, h]
    · by_cases h : key = k'
      · subst h
        simp [put, get?_cons, hk]
      · simp [put, get?_cons, hk, h, ih]

theorem keys_put (m : Keyed α) (k : String) (v : α) :
    (m.put k v).keys = if k ∈ m.keys then m.keys else m.keys ++ [k] := by
  induction m with
  | nil => simp [put]
  | cons e m ih =>
    obtain ⟨k', v'⟩ := e
    by_cases hk : k' = k
    · simp [put, hk]
    · by_cases h : k ∈ keys m <;> simp [put, hk, h, ih, Ne.symm hk]

theorem get?_isSome_iff (m : Keyed α) (key : String) : (m.get? key).isSome ↔ key ∈ m.keys := by
  induction m with
  | nil => simp
  | cons e m ih =>
    obtain ⟨k, v⟩ := e
    by_cases h : key = k <;> simp [get?_cons, h, ih]

theorem mem_keys_of_get? {m : Keyed α} {key : String} {v : α} (h : m.get? key = some v) :
    key ∈ m.keys :=
  (get?_isSome_iff m key).1 (by simp [h])

theorem has_iff (m : Keyed α) (key : String) : m.has key = true ↔ key ∈ m.keys :=
  get?_isSome_iff m key

theorem nodup_keys_put {m : Keyed α} (hm : m.keys.Nodup) (k : String) (v : α) :
    (m.put k v).keys.Nodup := by
  rw [keys_put]
  split
  · exact hm
  · rename_i h
    exact List.nodup_append.2
      ⟨hm, by simp, fun x hx y hy hxy => h (by simp at hy; rwa [← hy, ← hxy])⟩

end Keyed

end Narrative
