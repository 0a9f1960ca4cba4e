import Narrative.Json.Basic
import Narrative.Proofs.Keyed

/-!
# Losing what is not understood

A reader of an object understands some of its members, by name and value.  `Loses` says that an
object loses a member that is not understood, or that something changes within one member.  What is
read from the members stays the same (`bind_member?_eq`), if nothing is read from a member that is
not understood and nothing that is read depends on what changes within one.
-/

namespace Narrative

namespace Keyed

variable {α : Type}

/-- The entries of all other names. -/
def without (m : Keyed α) (name : String) : Keyed α := m.filter fun e => e.1 ≠ name

theorem get?_without (m : Keyed α) (name key : String) :
    (without m name).get? key = if key = name then none else m.get? key := by
  induction m with
  | nil => simp [without]
  | cons e m ih =>
      obtain ⟨k, v⟩ := e
      by_cases hk : k = name
      · have hwithout : without ((k, v) :: m) name = without m name := by simp [without, hk]
        rw [hwithout, ih, get?_cons, hk]
        split <;> rfl
      · have hwithout : without ((k, v) :: m) name = (k, v) :: without m name := by
          simp [without, hk]
        rw [hwithout, get?_cons, get?_cons, ih]
        by_cases h : key = k
        · simp [h, hk]
        · simp [h]

theorem keys_without (m : Keyed α) (name : String) :
    (without m name).keys = m.keys.filter fun key => key ≠ name := by
  rw [without, keys, keys, List.filter_map]
  rfl

theorem get?_append (m n : Keyed α) (key : String) :
    get? (m ++ n) key = (m.get? key).or (n.get? key) := by
  induction m with
  | nil => rfl
  | cons e m ih =>
      obtain ⟨k, v⟩ := e
      rw [List.cons_append, get?_cons, get?_cons, ih]
      split <;> rfl

/-- Where one value of a map is replaced, a lookup finds what it found before, or the new value
instead of the old one. -/
theorem get?_replace (before after : Keyed α) (name key : String) (value other : α) :
    get? (before ++ (name, value) :: after) key = get? (before ++ (name, other) :: after) key ∨
      key = name ∧ get? (before ++ (name, value) :: after) key = some value ∧
        get? (before ++ (name, other) :: after) key = some other := by
  rw [get?_append, get?_append, get?_cons, get?_cons]
  cases before.get? key with
  | some found => exact Or.inl rfl
  | none =>
      by_cases h : key = name
      · exact Or.inr ⟨h, by simp [h], by simp [h]⟩
      · exact Or.inl (by simp [h])

end Keyed

namespace Json

/-- An object loses something that its reader does not understand.  A member that is not understood
is dropped, or altered into another such member; or a member that is understood loses something, as
`within` says for each name. -/
inductive Loses (understands : String → Json → Prop) (within : String → Json → Json → Prop) :
    Json → Json → Prop
  | drop {members : Keyed Json} {name : String} {value : Json} :
      members.get? name = some value → ¬understands name value →
        Loses understands within (.object members) (.object (members.without name))
  | alter {before after : Keyed Json} {name : String} {value other : Json} :
      ¬understands name value → ¬understands name other →
        Loses understands within (.object (before ++ (name, value) :: after))
          (.object (before ++ (name, other) :: after))
  | inside {before after : Keyed Json} {name : String} {value other : Json} :
      within name value other →
        Loses understands within (.object (before ++ (name, value) :: after))
          (.object (before ++ (name, other) :: after))

variable {understands : String → Json → Prop} {within : String → Json → Json → Prop}
  {j k : Json} {name : String}

theorem Loses.exists_members (h : Loses understands within j k) :
    ∃ members others : Keyed Json, j = .object members ∧ k = .object others := by
  cases h <;> exact ⟨_, _, rfl, rfl⟩

/-- What is read from a member stays the same. -/
theorem Loses.bind_member?_eq {α : Type} {read : Json → Option α}
    (h : Loses understands within j k)
    (hnone : ∀ value, ¬understands name value → read value = none)
    (hwithin : ∀ value other, within name value other → read value = read other) :
    (j.member? name).bind read = (k.member? name).bind read := by
  cases h with
  | @drop members dropped value hvalue hnot =>
      rw [member?_object, member?_object, Keyed.get?_without]
      split
      · rename_i hname
        subst hname
        rw [hvalue]
        exact hnone value hnot
      · rfl
  | @alter before after altered value other hvalue hother =>
      rw [member?_object, member?_object]
      rcases Keyed.get?_replace before after altered name value other with h | ⟨rfl, h, h'⟩
      · rw [h]
      · rw [h, h', Option.bind_some, Option.bind_some, hnone value hvalue, hnone other hother]
  | @inside before after changed value other hchanges =>
      rw [member?_object, member?_object]
      rcases Keyed.get?_replace before after changed name value other with h | ⟨rfl, h, h'⟩
      · rw [h]
      · rw [h, h']
        exact hwithin value other hchanges

/-- A text that is understood stays the same. -/
theorem Loses.stringAt?_eq (h : Loses understands within j k)
    (htext : ∀ value, value.string?.isSome = true → understands name value)
    (hwithin : ∀ value other, ¬within name value other) : j.stringAt? name = k.stringAt? name := by
  refine h.bind_member?_eq (fun value hvalue => ?_) fun value other hchanges => ?_
  · simpa using mt (htext value) hvalue
  · exact absurd hchanges (hwithin value other)

/-- What is made of the members of a member that is always understood stays the same. -/
theorem Loses.map_members?_eq {α : Type} {make : Keyed Json → α} (h : Loses understands within j k)
    (hunderstands : ∀ value, understands name value)
    (hwithin : ∀ value other, within name value other → ∃ members others : Keyed Json,
      value = .object members ∧ other = .object others ∧ make members = make others) :
    ((j.member? name).bind members?).map make = ((k.member? name).bind members?).map make := by
  rw [Option.map_bind, Option.map_bind]
  refine h.bind_member?_eq (fun value hvalue => absurd (hunderstands value) hvalue) ?_
  intro value other hchanges
  obtain ⟨members, others, rfl, rfl, hmake⟩ := hwithin value other hchanges
  exact congrArg some hmake

end Json

end Narrative
