/-!
# Noted values

A value together with the notes that were taken while it was computed, in the order in which they
were taken.
-/

namespace Narrative

/-- A value and the notes taken on the way to it. -/
structure Noted (ν α : Type) where
  value : α
  notes : List ν

namespace Noted

variable {ν μ α β : Type}

/-- Takes one note. -/
def note (n : ν) : Noted ν Unit := ⟨(), [n]⟩

/-- Takes some notes at once. -/
def noteAll (ns : List ν) : Noted ν Unit := ⟨(), ns⟩

instance : Monad (Noted ν) where
  pure a := ⟨a, []⟩
  bind x f := ⟨(f x.value).value, x.notes ++ (f x.value).notes⟩

/-- Keeps the value and changes each note. -/
def mapNotes (f : ν → μ) (x : Noted ν α) : Noted μ α := ⟨x.value, x.notes.map f⟩

@[simp] theorem value_pure (a : α) : (pure a : Noted ν α).value = a := rfl

@[simp] theorem notes_pure (a : α) : (pure a : Noted ν α).notes = [] := rfl

@[simp] theorem value_bind (x : Noted ν α) (f : α → Noted ν β) :
    (x >>= f).value = (f x.value).value := rfl

@[simp] theorem notes_bind (x : Noted ν α) (f : α → Noted ν β) :
    (x >>= f).notes = x.notes ++ (f x.value).notes := rfl

@[simp] theorem value_map (f : α → β) (x : Noted ν α) : (f <$> x).value = f x.value := rfl

@[simp] theorem notes_map (f : α → β) (x : Noted ν α) : (f <$> x).notes = x.notes :=
  List.append_nil x.notes

@[simp] theorem value_note (n : ν) : (note n).value = () := rfl

@[simp] theorem notes_note (n : ν) : (note n).notes = [n] := rfl

@[simp] theorem value_noteAll (ns : List ν) : (noteAll ns).value = () := rfl

@[simp] theorem notes_noteAll (ns : List ν) : (noteAll ns).notes = ns := rfl

@[simp] theorem value_mapNotes (f : ν → μ) (x : Noted ν α) : (x.mapNotes f).value = x.value := rfl

@[simp] theorem notes_mapNotes (f : ν → μ) (x : Noted ν α) :
    (x.mapNotes f).notes = x.notes.map f := rfl

instance : LawfulMonad (Noted ν) :=
  LawfulMonad.mk' (Noted ν)
    (fun x => by cases x; simp [Functor.map])
    (fun a f => by cases h : f a; simp [Bind.bind, Pure.pure, h])
    (fun x f g => by simp [Bind.bind, List.append_assoc])

theorem value_mapM (f : α → Noted ν β) (as : List α) :
    (as.mapM f).value = as.map fun a => (f a).value := by
  induction as with
  | nil => rfl
  | cons a as ih => simp [List.mapM_cons, ih]

end Noted

end Narrative
