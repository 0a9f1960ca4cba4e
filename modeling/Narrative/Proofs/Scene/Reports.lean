import Narrative.Proofs.Scene.Outcomes
import Narrative.Scene.Headless

/-!
# What a status says

A status of one slot says what was shown there, what is shown there now, which calls were made for
it and what is reported on it (`Truthful`).  Each slot is handled on its own: `Handles` is what can
become of it, in terms of the call that loads what is asked for and of the calls that would load
what is shown before and after.  To apply a scene twice is to try again what failed, and nothing
else (`truthful_apply`).

All this rests on how silence is shown: a stage that has been brought to scenes shows it in one way
only, without a loop (`Reachable.heard_audio`).  Otherwise a looping silence would be brought about
again and again.
-/

namespace Narrative

/-- The slot that a call is about. -/
def Call.slot : Call → Slot
  | .load slot _ => .image slot
  | .release slot => .image slot
  | .play _ _ => .audio
  | .stop => .audio

/-- The calls among these that are about one slot. -/
def Call.forSlot (slot : Slot) (calls : List (Call × Bool)) : List (Call × Bool) :=
  calls.filter fun c => c.1.slot = slot

/-- The calls among these that try to load something, each with whether it succeeded. -/
def Call.attempts (calls : List (Call × Bool)) : List (Call × Bool) :=
  calls.filter fun c => c.1.path?.isSome

namespace Call

variable {slot slot' : Slot} {calls calls' : List (Call × Bool)}

@[simp] theorem forSlot_append : forSlot slot (calls ++ calls') =
    forSlot slot calls ++ forSlot slot calls' :=
  List.filter_append ..

theorem forSlot_eq_self (h : ∀ c ∈ calls, c.1.slot = slot) : forSlot slot calls = calls :=
  List.filter_eq_self.2 fun c hc => by simpa using h c hc

theorem forSlot_eq_nil (h : ∀ c ∈ calls, c.1.slot = slot') (hne : slot' ≠ slot) :
    forSlot slot calls = [] :=
  List.filter_eq_nil_iff.2 fun c hc => by simpa [h c hc] using hne

end Call

namespace Scene

variable {a b : Scene} {slot : Slot}

theorem request?_eq_none_iff : a.request? slot = none ↔ a.path slot = "" := by
  by_cases hpath : a.path slot = "" <;> simp [request?, hpath]

theorem request?_of_path (h : a.path slot ≠ "") : a.request? slot = some (a.call slot) :=
  if_neg h

/-- A picture is called for by its path. -/
theorem request?_image_inj {slot : ImageSlot} :
    a.request? (.image slot) = b.request? (.image slot) ↔ a.image slot = b.image slot := by
  by_cases ha : a.image slot = "" <;> by_cases hb : b.image slot = "" <;>
    simp [request?, path, call, ha, hb, eq_comm]

/-- Music is called for as it is heard. -/
theorem request?_audio_inj :
    a.request? .audio = b.request? .audio ↔ a.audio.heard = b.audio.heard := by
  obtain ⟨_, _, _, ⟨path, looped⟩⟩ := a
  obtain ⟨_, _, _, ⟨path', looped'⟩⟩ := b
  by_cases ha : path = "" <;> by_cases hb : path' = "" <;>
    simp [request?, Scene.path, call, Cue.heard, Cue.silence, ha, hb, eq_comm]

theorem image?_inj {slot : ImageSlot} :
    a.image? slot = b.image? slot ↔ a.image slot = b.image slot := by
  by_cases ha : a.image slot = "" <;> by_cases hb : b.image slot = "" <;>
    simp [image?, ha, hb, eq_comm]

theorem cue?_inj : a.cue? = b.cue? ↔ a.audio.heard = b.audio.heard := by
  obtain ⟨_, _, _, ⟨path, looped⟩⟩ := a
  obtain ⟨_, _, _, ⟨path', looped'⟩⟩ := b
  by_cases ha : path = "" <;> by_cases hb : path' = "" <;>
    simp [cue?, Cue.heard, Cue.silence, ha, hb, eq_comm]

end Scene

namespace Stage

variable {σ : Type} {m : Media σ} {scene : Scene} {s t : Stage σ}
  {result : Status × Option AssetFailure} {calls : List (Call × Bool)}

/-- What can become of a slot: `asked` loads what is asked for there, `before` and `after` would
load what is shown there, and the calls are those that are made for the slot. -/
inductive Handles (slot : Slot) (asked before after : Option Call) :
    List (Call × Bool) → Status × Option AssetFailure → Prop
  | unchanged :
      before = asked → after = before → Handles slot asked before after [] (.unchanged, none)
  | cleared {calls : List (Call × Bool)} :
      asked = none → before ≠ asked → after = none → calls ≠ [] → Call.attempts calls = [] →
        Handles slot asked before after calls (.cleared, none)
  | loaded {c : Call} {calls : List (Call × Bool)} :
      asked = some c → before ≠ asked → after = asked → Call.attempts calls = [(c, true)] →
        Handles slot asked before after calls (.loaded, none)
  | failed {c : Call} {f : AssetFailure} {calls : List (Call × Bool)} :
      asked = some c → before ≠ asked → after = none → Call.attempts calls = [(c, false)] →
        f.slot = slot → c.path? = some f.path →
          Handles slot asked before after calls (.failed, some f)

/-! ## One slot -/

theorem ShowsImage.handles (scene : Scene) {slot : ImageSlot}
    (h : ShowsImage m slot (scene.image slot) s result calls t) :
    Handles (.image slot) (scene.request? (.image slot)) (s.shown.request? (.image slot))
      (t.shown.request? (.image slot)) calls result := by
  have hnew : s.shown.image slot ≠ scene.image slot →
      s.shown.request? (.image slot) ≠ scene.request? (.image slot) :=
    mt Scene.request?_image_inj.1
  have hgone : t.shown = s.shown.withImage slot "" → t.shown.request? (.image slot) = none := by
    intro ht
    rw [ht, Scene.request?_eq_none_iff, Scene.path, Scene.image_withImage, if_pos rfl]
  cases h with
  | unchanged hs => exact .unchanged (Scene.request?_image_inj.2 hs) rfl
  | cleared hs hpath ht =>
      exact .cleared (Scene.request?_eq_none_iff.2 hpath) (hnew hs) (hgone ht) (by simp) rfl
  | loaded hs hpath _ ht =>
      refine .loaded (Scene.request?_of_path hpath) (hnew hs) ?_ rfl
      rw [Scene.request?_image_inj, ht, Scene.image_withImage, if_pos rfl]
  | failed hs hpath _ ht =>
      exact .failed (Scene.request?_of_path hpath) (hnew hs) (hgone ht) rfl rfl rfl

theorem PlaysCue.handles (h : PlaysCue m scene.audio s result calls t)
    (hheard : s.shown.audio.heard = s.shown.audio) :
    Handles .audio (scene.request? .audio) (s.shown.request? .audio) (t.shown.request? .audio)
      calls result := by
  have hnew : s.shown.audio ≠ scene.audio.heard →
      s.shown.request? .audio ≠ scene.request? .audio := by
    intro hs heq
    exact hs (hheard.symm.trans (Scene.request?_audio_inj.1 heq))
  have hgone : t.shown = { s.shown with audio := .silence } → t.shown.request? .audio = none := by
    intro ht
    rw [ht]
    rfl
  cases h with
  | unchanged hs => exact .unchanged (Scene.request?_audio_inj.2 (hheard.trans hs)) rfl
  | cleared hs hpath ht =>
      exact .cleared (Scene.request?_eq_none_iff.2 hpath) (hnew hs) (hgone ht) (by simp) rfl
  | loaded hs hpath _ ht =>
      refine .loaded (Scene.request?_of_path hpath) (hnew hs) ?_ rfl
      rw [Scene.request?_audio_inj, ht]
  | failed hs hpath _ ht =>
      exact .failed (Scene.request?_of_path hpath) (hnew hs) (hgone ht) rfl rfl rfl

theorem ShowsImage.slot_eq {slot : ImageSlot} {path : String}
    (h : ShowsImage m slot path s result calls t) : ∀ c ∈ calls, c.1.slot = .image slot := by
  cases h <;> simp [Call.slot]

theorem PlaysCue.slot_eq {cue : Cue} (h : PlaysCue m cue s result calls t) :
    ∀ c ∈ calls, c.1.slot = .audio := by
  cases h <;> simp [Call.slot]

/-- The other slots are left alone. -/
theorem ShowsImage.request?_eq {slot : ImageSlot} {slot' : Slot} {path : String}
    (h : ShowsImage m slot path s result calls t) (hne : slot' ≠ .image slot) :
    t.shown.request? slot' = s.shown.request? slot' := by
  rw [h.shown_eq]
  cases slot' with
  | audio => rw [Scene.request?_audio_inj, Scene.audio_withImage]
  | image slot' =>
      have hslot : slot' ≠ slot := fun heq => hne (congrArg _ heq)
      rw [Scene.request?_image_inj, Scene.image_withImage, if_neg hslot]

theorem PlaysCue.request?_eq {cue : Cue} (h : PlaysCue m cue s result calls t)
    (slot : ImageSlot) : t.shown.request? (.image slot) = s.shown.request? (.image slot) := by
  rw [h.shown_eq, Scene.request?_image_inj, Scene.image_withAudio]

/-! ## All slots -/

section Applies

variable {results : Slot → Status × Option AssetFailure}

/-- Each slot is handled on its own. -/
theorem Applies.handles (h : Applies m scene s t results calls)
    (hheard : s.shown.audio.heard = s.shown.audio) (slot : Slot) :
    Handles slot (scene.request? slot) (s.shown.request? slot) (t.shown.request? slot)
      (Call.forSlot slot calls) (results slot) := by
  cases h with
  | @slots s₁ s₂ s₃ background left right audio hb hl hr ha =>
      have hheard₃ : s₃.shown.audio.heard = s₃.shown.audio := by
        simpa [hr.shown_eq, hl.shown_eq, hb.shown_eq] using hheard
      simp only [Call.forSlot_append]
      cases slot with
      | audio =>
          rw [Call.forSlot_eq_nil hb.slot_eq (by simp), Call.forSlot_eq_nil hl.slot_eq (by simp),
            Call.forSlot_eq_nil hr.slot_eq (by simp), Call.forSlot_eq_self ha.slot_eq,
            ← hb.request?_eq (by simp), ← hl.request?_eq (by simp), ← hr.request?_eq (by simp)]
          exact ha.handles hheard₃
      | image slot =>
          rw [ha.request?_eq, Call.forSlot_eq_nil ha.slot_eq (by simp), List.append_nil]
          cases slot with
          | background =>
              rw [Call.forSlot_eq_self hb.slot_eq, Call.forSlot_eq_nil hl.slot_eq (by simp),
                Call.forSlot_eq_nil hr.slot_eq (by simp), hr.request?_eq (by simp),
                hl.request?_eq (by simp), List.append_nil, List.append_nil]
              exact hb.handles scene
          | left =>
              rw [Call.forSlot_eq_nil hb.slot_eq (by simp), Call.forSlot_eq_self hl.slot_eq,
                Call.forSlot_eq_nil hr.slot_eq (by simp), hr.request?_eq (by simp),
                ← hb.request?_eq (by simp), List.nil_append, List.append_nil]
              exact hl.handles scene
          | right =>
              rw [Call.forSlot_eq_nil hb.slot_eq (by simp),
                Call.forSlot_eq_nil hl.slot_eq (by simp), Call.forSlot_eq_self hr.slot_eq,
                ← hb.request?_eq (by simp), ← hl.request?_eq (by simp)]
              exact hr.handles scene

theorem ShowsImage.eq_of_unchanged {slot : ImageSlot} {path : String}
    (h : ShowsImage m slot path s result calls t) (hstatus : result.1 = .unchanged) :
    t = s ∧ calls = [] := by
  cases h with
  | unchanged => exact ⟨rfl, rfl⟩
  | _ => cases hstatus

theorem PlaysCue.eq_of_unchanged {cue : Cue} (h : PlaysCue m cue s result calls t)
    (hstatus : result.1 = .unchanged) : t = s ∧ calls = [] := by
  cases h with
  | unchanged => exact ⟨rfl, rfl⟩
  | _ => cases hstatus

/-- Where no slot changes, the stage is left as it is, its device included. -/
theorem Applies.eq_of_unchanged (h : Applies m scene s t results calls)
    (hstatus : ∀ slot, (results slot).1 = .unchanged) : t = s ∧ calls = [] := by
  cases h with
  | slots hb hl hr ha =>
      obtain ⟨rfl, rfl⟩ := hb.eq_of_unchanged (hstatus _)
      obtain ⟨rfl, rfl⟩ := hl.eq_of_unchanged (hstatus _)
      obtain ⟨rfl, rfl⟩ := hr.eq_of_unchanged (hstatus _)
      obtain ⟨rfl, rfl⟩ := ha.eq_of_unchanged (hstatus _)
      exact ⟨rfl, rfl⟩

end Applies

/-! ## What is reported -/

/-- A status tells the truth about a slot: what was bound there and what is asked for, what is bound
there now, the calls that were made for it, and the failures that name it. -/
structure Truthful (slot : Slot) (asked before after : Option Call) (calls : List (Call × Bool))
    (failures : List AssetFailure) (status : Status) : Prop where
  unchanged_iff_calls : status = .unchanged ↔ calls = []
  unchanged_iff : status = .unchanged ↔ before = asked
  cleared_iff : status = .cleared ↔ asked = none ∧ before ≠ none
  loaded_iff : status = .loaded ↔
    ∃ c, asked = some c ∧ after = some c ∧ Call.attempts calls = [(c, true)]
  failed_iff : status = .failed ↔ ∃ c, asked = some c ∧ Call.attempts calls = [(c, false)]
  of_failed : status = .failed → after = none ∧ ∃ c path reason,
    asked = some c ∧ c.path? = some path ∧ failures = [⟨slot, path, reason⟩]
  of_not_failed : status ≠ .failed → failures = []

section Handles

variable {slot : Slot} {asked before after : Option Call}

theorem Handles.truthful (h : Handles slot asked before after calls result) :
    Truthful slot asked before after calls result.2.toList result.1 := by
  cases h with
  | unchanged hb ha => constructor <;> simp [hb, Call.attempts]
  | cleared hasked hb ha hcalls hattempts =>
      rw [hasked] at hb
      constructor <;> simp [hasked, hb, hcalls]
  | loaded hasked hb ha hattempts =>
      have hcalls : calls ≠ [] := by
        rintro rfl
        cases hattempts
      rw [hasked] at hb
      constructor <;> simp [hasked, hb, ha, hattempts, hcalls]
  | @failed c f _ hasked hb ha hattempts hslot hpath =>
      have hcalls : calls ≠ [] := by
        rintro rfl
        cases hattempts
      obtain ⟨slot, path, reason⟩ := f
      subst hslot
      rw [hasked] at hb
      constructor <;> simp [hasked, hb, ha, hattempts, hcalls, hpath]

/-- Where something is asked for that is not shown, it is tried once. -/
theorem Handles.attempts_eq {c : Call} (h : Handles slot asked before after calls result)
    (hasked : asked = some c) (hb : before ≠ asked) : ∃ ok, Call.attempts calls = [(c, ok)] := by
  cases h with
  | unchanged hb' => exact absurd hb' hb
  | cleared hasked' => exact absurd (hasked'.symm.trans hasked) (by simp)
  | loaded hasked' _ _ hattempts =>
      obtain rfl := Option.some.inj (hasked'.symm.trans hasked)
      exact ⟨true, hattempts⟩
  | failed hasked' _ _ hattempts =>
      obtain rfl := Option.some.inj (hasked'.symm.trans hasked)
      exact ⟨false, hattempts⟩

/-! ## The same once more -/

variable {after' : Option Call} {calls' : List (Call × Bool)}
  {result' : Status × Option AssetFailure}

/-- What did not fail is shown as it was asked for, so it stays the same. -/
theorem Handles.stays (h : Handles slot asked before after calls result)
    (h' : Handles slot asked after after' calls' result') (hstatus : result.1 ≠ .failed) :
    result'.1 = .unchanged ∧ after' = after := by
  have hshown : after = asked := by
    cases h with
    | unchanged hb ha => exact ha.trans hb
    | cleared hasked _ ha => exact ha.trans hasked.symm
    | loaded _ _ ha => exact ha
    | failed => exact absurd rfl hstatus
  cases h' with
  | unchanged _ ha => exact ⟨rfl, ha⟩
  | cleared _ hb => exact absurd hshown hb
  | loaded _ hb => exact absurd hshown hb
  | failed _ hb => exact absurd hshown hb

/-- What failed is not shown, so it is tried again. -/
theorem Handles.tries_again (h : Handles slot asked before after calls result)
    (h' : Handles slot asked after after' calls' result') (hstatus : result.1 = .failed) :
    ∃ c ok, asked = some c ∧ Call.attempts calls' = [(c, ok)] := by
  obtain ⟨hgone, c, -, -, hasked, -⟩ := h.truthful.of_failed hstatus
  have hnot : after ≠ asked := by simp [hgone, hasked]
  obtain ⟨ok, hattempts⟩ := h'.attempts_eq hasked hnot
  exact ⟨c, ok, hasked, hattempts⟩

end Handles

/-- Where each slot reports at most its own failure, the failures that name a slot are its own. -/
theorem filter_failures_eq {result : Slot → Option AssetFailure}
    (hslot : ∀ slot f, result slot = some f → f.slot = slot) (slot : Slot) :
    (Slot.all.filterMap result).filter (·.slot = slot) = (result slot).toList := by
  have hown (slot' : Slot) : (result slot').filter (fun f => f.slot = slot) =
      if slot' = slot then result slot' else none := by
    cases hresult : result slot' with
    | none => simp
    | some f => simp [Option.filter_some, hslot slot' f hresult]
  rw [List.filter_filterMap]
  simp only [hown, Slot.filterMap_all]
  cases slot with
  | audio => simp
  | image slot => cases slot <;> simp

/-! ## Scenes that have come to be shown -/

/-- What can be shown after a fresh start by bringing stages to scenes and by silence, whatever
devices are used on the way. -/
inductive Reachable : Scene → Prop
  | fresh : Reachable {}
  | apply {σ : Type} (m : Media σ) (s : Stage σ) (scene : Scene) :
      Reachable s.shown → Reachable (s.apply m scene).value.2.shown
  | silence {σ : Type} (m : Media σ) (s : Stage σ) :
      Reachable s.shown → Reachable (s.silence m).value.shown

/-- Silence is shown without a loop. -/
theorem Reachable.heard_audio {shown : Scene} (h : Reachable shown) :
    shown.audio.heard = shown.audio := by
  cases h with
  | fresh => rfl
  | silence => rw [shown_silence]; rfl
  | apply m s scene =>
      rw [shown_apply, Scene.without]
      dsimp only
      split
      · rfl
      · by_cases hpath : scene.audio.path = "" <;> simp [Cue.heard, hpath, Cue.silence]

/-- On a stage that has been brought to scenes, whatever its device answers, each status tells the
truth; music is unchanged if the same plays, or if none plays and none is asked for, looped or not.
When the same scene is applied once more, the slots that did not fail are left as they are, and each
one that failed is tried once; where none failed, the stage stays the same, and so does its device,
which is not called. -/
theorem truthful_apply (h : Reachable s.shown) (scene : Scene) :
    let first := s.apply m scene
    let t := first.value.2
    let again := t.apply m scene
    (∀ slot, Truthful slot (scene.request? slot) (s.shown.request? slot) (t.shown.request? slot)
      (Call.forSlot slot (Note.performed first.notes))
      (first.value.1.failures.filter (·.slot = slot)) (first.value.1.status slot)) ∧
    (∀ slot, first.value.1.status (.image slot) = .unchanged ↔
      s.shown.image? slot = scene.image? slot) ∧
    (first.value.1.status .audio = .unchanged ↔ s.shown.cue? = scene.cue?) ∧
    (∀ slot, first.value.1.status slot ≠ .failed →
      again.value.1.status slot = .unchanged ∧
        again.value.2.shown.request? slot = t.shown.request? slot) ∧
    (∀ slot, first.value.1.status slot = .failed → ∃ c ok, scene.request? slot = some c ∧
      Call.attempts (Call.forSlot slot (Note.performed again.notes)) = [(c, ok)]) ∧
    ((∀ slot, first.value.1.status slot ≠ .failed) →
      again.value.2 = t ∧ Note.performed again.notes = []) := by
  dsimp only
  obtain ⟨results, happlies, hfailures, hstatus⟩ := exists_applies m scene s
  obtain ⟨results', happlies', -, hstatus'⟩ := exists_applies m scene (s.apply m scene).value.2
  have hfirst := happlies.handles h.heard_audio
  have hagain := happlies'.handles (h.apply m s scene).heard_audio
  refine ⟨fun slot => ?_, fun slot => ?_, ?_, fun slot hnot => ?_, fun slot hfailed => ?_,
    fun hnone => ?_⟩
  · have hslot := filter_failures_eq (fun slot f hf => (happlies.of_failure hf).1) slot
    rw [hstatus slot, hfailures, hslot]
    exact (hfirst slot).truthful
  · rw [hstatus, (hfirst (.image slot)).truthful.unchanged_iff, Scene.request?_image_inj,
      Scene.image?_inj]
  · rw [hstatus, (hfirst .audio).truthful.unchanged_iff, Scene.request?_audio_inj, Scene.cue?_inj]
  · obtain ⟨hsame, hshown⟩ := (hfirst slot).stays (hagain slot) ((hstatus slot).symm.trans_ne hnot)
    exact ⟨(hstatus' slot).trans hsame, hshown⟩
  · exact (hfirst slot).tries_again (hagain slot) ((hstatus slot).symm.trans hfailed)
  · exact happlies'.eq_of_unchanged fun slot =>
      ((hfirst slot).stays (hagain slot) ((hstatus slot).symm.trans_ne (hnone slot))).1

/-- A picture that is there, one that is not, and silence, looped though it is. -/
def lamplight : Scene :=
  { background := "day.png", left := "aoi.png", audio := ⟨"", true⟩ }

theorem truthful_lamplight :
    let s : Stage Headless := ⟨{ missing := ["aoi.png"] }, {}⟩
    let first := s.apply Headless.media lamplight
    let again := first.value.2.apply Headless.media lamplight
    Reachable s.shown ∧
      first.value.1 = ⟨.loaded, .failed, .unchanged, .unchanged,
        [⟨.image .left, "aoi.png", "asset not found: aoi.png"⟩]⟩ ∧
      again.value.1.status (.image .background) = .unchanged ∧
      ∃ c ok, lamplight.request? (.image .left) = some c ∧
        Call.attempts (Call.forSlot (.image .left) (Note.performed again.notes)) = [(c, ok)] := by
  intro s first again
  have hreachable : Reachable s.shown := .fresh
  obtain ⟨-, -, -, hstays, htries, -⟩ := truthful_apply (s := s) hreachable lamplight
  exact ⟨hreachable, by decide +kernel, (hstays (.image .background) (by decide +kernel)).1,
    htries (.image .left) (by decide +kernel)⟩

end Stage

end Narrative
