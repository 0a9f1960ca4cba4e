import Narrative.Json.Reader
import Narrative.Proofs.Json.Runs
import Narrative.Proofs.Keyed

/-!
# Names in an object are distinct

A value that is read from a text has, in each of its objects, each name once (`distinct_of_ofText`):
a repeated name only replaces the value of the first.  What a scanner takes is described by
`Yields`, with one lemma for each way to put scanners together.
-/

namespace Narrative.Json

/-- In each object of the value, each name stands once. -/
inductive Distinct : Json → Prop
  | null : Distinct .null
  | bool (b : Bool) : Distinct (.bool b)
  | number (n : Number) : Distinct (.number n)
  | string (s : String) : Distinct (.string s)
  | list {items : List Json} : (∀ j ∈ items, Distinct j) → Distinct (.list items)
  | object {members : Keyed Json} :
      members.keys.Nodup → (∀ m ∈ members, Distinct m.2) → Distinct (.object members)

theorem Distinct.members? {j : Json} {members : Keyed Json} (h : j.Distinct)
    (hm : j.members? = some members) : members.keys.Nodup ∧ ∀ m ∈ members, m.2.Distinct := by
  cases h with
  | object hn hd =>
      obtain rfl := Option.some.inj hm
      exact ⟨hn, hd⟩
  | _ => simp [Json.members?] at hm

theorem distinct_object_iff {members : Keyed Json} :
    (object members).Distinct ↔ members.keys.Nodup ∧ ∀ m ∈ members, m.2.Distinct :=
  ⟨fun h => h.members? rfl, fun h => .object h.1 h.2⟩

theorem Distinct.member? {j value : Json} {name : String} (h : j.Distinct)
    (hv : j.member? name = some value) : value.Distinct := by
  obtain ⟨members, hm, hg⟩ := Option.bind_eq_some_iff.1 hv
  exact (h.members? hm).2 _ (Keyed.mem_of_get? hg)

/-- What holds of the members of an object that is itself a member of a value. -/
theorem Distinct.membersAt? {j : Json} {members : Keyed Json} {name : String} (h : j.Distinct)
    (hm : (j.member? name).bind Json.members? = some members) :
    members.keys.Nodup ∧ ∀ m ∈ members, m.2.Distinct := by
  obtain ⟨value, hvalue, hmembers⟩ := Option.bind_eq_some_iff.1 hm
  exact (h.member? hvalue).members? hmembers

namespace Scan

variable {α β σ : Type} {P : α → Prop} {Q : β → Prop}

/-- Whatever a scanner takes has a property. -/
def Yields (P : α → Prop) (scan : Scan α) : Prop :=
  ∀ ⦃length text a rest⦄, scan length text = .ok (a, rest) → P a

theorem yields_true (scan : Scan α) : Yields (fun _ => True) scan := by
  intro _ _ _ _ _
  trivial

theorem yields_pure {a : α} (h : P a) : Yields P (pure a) := by
  intro length text b rest hb
  obtain ⟨rfl, -⟩ := pure_eq_ok_iff.1 hb
  exact h

theorem yields_refuseNext (cause : Cause) : Yields P (refuseNext cause) :=
  fun _ _ _ _ h => absurd h refuseNext_ne_ok

theorem yields_bind {scan : Scan α} {next : α → Scan β} (h : Yields P scan)
    (hnext : ∀ a, P a → Yields Q (next a)) : Yields Q (scan >>= next) := by
  intro length text b rest hb
  obtain ⟨a, behind, ha, hb⟩ := bind_eq_ok_iff.1 hb
  exact hnext a (h ha) hb

theorem yields_seq {scan : Scan α} {next : α → Scan β} (h : ∀ a, Yields Q (next a)) :
    Yields Q (scan >>= next) :=
  yields_bind (yields_true scan) fun a _ => h a

theorem yields_refuseNext_bind (cause : Cause) (next : α → Scan β) :
    Yields Q (refuseNext cause >>= next) :=
  yields_bind (yields_refuseNext (P := fun _ => False) cause) fun _ h => h.elim

/-- A turn keeps what holds of the state, or ends with a value that has a property. -/
def Turn.Keeps (I : σ → Prop) (P : α → Prop) : Turn σ α → Prop
  | .again state => I state
  | .done a => P a

theorem yields_loop {I : σ → Prop} {turn : σ → Scan (Turn σ α)}
    (hturn : ∀ state, I state → Yields (Turn.Keeps I P) (turn state)) {state : σ}
    (hstate : I state) : Yields P (loop turn state) := by
  intro length text a rest h
  refine loop_induction (P := fun state _ a _ => I state → P a)
    (fun state text t behind ht => ?_) h hstate
  cases t with
  | done a => exact fun hI => hturn state hI ht
  | again next => exact fun a rest ih hI => ih (hturn state hI ht)

theorem yields_items {item : Scan α} (h : Yields P item) :
    Yields (fun taken => ∀ a ∈ taken, P a) (items item) := by
  refine yields_loop (I := fun taken => ∀ a ∈ taken, P a) (fun taken htaken => ?_) (by simp)
  have hagain : Yields (Turn.Keeps (fun taken => ∀ a ∈ taken, P a) fun taken : List α =>
      ∀ a ∈ taken, P a) (do return .again ((← item) :: taken)) :=
    yields_bind h fun a ha => yields_pure (List.forall_mem_cons.2 ⟨ha, htaken⟩)
  refine yields_seq fun c => ?_
  split
  · exact yields_refuseNext .endInList
  · exact yields_seq fun _ => yields_pure fun a ha => htaken a (List.mem_reverse.1 ha)
  · dsimp only
    split
    · exact hagain
    · split
      · exact yields_refuseNext_bind .expectedListComma _
      · refine yields_seq fun _ => yields_seq fun t => ?_
        split
        · exact yields_refuseNext_bind .endInValue _
        · exact yields_refuseNext_bind .trailingComma _
        · exact hagain

theorem yields_members {value : Scan α} (h : Yields P value) :
    Yields (fun taken => taken.keys.Nodup ∧ ∀ m ∈ taken, P m.2) (members value) := by
  refine yields_loop (I := fun state => (Keyed.keys state.1).Nodup ∧ ∀ m ∈ state.1, P m.2)
    (fun state hstate => ?_) (by simp)
  refine yields_seq fun name => ?_
  split
  · exact yields_seq fun _ => yields_pure hstate
  · rename_i name
    refine yields_seq fun _ => yields_bind h fun a ha => yields_pure ⟨?_, fun m hm => ?_⟩
    · exact Keyed.nodup_keys_put hstate.1 name a
    · rcases Keyed.mem_put hm with rfl | hm
      · exact ha
      · exact hstate.2 m hm

theorem yields_valueWith {list object : Scan Json} (hlist : Yields Distinct list)
    (hobject : Yields Distinct object) : Yields Distinct (valueWith list object) := by
  refine yields_seq fun c => ?_
  split
  · exact yields_refuseNext .endInValue
  · exact yields_seq fun _ => yields_seq fun _ => yields_pure .null
  · exact yields_seq fun _ => yields_seq fun _ => yields_pure (.bool true)
  · exact yields_seq fun _ => yields_seq fun _ => yields_pure (.bool false)
  · exact yields_seq fun _ => yields_seq fun s => yields_pure (.string s)
  · exact hlist
  · exact hobject
  · split
    · exact yields_seq fun n => yields_pure (.number n)
    · exact yields_refuseNext .expectedValue

theorem yields_value (depth : Nat) : Yields Distinct (value depth) := by
  induction depth with
  | zero => exact yields_valueWith (yields_refuseNext .tooDeep) (yields_refuseNext .tooDeep)
  | succ depth ih =>
      refine yields_valueWith (yields_seq fun _ => ?_) (yields_seq fun _ => ?_)
      · exact yields_bind (yields_items ih) fun items hitems => yields_pure (.list hitems)
      · exact yields_bind (yields_members ih) fun members hmembers =>
          yields_pure (.object hmembers.1 hmembers.2)

theorem Yields.of_run {scan : Scan α} (h : Yields P scan) {text : Bytes} {a : α}
    (ha : scan.run text = .ok a) : P a := by
  unfold run at ha
  split at ha
  · rename_i hscan
    obtain rfl := Except.ok.inj ha
    exact h hscan
  · simp at ha

end Scan

/-- A value that has been read has each name once in each of its objects. -/
theorem distinct_of_ofText {text : String} {j : Json} (h : ofText text = .ok j) : j.Distinct := by
  have hscan : Scan.Yields Distinct (do let j ← Scan.value Scan.depthLimit; Scan.finish; pure j) :=
    Scan.yields_bind (Scan.yields_value Scan.depthLimit) fun j hj =>
      Scan.yields_seq fun _ => Scan.yields_pure hj
  exact hscan.of_run h

end Narrative.Json
