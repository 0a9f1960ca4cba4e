import Narrative.Config.OfText
import Narrative.Proofs.Json.Runs

/-!
# What a file gives

A text gives some of the settings and leaves the others open.  `Gives` says which, member by member
of an object or item by item of a list, and knows of no default.  The settings of a text are those
that it gives, over the defaults (`exists_gives_of_ofText`).
-/

namespace Narrative.Config

open Json Scan

/-- Some settings; those that are not given stay open. -/
structure Given where
  assetRoot : Option String := none
  logFilter : Option String := none
  debug : Option Bool := none
  deriving DecidableEq

namespace Given

/-- Whether a setting is given. -/
def has (g : Given) : Field → Bool
  | .assetRoot => g.assetRoot.isSome
  | .logFilter => g.logFilter.isSome
  | .debug => g.debug.isSome

/-- Other settings, where those that are given stand instead. -/
def onto (g : Given) (c : Config) : Config where
  assetRoot := g.assetRoot.getD c.assetRoot
  logFilter := g.logFilter.getD c.logFilter
  debug := g.debug.getD c.debug

end Given

/-! ## Texts -/

/-- A text begins with the value of a setting, which is given with the others then. -/
inductive ValueGives (length : Nat) (g : Given) (text : Bytes) : Field → Given → Bytes → Prop
  | assetRoot {value : String} {rest : Bytes} :
      stringField "path string" length text = .ok (value, rest) →
        ValueGives length g text .assetRoot { g with assetRoot := some value } rest
  | logFilter {value : String} {rest : Bytes} :
      stringField "a string" length text = .ok (value, rest) →
        ValueGives length g text .logFilter { g with logFilter := some value } rest
  | debug {value : Bool} {rest : Bytes} :
      boolField length text = .ok (value, rest) →
        ValueGives length g text .debug { g with debug := some value } rest

/-- What the members of an object give, up to its closing brace: each setting under its name, and
none twice.  Members of other names give nothing, whatever their values are. -/
inductive MembersGive (length : Nat) : Given → Bool → Bytes → Given → Bytes → Prop
  | close {g : Given} {isFirst : Bool} {text rest : Bytes} :
      memberName isFirst length text = .ok (none, rest) →
        MembersGive length g isFirst text g rest.tail
  | other {g final : Given} {isFirst : Bool} {text behind value next rest : Bytes} {name : String} :
      memberName isFirst length text = .ok (some name, behind) → field? name = none →
        colon length behind = .ok ((), value) → skipValue length value = .ok ((), next) →
          MembersGive length g false next final rest →
            MembersGive length g isFirst text final rest
  | setting {g g' final : Given} {isFirst : Bool} {text behind value next rest : Bytes}
      {name : String} {f : Field} :
      memberName isFirst length text = .ok (some name, behind) → field? name = some f →
        g.has f = false → colon length behind = .ok ((), value) →
          ValueGives length g value f g' next → MembersGive length g' false next final rest →
            MembersGive length g isFirst text final rest

/-- What the items of a list give, up to its closing bracket: the settings in their order, as far as
there are items. -/
inductive ItemsGive (length : Nat) : Given → Bool → List Field → Bytes → Given → Bytes → Prop
  | close {g : Given} {isFirst : Bool} {fields : List Field} {text rest : Bytes} :
      token length text = .ok (some ']', rest) → ItemsGive length g isFirst fields text g rest.tail
  | first {g g' final : Given} {f : Field} {fields : List Field} {text value next rest : Bytes}
      {c : Char} :
      token length text = .ok (some c, value) → c ≠ ']' → ValueGives length g value f g' next →
        ItemsGive length g' false fields next final rest →
          ItemsGive length g true (f :: fields) text final rest
  | later {g g' final : Given} {f : Field} {fields : List Field}
      {text behind value next rest : Bytes} {c : Char} :
      token length text = .ok (some ',', behind) → token length behind.tail = .ok (some c, value) →
        c ≠ ']' → ValueGives length g value f g' next →
          ItemsGive length g' false fields next final rest →
            ItemsGive length g false (f :: fields) text final rest

/-- What a text gives: the members of an object, or the items of a list. -/
inductive Gives (text : String) (g : Given) : Prop
  | object {behind rest left : Bytes} :
      token text.toUTF8.toList.length text.toUTF8.toList = .ok (some '\x7b', behind) →
        MembersGive text.toUTF8.toList.length {} true behind.tail g rest →
          finish text.toUTF8.toList.length rest = .ok ((), left) → Gives text g
  | list {behind rest left : Bytes} :
      token text.toUTF8.toList.length text.toUTF8.toList = .ok (some '[', behind) →
        ItemsGive text.toUTF8.toList.length {} true fields behind.tail g rest →
          finish text.toUTF8.toList.length rest = .ok ((), left) → Gives text g

/-! ## Only one reading -/

section

variable {length : Nat} {g final final' : Given} {f : Field} {isFirst : Bool} {fields : List Field}
  {text rest rest' : Bytes}

theorem ValueGives.unique (h : ValueGives length g text f final rest)
    (h' : ValueGives length g text f final' rest') : final = final' ∧ rest = rest' := by
  cases h with
  | assetRoot hvalue =>
      cases h' with
      | assetRoot hvalue' =>
          obtain ⟨rfl, rfl⟩ := ok_unique hvalue hvalue'
          exact ⟨rfl, rfl⟩
  | logFilter hvalue =>
      cases h' with
      | logFilter hvalue' =>
          obtain ⟨rfl, rfl⟩ := ok_unique hvalue hvalue'
          exact ⟨rfl, rfl⟩
  | debug hvalue =>
      cases h' with
      | debug hvalue' =>
          obtain ⟨rfl, rfl⟩ := ok_unique hvalue hvalue'
          exact ⟨rfl, rfl⟩

theorem MembersGive.unique (h : MembersGive length g isFirst text final rest)
    (h' : MembersGive length g isFirst text final' rest') : final = final' ∧ rest = rest' := by
  induction h with
  | close hname =>
      cases h' with
      | close hname' =>
          obtain ⟨-, rfl⟩ := ok_unique hname hname'
          exact ⟨rfl, rfl⟩
      | other hname' | setting hname' => cases (ok_unique hname hname').1
  | other hname hfield hcolon hskip _ ih =>
      cases h' with
      | close hname' => cases (ok_unique hname hname').1
      | other hname' hfield' hcolon' hskip' hnext' =>
          obtain ⟨-, rfl⟩ := ok_unique hname hname'
          obtain ⟨-, rfl⟩ := ok_unique hcolon hcolon'
          obtain ⟨-, rfl⟩ := ok_unique hskip hskip'
          exact ih hnext'
      | setting hname' hfield' =>
          obtain rfl := Option.some.inj (ok_unique hname hname').1
          cases hfield.symm.trans hfield'
  | setting hname hfield _ hcolon hvalue _ ih =>
      cases h' with
      | close hname' => cases (ok_unique hname hname').1
      | other hname' hfield' =>
          obtain rfl := Option.some.inj (ok_unique hname hname').1
          cases hfield.symm.trans hfield'
      | setting hname' hfield' _ hcolon' hvalue' hnext' =>
          obtain ⟨hsame, rfl⟩ := ok_unique hname hname'
          obtain rfl := Option.some.inj hsame
          obtain rfl := Option.some.inj (hfield.symm.trans hfield')
          obtain ⟨-, rfl⟩ := ok_unique hcolon hcolon'
          obtain ⟨rfl, rfl⟩ := hvalue.unique hvalue'
          exact ih hnext'

theorem ItemsGive.unique (h : ItemsGive length g isFirst fields text final rest)
    (h' : ItemsGive length g isFirst fields text final' rest') : final = final' ∧ rest = rest' := by
  induction h with
  | close htoken =>
      cases h' with
      | close htoken' =>
          obtain ⟨-, rfl⟩ := ok_unique htoken htoken'
          exact ⟨rfl, rfl⟩
      | first htoken' hopen' =>
          exact absurd (Option.some.inj (ok_unique htoken htoken').1).symm hopen'
      | later htoken' => cases (ok_unique htoken htoken').1
  | first htoken hopen hvalue _ ih =>
      cases h' with
      | close htoken' => exact absurd (Option.some.inj (ok_unique htoken htoken').1) hopen
      | first htoken' _ hvalue' hnext' =>
          obtain ⟨-, rfl⟩ := ok_unique htoken htoken'
          obtain ⟨rfl, rfl⟩ := hvalue.unique hvalue'
          exact ih hnext'
  | later htoken hfirst _ hvalue _ ih =>
      cases h' with
      | close htoken' => cases (ok_unique htoken htoken').1
      | later htoken' hfirst' _ hvalue' hnext' =>
          obtain ⟨-, rfl⟩ := ok_unique htoken htoken'
          obtain ⟨-, rfl⟩ := ok_unique hfirst hfirst'
          obtain ⟨rfl, rfl⟩ := hvalue.unique hvalue'
          exact ih hnext'

theorem Gives.unique {text : String} {g g' : Given} (h : Gives text g) (h' : Gives text g') :
    g = g' := by
  cases h with
  | object htoken hmembers =>
      cases h' with
      | object htoken' hmembers' =>
          obtain ⟨-, rfl⟩ := ok_unique htoken htoken'
          exact (hmembers.unique hmembers').1
      | list htoken' => cases (ok_unique htoken htoken').1
  | list htoken hitems =>
      cases h' with
      | object htoken' => cases (ok_unique htoken htoken').1
      | list htoken' hitems' =>
          obtain ⟨-, rfl⟩ := ok_unique htoken htoken'
          exact (hitems.unique hitems').1

end

/-! ## Reading a text -/

section

variable {length : Nat} {c d : Config} {g : Given} {f : Field} {isFirst : Bool}
  {text rest : Bytes}

theorem wrongType_ne_ok {α : Type} {expected : String} {a : α} :
    (wrongType expected : Scan α) length text ≠ .ok (a, rest) := by
  intro h
  obtain ⟨next, behind, -, h⟩ := bind_eq_ok_iff.1 h
  split at h
  · exact refuse_ne_ok h
  · exact refuse_ne_ok h
  · obtain ⟨found, behind, -, h⟩ := bind_eq_ok_iff.1 h
    exact refuse_ne_ok h

theorem refuseRepeated_ne_ok : refuseRepeated f length text ≠ .ok (c, rest) := by
  intro h
  obtain ⟨_, _, -, h⟩ := bind_eq_ok_iff.1 h
  obtain ⟨_, _, -, h⟩ := bind_eq_ok_iff.1 h
  exact refuse_ne_ok h

theorem exists_valueGives (h : scanField (g.onto d) f length text = .ok (c, rest)) :
    ∃ g', ValueGives length g text f g' rest ∧ c = g'.onto d ∧
      ∀ f', g'.has f' = (g.has f' || decide (f' = f)) := by
  cases f with
  | assetRoot =>
      obtain ⟨value, behind, hvalue, h⟩ := bind_eq_ok_iff.1 h
      obtain ⟨rfl, rfl⟩ := pure_eq_ok_iff.1 h
      exact ⟨_, .assetRoot hvalue, rfl, fun f' => by cases f' <;> simp [Given.has]⟩
  | logFilter =>
      obtain ⟨value, behind, hvalue, h⟩ := bind_eq_ok_iff.1 h
      obtain ⟨rfl, rfl⟩ := pure_eq_ok_iff.1 h
      exact ⟨_, .logFilter hvalue, rfl, fun f' => by cases f' <;> simp [Given.has]⟩
  | debug =>
      obtain ⟨value, behind, hvalue, h⟩ := bind_eq_ok_iff.1 h
      obtain ⟨rfl, rfl⟩ := pure_eq_ok_iff.1 h
      exact ⟨_, .debug hvalue, rfl, fun f' => by cases f' <;> simp [Given.has]⟩

theorem exists_membersGive (h : scanMembers length text = .ok (c, rest)) :
    ∃ final, MembersGive length {} true text final rest ∧ c = final.onto {} := by
  refine loop_induction (P := fun state text c rest => ∀ g : Given, state.1 = g.onto {} →
    (∀ f, f ∈ state.2.1 ↔ g.has f = true) →
      ∃ final, MembersGive length g state.2.2 text final rest ∧ c = final.onto {})
    (fun state text t next hturn => ?_) h {} rfl (fun f => by cases f <;> simp [Given.has])
  obtain ⟨c, seen, isFirst⟩ := state
  obtain ⟨name?, behind, hname, hturn⟩ := bind_eq_ok_iff.1 hturn
  cases name? with
  | none =>
      simp only [skip_bind] at hturn
      obtain ⟨rfl, rfl⟩ := pure_eq_ok_iff.1 hturn
      exact fun g hg _ => ⟨g, .close hname, hg⟩
  | some name =>
      cases hfield : field? name with
      | none =>
          simp only [hfield] at hturn
          obtain ⟨_, _, hcolon, hturn⟩ := bind_eq_ok_iff.1 hturn
          obtain ⟨_, _, hskip, hturn⟩ := bind_eq_ok_iff.1 hturn
          obtain ⟨rfl, rfl⟩ := pure_eq_ok_iff.1 hturn
          intro c' rest ih g hg hseen
          obtain ⟨final, hfinal, hc⟩ := ih g hg hseen
          exact ⟨final, .other hname hfield hcolon hskip hfinal, hc⟩
      | some f =>
          simp only [hfield] at hturn
          split at hturn
          · obtain ⟨_, _, hrepeated, -⟩ := bind_eq_ok_iff.1 hturn
            exact absurd hrepeated refuseRepeated_ne_ok
          · rename_i hnew
            obtain ⟨_, _, hcolon, hturn⟩ := bind_eq_ok_iff.1 hturn
            obtain ⟨c', _, hvalue, hturn⟩ := bind_eq_ok_iff.1 hturn
            obtain ⟨rfl, rfl⟩ := pure_eq_ok_iff.1 hturn
            intro c'' rest ih g hg hseen
            dsimp only at hg hseen
            rw [hg] at hvalue
            obtain ⟨g', hgives, hg', hhas⟩ := exists_valueGives hvalue
            have hseen' : ∀ f', f' ∈ f :: seen ↔ g'.has f' = true := by
              intro f'
              rw [List.mem_cons, hseen, hhas, Bool.or_eq_true, decide_eq_true_iff, or_comm]
            obtain ⟨final, hfinal, hc⟩ := ih g' hg' hseen'
            have hopen : g.has f = false := by simpa [hseen] using hnew
            exact ⟨final, .setting hname hfield hopen hcolon hgives hfinal, hc⟩

theorem exists_itemsGive {fields : List Field}
    (h : scanItems (g.onto d) isFirst fields length text = .ok (c, rest)) :
    ∃ final, ItemsGive length g isFirst fields text final rest ∧ c = final.onto d := by
  induction fields generalizing g isFirst text with
  | nil =>
      obtain ⟨next, behind, htoken, h⟩ := bind_eq_ok_iff.1 h
      split at h
      · exact absurd h refuseNext_ne_ok
      · rw [skip_bind] at h
        obtain ⟨rfl, rfl⟩ := pure_eq_ok_iff.1 h
        exact ⟨g, .close htoken, rfl⟩
      · obtain ⟨_, _, -, h⟩ := bind_eq_ok_iff.1 h
        obtain ⟨_, _, -, h⟩ := bind_eq_ok_iff.1 h
        split at h <;> exact absurd h refuseNext_ne_ok
      · exact absurd h refuseNext_ne_ok
  | cons f fields ih =>
      have hitem {value : Bytes}
          (h : (do scanItems (← scanField (g.onto d) f) false fields) length value =
            .ok (c, rest)) :
          ∃ g' next final, ValueGives length g value f g' next ∧
            ItemsGive length g' false fields next final rest ∧ c = final.onto d := by
        obtain ⟨c', next, hvalue, h⟩ := bind_eq_ok_iff.1 h
        obtain ⟨g', hgives, rfl, -⟩ := exists_valueGives hvalue
        obtain ⟨final, hfinal, hc⟩ := ih h
        exact ⟨g', next, final, hgives, hfinal, hc⟩
      obtain ⟨next, behind, htoken, h⟩ := bind_eq_ok_iff.1 h
      split at h
      · exact absurd h refuseNext_ne_ok
      · rw [skip_bind] at h
        obtain ⟨rfl, rfl⟩ := pure_eq_ok_iff.1 h
        exact ⟨g, .close htoken, rfl⟩
      · rename_i next hopen
        dsimp only at h
        cases isFirst with
        | true =>
            obtain ⟨g', after, final, hgives, hfinal, hc⟩ := hitem h
            exact ⟨final, .first htoken hopen hgives hfinal, hc⟩
        | false =>
            rw [if_neg (by simp)] at h
            split at h
            · exact absurd h refuseNext_bind_ne_ok
            · rename_i hcomma
              obtain rfl : next = ',' := Decidable.not_not.1 hcomma
              rw [skip_bind] at h
              obtain ⟨first, value, hfirst, h⟩ := bind_eq_ok_iff.1 h
              split at h
              · exact absurd h refuseNext_bind_ne_ok
              · exact absurd h refuseNext_bind_ne_ok
              · rename_i first hitemOpen
                obtain ⟨g', after, final, hgives, hfinal, hc⟩ := hitem h
                exact ⟨final, .later htoken hfirst hitemOpen hgives hfinal, hc⟩

theorem exists_gives_of_ofText {text : String} (h : ofText text = .ok c) :
    ∃ g, Gives text g ∧ c = g.onto {} := by
  rw [ofText, Scan.run] at h
  split at h
  · rename_i c' left hscan
    obtain rfl := Except.ok.inj h
    have hend {c c' : Config} {rest left : Bytes}
        (h : (do finish; pure c) text.toUTF8.toList.length rest = .ok (c', left)) :
        finish text.toUTF8.toList.length rest = .ok ((), left) ∧ c = c' := by
      obtain ⟨_, _, hfinish, h⟩ := bind_eq_ok_iff.1 h
      obtain ⟨hc, rfl⟩ := pure_eq_ok_iff.1 h
      exact ⟨hfinish, hc⟩
    obtain ⟨first, behind, htoken, hscan⟩ := bind_eq_ok_iff.1 hscan
    split at hscan
    · rw [skip_bind] at hscan
      obtain ⟨c, rest, hmembers, hscan⟩ := bind_eq_ok_iff.1 hscan
      obtain ⟨hfinish, rfl⟩ := hend hscan
      obtain ⟨g, hgives, hc⟩ := exists_membersGive hmembers
      exact ⟨g, .object htoken hgives hfinish, hc⟩
    · rw [skip_bind] at hscan
      obtain ⟨c, rest, hitems, hscan⟩ := bind_eq_ok_iff.1 hscan
      obtain ⟨hfinish, rfl⟩ := hend hscan
      obtain ⟨g, hgives, hc⟩ := exists_itemsGive (g := {}) (d := {}) hitems
      exact ⟨g, .list htoken hgives hfinish, hc⟩
    · obtain ⟨_, _, hwrong, -⟩ := bind_eq_ok_iff.1 hscan
      exact absurd hwrong wrongType_ne_ok
  · cases h

end

end Narrative.Config
