import Mathlib.Data.List.Perm.Basic
import Narrative.CommandLine.Options

/-!
# The grammar of options

A command line is a list of items: flags, each with its value if it takes one, and at most one path.
Arguments are read if and only if they spell such a list, and the options are those that its items
ask for (`Options.read_eq_ok_iff_items`).  A value may look like a flag, so what an argument stands
for is decided from the left, one item at a time (`readInto_words`, `exists_items_of_readInto`).
-/

namespace Narrative.CommandLine

/-- An item of a command line. -/
inductive Item where
  | debug
  | assets (dir : String)
  | config (file : String)
  | target (path : String)
  deriving DecidableEq

namespace Item

/-- The arguments that spell an item. -/
def words : Item → List String
  | .debug => ["--debug"]
  | .assets dir => ["--assets", dir]
  | .config file => ["--config", file]
  | .target path => [path]

/-- The arguments that spell some items, one after the other. -/
def spell (items : List Item) : List String := items.flatMap words

/-- The path of an item that is one. -/
def target? : Item → Option String
  | .target path => some path
  | _ => none

/-- The directory of an item that gives one for the assets. -/
def assets? : Item → Option String
  | .assets dir => some dir
  | _ => none

/-- The file of an item that gives one with settings. -/
def config? : Item → Option String
  | .config file => some file
  | _ => none

/-- The items of a command line: at most one of them is a path, and that does not begin like a
flag. -/
structure Admissible (items : List Item) : Prop where
  plain : ∀ path ∈ items.filterMap target?, ¬['-', '-'] <+: path.toList
  single : (items.filterMap target?).length ≤ 1

/-- What items ask for: of several values for one flag, the last one. -/
def options (items : List Item) : Options where
  target := (items.filterMap target?).head?
  assets := (items.filterMap assets?).getLast?
  config := (items.filterMap config?).getLast?
  debug := decide (.debug ∈ items)

theorem Admissible.perm {items items' : List Item} (h : Admissible items)
    (hperm : items.Perm items') : Admissible items' where
  plain path hpath := h.plain path ((hperm.filterMap target?).mem_iff.2 hpath)
  single := (hperm.filterMap target?).length_eq ▸ h.single

theorem Admissible.targets_eq {items : List Item} (h : Admissible items) :
    items.filterMap target? = [] ∨ ∃ path, items.filterMap target? = [path] := by
  rcases Nat.le_one_iff_eq_zero_or_eq_one.1 h.single with hnone | hone
  · exact Or.inl (List.length_eq_zero_iff.1 hnone)
  · exact Or.inr (List.length_eq_one_iff.1 hone)

/-- There is at most one path, so its place among the items does not matter. -/
theorem Admissible.targets_perm {items items' : List Item} (h : Admissible items)
    (hperm : items.Perm items') : items'.filterMap target? = items.filterMap target? := by
  have hpaths := (hperm.filterMap target?).symm
  rcases h.targets_eq with hnone | ⟨path, hone⟩
  · rw [hnone] at hpaths ⊢
    exact List.perm_nil.1 hpaths
  · rw [hone] at hpaths ⊢
    exact List.perm_singleton.1 hpaths

end Item

namespace Options

variable {o o' : Options} {item : Item} {items : List Item} {args : List String}

/-- The options with one item more. -/
def take (o : Options) : Item → Options
  | .debug => { o with debug := true }
  | .assets dir => { o with assets := some dir }
  | .config file => { o with config := some file }
  | .target path => { o with target := some path }

/-- An item can come next: a path only if it does not begin like a flag and is the first one. -/
def Admits (o : Options) (item : Item) : Prop :=
  ∀ path, item = .target path → ¬['-', '-'] <+: path.toList ∧ o.target = none

theorem isFlag_eq_true_iff {arg : String} : isFlag arg = true ↔ ['-', '-'] <+: arg.toList :=
  List.isPrefixOf_iff_prefix

/-! ## One item -/

theorem readInto_words (h : o.Admits item) (args : List String) :
    readInto o (item.words ++ args) = readInto (o.take item) args := by
  cases item with
  | debug => simp [Item.words, readInto.eq_def o ("--debug" :: args), take]
  | assets dir => simp [Item.words, readInto.eq_def o ("--assets" :: _), take]
  | config file => simp [Item.words, readInto.eq_def o ("--config" :: _), take]
  | target path =>
      obtain ⟨hplain, hfirst⟩ := h path rfl
      have hflag : isFlag path ≠ true := mt isFlag_eq_true_iff.1 hplain
      -- the three flags begin like flags, so the path is none of them
      have hne {flag : String} (hf : isFlag flag = true) : path ≠ flag := by
        rintro rfl
        exact hflag hf
      have hdebug : path ≠ "--debug" := hne (by decide)
      have hassets : path ≠ "--assets" := hne (by decide)
      have hconfig : path ≠ "--config" := hne (by decide)
      simp [Item.words, readInto.eq_def o (path :: args), hdebug, hassets, hconfig, hflag, hfirst,
        take]

/-! ## All items -/

/-- Items can come next, one after the other. -/
def AdmitsAll (o : Options) : List Item → Prop
  | [] => True
  | item :: items => o.Admits item ∧ (o.take item).AdmitsAll items

theorem readInto_spell (h : o.AdmitsAll items) :
    readInto o (Item.spell items) = .ok (items.foldl take o) := by
  induction items generalizing o with
  | nil => rfl
  | cons item items ih =>
      rw [Item.spell, List.flatMap_cons, readInto_words h.1]
      exact ih h.2

theorem exists_items_of_readInto (h : readInto o args = .ok o') :
    ∃ items, Item.spell items = args ∧ o.AdmitsAll items ∧ items.foldl take o = o' := by
  fun_induction readInto o args with
  | case1 o => exact ⟨[], rfl, trivial, Except.ok.inj h⟩
  | case2 o args ih =>
      obtain ⟨items, hitems, hall, hfold⟩ := ih h
      exact ⟨.debug :: items, congrArg _ hitems, ⟨by simp [Admits], hall⟩, hfold⟩
  | case3 | case5 | case7 | case8 => cases h
  | case4 o dir args _ ih =>
      obtain ⟨items, hitems, hall, hfold⟩ := ih h
      exact ⟨.assets dir :: items, congrArg _ hitems, ⟨by simp [Admits], hall⟩, hfold⟩
  | case6 o file args _ _ ih =>
      obtain ⟨items, hitems, hall, hfold⟩ := ih h
      exact ⟨.config file :: items, congrArg _ hitems, ⟨by simp [Admits], hall⟩, hfold⟩
  | case9 o arg args _ _ _ hflag hfirst ih =>
      obtain ⟨items, hitems, hall, hfold⟩ := ih h
      refine ⟨.target arg :: items, congrArg _ hitems, ⟨?_, hall⟩, hfold⟩
      rintro path hpath
      obtain rfl := Item.target.inj hpath
      exact ⟨mt isFlag_eq_true_iff.2 hflag, by simpa using hfirst⟩

theorem admits_of_target?_eq_none (h : item.target? = none) :
    o.Admits item ∧ (o.take item).target = o.target := by
  cases item with
  | target path => cases h
  | _ => exact ⟨by simp [Admits], rfl⟩

theorem eq_target_of_target? {path : String} (h : item.target? = some path) :
    item = .target path := by
  cases item with
  | target path => rw [Option.some.inj h]
  | _ => cases h

/-- A path may still come if there was none, and only one. -/
theorem admitsAll_iff :
    o.AdmitsAll items ↔ (∀ path ∈ items.filterMap Item.target?, ¬['-', '-'] <+: path.toList) ∧
      (o.target.toList ++ items.filterMap Item.target?).length ≤ 1 := by
  induction items generalizing o with
  | nil => cases o.target <;> simp [AdmitsAll]
  | cons item items ih =>
      rw [AdmitsAll, ih]
      cases htarget : item.target? with
      | none =>
          obtain ⟨hadmits, hsame⟩ := admits_of_target?_eq_none (o := o) htarget
          rw [List.filterMap_cons_none htarget, hsame, and_iff_right hadmits]
      | some path =>
          rw [List.filterMap_cons_some htarget]
          obtain rfl := eq_target_of_target? htarget
          cases hfirst : o.target <;> simp [Admits, take, hfirst, and_assoc]

theorem admitsAll_empty_iff : ({} : Options).AdmitsAll items ↔ Item.Admissible items :=
  admitsAll_iff.trans ⟨fun h => ⟨h.1, h.2⟩, fun h => ⟨h.plain, h.single⟩⟩

/-- Where each item writes a value or leaves the old one, the last value stands. -/
theorem foldl_take_eq (field : Options → Option String) (value? : Item → Option String)
    (h : ∀ o item, field (take o item) = (value? item).or (field o)) (o : Options)
    (items : List Item) :
    field (items.foldl take o) = (items.filterMap value?).getLast?.or (field o) := by
  induction items generalizing o with
  | nil => rfl
  | cons item items ih =>
      rw [List.foldl_cons, ih, h]
      cases hvalue : value? item with
      | none => rw [List.filterMap_cons_none hvalue, Option.none_or]
      | some value =>
          rw [List.filterMap_cons_some hvalue, List.getLast?_cons, Option.some_or, Option.some_or]
          cases (items.filterMap value?).getLast? <;> rfl

theorem debug_foldl_take (o : Options) (items : List Item) :
    (items.foldl take o).debug = (decide (.debug ∈ items) || o.debug) := by
  induction items generalizing o with
  | nil => rfl
  | cons item items ih =>
      rw [List.foldl_cons, ih]
      cases item <;> simp [take]

theorem foldl_take_empty (h : Item.Admissible items) :
    items.foldl take {} = Item.options items := by
  have hlast : (items.filterMap Item.target?).getLast? =
      (items.filterMap Item.target?).head? := by
    rcases h.targets_eq with hnone | ⟨path, hone⟩
    · rw [hnone]
      rfl
    · rw [hone]
      rfl
  have htarget := foldl_take_eq target Item.target? (fun o item => by cases item <;> rfl) {} items
  have hassets := foldl_take_eq assets Item.assets? (fun o item => by cases item <;> rfl) {} items
  have hconfig := foldl_take_eq config Item.config? (fun o item => by cases item <;> rfl) {} items
  have hdebug := debug_foldl_take {} items
  rw [Option.or_none] at htarget hassets hconfig
  rw [Bool.or_false] at hdebug
  cases hfold : items.foldl take {} with
  | mk t a c d =>
      rw [hfold] at htarget hassets hconfig hdebug
      rw [Item.options, ← hlast, ← htarget, ← hassets, ← hconfig, ← hdebug]

theorem read_spell (h : Item.Admissible items) :
    read (Item.spell items) = .ok (Item.options items) := by
  rw [read, readInto_spell (admitsAll_empty_iff.2 h), foldl_take_empty h]

/-! ## The grammar -/

/-- Arguments are read exactly if they spell the items of a command line, and then as what these
ask for.  The items of a command line make up another one in any order, and that asks for the same,
but for the values of a flag that is given again. -/
theorem read_eq_ok_iff_items :
    (∀ args o, read args = .ok o ↔
      ∃ items, Item.Admissible items ∧ args = Item.spell items ∧ o = Item.options items) ∧
    ∀ items items', Item.Admissible items → items.Perm items' →
      ∃ o o', read (Item.spell items) = .ok o ∧ read (Item.spell items') = .ok o' ∧
        o'.target = o.target ∧ o'.debug = o.debug ∧
        (items'.filterMap Item.assets? = items.filterMap Item.assets? → o'.assets = o.assets) ∧
        (items'.filterMap Item.config? = items.filterMap Item.config? → o'.config = o.config) := by
  refine ⟨fun args o => ⟨fun h => ?_, ?_⟩, fun items items' h hperm => ?_⟩
  · obtain ⟨items, hitems, hall, hfold⟩ := exists_items_of_readInto h
    have hadmissible := admitsAll_empty_iff.1 hall
    exact ⟨items, hadmissible, hitems.symm, by rw [← hfold, foldl_take_empty hadmissible]⟩
  · rintro ⟨items, h, rfl, rfl⟩
    exact read_spell h
  · refine ⟨_, _, read_spell h, read_spell (h.perm hperm), ?_, ?_, fun hassets => ?_,
      fun hconfig => ?_⟩
    · exact congrArg List.head? (h.targets_perm hperm)
    · simp [Item.options, hperm.mem_iff]
    · simp [Item.options, hassets]
    · simp [Item.options, hconfig]

/-- A command line with a directory that looks like a flag, and with another one behind it. -/
def rehearsal : List Item :=
  [.assets "--debug", .target "intro.json", .config "player.json", .debug, .assets "art"]

/-- The items of the rehearsal in another order, the two directories as before. -/
def rehearsalReordered : List Item :=
  [.debug, .assets "--debug", .config "player.json", .assets "art", .target "intro.json"]

theorem read_rehearsal :
    Item.Admissible rehearsal ∧ rehearsal.Perm rehearsalReordered ∧
      Item.spell rehearsal =
        ["--assets", "--debug", "intro.json", "--config", "player.json", "--debug", "--assets",
          "art"] ∧
      read (Item.spell rehearsal) =
        .ok ⟨some "intro.json", some "art", some "player.json", true⟩ ∧
      read (Item.spell rehearsalReordered) = read (Item.spell rehearsal) := by
  have hadmissible : Item.Admissible rehearsal := ⟨by decide, by decide⟩
  have hperm : rehearsal.Perm rehearsalReordered := by decide
  have hread := (read_eq_ok_iff_items.1 (Item.spell rehearsal) _).2 ⟨_, hadmissible, rfl, rfl⟩
  obtain ⟨o, o', ho, ho', htarget, hdebug, hassets, hconfig⟩ :=
    read_eq_ok_iff_items.2 rehearsal rehearsalReordered hadmissible hperm
  have hassets : o'.assets = o.assets := hassets rfl
  have hconfig : o'.config = o.config := hconfig rfl
  have hsame : o' = o := by
    cases o
    cases o'
    simp_all only
  exact ⟨hadmissible, hperm, rfl, hread, by rw [ho', ho, hsame]⟩

end Options

end Narrative.CommandLine
