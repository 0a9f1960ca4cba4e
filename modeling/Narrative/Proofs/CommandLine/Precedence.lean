import Narrative.CommandLine.Basic
import Narrative.Disk.Tree
import Narrative.Proofs.Config.Document
import Narrative.Proofs.Player.Bound

/-!
# Which setting stands

The settings of a run come from the flags, the variables, the file that is named and the defaults.
Each setting comes from the first of these that gives it (`settings_from_first`).  A variable that
is empty gives nothing, but for the one that shows the state of the run: empty it stands over the
file and says no (`empty_debug_stands_over_file`).
-/

namespace Narrative.CommandLine

open Config

variable {disk : Disk} {env : Environment} {o : Options} {base c : Config} {file : Given}

/-- What the named file gives; nothing where none is named. -/
inductive FileGives (disk : Disk) : Option String → Given → Prop
  | unnamed : FileGives disk none {}
  | named {path text : String} {g : Given} :
      disk.text path = .ok text → Gives text g → FileGives disk (some path) g

theorem FileGives.unique {path? : Option String} {g g' : Given} (h : FileGives disk path? g)
    (h' : FileGives disk path? g') : g = g' := by
  cases h with
  | unnamed =>
      cases h' with
      | unnamed => rfl
  | named htext hgives =>
      cases h' with
      | named htext' hgives' =>
          obtain rfl := Except.ok.inj (htext.symm.trans htext')
          exact hgives.unique hgives'

theorem exists_fileGives_of_ofFile {path : String} (h : Config.ofFile disk path = .ok c) :
    ∃ file, FileGives disk (some path) file ∧ c = file.onto {} := by
  rw [Config.ofFile] at h
  split at h
  · cases h
  · rename_i text htext
    cases hc : Config.ofText text with
    | error refusal =>
        rw [hc] at h
        cases h
    | ok c' =>
        rw [hc] at h
        obtain rfl := Except.ok.inj h
        obtain ⟨g, hg, rfl⟩ := exists_gives_of_ofText hc
        exact ⟨g, .named htext hg, rfl⟩

/-- What the variables give. -/
def givenBy (env : Environment) : Given where
  assetRoot := nonEmpty? (env assetRootVariable)
  logFilter := nonEmpty? (env logFilterVariable)
  debug := (env debugVariable).bind flag?

theorem override_eq_ok_iff :
    base.override env = .ok c ↔
      (∀ value, env debugVariable = some value → (flag? value).isSome) ∧
        (givenBy env).onto base = c := by
  rw [Config.override]
  cases hvalue : env debugVariable with
  | none => simp [givenBy, Given.onto, hvalue]
  | some value =>
      cases hflag : flag? value with
      | none => simp [hflag]
      | some debug => simp [givenBy, Given.onto, hvalue, hflag]

/-- The variables go onto the settings that are loaded, and the flags onto these. -/
theorem exists_override_of_ok
    (h : (do
      let base ← base.override env
      return { base with
        assetRoot := o.assets.getD base.assetRoot, debug := o.debug || base.debug }) = .ok c) :
    ∃ base', base.override env = .ok base' ∧
      c = { base' with
        assetRoot := o.assets.getD base'.assetRoot, debug := o.debug || base'.debug } := by
  cases hbase : base.override env with
  | error e =>
      rw [hbase] at h
      cases h
  | ok base' =>
      rw [hbase] at h
      exact ⟨base', rfl, (Except.ok.inj h).symm⟩

theorem exists_base_of_loadConfig (h : loadConfig disk env o = .ok c) :
    ∃ file base, FileGives disk o.config file ∧ (file.onto {}).override env = .ok base ∧
      c = { base with
        assetRoot := o.assets.getD base.assetRoot, debug := o.debug || base.debug } := by
  rw [loadConfig] at h
  cases hpath : o.config with
  | none =>
      rw [hpath] at h
      obtain ⟨base, hbase, hc⟩ := exists_override_of_ok h
      exact ⟨{}, base, .unnamed, hbase, hc⟩
  | some path =>
      rw [hpath] at h
      dsimp only at h
      cases hfile : Config.ofFile disk path with
      | error e =>
          rw [hfile] at h
          cases h
      | ok c' =>
          rw [hfile] at h
          obtain ⟨base, hbase, hc⟩ := exists_override_of_ok h
          obtain ⟨file, hgives, rfl⟩ := exists_fileGives_of_ofFile hfile
          exact ⟨file, base, hgives, hbase, hc⟩

/-! ## Each setting on its own -/

theorem flag?_empty : flag? "" = some false := by decide

theorem nonEmpty?_empty : nonEmpty? (some "") = none := by decide

theorem nonEmpty?_eq_none_iff {value : Option String} :
    nonEmpty? value = none ↔ value = none ∨ value = some "" := by
  cases value <;> simp [nonEmpty?]

/-- Settings whose variables are all absent or empty stay as they are, but where an empty one says
that the state is not to be shown. -/
theorem override_eq_self_iff
    (hempty : ∀ name ∈ [assetRootVariable, logFilterVariable, debugVariable],
      nonEmpty? (env name) = none) :
    base.override env = .ok base ↔ (env debugVariable = some "" → base.debug = false) := by
  have hassetRoot := hempty assetRootVariable (by simp)
  have hlogFilter := hempty logFilterVariable (by simp)
  have hdebug := nonEmpty?_eq_none_iff.1 (hempty debugVariable (by simp))
  rw [override_eq_ok_iff]
  simp only [givenBy, Given.onto, hassetRoot, hlogFilter]
  rcases hdebug with hunset | hempty
  · simp [hunset]
  · obtain ⟨assetRoot, logFilter, debug⟩ := base
    cases debug <;> simp [hempty, flag?_empty]

/-- An empty variable makes a difference to whether the state is shown only where the file asks for
that and no flag does. -/
theorem debug_eq_iff :
    ((if o.debug then some true else none) <|> (env debugVariable).bind flag? <|>
        file.debug).getD false =
      ((if o.debug then some true else none) <|> (nonEmpty? (env debugVariable)).bind flag? <|>
        file.debug).getD false ↔
      (env debugVariable = some "" → o.debug = true ∨ file.debug ≠ some true) := by
  by_cases hdebug : o.debug = true
  · simp [hdebug]
  by_cases hempty : env debugVariable = some ""
  · cases hfile : file.debug with
    | none => simp [hdebug, hempty, flag?_empty, nonEmpty?_empty]
    | some debug => simp [hdebug, hempty, flag?_empty, nonEmpty?_empty]
  · have hsame : nonEmpty? (env debugVariable) = env debugVariable := by
      cases hvalue : env debugVariable with
      | none => rfl
      | some value => simpa [nonEmpty?, hvalue] using hempty
    simp [hsame, hempty]

/-- Settings that are loaded come, each on its own, from the flag, else from the variable, else from
the named file, else from the default.  An empty variable gives neither a directory of assets nor
wanted log lines, but it does say that the state is not to be shown: so it counts as unset just if
the file does not ask for that, or a flag does.  And settings whose variables are all absent or
empty stay as they are just if the state is not shown, or its variable is absent. -/
theorem settings_from_first (disk : Disk) (env : Environment) (o : Options) :
    (∀ c, loadConfig disk env o = .ok c →
      (∃ file, FileGives disk o.config file) ∧
      (∀ value, env debugVariable = some value → (flag? value).isSome) ∧
      ∀ file, FileGives disk o.config file →
        c.assetRoot =
          (o.assets <|> nonEmpty? (env assetRootVariable) <|> file.assetRoot).getD "." ∧
        c.logFilter = (nonEmpty? (env logFilterVariable) <|> file.logFilter).getD "warn" ∧
        c.debug = ((if o.debug then some true else none) <|> (env debugVariable).bind flag? <|>
          file.debug).getD false ∧
        (c.debug = ((if o.debug then some true else none) <|>
            (nonEmpty? (env debugVariable)).bind flag? <|> file.debug).getD false ↔
          (env debugVariable = some "" → o.debug = true ∨ file.debug ≠ some true)) ∧
        ∀ path text j, o.config = some path → disk.text path = .ok text →
          Json.ofText text = .ok j → file = .ofJson j) ∧
    ∀ base : Config,
      (∀ name ∈ [assetRootVariable, logFilterVariable, debugVariable],
        nonEmpty? (env name) = none) →
      (base.override env = .ok base ↔ (env debugVariable = some "" → base.debug = false)) := by
  refine ⟨fun c h => ?_, fun base hempty => override_eq_self_iff hempty⟩
  obtain ⟨file, base, hfile, hbase, rfl⟩ := exists_base_of_loadConfig h
  obtain ⟨hflag, rfl⟩ := override_eq_ok_iff.1 hbase
  refine ⟨⟨file, hfile⟩, hflag, fun file' hfile' => ?_⟩
  obtain rfl := hfile.unique hfile'
  have hdebug : (o.debug || ((givenBy env).onto (file.onto {})).debug) =
      ((if o.debug then some true else none) <|> (env debugVariable).bind flag? <|>
        file.debug).getD false := by
    cases o.debug
    · simp [Given.onto, givenBy, Option.getD_or]
    · simp
  refine ⟨?_, ?_, hdebug, ?_, fun path text j hpath htext hj => ?_⟩
  · simp [Given.onto, givenBy, Option.getD_or]
  · simp [Given.onto, givenBy, Option.getD_or]
  · rw [← debug_eq_iff, hdebug]
  · rw [hpath] at hfile
    cases hfile with
    | named htext' hgives =>
        obtain rfl := Except.ok.inj (htext.symm.trans htext')
        exact eq_ofJson_of_gives hgives hj

/-- What the settings of the desk say. -/
def deskText : String := "\x7b\"asset_root\": \"art\", \"debug\": true\x7d"

/-- A directory with settings in a file. -/
def desk : FileTree := .directory [("player.json", .file deskText.toUTF8)]

/-- An environment with a log filter and an empty directory of assets. -/
def study : Environment :=
  Keyed.get? [(assetRootVariable, ""), (logFilterVariable, "info"), (debugVariable, " Off ")]

theorem fileGives_desk :
    FileGives desk.disk (some "player.json") ⟨some "art", none, some true⟩ := by
  have hread : Config.ofFile desk.disk "player.json" = .ok ⟨"art", "warn", true⟩ :=
    Player.eq_ok_of_toOption (by decide +kernel)
  have hjson : (Json.ofText deskText).toOption.map Given.ofJson =
      some ⟨some "art", none, some true⟩ := by decide +kernel
  have htext : desk.disk.text "player.json" = .ok deskText :=
    Player.eq_ok_of_toOption (by decide +kernel)
  obtain ⟨j, hj, hgiven⟩ := Option.map_eq_some_iff.1 hjson
  obtain ⟨file, hfile, -⟩ := exists_fileGives_of_ofFile hread
  cases hfile with
  | named htext' hgives =>
      obtain rfl := Except.ok.inj (htext.symm.trans htext')
      rw [← hgiven, ← eq_ofJson_of_gives hgives (Player.eq_ok_of_toOption hj)]
      exact .named htext hgives

theorem settings_study :
    let file : Given := ⟨some "art", none, some true⟩
    loadConfig desk.disk study { config := some "player.json" } = .ok ⟨"art", "info", false⟩ ∧
      FileGives desk.disk (some "player.json") file ∧
      "art" = (none <|> nonEmpty? (study assetRootVariable) <|> file.assetRoot).getD "." ∧
      "info" = (nonEmpty? (study logFilterVariable) <|> file.logFilter).getD "warn" ∧
      false = (none <|> (nonEmpty? (study debugVariable)).bind flag? <|> file.debug).getD false ∧
      (∀ name ∈ [assetRootVariable, logFilterVariable, debugVariable],
        nonEmpty? (Keyed.get? [(logFilterVariable, "")] name) = none) ∧
      Config.override ⟨"art", "info", true⟩ (Keyed.get? [(logFilterVariable, "")]) =
        .ok ⟨"art", "info", true⟩ := by
  intro file
  have hload : loadConfig desk.disk study { config := some "player.json" } =
      .ok ⟨"art", "info", false⟩ := Player.eq_ok_of_toOption (by decide +kernel)
  obtain ⟨hloaded, -⟩ := settings_from_first desk.disk study { config := some "player.json" }
  obtain ⟨-, -, hsettings⟩ := hloaded _ hload
  obtain ⟨hassetRoot, hlogFilter, -, hdebug, -⟩ := hsettings file fileGives_desk
  have hset : study debugVariable ≠ some "" := by decide
  have habsent : ∀ name ∈ [assetRootVariable, logFilterVariable, debugVariable],
      nonEmpty? (Keyed.get? [(logFilterVariable, "")] name) = none := by decide
  have hunset : Keyed.get? [(logFilterVariable, "")] debugVariable ≠ some "" := by decide
  obtain ⟨-, hkept⟩ := settings_from_first desk.disk (Keyed.get? [(logFilterVariable, "")]) {}
  exact ⟨hload, fileGives_desk, hassetRoot, hlogFilter,
    hdebug.2 fun hempty => absurd hempty hset, habsent,
    (hkept _ habsent).2 fun hempty => absurd hempty hunset⟩

/-- A file that asks for the state to be shown is not heeded where the variable is there but
empty. -/
theorem empty_debug_stands_over_file :
    (∀ name ∈ [assetRootVariable, logFilterVariable, debugVariable],
        nonEmpty? (Keyed.get? [(debugVariable, "")] name) = none) ∧
      FileGives desk.disk (some "player.json") ⟨some "art", none, some true⟩ ∧
      loadConfig desk.disk (Keyed.get? [(debugVariable, "")])
          { config := some "player.json" } = .ok ⟨"art", "warn", false⟩ ∧
      Config.override ⟨"art", "warn", true⟩ (Keyed.get? [(debugVariable, "")]) =
        .ok ⟨"art", "warn", false⟩ := by
  refine ⟨by decide, fileGives_desk, ?_, ?_⟩
  · exact Player.eq_ok_of_toOption (by decide +kernel)
  · exact Player.eq_ok_of_toOption (by decide)

end Narrative.CommandLine
