import Narrative.Disk.Tree
import Narrative.Proofs.Player.Bound
import Narrative.Proofs.Player.Branches
import Narrative.Proofs.Session.Plays

/-!
# Choosing by number

At a choice a session shows the options in order, each with its number, and takes a number from 1 to
9 for the option that it is shown with (`number_picks_option`).  Five steps lie between the two: the
list on the screen, the number, the place counted from nought, the key in that place, and the first
option of that key.  They agree because no choice of a loaded script offers a key twice.
-/

namespace Narrative

namespace Session

variable {m : Media Console} {debug : Bool} {s : Script} {fresh p : Player Console}
  {inputs rest : List Input} {written : List Piece} {event line text : String} {c : Choice}
  {o : ChoiceOption} {k : Nat}

/-! ## What a session comes to -/

/-- A session comes to a player, with some pieces written and some inputs left: when it has started
the run, and then with each line. -/
inductive Comes (m : Media Console) (debug : Bool) (fresh : Player Console) (inputs : List Input) :
    List Piece → Player Console → List Input → Prop
  | start {progress : Progress} {q : Player Console} :
      (fresh.step m .start).value = (.ok progress, q) →
        Comes m debug fresh inputs [banner, (report progress q).1] (q.withDevice {}) inputs
  | line {written : List Piece} {p : Player Console} {line : String} {rest : List Input} :
      Comes m debug fresh inputs written p (some line :: rest) → p.position ≠ .terminated →
        Comes m debug fresh inputs (written ++ view debug p ++ [(respond m line p).value.1])
          (respond m line p).value.2 rest

theorem Outcome.behind_behind (outcome : Outcome) (before pieces : List Piece) :
    (outcome.behind pieces).behind before = outcome.behind (before ++ pieces) := by
  simp [Outcome.behind]

/-- Where a session comes to, it goes on from there. -/
theorem Comes.play_eq (h : Comes m debug fresh inputs written p rest) :
    (play m debug inputs fresh).value = (proceed m debug rest p).value.behind written := by
  induction h with
  | start hstart =>
      rw [play, Noted.value_bind, hstart]
      rfl
  | line _ hover ih => rw [ih, proceed_line hover, Outcome.behind_behind, List.append_assoc]

theorem view_prefix_proceed (hover : p.position ≠ .terminated) (rest : List Input) :
    view debug p <+: (proceed m debug rest p).value.pieces := by
  cases rest with
  | nil =>
      rw [proceed_nil hover]
      exact List.prefix_append _ _
  | cons input rest =>
      cases input with
      | none =>
          simp [proceed_notText hover]
      | some line =>
          rw [proceed_line hover, Outcome.behind, List.append_assoc]
          exact List.prefix_append _ _

/-- Where a session comes to while the run is not over, it shows where the run stands. -/
theorem Comes.view_prefix (h : Comes m debug fresh inputs written p rest)
    (hover : p.position ≠ .terminated) :
    written ++ view debug p <+: (play m debug inputs fresh).value.pieces := by
  rw [h.play_eq]
  exact (List.prefix_append_right_inj written).2 (view_prefix_proceed hover rest)

theorem reachable_respond (hp : p.Reachable m s) (line : String) :
    (respond m line p).value.2.Reachable m s := by
  rcases exists_heeds_or_rejects m p line with ⟨action, progress, q, h⟩ | ⟨text, h⟩
  · have hq := hp.step action
    rw [h.step_eq] at hq
    rw [h.respond_eq]
    exact hq.withDevice {}
  · rw [h.respond_eq]
    exact hp

theorem Comes.reachable (h : Comes m debug fresh inputs written p rest)
    (hfresh : fresh.Reachable m s) : p.Reachable m s := by
  induction h with
  | start hstart =>
      have hq := hfresh.step .start
      rw [hstart] at hq
      exact hq.withDevice {}
  | line _ _ ih => exact reachable_respond ih _

/-! ## What is shown -/

/-- The options of a choice, each on a line with its number. -/
def numbered (c : Choice) : List String :=
  c.options.mapIdx fun index o => Text.decimal (index + 1) ++ ". " ++ o.text

theorem length_numbered (c : Choice) : (numbered c).length = c.options.length := by
  simp [numbered]

theorem getElem?_numbered {index : Nat} (ho : c.options[index]? = some o) :
    (numbered c)[index]? = some (Text.decimal (index + 1) ++ ". " ++ o.text) := by
  simp [numbered, ho]

theorem scenery_ofChoice (hc : c.options ≠ []) :
    scenery (.ofChoice c) =
      .lines ("--- Choice ---" :: (if c.prompt = "" then [] else [c.prompt]) ++ numbered c ++
        [""]) := by
  have hchoices : (Snapshot.ofChoice c).hasChoices = true := by
    simp [Snapshot.hasChoices, Snapshot.ofChoice, hc]
  have hquestion : (some c.prompt).toList.filter (· ≠ "") =
      if c.prompt = "" then [] else [c.prompt] := by
    by_cases hprompt : c.prompt = "" <;> simp [hprompt]
  have hnumbered : (c.options.map fun o => (⟨o.key, o.text⟩ : Entry)).mapIdx
      (fun i e => Text.decimal (i + 1) ++ ". " ++ e.text) = numbered c :=
    List.ext_getElem (by simp [numbered]) (by simp [numbered])
  rw [scenery, if_pos hchoices]
  simp only [Snapshot.ofChoice, hquestion, Option.getD_some, hnumbered]

theorem exists_view_eq_scenery {shown : Snapshot} (hshown : p.snapshot? = some shown) :
    ∃ others, view debug p = scenery shown :: others := by
  rw [view, hshown]
  exact ⟨_, rfl⟩

/-! ## What is answered -/

theorem command_of_numeral (hk : Text.numeral? text = some k) (hfirst : 1 ≤ k) (hlast : k ≤ 9) :
    command true text = .act (.chooseNth (k - 1)) := by
  have hq : text ≠ "q" := by
    rintro rfl
    cases hk
  rw [command, if_neg hq, if_pos rfl, choiceIndex?, hk]
  simp [hfirst, hlast]

theorem command_of_no_numeral (hq : text ≠ "q")
    (hk : ∀ k, Text.numeral? text = some k → ¬(1 ≤ k ∧ k ≤ 9)) : command true text = .noChoice := by
  have hnone : choiceIndex? text = none := by
    unfold choiceIndex?
    cases hnumeral : Text.numeral? text with
    | none => rfl
    | some k => exact if_neg (hk k hnumeral)
  rw [command, if_neg hq, if_pos rfl, hnone]

/-- A session answers a line with a piece, leaves the player as it is, and shows the same again. -/
structure AsksAgain (m : Media Console) (debug : Bool) (fresh : Player Console)
    (inputs : List Input) (written : List Piece) (p : Player Console) (rest : List Input)
    (piece : Piece) : Prop where
  comes : Comes m debug fresh inputs (written ++ view debug p ++ [piece]) p rest
  shown : written ++ view debug p ++ [piece] ++ view debug p <+:
    (play m debug inputs fresh).value.pieces

/-- A session takes a line for an option of the choice that it stands at: the run enters the target
of the option, or breaks off if there is none. -/
structure TakesOption (m : Media Console) (debug : Bool) (fresh : Player Console)
    (inputs : List Input) (written : List Piece) (p : Player Console) (rest : List Input)
    (event : String) (o : ChoiceOption) : Prop where
  enters : ∀ target, o.target = some target → ∃ progress q,
    (p.enter m target).value = (progress, q) ∧
      Comes m debug fresh inputs (written ++ view debug p ++ [(report progress q).1])
        (q.withDevice {}) rest
  breaks : o.target = none → ∃ q, q.position = .terminated ∧ q.ending = some .scriptError ∧
    Comes m debug fresh inputs
      (written ++ view debug p ++ [(report ⟨.terminated,
        [.script ⟨event, "choice '" ++ o.key ++ "' has no branch target"⟩]⟩ q).1])
      (q.withDevice {}) rest

theorem Comes.asksAgain (h : Comes m debug fresh inputs written p (some line :: rest))
    (hover : p.position ≠ .terminated) (hline : Rejects m p line text) :
    AsksAgain m debug fresh inputs written p rest (.lines [text]) := by
  have hnext := h.line hover
  rw [hline.respond_eq] at hnext
  exact ⟨hnext, hnext.view_prefix hover⟩

theorem Comes.of_heeds {action : Action} {progress : Progress} {q : Player Console}
    (h : Comes m debug fresh inputs written p (some line :: rest))
    (hover : p.position ≠ .terminated) (hline : Heeds m p line action progress q) :
    Comes m debug fresh inputs (written ++ view debug p ++ [(report progress q).1])
      (q.withDevice {}) rest := by
  have hnext := h.line hover
  rw [hline.respond_eq] at hnext
  exact hnext

/-- At a choice that offers each key once, the number of an option takes the option. -/
theorem Comes.takesOption (h : Comes m debug fresh inputs written p (some line :: rest))
    (hposition : p.position = .prompt event) (hn : p.script.node? event = some (.choice c))
    (hkeys : (c.options.map ChoiceOption.key).Nodup)
    (hk : Text.numeral? (Text.trim line) = some k) (hfirst : 1 ≤ k) (hlast : k ≤ 9)
    (ho : c.options[k - 1]? = some o) :
    TakesOption m debug fresh inputs written p rest event o := by
  have hcommand : command p.position.isPrompt (Text.trim line) = .act (.chooseNth (k - 1)) := by
    rw [hposition]
    exact command_of_numeral hk hfirst hlast
  have hover : p.position ≠ .terminated := by simp [hposition]
  have hfound : c.option? o.key = some o := Choice.option?_of_mem hkeys (List.mem_of_getElem? ho)
  constructor
  · intro target htarget
    have ht : p.script.Takes p.position (.chooseNth (k - 1)) (.enter target) := by
      rw [hposition]
      exact .branch hn (.place ho) hfound htarget
    exact ⟨_, _, rfl, h.of_heeds hover ⟨hcommand, (Player.follows_of_takes ht).value_eq⟩⟩
  · intro hnone
    have ht : p.script.Takes p.position (.chooseNth (k - 1)) (.fail event (.noTarget o.key)) := by
      rw [hposition]
      exact .deadEnd hn (.place ho) hfound hnone
    exact ⟨_, rfl, rfl, h.of_heeds hover ⟨hcommand, Player.step_of_takes ht⟩⟩

theorem rejects_of_outOfRange (hposition : p.position = .prompt event)
    (hn : p.script.node? event = some (.choice c)) (hk : Text.numeral? (Text.trim line) = some k)
    (hcount : c.options.length < k) (hlast : k ≤ 9) :
    Rejects m p line
      (SignalError.indexOutOfRange event (k - 1) c.options.length).message := by
  have hrefuses : p.script.Refuses p.position (.chooseNth (k - 1))
      (.indexOutOfRange event (k - 1) c.options.length) := by
    rw [hposition]
    exact .outOfRange hn (by omega)
  have hcommand : command p.position.isPrompt (Text.trim line) = .act (.chooseNth (k - 1)) := by
    rw [hposition]
    exact command_of_numeral hk (by omega) hlast
  exact .refused hcommand (by rw [Player.step_of_refused hrefuses.course_eq])

/-- At each choice that a session of a loaded script comes to, it shows the options in order, each
with its number.  A number from 1 to 9 takes the option that is shown with it; if there are not so
many options, the session says so.  What is neither such a number nor `q` is no choice.  In these
two cases the player stays as it is, and the same is shown again. -/
theorem number_picks_option (m : Media Console) (debug : Bool) (device : Console)
    (inputs : List Input) {source event : String} {s : Script} {written : List Piece}
    {p : Player Console} {rest : List Input} (hs : (Script.ofText source).value = .ok s)
    (h : Comes m debug (.ofScript s device) inputs written p rest)
    (hposition : p.position = .prompt event) :
    let start := Player.ofScript s device
    ∃ c, s.node? event = some (.choice c) ∧ c.options ≠ [] ∧
      (∃ others, view debug p =
        .lines ("--- Choice ---" :: (if c.prompt = "" then [] else [c.prompt]) ++ numbered c ++
          [""]) :: others) ∧
      (numbered c).length = c.options.length ∧
      (∀ index o, c.options[index]? = some o →
        (numbered c)[index]? = some (Text.decimal (index + 1) ++ ". " ++ o.text)) ∧
      written ++ view debug p <+: (play m debug inputs start).value.pieces ∧
      ∀ line more, rest = some line :: more →
        (∀ k, Text.numeral? (Text.trim line) = some k → 1 ≤ k → k ≤ 9 →
          (∀ o, c.options[k - 1]? = some o →
            TakesOption m debug start inputs written p more event o) ∧
          (c.options.length < k → AsksAgain m debug start inputs written p more
            (.lines [(SignalError.indexOutOfRange event (k - 1) c.options.length).message]))) ∧
        (Text.trim line ≠ "q" →
          (∀ k, Text.numeral? (Text.trim line) = some k → ¬(1 ≤ k ∧ k ≤ 9)) →
            AsksAgain m debug start inputs written p more
              (.lines ["Invalid choice. Enter 1-9."])) := by
  intro start
  have hreachable : p.Reachable m s := h.reachable (.fresh device)
  have hover : p.position ≠ .terminated := by simp [hposition]
  have hfits := hreachable.sound.fits
  rw [hposition] at hfits
  obtain rfl := hreachable.script_eq
  obtain ⟨c, hn, hc⟩ := hfits
  have hkeys := (Script.orderly_of_ofText hs).nodup_options hn
  have hshown : p.snapshot? = some (.ofChoice c) := by
    simp [Player.snapshot?, hposition, Script.snapshot?, hn]
  refine ⟨c, hn, hc, ?_, length_numbered c, fun index o => getElem?_numbered, h.view_prefix hover,
    ?_⟩
  · rw [← scenery_ofChoice hc]
    exact exists_view_eq_scenery hshown
  · rintro line more rfl
    refine ⟨fun k hk hfirst hlast => ⟨fun o ho => ?_, fun hcount => ?_⟩, fun hq hk => ?_⟩
    · exact h.takesOption hposition hn hkeys hk hfirst hlast ho
    · exact h.asksAgain hover (rejects_of_outOfRange hposition hn hk hcount hlast)
    · refine h.asksAgain hover (.noChoice ?_)
      rw [hposition]
      exact command_of_no_numeral hq hk

/-- A choice of two, one of which leads nowhere. -/
def tea : Script :=
  .ofEntries [("ask", .choice {
    prompt := "Tea?"
    options := [⟨"yes", "Yes", some "ask"⟩, ⟨"no", "No", none⟩] })]

def teaText : String :=
  "\x7b\"events\":\x7b\"ask\":\x7b\"type\":\"choice\"," ++
    "\"data\":\x7b\"prompt\":\x7b\"text\":\"Tea?\"\x7d,\"yes\":\x7b\"text\":\"Yes\"\x7d," ++
    "\"no\":\x7b\"text\":\"No\"\x7d\x7d,\"branches\":\x7b\"yes\":\"ask\"\x7d\x7d\x7d\x7d"

/-- A console without any files. -/
def bareMedia : Media Console := Console.media FileTree.empty.disk id

/-- The player of `tea` at its choice. -/
def served : Player Console :=
  ((Player.ofScript tea {}).step bareMedia .start).value.2.withDevice {}

theorem number_picks_option_tea :
    let start := Player.ofScript tea ({} : Console)
    let inputs := [some "7\n", some " +2 \n"]
    let welcome := [banner, .lines []]
    let refusal := Piece.lines ["choice index 6 is out of range for event 'ask' (2 options)"]
    (Script.ofText teaText).value = .ok tea ∧ served.position = .prompt "ask" ∧
      Comes bareMedia false start inputs welcome served inputs ∧
      AsksAgain bareMedia false start inputs welcome served [some " +2 \n"] refusal ∧
      TakesOption bareMedia false start inputs (welcome ++ view false served ++ [refusal]) served []
        "ask" ⟨"no", "No", none⟩ := by
  intro start inputs welcome refusal
  have htext : (Script.ofText teaText).value = .ok tea :=
    Player.eq_ok_of_toOption (by decide +kernel)
  have hposition : served.position = .prompt "ask" := by decide +kernel
  have hanswer : (start.step bareMedia .start).value.1 = .ok ⟨.prompt "ask", []⟩ :=
    Player.eq_ok_of_toOption (by decide +kernel)
  have hreport : (report ⟨.prompt "ask", []⟩ (start.step bareMedia .start).value.2).1 =
      .lines [] := by decide +kernel
  have hcomes : Comes bareMedia false start inputs welcome served inputs := by
    have hstart : Comes bareMedia false start inputs
        [banner, (report ⟨.prompt "ask", []⟩ (start.step bareMedia .start).value.2).1] served
        inputs :=
      .start (Prod.ext hanswer rfl)
    rwa [hreport] at hstart
  have hnode : tea.node? "ask" = some (.choice {
      prompt := "Tea?", options := [⟨"yes", "Yes", some "ask"⟩, ⟨"no", "No", none⟩] }) := by
    decide
  obtain ⟨c, hn, -, -, -, -, -, hfirst⟩ :=
    number_picks_option bareMedia false {} inputs htext hcomes hposition
  obtain rfl := Node.choice.inj (Option.some.inj (hnode.symm.trans hn))
  have hagain : AsksAgain bareMedia false start inputs welcome served [some " +2 \n"] refusal :=
    ((hfirst "7\n" _ rfl).1 7 (by decide) (by decide) (by decide)).2 (by decide)
  obtain ⟨c, hn, -, -, -, -, -, hsecond⟩ :=
    number_picks_option bareMedia false {} inputs htext hagain.comes hposition
  obtain rfl := Node.choice.inj (Option.some.inj (hnode.symm.trans hn))
  exact ⟨htext, hposition, hcomes, hagain,
    ((hsecond " +2 \n" [] rfl).1 2 (by decide) (by decide) (by decide)).1 _ rfl⟩

end Session

end Narrative
