import Narrative.Proofs.Session.Choosing
import Narrative.Proofs.Session.Verdict

/-!
# Sessions with debugging

A session that shows the state of the run goes in lockstep with one that does not: it comes to the
same players with the same inputs left, and to the same verdict.  What it writes is what the other
one writes, with one block about the state right in front of each prompt
(`debugging_only_shows`).
-/

namespace Narrative.Session

variable {m : Media Console} {debug : Bool} {fresh p : Player Console} {given rest : List Input}
  {written plain plain' shown shown' : List Piece} {o o' : Outcome}

/-! ## What is written -/

/-- The second pieces are the first with one block about the state in front of each prompt. -/
inductive Annotates : List Piece → List Piece → Prop
  | nil : Annotates [] []
  | lines (texts : List String) {plain shown : List Piece} :
      Annotates plain shown → Annotates (.lines texts :: plain) (.lines texts :: shown)
  | prompt (text : String) (block : List String) {plain shown : List Piece} :
      Annotates plain shown →
        Annotates (.prompt text :: plain) (.debug ("[debug]" :: block) :: .prompt text :: shown)

theorem Annotates.append (h : Annotates plain shown) (h' : Annotates plain' shown') :
    Annotates (plain ++ plain') (shown ++ shown') := by
  induction h with
  | nil => exact h'
  | lines texts _ ih => exact ih.lines texts
  | prompt text block _ ih => exact ih.prompt text block

theorem annotates_lines (texts : List String) : Annotates [.lines texts] [.lines texts] :=
  Annotates.nil.lines texts

theorem annotates_view (p : Player Console) : Annotates (view false p) (view true p) := by
  have hprompt : Annotates [.prompt (if p.position.isPrompt then "Select (1-9):" else ">")]
      [debugView p, .prompt (if p.position.isPrompt then "Select (1-9):" else ">")] :=
    Annotates.nil.prompt _ _
  have hscenery (s : Snapshot) : Annotates [scenery s] [scenery s] := by
    unfold scenery
    split <;> exact annotates_lines _
  cases hs : p.snapshot? with
  | none => simpa [view, hs] using hprompt
  | some s => simpa [view, hs] using (hscenery s).append hprompt

theorem annotates_close (p : Player Console) : Annotates (close p).pieces (close p).pieces := by
  have hclosing (ending : Ending) : Annotates [closing ending] [closing ending] := by
    cases ending <;> exact annotates_lines _
  exact hclosing _

theorem annotates_respond (m : Media Console) (line : String) (p : Player Console) :
    Annotates [(respond m line p).value.1] [(respond m line p).value.1] := by
  rcases exists_heeds_or_rejects m p line with ⟨action, progress, q, h⟩ | ⟨text, h⟩ <;>
    rw [h.respond_eq] <;> exact annotates_lines _

/-- Where input is read does not change. -/
theorem Annotates.reads_eq (h : Annotates plain shown) : reads shown = reads plain := by
  induction h with
  | nil => rfl
  | lines texts _ ih => simpa [reads] using ih
  | prompt text block _ ih => simpa [reads] using ih

/-! ## Two sessions in lockstep -/

/-- Two outcomes differ at most in blocks about the state that the second one has written. -/
structure Outcome.Shadows (o o' : Outcome) : Prop where
  result_eq : o'.result = o.result
  player_eq : o'.player = o.player
  annotates : Annotates o.pieces o'.pieces

theorem Outcome.Shadows.behind (h : o.Shadows o') (hpieces : Annotates plain shown) :
    (o.behind plain).Shadows (o'.behind shown) where
  result_eq := h.result_eq
  player_eq := h.player_eq
  annotates := hpieces.append h.annotates

theorem shadows_close (p : Player Console) : (close p).Shadows (close p) :=
  ⟨rfl, rfl, annotates_close p⟩

theorem shadows_proceed (m : Media Console) (inputs : List Input) (p : Player Console) :
    (proceed m false inputs p).value.Shadows (proceed m true inputs p).value := by
  induction inputs generalizing p with
  | nil =>
      by_cases hover : p.position = .terminated
      · simpa only [proceed_of_terminated hover] using shadows_close p
      · simpa only [proceed_nil hover] using (shadows_close _).behind (annotates_view p)
  | cons input inputs ih =>
      by_cases hover : p.position = .terminated
      · simpa only [proceed_of_terminated hover] using shadows_close p
      cases input with
      | none =>
          simp only [proceed_notText hover]
          exact ⟨rfl, rfl, annotates_view p⟩
      | some line =>
          simpa only [proceed_line hover] using
            (ih _).behind ((annotates_view p).append (annotates_respond m line p))

theorem shadows_play (m : Media Console) (inputs : List Input) (p : Player Console) :
    (play m false inputs p).value.Shadows (play m true inputs p).value := by
  unfold play
  simp only [Noted.value_bind]
  split
  · exact ⟨rfl, rfl, annotates_lines _⟩
  · exact (shadows_proceed m inputs _).behind ((annotates_lines _).append (annotates_lines _))

/-! ## What else is noted -/

theorem notes_proceed_eq (m : Media Console) (inputs : List Input) (p : Player Console) :
    (proceed m true inputs p).notes = (proceed m false inputs p).notes := by
  induction inputs generalizing p with
  | nil =>
      rw [proceed.eq_def, proceed.eq_def]
      split <;> simp
  | cons input inputs ih =>
      rw [proceed.eq_def, proceed.eq_def]
      cases input with
      | none => split <;> simp
      | some line => split <;> simp [ih]

theorem notes_play_eq (m : Media Console) (inputs : List Input) (p : Player Console) :
    (play m true inputs p).notes = (play m false inputs p).notes := by
  unfold play
  simp only [Noted.notes_bind]
  split
  · rfl
  · simp [notes_proceed_eq]

/-! ## What is done with the lines -/

/-- What a session comes to, it also comes to with debugging, or without. -/
theorem Comes.debugging (h : Comes m debug fresh given written p rest) (debug' : Bool) :
    ∃ written', Comes m debug' fresh given written' p rest := by
  induction h with
  | start hstart => exact ⟨_, .start hstart⟩
  | line _ hover ih =>
      obtain ⟨written', hcomes⟩ := ih
      exact ⟨_, .line hcomes hover⟩

/-! ## Debugging only shows -/

/-- A session on a text ends in the same way with debugging and without: with the same verdict and
the same player, after the same calls and log lines.  Both come to the same players with the same
inputs left, and read as often.  With debugging, what is written is what is written without, and
one block about the state in front of each prompt. -/
theorem debugging_only_shows (disk : Disk) (locate : String → String) (s : Script)
    (device : Console) (text : String) :
    let m := Console.media disk locate
    let fresh := Player.ofScript s device
    let lines := inputs text.toUTF8
    let plain := play m false lines fresh
    let debugged := play m true lines fresh
    (∃ ending, plain.value.Ends ending ∧ debugged.value.Ends ending) ∧
    debugged.value.player = plain.value.player ∧
    debugged.notes = plain.notes ∧
    (∀ p rest, (∃ written, Comes m true fresh lines written p rest) ↔
      ∃ written, Comes m false fresh lines written p rest) ∧
    reads debugged.value.pieces = reads plain.value.pieces ∧
    Annotates plain.value.pieces debugged.value.pieces := by
  intro m fresh lines plain debugged
  have hshadows : plain.value.Shadows debugged.value := shadows_play m lines fresh
  have hends (debug : Bool) : ∃ ending, (play m debug lines fresh).value.Ends ending := by
    obtain ⟨actions, kept, outcome, hplays⟩ :=
      exists_plays m debug (p := fresh) rfl (linesOf text)
    have hplay : (play m debug lines fresh).value = outcome := by
      rw [← hplays.play_eq, ← inputs_toUTF8]
    rw [hplay]
    exact hplays.exists_ends (Player.sound_ofScript s device)
  obtain ⟨ending, hplain⟩ := hends false
  obtain ⟨ending', hdebugged⟩ := hends true
  obtain rfl : ending' = ending := by
    have hresult := hshadows.result_eq
    rw [hplain.result_eq, hdebugged.result_eq] at hresult
    exact Except.ok.inj hresult
  have hcomes (p : Player Console) (rest : List Input) :
      (∃ written, Comes m true fresh lines written p rest) ↔
        ∃ written, Comes m false fresh lines written p rest :=
    ⟨fun ⟨_, h⟩ => h.debugging false, fun ⟨_, h⟩ => h.debugging true⟩
  exact ⟨⟨ending', hplain, hdebugged⟩, hshadows.player_eq, notes_play_eq m lines fresh, hcomes,
    hshadows.annotates.reads_eq, hshadows.annotates⟩

end Narrative.Session
