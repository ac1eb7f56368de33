import Colloquy.Proofs.Interruption
import Colloquy.Proofs.Tags

/-!
# Prompts that carry speech

The last prompt is kept to be said again, so it should carry speech. Of its three writers two look
before they write: what is finished here and what the remote engine answers becomes the last prompt
only if it is not speechless (`carrying_cachePrompt`). The third one, which appends what is streamed
to what has been said so far, does not look. A turn **falls silent** (`PastTurn.FallsSilent`) if
what it streams leaves the whole without speech, and such turns are all there is between this and a
last prompt that always carries speech (`carrying_of_past`).

It takes little to fall silent. With nothing to continue, a fragment without speech is enough. But
where there is something, and it is no tag that was cut in the middle, appending takes no speech
away (`isSpeechless_append`): a closed prompt that carries speech goes on carrying it.
-/

namespace Colloquy

namespace Markup

/-! ### Speech in two texts, one after the other -/

/-- A tag that is open stays so until it is closed. -/
theorem mem_of_foldl_reading {opened s : List Char} (hopened : opened ≠ [])
    (h : s.foldl reading opened = []) : '>' ∈ s := by
  induction s generalizing opened with
  | nil => exact absurd h hopened
  | cons c rest ih =>
    by_cases hc : c = '>'
    · exact hc ▸ List.mem_cons_self
    · refine List.mem_cons_of_mem _ (ih ?_ h)
      rw [reading]
      split
      · simp
      · simp [hopened, hc]

theorem tagLength?_eq_none_of_ne {c : Char} (hc : c ≠ '<') (rest : List Char) :
    tagLength? (c :: rest) = none := by
  rw [tagLength?, if_neg]
  simp [opening, List.isPrefixOf, Ne.symm hc]

/-- Whether a tag stands at the head of a text is told by the text up to the first bracket that
closes. -/
theorem tagLength?_append {s : List Char} (h : '>' ∈ s) (behind : List Char) :
    tagLength? (s ++ behind) = tagLength? s := by
  by_cases hopening : opening <+: s
  · obtain ⟨inside, rfl⟩ := hopening
    have hclose : '>' ∈ inside := (List.mem_append.mp h).resolve_left (by decide)
    have hshort : (inside.takeWhile (· ≠ '>')).length < inside.length := by
      refine lt_of_le_of_ne (List.takeWhile_prefix _).length_le fun hall => ?_
      rw [← (List.takeWhile_prefix _).eq_of_length hall] at hclose
      simpa using List.mem_takeWhile_imp hclose
    have hsame : (inside ++ behind).takeWhile (· ≠ '>') = inside.takeWhile (· ≠ '>') := by
      rw [List.takeWhile_append, if_neg hshort.ne]
    have hmore : inside.drop (inside.takeWhile (· ≠ '>')).length ≠ [] := fun hnil =>
      absurd (List.drop_eq_nil_iff.mp hnil) hshort.not_ge
    have hmore' : (inside ++ behind).drop (inside.takeWhile (· ≠ '>')).length ≠ [] := fun hnil => by
      rw [List.drop_append_of_le_length hshort.le] at hnil
      exact hmore (List.append_eq_nil_iff.mp hnil).1
    rw [List.append_assoc, tagLength?, tagLength?]
    simp only [List.isPrefixOf_iff_prefix, List.prefix_append, if_true, List.drop_left, hsame]
    exact if_congr (and_congr_left' (iff_of_true hmore' hmore)) rfl rfl
  · -- it would have to begin in the one text and end in the other
    have hnot : ¬ opening <+: s ++ behind := fun hboth => by
      rcases List.prefix_or_prefix_of_prefix hboth (List.prefix_append s behind) with hs | hs
      · exact hopening hs
      · exact absurd (hs.subset h) (by decide)
    rw [tagLength?, tagLength?, if_neg (by simpa using hnot), if_neg (by simpa using hopening)]

theorem tagLength?_le {s : List Char} {length : Nat} (h : tagLength? s = some length) :
    length ≤ s.length := by
  rw [tagLength?] at h
  split at h
  · dsimp only at h
    split at h
    · rename_i hclosed
      have hmore := mt List.drop_eq_nil_iff.mpr hclosed.1
      rw [List.length_drop] at hmore
      obtain rfl := Option.some_inj.mp h
      omega
    · cases h
  · cases h

/-- What is left of two texts is what is left of each, if no tag is open between them. -/
theorem untaggedFrom_append {opened s : List Char} (h : s.foldl reading opened = []) {inTag : Nat}
    (hinTag : inTag ≤ s.length) (behind : List Char) :
    untaggedFrom inTag (s ++ behind) = untaggedFrom inTag s ++ untaggedFrom 0 behind := by
  induction s generalizing opened inTag with
  | nil =>
    obtain rfl := Nat.le_zero.mp hinTag
    rfl
  | cons c rest ih =>
    cases inTag with
    | succ inTag => exact ih h (Nat.le_of_succ_le_succ hinTag)
    | zero =>
      have hsame : tagLength? (c :: rest ++ behind) = tagLength? (c :: rest) := by
        by_cases hc : c = '<'
        · have hopen : reading opened c = ['<'] := if_pos hc
          rw [List.foldl_cons, hopen] at h
          have hclose := mem_of_foldl_reading (List.cons_ne_nil _ _) h
          exact tagLength?_append (List.mem_cons_of_mem c hclose) behind
        · rw [List.cons_append, tagLength?_eq_none_of_ne hc, tagLength?_eq_none_of_ne hc]
      rw [List.cons_append] at hsame ⊢
      rw [untaggedFrom, untaggedFrom, hsame]
      cases hlength : tagLength? (c :: rest) with
      | some length =>
        have hle := tagLength?_le hlength
        rw [List.length_cons] at hle
        exact ih h (by omega)
      | none =>
        dsimp only
        rw [ih h (Nat.zero_le _), List.cons_append]

/-- **Appending takes no speech away** from a text that is closed. -/
theorem isSpeechless_append {s : String} (h : Closed s) (s' : String) :
    isSpeechless (s ++ s') = (isSpeechless s && isSpeechless s') := by
  rw [isSpeechless, String.toList_append, untaggedFrom_append h (Nat.zero_le _), List.all_append]
  rfl

end Markup

namespace Tracker

/-- A tracker whose last prompt, if it has one, **carries speech**. -/
def Carrying (t : Tracker) : Prop :=
  ∀ prompt ∈ t.lastPrompt, Markup.isSpeechless prompt.text = false

instance (t : Tracker) : Decidable t.Carrying := inferInstanceAs (Decidable (∀ _ ∈ _, _))

variable {settings : TrackerSettings} {t t' : Tracker} {turn : Turn}

/-- Whether it does depends on the last prompt alone. -/
theorem Carrying.congr (h : t.Carrying) (hprompt : t'.lastPrompt = t.lastPrompt) : t'.Carrying := by
  rwa [Carrying, hprompt]

/-! ### The writers that look -/

theorem carrying_cachePrompt (h : t.Carrying) (text topicBefore : String) (source : PromptSource) :
    (t.cachePrompt text topicBefore source).Carrying := by
  rw [cachePrompt]
  split
  · rename_i hspeech
    rintro prompt hprompt
    obtain rfl := Option.some_inj.mp hprompt
    simpa using hspeech
  · split
    · rintro prompt hprompt
      cases hprompt
    · exact h

/-- **Finishing a turn** here leaves a last prompt that carries speech, if it was one. -/
theorem carrying_finish (h : t.Carrying) : (t.finish settings turn).1.Carrying := by
  cases houtput : turn.output with
  | none =>
    obtain ⟨_, _, hsettle⟩ := t.settleInterruption_frame settings turn.input
    rw [t.finish_of_none settings houtput, hsettle]
    exact h
  | some output =>
    have hended := h.congr (t.lastPrompt_ended settings turn output)
    rw [t.finish_of_some settings houtput, cached]
    split
    · exact hended
    · exact carrying_cachePrompt hended _ _ _

/-- So does an **answer of the remote engine** that continues nothing. -/
theorem carrying_finishRemote (h : t.Carrying)
    (hstream : turn.input.isEventNamed settings.streamEvent = false) :
    (t.finishRemote settings turn).Carrying := by
  rw [finishRemote, if_neg (by simp [hstream])]
  exact carrying_cachePrompt h _ _ _

/-! ### The writer that does not -/

/-- What the last prompt becomes when this answer is **appended** to it. -/
def continued (t : Tracker) (response : String) : String :=
  t.lastPrompt.elim "" Prompt.text ++ response

/-- What is **streamed** becomes the last prompt, together with what it continues. -/
theorem carrying_finishRemote_iff_of_stream
    (hstream : turn.input.isEventNamed settings.streamEvent = true) :
    (t.finishRemote settings turn).Carrying ↔
      Markup.isSpeechless (t.continued (turn.response?.getD "")) = false := by
  rw [finishRemote, if_pos hstream, Carrying]
  simp [setPrompt, continued]

/-! ### Replaying -/

/-- **The first replay** of a turn says something, or asks for something to be said. -/
theorem replay_of_carrying (h : t.Carrying) (hsent : t.repromptSent = false)
    (wish : Option String) :
    (t.replay wish).2.eventPending = true ∨
      Markup.isSpeechless (t.replay wish).1 = false := by
  rw [replay, hsent]
  simp only [Bool.false_eq_true, if_false]
  split
  · rename_i prompt hreplayable
    exact Or.inr (h prompt (Option.filter_eq_some_iff.mp hreplayable).1)
  · exact Or.inl rfl

end Tracker

namespace Session

variable (setup : Setup)

/-- A turn **falls silent** if its answer is streamed and leaves the whole of what has been said
without speech. -/
def PastTurn.FallsSilent (turn : PastTurn) : Prop :=
  turn.script.abort = false ∧ turn.script.remote = true ∧
    turn.script.input.isEventNamed setup.settings.tracker.streamEvent = true ∧
    Markup.isSpeechless (turn.session.tracker.continued
      ((turn.session.answeredTurn setup turn.script).response?.getD "")) = true

instance (turn : PastTurn) : Decidable (turn.FallsSilent setup) :=
  inferInstanceAs (Decidable (_ ∧ _ ∧ _ ∧ _))

/-- Where something is said already, in a closed text that carries speech, no turn falls silent. -/
theorem PastTurn.not_fallsSilent_of_closed {turn : PastTurn} {prompt : Prompt}
    (hprompt : turn.session.tracker.lastPrompt = some prompt) (hclosed : Markup.Closed prompt.text)
    (hspeech : Markup.isSpeechless prompt.text = false) : ¬ turn.FallsSilent setup := by
  rintro ⟨-, -, -, hsilent⟩
  rw [Tracker.continued, hprompt, Option.elim_some, Markup.isSpeechless_append hclosed, hspeech]
    at hsilent
  cases hsilent

variable (s : Session) (script : TurnScript)

/-- Whether the input is a certain event does not change in the course of the turn. -/
theorem isEventNamed_answeredTurn (name : String) :
    (s.answeredTurn setup script).input.isEventNamed name = script.input.isEventNamed name := by
  rcases s.input_answeredTurn setup script with h | h
  · rw [h]
  · rw [h]
    rfl

variable {setup s script}

/-- **One turn** keeps a last prompt that carries speech, unless it falls silent. -/
theorem carrying_runTurn (h : s.tracker.Carrying)
    (hsilent : ¬ PastTurn.FallsSilent setup ⟨s, script⟩) :
    (s.runTurn setup script).2.tracker.Carrying := by
  have hprompt := (s.remembered_answeredDesk setup script).2
  rw [tracker_runTurn]
  split
  · exact h.congr hprompt
  · rename_i habort
    split
    · rename_i hremote
      cases hstream : (s.answeredTurn setup script).input.isEventNamed
          setup.settings.tracker.streamEvent with
      | true =>
        rw [Tracker.carrying_finishRemote_iff_of_stream hstream, Tracker.continued, hprompt]
        rw [isEventNamed_answeredTurn] at hstream
        refine Bool.eq_false_iff.mpr fun hwhole => ?_
        exact hsilent ⟨Bool.eq_false_iff.mpr habort, hremote, hstream, hwhole⟩
      | false => exact Tracker.carrying_finishRemote (h.congr hprompt) hstream
    · exact Tracker.carrying_finish (h.congr hprompt)

/-- A turn that **falls silent** leaves a last prompt without speech. -/
theorem not_carrying_of_fallsSilent (hsilent : PastTurn.FallsSilent setup ⟨s, script⟩) :
    ¬ (s.runTurn setup script).2.tracker.Carrying := by
  obtain ⟨habort, hremote, hstream, hwhole⟩ := hsilent
  have hprompt := (s.remembered_answeredDesk setup script).2
  dsimp only at habort hremote hstream hwhole
  rw [← isEventNamed_answeredTurn setup s] at hstream
  rw [Tracker.continued, ← hprompt] at hwhole
  rw [tracker_runTurn, habort, hremote]
  simp only [Bool.false_eq_true, if_false, if_true]
  rw [Tracker.carrying_finishRemote_iff_of_stream hstream, Tracker.continued, hwhole]
  decide

/-! ### Over a whole conversation -/

theorem carrying_of_past {past : List PastTurn} (h : Past setup past s)
    (hsilent : ∀ turn ∈ past, ¬ turn.FallsSilent setup) :
    s.tracker.Carrying ∧ ∀ turn ∈ past, (turn.after setup).tracker.Carrying := by
  induction h with
  | new => exact ⟨by simp [Tracker.Carrying, new], by simp⟩
  | @turn past s script _ ih =>
    obtain ⟨hnow, hbefore⟩ := ih fun turn hturn => hsilent turn (List.mem_append_left _ hturn)
    have hthen := carrying_runTurn hnow (hsilent ⟨s, script⟩ (by simp))
    refine ⟨hthen, fun turn hturn => ?_⟩
    rcases List.mem_append.mp hturn with hturn | hturn
    · exact hbefore turn hturn
    · rw [List.mem_singleton.mp hturn]
      exact hthen
  | conversation _ _ ih => exact ih hsilent
  | event _ ih =>
    obtain ⟨hnow, hbefore⟩ := ih hsilent
    exact ⟨hnow.congr (Tracker.takeEvent_frame _).2, hbefore⟩

/-- **The last prompt carries speech** after every turn of a past, exactly if no turn of it falls
silent. While it does, the first replay of a turn says something or raises the event that asks for
it. -/
theorem carrying_iff {past : List PastTurn} (h : Past setup past s) :
    ((∀ turn ∈ past, (turn.after setup).tracker.Carrying) ↔
        ∀ turn ∈ past, ¬ turn.FallsSilent setup) ∧
      (s.tracker.Carrying → ∀ (commands : List Command) (wish : Option String),
        let t := commands.foldl Command.onTracker s.tracker.start
        t.repromptSent = false →
          (t.replay wish).2.eventPending = true ∨
            Markup.isSpeechless (t.replay wish).1 = false) := by
  refine ⟨⟨?_, fun hsilent => (carrying_of_past h hsilent).2⟩, ?_⟩
  · intro hcarrying turn hturn hsilent
    exact not_carrying_of_fallsSilent hsilent (hcarrying turn hturn)
  · intro hcarrying commands wish t hsent
    have hprompt : t.lastPrompt = s.tracker.lastPrompt :=
      (Command.foldl_onTracker_frame s.tracker.start commands).2.1
    exact Tracker.replay_of_carrying (hcarrying.congr hprompt) hsent wish

/-- The script of a turn in which the remote engine goes on with what it says. -/
def streaming (output : Option Output) : TurnScript :=
  { input := .event "eb-remote-act-stream", output, remote := true }

/-- A story that has begun goes on with a tag: the prompt still carries speech, and a replay says it
or asks for it. -/
theorem carrying_iff_story :
    let begun := (new.runTurn {} ((TurnScript.ofInput (.speech "a story")).withOutput
      { response := "Once upon a time" })).2
    let told := (begun.runTurn {} (streaming (some { response := "<mark name=\"x\"/>" }))).2
    told.tracker.lastPrompt.map Prompt.text = some "Once upon a time<mark name=\"x\"/>" ∧
      told.tracker.Carrying ∧
      ((told.tracker.start.replay none).2.eventPending = true ∨
        Markup.isSpeechless (told.tracker.start.replay none).1 = false) := by
  intro begun told
  have hpast : Past {} _ told := (Past.new.turn _).turn _
  have hbegins : ¬ PastTurn.FallsSilent {} ⟨new, (TurnScript.ofInput (.speech "a story")).withOutput
      { response := "Once upon a time" }⟩ := by
    decide +kernel
  -- what has been told so far ends outside of a tag
  have hgoesOn : ¬ PastTurn.FallsSilent {}
      ⟨begun, streaming (some { response := "<mark name=\"x\"/>" })⟩ := by
    obtain ⟨prompt, hprompt, htext⟩ : ∃ prompt, begun.tracker.lastPrompt = some prompt ∧
        prompt.text = "Once upon a time" :=
      Option.map_eq_some_iff.mp (by decide +kernel)
    have hclosed : Markup.Closed prompt.text := (Markup.tags_of_not_mem (by rw [htext]; decide)).2
    have hspeech : Markup.isSpeechless prompt.text = false := by
      rw [htext]
      decide +kernel
    exact PastTurn.not_fallsSilent_of_closed {} hprompt hclosed hspeech
  have hcarrying : told.tracker.Carrying :=
    (carrying_iff hpast).1.mpr
      (List.forall_mem_cons.mpr ⟨hbegins, List.forall_mem_singleton.mpr hgoesOn⟩) ⟨begun, _⟩
      (List.mem_append_right _ List.mem_cons_self)
  exact ⟨by decide +kernel, hcarrying, (carrying_iff hpast).2 hcarrying [] none rfl⟩

/-- Where there is nothing to go on with and nothing more is said, the last prompt is empty. -/
theorem not_forall_carrying :
    ¬ ∀ (setup : Setup) (past : List PastTurn) (s : Session), Past setup past s →
      s.tracker.Carrying := by
  intro h
  exact absurd (h {} _ _ (Past.new.turn (streaming none))) (by decide +kernel)

end Session

end Colloquy
