import Apprentice.Proofs.Agent.Resolution

/-!
# What an utterance touches

An utterance changes one part of an agent. A teach instruction concerns the lexicon and a command
the world; unknown words let the lexicon grow, if the resolver explains some of them, and then
either the others are asked about or, when there are none left, the command is carried out. The
reply lists the words that were learned. For a teach instruction these are the keys under which the
lexicon has changed. The words that a resolver explained are listed as they were heard; they are
stored under their normal forms, and a word can have another normal form than itself, though only
once.
-/

namespace Apprentice

open Utterance

variable {lexicon later : Lexicon} {word key text input : String} {words : List String}

def Lexicon.Differs (lexicon later : Lexicon) (key : String) : Prop :=
  later.find? key ≠ lexicon.find? key

theorem Lexicon.not_differs_self (lexicon : Lexicon) (key : String) :
    ¬lexicon.Differs lexicon key :=
  fun hdiffers => hdiffers rfl

theorem Lexicon.Grows.differs_iff (hgrows : lexicon.Grows later) : lexicon.Differs later key ↔
    lexicon.find? key = none ∧ ∃ e, later.find? key = some e := by
  constructor
  · intro hdiffers
    cases hold : lexicon.find? key with
    | some e => exact absurd ((hgrows.kept hold).trans hold.symm) hdiffers
    | none =>
        refine ⟨rfl, Option.ne_none_iff_exists'.mp fun hnone => hdiffers ?_⟩
        rw [hnone, hold]
  · rintro ⟨hnone, e, hfind⟩ hsame
    rw [hnone, hfind] at hsame
    cases hsame

theorem Lexicon.Learns.differs_iff {lesson : Lesson} {outcome : TeachOutcome} {next : Lexicon}
    (hlearns : lexicon.Learns lesson outcome next) (hnew : outcome ≠ .unchanged) :
    lexicon.Differs next key ↔ key = normalizeWord lesson.word := by
  constructor
  · intro hdiffers
    by_contra hother
    exact hdiffers (hlearns.find?_of_ne hother)
  · rintro rfl hsame
    obtain ⟨e, hget, hanswers⟩ := hlearns.exists_answer
    have hbefore : lexicon.find? (normalizeWord lesson.word) = some e := hsame.symm.trans hget
    cases hlearns with
    | unchanged => exact hnew rfl
    | learned _ _ hfind => cases hfind.symm.trans hbefore
    | replaced _ _ hfind hother =>
        cases hfind.symm.trans hbefore
        exact hother hanswers

theorem differs_resolveWords_iff {resolver : Resolver}
    (hnew : ∀ word ∈ words, lexicon.get? word = none) :
    lexicon.Differs (resolveWords resolver lexicon words).2 key ↔
      ∃ word ∈ (resolveWords resolver lexicon words).1, normalizeWord word = key := by
  rw [(grows_resolveWords resolver lexicon words).differs_iff]
  constructor
  · rintro ⟨hnone, e, hfind⟩
    exact exists_of_find?_resolveWords hfind hnone
  · rintro ⟨word, hword, rfl⟩
    obtain ⟨concept, hteaches⟩ := mem_resolveWords_iff.mp hword
    obtain ⟨e, hget, -⟩ := hteaches.exists_answer
    exact ⟨hnew word hteaches.mem, e, hget⟩

namespace Agent

variable {agent next : Agent}

/-- How an agent goes on after an utterance, by what the utterance was taken for. All that is not
mentioned stays as it was; so do the ticks that were counted, and the goals that there were. -/
inductive Touches (agent : Agent) (text : String) : List String → Agent → Prop where
  | refused {cause : UtteranceError} (hhear : agent.hear text = .error cause) :
      Touches agent text [] agent
  | taught {learned : List String} {request : TeachRequest} {lexicon : Lexicon}
      (hhear : agent.hear text = .ok (.teach request))
      (hlearned : ∀ key, agent.lexicon.Differs lexicon key ↔ key ∈ learned) :
      Touches agent text learned { agent with lexicon := lexicon }
  | acted {action : Action} (hhear : agent.hear text = .ok (.act action)) :
      Touches agent text []
        { agent with world := (action.execute agent.lexicon agent.world).2 }
  /-- Goals are added to understand words that nobody explained. -/
  | asked {learned words : List String} {input : String} {lexicon : Lexicon}
      {goals : List Goal} (hhear : agent.hear text = .ok (.unknown words input))
      (hgrows : agent.lexicon.Grows lexicon) (hoffered : ∀ word ∈ learned, word ∈ words)
      (hlearned : ∀ key, agent.lexicon.Differs lexicon key ↔
        ∃ word ∈ learned, normalizeWord word = key)
      (hasks : ∀ g ∈ goals, ∃ word ∈ words, g.asksFor (normalizeWord word) = true) :
      Touches agent text learned
        { agent with lexicon := lexicon, goals := ⟨agent.goals.goals ++ goals⟩ }
  /-- All words were explained. -/
  | understood {learned words : List String} {input : String} {lexicon : Lexicon}
      {action : Action} (hhear : agent.hear text = .ok (.unknown words input))
      (hgrows : agent.lexicon.Grows lexicon) (hoffered : ∀ word ∈ learned, word ∈ words)
      (hlearned : ∀ key, agent.lexicon.Differs lexicon key ↔
        ∃ word ∈ learned, normalizeWord word = key)
      (hagain : { agent with lexicon := lexicon }.hear text = .ok (.act action)) :
      Touches agent text learned
        { agent with lexicon := lexicon, world := (action.execute lexicon agent.world).2 }

/-! ### Replies -/

theorem touches_obey {request : TeachRequest} (hhear : agent.hear text = .ok (.teach request)) :
    agent.Touches text (agent.obey request).1.learned (agent.obey request).2 := by
  have hchanged : ∀ {outcome taught}, outcome ≠ .unchanged →
      agent.teach request.word request.wordType request.expression request.replace =
        .ok (outcome, taught) →
      agent.Touches text [normalizeWord request.word] taught := by
    intro outcome taught hnew hteach
    rw [lexicon_of_teach hteach]
    refine .taught hhear fun key => ?_
    obtain ⟨⟨_, lexicon⟩, hlexicon, hreturn⟩ := bind_eq_ok hteach
    cases hreturn
    rw [List.mem_singleton]
    exact (Lexicon.learns_of_teach ⟨request.word, request.wordType, request.expression,
      request.replace⟩ hlexicon).differs_iff hnew
  have hkept : agent.Touches text [] agent := .taught hhear fun key =>
    iff_of_false (agent.lexicon.not_differs_self key) List.not_mem_nil
  rw [obey]
  split
  next hteach => exact hchanged TeachOutcome.noConfusion hteach
  next => exact hkept
  next hteach => exact hchanged TeachOutcome.noConfusion hteach
  next => exact hkept

theorem touches_ask {learned left : List String}
    (hhear : agent.hear text = .ok (.unknown words input))
    (hgrows : agent.lexicon.Grows lexicon) (hoffered : ∀ word ∈ learned, word ∈ words)
    (hlearned : ∀ key, agent.lexicon.Differs lexicon key ↔
      ∃ word ∈ learned, normalizeWord word = key)
    (hleft : ∀ word ∈ left, word ∈ words) :
    agent.Touches text learned ({ agent with lexicon := lexicon }.ask left).2 := by
  have hsettled : ∀ word ∈ left, IsSettled word := fun word hword =>
    isSettled_of_read hhear word (hleft word hword)
  obtain ⟨goals, hgoals, -, hasks⟩ :=
    (GoalStore.asked_inquire hsettled agent.goals agent.scheduler.ticks).added
  have hnext : ({ agent with lexicon := lexicon }.ask left).2 =
      { agent with lexicon := lexicon, goals := ⟨agent.goals.goals ++ goals⟩ } := by
    rw [← hgoals]
    rfl
  rw [hnext]
  refine .asked hhear hgrows hoffered hlearned fun g hg => ?_
  obtain ⟨word, hword, hfor⟩ := hasks g hg
  exact ⟨word, hleft word hword, hfor⟩

theorem touches_process_of_unknown (hhear : agent.hear text = .ok (.unknown words input)) :
    agent.Touches text (agent.process text).1.learned (agent.process text).2 := by
  have hgrows := grows_resolveWords agent.resolver agent.lexicon words
  have hdiffers := fun key => @differs_resolveWords_iff agent.lexicon key words agent.resolver
    (new_of_read hhear)
  have hoffered : ∀ word ∈ (resolveWords agent.resolver agent.lexicon words).1, word ∈ words := by
    intro word hword
    obtain ⟨concept, hteaches⟩ := mem_resolveWords_iff.mp hword
    exact hteaches.mem
  obtain ⟨hlearned, hresumes⟩ := process_of_unknown hhear
  rw [hlearned]
  generalize (agent.process text).2 = next at *
  cases hresumes with
  | acts hagain => exact .understood hhear hgrows hoffered hdiffers hagain
  | asks hleft =>
      exact touches_ask hhear hgrows hoffered hdiffers fun word hword => ((hleft word).mp hword).1

theorem touches_process (agent : Agent) (text : String) :
    agent.Touches text (agent.process text).1.learned (agent.process text).2 := by
  cases hhear : agent.hear text with
  | error cause =>
      rw [process, hhear]
      exact .refused hhear
  | ok reading =>
      cases reading with
      | act action =>
          rw [process, hhear]
          exact .acted hhear
      | teach request =>
          have hprocess : agent.process text = agent.obey request := by
            rw [process, hhear]
            rfl
          rw [hprocess]
          exact touches_obey hhear
      | unknown words input => exact touches_process_of_unknown hhear

/-! ### What is touched -/

namespace Touches

variable {learned : List String} (htouches : agent.Touches text learned next)

include htouches

theorem scheduler : next.scheduler = agent.scheduler := by
  cases htouches <;> rfl

theorem goals : agent.goals.goals <+: next.goals.goals := by
  cases htouches with
  | asked => exact List.prefix_append _ _
  | refused | taught | acted | understood => exact List.prefix_rfl

/-- The world only changes by an action that is carried out. -/
theorem world : next.world = agent.world ∨
    ∃ lexicon action, next.world = (Action.execute lexicon action agent.world).2 := by
  cases htouches with
  | acted | understood => exact .inr ⟨_, _, rfl⟩
  | refused | taught | asked => exact .inl rfl

end Touches

/-- Words that are stored under their normal forms are the keys themselves, if they do not change
any more by being put into normal form. This is necessary, as that is so after the first time. -/
theorem keys_iff_of_settled {learned : List String} {changed : String → Prop}
    (hsettled : ∀ word ∈ learned, IsSettled word)
    (hchanged : ∀ key, changed key ↔ ∃ word ∈ learned, normalizeWord word = key) :
    (∀ key, changed key ↔ key ∈ learned) ↔ ∀ word ∈ learned, normalizeWord word = word := by
  constructor
  · intro hkeys word hword
    obtain ⟨other, hother, rfl⟩ := (hchanged word).mp ((hkeys word).mpr hword)
    exact hsettled other hother
  · intro hnormal key
    rw [hchanged]
    constructor
    · rintro ⟨word, hword, rfl⟩
      rwa [hnormal word hword]
    · exact fun hkey => ⟨key, hkey, hnormal key hkey⟩

namespace Touches

variable {learned : List String} (htouches : agent.Touches text learned next)

include htouches

theorem keys_of_known (hknown : ∀ words input, agent.hear text ≠ .ok (.unknown words input))
    (key : String) : agent.lexicon.Differs next.lexicon key ↔ key ∈ learned := by
  cases htouches with
  | refused | acted => exact iff_of_false (agent.lexicon.not_differs_self key) List.not_mem_nil
  | taught _ hlearned => exact hlearned key
  | asked hhear | understood hhear => exact absurd hhear (hknown _ _)

theorem keys_of_unknown (hhear : agent.hear text = .ok (.unknown words input)) :
    (∀ word ∈ learned, word ∈ words) ∧ ∀ key, agent.lexicon.Differs next.lexicon key ↔
      ∃ word ∈ learned, normalizeWord word = key := by
  cases htouches with
  | refused hother | acted hother | taught hother => cases hother.symm.trans hhear
  | asked hother _ hoffered hlearned | understood hother _ hoffered hlearned =>
      cases hother.symm.trans hhear
      exact ⟨hoffered, hlearned⟩

/-- The two are the same, unless the resolver explained a word that is not its own normal form. -/
theorem keys_iff :
    (∀ key, agent.lexicon.Differs next.lexicon key ↔ key ∈ learned) ↔
      ∀ words input, agent.hear text = .ok (.unknown words input) →
        ∀ word ∈ learned, normalizeWord word = word := by
  by_cases hunknown : ∃ words input, agent.hear text = .ok (.unknown words input)
  · obtain ⟨words, input, hhear⟩ := hunknown
    obtain ⟨hoffered, hlearned⟩ := htouches.keys_of_unknown hhear
    rw [keys_iff_of_settled (fun word hword => isSettled_of_read hhear word (hoffered word hword))
      hlearned]
    exact ⟨fun hnormal _ _ _ => hnormal, fun hnormal => hnormal words input hhear⟩
  · have hknown : ∀ words input, agent.hear text ≠ .ok (.unknown words input) :=
      fun words input hhear => hunknown ⟨words, input, hhear⟩
    exact iff_of_true (htouches.keys_of_known hknown)
      fun words input hhear => absurd hhear (hknown words input)

end Touches

/-- An utterance touches one part of an agent, and the words that are listed as learned are the keys
under which the lexicon has changed, but for words in another form than the normal one that the
resolver explained. -/
theorem process_touches_one_part (agent : Agent) (text : String) :
    let learned := (agent.process text).1.learned
    let next := (agent.process text).2
    next.scheduler = agent.scheduler ∧ agent.goals.goals <+: next.goals.goals ∧
      agent.Touches text learned next ∧
      ((∀ key, agent.lexicon.Differs next.lexicon key ↔ key ∈ learned) ↔
        ∀ words input, agent.hear text = .ok (.unknown words input) →
          ∀ word ∈ learned, normalizeWord word = word) := by
  have htouches := touches_process agent text
  exact ⟨htouches.scheduler, htouches.goals, htouches, htouches.keys_iff⟩

-- A capital letter with a mark that is composed with the small letter only.
example : (({ blank with resolver := .ofEntries [("\u1fb4", ⟨.social, "greet"⟩)] }).process
    "\u0386\u0345").1.learned = ["\u03ac\u0345"] := by
  decide +kernel

end Agent

end Apprentice
