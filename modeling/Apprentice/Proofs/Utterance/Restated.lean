import Apprentice.Action.Execution
import Apprentice.Proofs.Utterance.Bare
import Apprentice.Proofs.Utterance.Shapes
import Apprentice.Proofs.Utterance.Words

/-!
# Goals that are stated again

The condition of a goal keeps the meanings that its words had when it was stated. Before it is
tested, it is given the meanings that they have now, and this is as good as stating the goal again:
both lead to the same condition, as the two differ only in meanings and all of these are looked up.
All but one: a question about a single word carries the text of its meaning, and this text stays. So
the answer finds the objects that the word describes now, and explains it by what it meant before.
-/

namespace Apprentice

/-! ### Meanings now -/

namespace Lexicon

def predicate? (lexicon : Lexicon) (word : String) : Option Predicate :=
  (lexicon.get? word).bind fun e => e.meaning.predicate?

def relation? (lexicon : Lexicon) (word : String) : Option Predicate :=
  (lexicon.get? word).bind fun e => e.meaning.relation?

def expression? (lexicon : Lexicon) (word : String) : Option String :=
  (lexicon.get? word).map fun e => e.expression

/-- What the words of a lexicon put into an action. -/
def material (lexicon : Lexicon) : Material where
  term t := lexicon.predicate? t.word = some t.predicate
  relation word p := lexicon.relation? word = some p
  name _ := True
  definition t text := t.negated = false ∧ lexicon.predicate? t.word = some t.predicate ∧
    lexicon.expression? t.word = some text

variable {lexicon later : Lexicon}

theorem isSome_predicate?_bare (lexicon : Lexicon) (word : String) :
    (lexicon.bare.predicate? word).isSome = (lexicon.predicate? word).isSome := by
  rw [predicate?, predicate?, get?_bare]
  rcases lexicon.get? word with _ | ⟨key, wordType, expression, meaning⟩
  · rfl
  · cases meaning <;> rfl

theorem isSome_relation?_bare (lexicon : Lexicon) (word : String) :
    (lexicon.bare.relation? word).isSome = (lexicon.relation? word).isSome := by
  rw [relation?, relation?, get?_bare]
  rcases lexicon.get? word with _ | ⟨key, wordType, expression, meaning⟩
  · rfl
  · cases meaning <;> rfl

theorem exists_predicate? {word : String} {p : Predicate} (hbare : later.bare = lexicon.bare)
    (hp : lexicon.predicate? word = some p) : ∃ q, later.predicate? word = some q := by
  rw [← Option.isSome_iff_exists, ← isSome_predicate?_bare, hbare, isSome_predicate?_bare, hp]
  rfl

theorem exists_relation? {word : String} {p : Predicate} (hbare : later.bare = lexicon.bare)
    (hp : lexicon.relation? word = some p) : ∃ q, later.relation? word = some q := by
  rw [← Option.isSome_iff_exists, ← isSome_relation?_bare, hbare, isSome_relation?_bare, hp]
  rfl

end Lexicon

variable {lexicon later : Lexicon} {t : Term} {d : Description} {a c : Action} {kind : GoalKind}
  {m : Material}

theorem Term.withCurrentMeaning_eq {p : Predicate} (hp : lexicon.predicate? t.word = some p) :
    t.withCurrentMeaning lexicon = ⟨t.word, t.negated, p⟩ := by
  rw [Lexicon.predicate?] at hp
  rw [withCurrentMeaning, hp]

theorem Term.withCurrentMeaning_bare {p : Predicate} (hp : lexicon.predicate? t.word = some p) :
    t.bare.withCurrentMeaning lexicon = t.withCurrentMeaning lexicon := by
  have hbare : lexicon.predicate? t.bare.word = some p := hp
  exact (withCurrentMeaning_eq hbare).trans (withCurrentMeaning_eq hp).symm

namespace Description

theorem madeOf_conjunction : (conjunction [t]).MadeOf m ↔ m.term t := by
  simp [MadeOf, conjunction]

theorem withCurrentMeanings_self (hd : d.MadeOf lexicon.material) :
    d.withCurrentMeanings lexicon = d := by
  have hterms : ∀ terms ∈ d.alternatives,
      terms.map (fun t => t.withCurrentMeaning lexicon) = terms := by
    intro terms hmem
    refine (List.map_congr_left fun t ht => ?_).trans (List.map_id terms)
    exact Term.withCurrentMeaning_eq (hd terms hmem t ht)
  rw [withCurrentMeanings, List.map_congr_left hterms, List.map_id']

theorem withCurrentMeanings_bare (hbare : later.bare = lexicon.bare)
    (hd : d.MadeOf lexicon.material) :
    d.bare.withCurrentMeanings later = d.withCurrentMeanings later := by
  rw [withCurrentMeanings, withCurrentMeanings, bare, List.map_map]
  congr 1
  refine List.map_congr_left fun terms hterms => ?_
  rw [Function.comp_apply, List.map_map]
  refine List.map_congr_left fun t ht => ?_
  obtain ⟨p, hp⟩ := Lexicon.exists_predicate? hbare (hd terms hterms t ht)
  exact Term.withCurrentMeaning_bare hp

@[simp] theorem phrase_bare (d : Description) : d.bare.phrase = d.phrase := by
  rw [phrase, phrase, isEmpty, isEmpty, bare, List.isEmpty_map, List.map_map]
  simp only [Function.comp_def, List.map_map]
  rfl

end Description

namespace Action

/-! ### Definitions -/

/-- The text of a meaning that a question carries. -/
def definition? : Action → Option String
  | query _ definition => definition
  | _ => none

def withDefinition (definition : Option String) : Action → Action
  | query d _ => query d definition
  | other => other

/-- The word that is explained in the answer to a question. -/
def explained? : Action → Option String
  | query d (some _) => some d.phrase
  | _ => none

theorem isSome_definition?_bare (a : Action) :
    a.bare.definition?.isSome = a.definition?.isSome := by
  cases a with
  | query d definition => exact Option.isSome_map
  | _ => rfl

theorem explained?_bare (a : Action) : a.bare.explained? = a.explained? := by
  cases a with
  | query d definition =>
      cases definition with
      | none => rfl
      | some text => exact congrArg some d.phrase_bare
  | _ => rfl

theorem IsCondition.isCheck_or_definition (hc : c.IsCondition m kind) :
    c.IsCheck m ∨ ∃ t text, m.definition t text ∧ c = query (.conjunction [t]) (some text) := by
  cases hc with
  | possession hd => exact .inl (.possession hd)
  | existence hd => exact .inl (.existence hd)
  | state ha hkind =>
      cases ha with
      | check ha => exact .inl ha
      | definition ht => exact .inr ⟨_, _, ht, rfl⟩
      | _ => simp [Action.kind] at hkind

theorem IsCheck.definition?_eq_none (ha : a.IsCheck m) : a.definition? = none := by
  cases ha <;> rfl

theorem IsCheck.explained?_eq_none (ha : a.IsCheck m) : a.explained? = none := by
  cases ha <;> rfl

theorem IsCondition.definition?_eq (hc : c.IsCondition lexicon.material kind) :
    c.definition? = c.explained?.bind lexicon.expression? := by
  rcases hc.isCheck_or_definition with hcheck | ⟨t, text, ⟨hnegated, -, htext⟩, rfl⟩
  · rw [hcheck.definition?_eq_none, hcheck.explained?_eq_none]
    rfl
  · have hphrase : (Description.conjunction [t]).phrase = t.word := by
      simp [Description.phrase, Description.conjunction, Description.isEmpty, Term.phrase, hnegated]
    change some text = lexicon.expression? (Description.conjunction [t]).phrase
    rw [hphrase, htext]

/-! ### Current meanings -/

/-- Nothing changes, if the meanings of a condition are looked up where it was read. -/
theorem IsCondition.withCurrentMeanings_self (hc : c.IsCondition lexicon.material kind) :
    c.withCurrentMeanings lexicon = c := by
  rcases hc.isCheck_or_definition with hcheck | ⟨t, text, ⟨-, hterm, -⟩, rfl⟩
  · cases hcheck with
    | possession hd => exact congrArg (verifyPossession _) (Description.withCurrentMeanings_self hd)
    | existence hd => exact congrArg verifyExistence (Description.withCurrentMeanings_self hd)
    | property _ hd => exact congrArg (verifyProperty _) (Description.withCurrentMeanings_self hd)
    | query hd => exact congrArg (query · none) (Description.withCurrentMeanings_self hd)
    | @relation word left right p hp _ _ =>
        change evaluateRelation word ((lexicon.relation? word).getD p) left right = _
        rw [show lexicon.relation? word = some p from hp]
        rfl
  · have hd : (Description.conjunction [t]).MadeOf lexicon.material :=
      Description.madeOf_conjunction.mpr hterm
    exact congrArg (query · (some text)) (Description.withCurrentMeanings_self hd)

/-- Looking the meanings up forgets the ones that a condition had, other than the text that it
carries. -/
theorem IsCondition.withCurrentMeanings_bare (hbare : later.bare = lexicon.bare)
    (hc : c.IsCondition lexicon.material kind) :
    c.withCurrentMeanings later =
      (c.bare.withCurrentMeanings later).withDefinition c.definition? := by
  rcases hc.isCheck_or_definition with hcheck | ⟨t, text, ⟨-, hterm, -⟩, rfl⟩
  · cases hcheck with
    | possession hd =>
        exact congrArg (verifyPossession _) (Description.withCurrentMeanings_bare hbare hd).symm
    | existence hd =>
        exact congrArg verifyExistence (Description.withCurrentMeanings_bare hbare hd).symm
    | property _ hd =>
        exact congrArg (verifyProperty _) (Description.withCurrentMeanings_bare hbare hd).symm
    | query hd =>
        exact congrArg (query · none) (Description.withCurrentMeanings_bare hbare hd).symm
    | @relation word left right p hp _ _ =>
        obtain ⟨q, hq⟩ := Lexicon.exists_relation? hbare hp
        change evaluateRelation word ((later.relation? word).getD p) left right =
          evaluateRelation word ((later.relation? word).getD .unspecified) left right
        rw [hq]
        rfl
  · have hd : (Description.conjunction [t]).MadeOf lexicon.material :=
      Description.madeOf_conjunction.mpr hterm
    exact congrArg (query · (some text)) (Description.withCurrentMeanings_bare hbare hd).symm

theorem withDefinition_withDefinition (a : Action) (former definition : Option String) :
    (a.withDefinition former).withDefinition definition = a.withDefinition definition := by
  cases a <;> rfl

/-- Two conditions of one form become one, apart from the text that they carry, when the first one
is given the meanings that the second one was read with. -/
theorem IsCondition.withCurrentMeanings_eq {stated : Action} {statedKind : GoalKind}
    (hbare : later.bare = lexicon.bare) (hc : c.IsCondition lexicon.material kind)
    (hstated : stated.IsCondition later.material statedKind) (hform : stated.bare = c.bare) :
    c.withCurrentMeanings later = stated.withDefinition c.definition? := by
  have hself : (stated.bare.withCurrentMeanings later).withDefinition stated.definition? = stated :=
    (hstated.withCurrentMeanings_bare rfl).symm.trans hstated.withCurrentMeanings_self
  calc c.withCurrentMeanings later
      = (stated.bare.withCurrentMeanings later).withDefinition c.definition? := by
        rw [hc.withCurrentMeanings_bare hbare, hform]
    _ = ((stated.bare.withCurrentMeanings later).withDefinition stated.definition?).withDefinition
          c.definition? := (withDefinition_withDefinition ..).symm
    _ = stated.withDefinition c.definition? := by rw [hself]

/-! ### Answers -/

theorem result_withDefinition (a : Action) (definition : Option String) (w : World) :
    ((a.withDefinition definition).execute lexicon w).2 = (a.execute lexicon w).2 ∧
      ((a.withDefinition definition).execute lexicon w).1.result =
        (a.execute lexicon w).1.result := by
  cases a <;> exact ⟨rfl, rfl⟩

end Action

theorem Answer.query_eq_iff {former definition : Option String} {w : World}
    (hsome : former.isSome = definition.isSome) :
    Answer.query d former w = Answer.query d definition w ↔ former = definition := by
  refine ⟨fun heq => ?_, fun heq => by rw [heq]⟩
  cases former with
  | none =>
      cases definition with
      | none => rfl
      | some _ => cases hsome
  | some text =>
      cases definition with
      | none => cases hsome
      | some other =>
          have hfeedback := congrArg StepOutcome.feedback heq
          simp only [Answer.query] at hfeedback
          simpa [← String.toList_inj] using hfeedback

namespace Action

theorem outcome_withDefinition_iff {definition : Option String} {w : World}
    (hsome : definition.isSome = a.definition?.isSome) :
    ((a.withDefinition definition).execute lexicon w).1 = (a.execute lexicon w).1 ↔
      definition = a.definition? := by
  cases a with
  | query d former => exact Answer.query_eq_iff hsome
  | _ => exact ⟨fun _ => Option.isNone_iff_eq_none.mp (Option.isSome_eq_false_iff.mp hsome),
      fun _ => rfl⟩

end Action

namespace Utterance

/-- What is read from a text is made of the meanings of its words. -/
theorem gives_of_mem_tokenize {text : String} {world : World} :
    ∀ t ∈ tokenize text lexicon world, t.Gives lexicon.material := by
  intro t ht
  have hentry : ∀ meaning, t.meaning? = some meaning →
      ∃ e, t.entry? = some e ∧ e.meaning = meaning := fun meaning hmeaning =>
    Option.map_eq_some_iff.mp hmeaning
  refine ⟨?_, ?_, fun _ _ => trivial, ?_⟩
  · intro p hp negated
    obtain ⟨e, he, hmeaning⟩ := hentry _ hp
    change lexicon.predicate? t.normalized = some p
    rw [Lexicon.predicate?, (get?_of_taughtToken ht he).1, Option.bind_some, hmeaning]
    rfl
  · intro p hp
    obtain ⟨e, he, hmeaning⟩ := hentry _ hp
    change lexicon.relation? t.normalized = some p
    rw [Lexicon.relation?, (get?_of_taughtToken ht he).1, Option.bind_some, hmeaning]
    rfl
  · intro e he p hmeaning
    have hget := (get?_of_taughtToken ht he).2
    refine ⟨rfl, ?_, ?_⟩
    · rw [Lexicon.predicate?, hget, Option.bind_some, hmeaning]
      rfl
    · rw [Lexicon.expression?, hget]
      rfl

/-- A goal is understood in any lexicon that differs only in conditions, as a goal of the same
form. -/
theorem exists_readGoal_of_bare {text : String} {world : World} {request : GoalRequest}
    (hbare : later.bare = lexicon.bare)
    (hread : readGoal text lexicon world = .ok (.goal request)) :
    ∃ restated, readGoal text later world = .ok (.goal restated) ∧
      restated.kind = request.kind ∧ restated.description = request.description ∧
      restated.condition.bare = request.condition.bare := by
  have hsame : (readGoal text later world).map GoalReading.bare = .ok (.goal request.bare) := by
    rw [← readGoal_bare, hbare, readGoal_bare, hread]
    rfl
  cases hlater : readGoal text later world with
  | error cause =>
      rw [hlater] at hsame
      cases hsame
  | ok reading =>
      rw [hlater] at hsame
      cases reading with
      | unknown words input => cases hsame
      | goal restated =>
          have hrequest : restated.bare = request.bare := by
            injection hsame with hreading
            injection hreading
          rw [GoalRequest.bare, GoalRequest.bare, GoalRequest.mk.injEq] at hrequest
          exact ⟨restated, rfl, hrequest⟩

/-- Looking up the meanings of a goal is as good as stating it again. However often nouns,
properties and relations are taught again, its text is still the statement of a goal of the same
kind, and its condition finds the same in every world when the meanings are looked up as when it is
read anew. Both answer in the same words, unless the answer explains a word and the text of its
meaning is another one now. -/
theorem restated_of_reteaches {lessons : List Lesson} {text : String} {world : World}
    {request : GoalRequest} (hreteaches : (Lexicon.ofLessons lessons).Reteaches later)
    (hread : readGoal text (Lexicon.ofLessons lessons) world = .ok (.goal request)) :
    ∃ restated, readGoal text later world = .ok (.goal restated) ∧
      restated.kind = request.kind ∧ restated.description = request.description ∧
      ∀ w, let refreshed := (request.condition.withCurrentMeanings later).execute later w
        let anew := restated.condition.execute later w
        refreshed.2 = anew.2 ∧ refreshed.1.result = anew.1.result ∧
        (refreshed.1 = anew.1 ↔ ∀ word, request.condition.explained? = some word →
          (Lexicon.ofLessons lessons).expression? word = later.expression? word) := by
  have hbare := hreteaches.bare_eq
  obtain ⟨restated, hrestated, hkind, hdescription, hform⟩ := exists_readGoal_of_bare hbare hread
  have hcondition := readGoal_isCondition gives_of_mem_tokenize hread
  have hanew := readGoal_isCondition gives_of_mem_tokenize hrestated
  refine ⟨restated, hrestated, hkind, hdescription, fun w => ?_⟩
  have hexplained : restated.condition.explained? = request.condition.explained? := by
    rw [← Action.explained?_bare, hform, Action.explained?_bare]
  have hsome : request.condition.definition?.isSome = restated.condition.definition?.isSome := by
    rw [← Action.isSome_definition?_bare, ← hform, Action.isSome_definition?_bare]
  rw [hcondition.withCurrentMeanings_eq hbare hanew hform]
  obtain ⟨hworld, hresult⟩ := restated.condition.result_withDefinition
    request.condition.definition? w
  refine ⟨hworld, hresult, (Action.outcome_withDefinition_iff hsome).trans ?_⟩
  rw [hcondition.definition?_eq, hanew.definition?_eq, hexplained]
  cases request.condition.explained? with
  | none => simp
  | some word => simp

/-- The question what is red is answered by what the word meant when it was asked. -/
theorem restated_of_reteaches_red :
    let lexicon := Lexicon.ofLessons [⟨"what", .inquiry, "what", true⟩,
      ⟨"red", .property, "obj.color == 'red'", true⟩]
    let later := lexicon.study ⟨"red", .noun, "obj.color == 'crimson'", true⟩
    let w := World.new 2 1
    lexicon.Reteaches later ∧
      ∃ request restated, readGoal "what is red" lexicon w = .ok (.goal request) ∧
        readGoal "what is red" later w = .ok (.goal restated) ∧
        ((request.condition.withCurrentMeanings later).execute later w).1.result =
          (restated.condition.execute later w).1.result ∧
        ((request.condition.withCurrentMeanings later).execute later w).1 ≠
          (restated.condition.execute later w).1 := by
  intro lexicon later w
  let hue (color source : String) : Predicate :=
    ⟨.unary, .binary .eq (.attr .obj .color) (.literal (.str color)), source⟩
  let what : Entry := ⟨"what", .inquiry, "what", .inquiry .what⟩
  let red : Entry := ⟨"red", .property, "obj.color == 'red'",
    .predicate (hue "red" "obj.color == 'red'")⟩
  let crimson : Entry := ⟨"red", .noun, "obj.color == 'crimson'",
    .predicate (hue "crimson" "obj.color == 'crimson'")⟩
  have hred : Predicate.compile .unary "obj.color == 'red'" =
      .ok (hue "red" "obj.color == 'red'") := by
    have htokens : Expr.tokenize "obj.color == 'red'" = .ok [⟨.ident "obj", 0⟩, ⟨.dot, 3⟩,
        ⟨.ident "color", 4⟩, ⟨.eqEq, 10⟩, ⟨.str "red", 13⟩] := by
      decide +kernel
    exact Predicate.compile_of_parse (n := 18) htokens rfl (by cbv) rfl (by decide +kernel)
  have hcrimson : Predicate.compile .unary "obj.color == 'crimson'" =
      .ok (hue "crimson" "obj.color == 'crimson'") := by
    have htokens : Expr.tokenize "obj.color == 'crimson'" = .ok [⟨.ident "obj", 0⟩, ⟨.dot, 3⟩,
        ⟨.ident "color", 4⟩, ⟨.eqEq, 10⟩, ⟨.str "crimson", 13⟩] := by
      decide +kernel
    exact Predicate.compile_of_parse (n := 22) htokens rfl (by cbv) rfl (by decide +kernel)
  have hnormal : normalizeWord "red" = "red" := by decide +kernel
  have hasked : Meaning.compile "what" .inquiry "what" = .ok (.inquiry .what) := by
    rw [Meaning.compile, show Text.trimmed "what" = "what" by decide +kernel,
      Meaning.ofTrimmed.eq_def]
    dsimp only
    rw [show String.ofList (Text.lower "what".toList) = "what" by decide +kernel]
    rfl
  have hwhatTaught : what.Taught "what" :=
    ⟨by decide +kernel, by decide +kernel, by decide +kernel, by decide +kernel, hasked⟩
  have hredTaught : red.Taught "red" :=
    ⟨hnormal.symm, by decide +kernel, by decide +kernel, by decide +kernel,
      Meaning.compile_of_unary rfl (by decide +kernel) hred⟩
  have hcrimsonTaught : crimson.Taught "red" :=
    ⟨hnormal.symm, by decide +kernel, by decide +kernel, by decide +kernel,
      Meaning.compile_of_unary rfl (by decide +kernel) hcrimson⟩
  have hwhat : Lexicon.ofLessons [⟨what.word, what.wordType, what.expression, true⟩] =
      ⟨[what], by decide⟩ := by
    rw [Lexicon.ofLessons, List.foldl_cons, List.foldl_nil]
    refine Lexicon.study_of_taught hwhatTaught (by decide +kernel) fun e hfind => ?_
    cases hfind
  have hlexicon : lexicon = ⟨[red, what], by decide⟩ := by
    change Lexicon.ofLessons ([⟨what.word, what.wordType, what.expression, true⟩] ++
      [⟨red.word, red.wordType, red.expression, true⟩]) = _
    rw [Lexicon.ofLessons_concat, hwhat]
    refine (Lexicon.study_of_taught hredTaught hnormal fun e hfind => ?_).trans ?_
    · rw [Lexicon.find?_eq_none (List.forall_mem_singleton.mpr (by decide +kernel))] at hfind
      cases hfind
    · have hbefore : red.word < what.word := by decide +kernel
      exact Lexicon.eq_of_entries (if_pos hbefore)
  have hlater : later = ⟨[crimson, what], by decide⟩ := by
    change lexicon.study ⟨crimson.word, crimson.wordType, crimson.expression, true⟩ = _
    rw [hlexicon]
    refine (Lexicon.study_of_taught hcrimsonTaught hnormal ?_).trans ?_
    · intro e hfind
      obtain rfl : red = e := Option.some.inj hfind
      decide +kernel
    · have hbefore : ¬crimson.word < red.word := by decide +kernel
      exact Lexicon.eq_of_entries ((if_neg hbefore).trans (if_pos rfl))
  have hread : readGoal "what is red" lexicon w = .ok (.goal ⟨.verifyState, "what is red",
      .query (.conjunction [⟨"red", false, hue "red" "obj.color == 'red'"⟩])
        (some "obj.color == 'red'")⟩) := by
    rw [hlexicon, readGoal, tokenize, show splitWords "what is red" =
      [⟨"what", ⟨0, 4⟩⟩, ⟨"is", ⟨5, 7⟩⟩, ⟨"red", ⟨8, 11⟩⟩] by decide +kernel]
    rfl
  have hreteaches : lexicon.Reteaches later := by
    refine .step .refl ⟨red, .unary, ?_, rfl, rfl⟩
    rw [hlexicon]
    rfl
  obtain ⟨restated, hrestated, -, -, hanswer⟩ := restated_of_reteaches hreteaches hread
  obtain ⟨-, hresult, houtcome⟩ := hanswer w
  refine ⟨hreteaches, _, restated, hread, hrestated, hresult, fun heq => ?_⟩
  have hexpression : lexicon.expression? "red" = later.expression? "red" :=
    houtcome.mp heq "red" rfl
  rw [hlexicon, hlater] at hexpression
  revert hexpression
  decide +kernel

end Utterance

end Apprentice
