import Apprentice.Utterance.Goal

/-!
# What readers do not notice

Which action an utterance asks for depends on the roles of its words, but neither on where the words
stand nor on what the nouns, the properties and the relations among them mean: the readers put the
conditions of these words into actions and never look at them. So all this can be changed, in the
same way for all words, and the readers find the same action, with the conditions changed. Each
reader has one lemma that says so.
-/

namespace Apprentice.Utterance

/-- A change that readers do not notice: of places, of conditions and their texts, and of types as
far as nouns and properties go. -/
structure Recast where
  span : Span → Span := id
  wordType : WordType → WordType := id
  explanation : String → String := id
  condition : Predicate → Predicate := id
  type_iff : ∀ {kind : WordType}, kind ≠ .noun → kind ≠ .property →
    ∀ former, wordType former = kind ↔ former = kind

namespace Recast

variable (r : Recast)

def meaning : Meaning → Meaning
  | .predicate p => .predicate (r.condition p)
  | .relation p => .relation (r.condition p)
  | other => other

def entry (e : Entry) : Entry :=
  ⟨e.word, r.wordType e.wordType, r.explanation e.expression, r.meaning e.meaning⟩

def role : Role → Role
  | .entry e => .entry (r.entry e)
  | other => other

def token (t : Token) : Token :=
  { t with span := r.span t.span, role := r.role t.role }

def term (t : Term) : Term :=
  { t with predicate := r.condition t.predicate }

def description (d : Description) : Description :=
  ⟨d.alternatives.map fun terms => terms.map r.term⟩

def target : Target → Target
  | .named name => .named name
  | .matching d => .matching (r.description d)

def action : Action → Action
  | .create d name => .create (r.description d) name
  | .take target => .take (r.target target)
  | .give target recipient => .give (r.target target) recipient
  | .destroy target => .destroy (r.target target)
  | .put target container => .put (r.target target) (r.target container)
  | .query d definition => .query (r.description d) (definition.map r.explanation)
  | .locate target => .locate (r.target target)
  | .queryOwner target => .queryOwner (r.target target)
  | .evaluateRelation word p left right => .evaluateRelation word (r.condition p) left right
  | .verifyProperty name d => .verifyProperty name (r.description d)
  | .verifyPossession owner d => .verifyPossession owner (r.description d)
  | .verifyExistence d => .verifyExistence (r.description d)
  | .conditionalExecution check negated command =>
    .conditionalExecution (action check) negated (action command)
  | .hypotheticalQuery check supposition => .hypotheticalQuery (action check) supposition
  | other => other

/-! ### Tokens -/

variable (t : Token)

@[simp] theorem surface_token : (r.token t).surface = t.surface := rfl

@[simp] theorem normalized_token : (r.token t).normalized = t.normalized := rfl

@[simp] theorem isStructural_token : (r.token t).isStructural = t.isStructural := by
  rcases t with ⟨surface, normalized, span, role⟩
  cases role <;> rfl

@[simp] theorem is_token (word : String) : (r.token t).is word = t.is word := by
  simp [Token.is]

@[simp] theorem isAnyOf_token (words : List String) :
    (r.token t).isAnyOf words = t.isAnyOf words := by
  simp [Token.isAnyOf]

@[simp] theorem isArticle_token : (r.token t).isArticle = t.isArticle :=
  r.isAnyOf_token t articles

@[simp] theorem isNumber_token : (r.token t).isNumber = t.isNumber := by
  rcases t with ⟨surface, normalized, span, role⟩
  cases role <;> rfl

@[simp] theorem isUnknown_token : (r.token t).isUnknown = t.isUnknown := by
  rcases t with ⟨surface, normalized, span, role⟩
  cases role <;> rfl

@[simp] theorem binding?_token : (r.token t).binding? = t.binding? := by
  rcases t with ⟨surface, normalized, span, role⟩
  cases role <;> rfl

@[simp] theorem objectName?_token : (r.token t).objectName? = t.objectName? := by
  rcases t with ⟨surface, normalized, span, role⟩
  cases role <;> rfl

@[simp] theorem meaning?_token : (r.token t).meaning? = t.meaning?.map r.meaning := by
  rcases t with ⟨surface, normalized, span, role⟩
  cases role <;> rfl

theorem hasType_token {wordType : WordType} (hnoun : wordType ≠ .noun)
    (hproperty : wordType ≠ .property) (t : Token) :
    (r.token t).hasType wordType = t.hasType wordType := by
  rcases t with ⟨surface, normalized, span, role⟩
  cases role with
  | entry e =>
      rw [Bool.eq_iff_iff]
      change (r.wordType e.wordType == wordType) = true ↔ (e.wordType == wordType) = true
      rw [beq_iff_eq, beq_iff_eq]
      exact r.type_iff hnoun hproperty e.wordType
  | _ => rfl

end Recast

variable (r : Recast)

@[simp] theorem owner?_recast (t : Token) : owner? (r.token t) = owner? t := by
  rw [owner?, owner?, Recast.meaning?_token]
  rcases t.meaning? with _ | meaning
  · rfl
  · cases meaning <;> rfl

@[simp] theorem marker?_recast (t : Token) : marker? (r.token t) = marker? t := by
  rw [marker?, marker?, Recast.meaning?_token]
  rcases t.meaning? with _ | meaning
  · rfl
  · cases meaning <;> rfl

@[simp] theorem temporalOrder?_recast (t : Token) :
    temporalOrder? (r.token t) = temporalOrder? t := by
  rw [temporalOrder?, temporalOrder?, Recast.meaning?_token]
  rcases t.meaning? with _ | meaning
  · rfl
  · cases meaning <;> rfl

/-! ### Parts of token lists -/

@[simp] theorem stripLeading_recast (words : List String) (tokens : List Token) :
    stripLeading words (tokens.map r.token) = (stripLeading words tokens).map r.token := by
  cases tokens with
  | nil => rfl
  | cons t tokens =>
      rw [List.map_cons, stripLeading, stripLeading, Recast.isAnyOf_token]
      split <;> rfl

@[simp] theorem stripTrailing_recast (words : List String) (tokens : List Token) :
    stripTrailing words (tokens.map r.token) = (stripTrailing words tokens).map r.token := by
  rw [stripTrailing, stripTrailing, List.getLast?_map, Option.any_map]
  simp only [Recast.isAnyOf_token]
  split
  · exact List.map_dropLast.symm
  · rfl

theorem splitAtFirst?_recast {p : Token → Bool} (hp : ∀ t : Token, p (r.token t) = p t)
    (tokens : List Token) : splitAtFirst? p (tokens.map r.token) =
      (splitAtFirst? p tokens).map fun parts =>
        (parts.1.map r.token, r.token parts.2.1, parts.2.2.map r.token) := by
  induction tokens with
  | nil => rfl
  | cons t tokens ih =>
      rw [List.map_cons, splitAtFirst?, splitAtFirst?, hp, ih]
      split
      · rfl
      · rw [Option.map_map, Option.map_map]
        rfl

@[simp] theorem content_recast (tokens : List Token) :
    content (tokens.map r.token) = (content tokens).map r.token := by
  rw [content, content, List.filter_map]
  simp only [Function.comp_def, Recast.isArticle_token]

@[simp] theorem unknownWords_recast (tokens : List Token) :
    unknownWords (tokens.map r.token) = unknownWords tokens := by
  rw [unknownWords, unknownWords, List.filter_map, List.map_map]
  simp only [Function.comp_def, Recast.isUnknown_token, Recast.normalized_token]

/-! ### Descriptions and targets -/

theorem readAlternatives_recast (negated : Bool) (terms : List Term) (tokens : List Token) :
    readAlternatives negated (terms.map r.term) (tokens.map r.token) =
      (readAlternatives negated terms tokens).map fun alternatives =>
        alternatives.map fun terms => terms.map r.term := by
  induction tokens generalizing negated terms with
  | nil =>
      rw [List.map_nil, readAlternatives, readAlternatives, List.isEmpty_map]
      split <;> rfl
  | cons t tokens ih =>
      rw [List.map_cons, readAlternatives, readAlternatives, Recast.meaning?_token]
      rcases t.meaning? with _ | meaning
      · rfl
      · cases meaning with
        | predicate p =>
            have hterms := ih false (terms ++ [⟨t.normalized, negated, p⟩])
            rw [List.map_append] at hterms
            exact hterms
        | operator connective =>
            cases connective with
            | not => exact ih (!negated) terms
            | and => exact ih negated terms
            | or =>
                have hlater := ih negated []
                rw [List.map_nil] at hlater
                simp only [Option.map_some, Recast.meaning, List.isEmpty_map, hlater]
                split
                · rfl
                · rw [Option.map_map, Option.map_map]
                  rfl
        | _ => rfl

@[simp] theorem description?_recast (tokens : List Token) :
    description? (tokens.map r.token) = (description? tokens).map r.description := by
  have halternatives := readAlternatives_recast r false [] (content tokens)
  rw [List.map_nil] at halternatives
  rw [description?, description?, content_recast, halternatives, Option.map_map, Option.map_map]
  congr 1
  funext alternatives
  simp [Description.ofAlternatives, Recast.description, List.filter_map, Function.comp_def]

@[simp] theorem target?_recast (tokens : List Token) :
    target? (tokens.map r.token) = (target? tokens).map r.target := by
  have hmatching : ∀ tokens : List Token, (description? (tokens.map r.token)).map .matching =
      ((description? tokens).map .matching).map r.target := by
    intro tokens
    rw [description?_recast, Option.map_map, Option.map_map]
    rfl
  rcases tokens with _ | ⟨t, _ | ⟨u, tokens⟩⟩
  · exact hmatching []
  · simp only [List.map_cons, List.map_nil, target?, Recast.objectName?_token]
    cases t.objectName? with
    | some name => rfl
    | none => exact hmatching [t]
  · exact hmatching (t :: u :: tokens)

/-! ### Checks -/

@[simp] theorem relationCheck?_recast (before : List Token) (found : Token) (after : List Token) :
    relationCheck? (before.map r.token) (r.token found) (after.map r.token) =
      (relationCheck? before found after).map r.action := by
  rw [relationCheck?.eq_def, relationCheck?.eq_def, stripTrailing_recast]
  rcases stripTrailing ["is", "are"] before with _ | ⟨l, _ | ⟨_, _⟩⟩
  · rfl
  · rcases after with _ | ⟨m, _ | ⟨_, _⟩⟩
    · rfl
    · simp only [List.map_cons, List.map_nil, Recast.objectName?_token, Recast.normalized_token,
        Recast.meaning?_token]
      rcases l.objectName? with _ | left
      · rfl
      · rcases m.objectName? with _ | right
        · rfl
        · rcases found.meaning? with _ | meaning
          · rfl
          · cases meaning <;> rfl
    · rfl
  · rfl

@[simp] theorem propertyCheck?_recast (tokens : List Token) :
    propertyCheck? (tokens.map r.token) = (propertyCheck? tokens).map r.action := by
  rcases tokens with _ | ⟨s, _ | ⟨t, rest⟩⟩
  · rfl
  · rfl
  · simp only [List.map_cons, propertyCheck?, Recast.is_token, Recast.objectName?_token,
      description?_recast]
    split
    · rw [Option.map_map, Option.map_map]
      rfl
    · rfl

theorem query_recast (tokens : List Token) :
    (description? (tokens.map r.token)).map (fun d => Action.query d none) =
      ((description? tokens).map fun d => Action.query d none).map r.action := by
  rw [description?_recast, Option.map_map, Option.map_map]
  rfl

@[simp] theorem stateCheck?_recast (tokens : List Token) :
    stateCheck? (tokens.map r.token) = (stateCheck? tokens).map r.action := by
  rw [stateCheck?, stateCheck?, stripLeading_recast, splitAtFirst?_recast r
    (r.hasType_token WordType.noConfusion WordType.noConfusion)]
  rcases splitAtFirst? (fun t => t.hasType .relation) (stripLeading ["is", "are"] tokens) with
    _ | ⟨before, found, after⟩
  · simp only [Option.map_none, propertyCheck?_recast]
    cases propertyCheck? tokens with
    | some action => rfl
    | none => exact query_recast r tokens
  · exact relationCheck?_recast r before found after

@[simp] theorem possessionCheck?_recast (t : Token) (rest : List Token) :
    possessionCheck? (r.token t) (rest.map r.token) = (possessionCheck? t rest).map r.action := by
  rw [possessionCheck?, possessionCheck?, owner?_recast, description?_recast]
  rcases owner? t with _ | owner
  · rfl
  · cases description? rest <;> rfl

@[simp] theorem check?_recast (tokens : List Token) :
    check? (tokens.map r.token) = (check? tokens).map r.action := by
  have hexistence : ∀ rest : List Token,
      (description? (rest.map r.token)).map Action.verifyExistence =
        ((description? rest).map Action.verifyExistence).map r.action := by
    intro rest
    rw [description?_recast, Option.map_map, Option.map_map]
    rfl
  have hother : (if (tokens.map r.token).getLast?.any fun t => t.isAnyOf ["exists", "exist"] then
      (description? (tokens.map r.token).dropLast).map Action.verifyExistence
      else stateCheck? (tokens.map r.token)) =
        (if tokens.getLast?.any fun t => t.isAnyOf ["exists", "exist"] then
          (description? tokens.dropLast).map Action.verifyExistence
        else stateCheck? tokens).map r.action := by
    rw [List.getLast?_map, Option.any_map, ← List.map_dropLast, hexistence, stateCheck?_recast]
    simp only [Recast.isAnyOf_token]
    split <;> rfl
  rw [check?.eq_def, check?.eq_def]
  dsimp only
  rcases tokens with _ | ⟨s, _ | ⟨t, rest⟩⟩
  · exact hother
  · exact hother
  · rw [hother]
    simp only [List.map_cons, Recast.isAnyOf_token, Recast.is_token, possessionCheck?_recast,
      hexistence]
    split
    · rfl
    · split <;> rfl

/-! ### Actions -/

@[simp] theorem creation?_recast (tokens : List Token) :
    creation? (tokens.map r.token) = (creation? tokens).map r.action := by
  rw [creation?, creation?, splitAtFirst?_recast r (fun t => r.is_token t "as")]
  rcases splitAtFirst? (fun t => t.is "as") tokens with _ | ⟨before, found, _ | ⟨t, _ | ⟨_, _⟩⟩⟩
  · simp only [Option.map_none, description?_recast, Option.map_map]
    rfl
  · rfl
  · simp only [Option.map_some, List.map_cons, List.map_nil, Recast.binding?_token,
      description?_recast]
    rcases t.binding? with _ | name
    · rfl
    · cases description? before <;> rfl
  · rfl

@[simp] theorem gift?_recast (tokens : List Token) :
    gift? (tokens.map r.token) = (gift? tokens).map r.action := by
  have hgift : ∀ (recipient : Owner) (before : List Token),
      (target? (before.map r.token)).map (fun target => Action.give target recipient) =
        ((target? before).map fun target => Action.give target recipient).map r.action := by
    intro recipient before
    rw [target?_recast, Option.map_map, Option.map_map]
    rfl
  rw [gift?, gift?, splitAtFirst?_recast r (fun t => r.is_token t "to")]
  rcases splitAtFirst? (fun t => t.is "to") tokens with _ | ⟨before, found, _ | ⟨t, _ | ⟨_, _⟩⟩⟩
  · exact hgift .user tokens
  · exact hgift .user before
  · simp only [Option.map_some, List.map_cons, List.map_nil, owner?_recast, hgift]
    cases owner? t <;> rfl
  · rfl

@[simp] theorem action?_recast (verb : Verb) (tokens : List Token) :
    action? verb (tokens.map r.token) = (action? verb tokens).map r.action := by
  cases verb with
  | create => exact creation?_recast r tokens
  | take =>
      simp only [action?, target?_recast, Option.map_map]
      rfl
  | give => exact gift?_recast r tokens
  | destroy =>
      simp only [action?, target?_recast, Option.map_map]
      rfl
  | put =>
      simp only [action?]
      rw [splitAtFirst?_recast r (fun t => r.isAnyOf_token t ["in", "into"])]
      rcases splitAtFirst? (fun t => t.isAnyOf ["in", "into"]) tokens with
        _ | ⟨before, found, after⟩
      · rfl
      · simp only [Option.map_some, Option.bind_eq_bind, Option.bind_some, target?_recast]
        rcases target? before with _ | target
        · rfl
        · cases target? after <;> rfl

/-! ### Inquiries -/

@[simp] theorem eventWindow?_recast (tokens : List Token) :
    eventWindow? (tokens.map r.token) = (eventWindow? tokens).map r.action := by
  rcases tokens with _ | ⟨order, _ | ⟨event, _ | ⟨number, _ | ⟨_, _⟩⟩⟩⟩
  case cons.cons.cons.nil =>
    rw [List.map_cons, List.map_cons, List.map_cons, List.map_nil, eventWindow?, eventWindow?,
      Recast.is_token, Recast.isNumber_token, temporalOrder?_recast, Recast.normalized_token]
    cases event.is "event" && number.isNumber with
    | false => rfl
    | true =>
        rcases temporalOrder? order with _ | side
        · rfl
        · cases Text.readUInt64? number.normalized <;> rfl
  all_goals rfl

@[simp] theorem knowledgeOf?_recast (tokens : List Token) :
    knowledgeOf? (tokens.map r.token) = (knowledgeOf? tokens).map r.action := by
  rcases tokens with _ | ⟨⟨surface, normalized, span, role⟩, _ | ⟨_, _⟩⟩
  · rfl
  · cases role <;> rfl
  · rfl

@[simp] theorem hypothesis?_recast (tokens : List Token) :
    hypothesis? (tokens.map r.token) = (hypothesis? tokens).map r.action := by
  rw [hypothesis?, hypothesis?, check?_recast, List.map_map, Option.map_map, Option.map_map]
  rfl

@[simp] theorem definition?_recast (tokens : List Token) :
    definition? (tokens.map r.token) = (definition? tokens).map r.action := by
  rcases tokens with _ | ⟨⟨surface, normalized, span, role⟩, _ | ⟨_, _⟩⟩
  · exact query_recast r []
  · cases role with
    | entry e =>
        rcases e with ⟨word, wordType, expression, meaning⟩
        cases meaning <;> rfl
    | _ => rfl
  · exact query_recast r _

@[simp] theorem openQuestion?_recast (tokens : List Token) :
    openQuestion? (tokens.map r.token) = (openQuestion? tokens).map r.action := by
  cases tokens with
  | nil => exact definition?_recast r []
  | cons t after =>
      have hstrip := stripLeading_recast r ["is", "are"] (t :: after)
      simp only [List.map_cons] at hstrip ⊢
      simp only [openQuestion?, marker?_recast, Recast.is_token, hypothesis?_recast,
        eventWindow?_recast, hstrip, definition?_recast]
      split
      · rfl
      · split <;> rfl

@[simp] theorem whatQuestion?_recast (tokens : List Token) :
    whatQuestion? (tokens.map r.token) = (whatQuestion? tokens).map r.action := by
  have hopen := openQuestion?_recast r tokens
  rcases tokens with _ | ⟨a, _ | ⟨b, _ | ⟨c, _ | ⟨d, subject⟩⟩⟩⟩
  · exact hopen
  · exact hopen
  · exact hopen
  · simp only [List.map_cons, List.map_nil] at hopen ⊢
    simp only [whatQuestion?, Recast.isAnyOf_token, owner?_recast, hopen]
    split
    · rw [Option.map_map]
      rfl
    · rfl
  · simp only [List.map_cons] at hopen ⊢
    simp only [whatQuestion?, Recast.isAnyOf_token, Recast.is_token, knowledgeOf?_recast, hopen]
    split <;> rfl

@[simp] theorem listing?_recast (tokens : List Token) :
    listing? (tokens.map r.token) = (listing? tokens).map r.action := by
  have hobjects := query_recast r (stripLeading ["all"] tokens)
  rw [← stripLeading_recast] at hobjects
  rcases tokens with _ | ⟨t, _ | ⟨kind, _ | ⟨third, rest⟩⟩⟩
  · exact hobjects
  · simp only [List.map_cons, List.map_nil] at hobjects ⊢
    simp only [listing?, Recast.is_token, hobjects]
    split
    · rfl
    · split <;> rfl
  · simp only [List.map_cons, List.map_nil] at hobjects ⊢
    have hwindow := eventWindow?_recast r [kind]
    simp only [List.map_cons, List.map_nil] at hwindow
    simp only [listing?, Recast.is_token, Recast.isStructural_token, Recast.normalized_token,
      hobjects, hwindow]
    split
    · rfl
    · split <;> rfl
  · simp only [List.map_cons] at hobjects ⊢
    have hwindow := eventWindow?_recast r (kind :: third :: rest)
    simp only [List.map_cons] at hwindow
    simp only [listing?, Recast.is_token, hobjects, hwindow]
    split <;> rfl

@[simp] theorem inquiry?_recast (inquiry : Inquiry) (tokens : List Token) :
    inquiry? inquiry (tokens.map r.token) = (inquiry? inquiry tokens).map r.action := by
  cases inquiry with
  | what => exact whatQuestion?_recast r tokens
  | list => exact listing?_recast r tokens
  | whereabouts | who =>
      simp only [inquiry?, stripLeading_recast, target?_recast, Option.map_map]
      rfl

/-! ### Commands and goals -/

@[simp] theorem simpleCommand?_recast (tokens : List Token) :
    simpleCommand? (tokens.map r.token) = (simpleCommand? tokens).map r.action := by
  cases tokens with
  | nil => rfl
  | cons t rest =>
      have hstate := stateCheck?_recast r (t :: rest)
      have hsocial : (r.token t).hasType .social = t.hasType .social :=
        r.hasType_token WordType.noConfusion WordType.noConfusion t
      simp only [List.map_cons] at hstate ⊢
      simp only [simpleCommand?, List.isEmpty_map, hsocial, Recast.normalized_token,
        Recast.meaning?_token, hstate]
      split
      · rfl
      · rcases t.meaning? with _ | meaning
        · rfl
        · cases meaning with
          | action verb => exact action?_recast r verb rest
          | inquiry kind => exact inquiry?_recast r kind rest
          | _ => rfl

@[simp] theorem conditional?_recast (negated : Bool) (tokens : List Token) :
    conditional? negated (tokens.map r.token) = (conditional? negated tokens).map r.action := by
  have hthen : ∀ t : Token,
      decide (marker? (r.token t) = some .then) = decide (marker? t = some .then) :=
    fun t => by rw [marker?_recast]
  rw [conditional?, conditional?, splitAtFirst?_recast r hthen]
  rcases splitAtFirst? (fun t => decide (marker? t = some .then)) tokens with
    _ | ⟨before, found, after⟩
  · rfl
  · have hmarked : ((after.map r.token).head?.any fun t => (marker? t).isSome) =
        after.head?.any fun t => (marker? t).isSome := by
      rw [List.head?_map, Option.any_map]
      simp only [marker?_recast]
    dsimp only [Option.map_some, Option.bind_eq_bind, Option.bind_some]
    rw [hmarked, check?_recast, simpleCommand?_recast]
    cases !after.head?.any fun t => (marker? t).isSome with
    | false => rfl
    | true =>
        rcases check? before with _ | check
        · rfl
        · rcases simpleCommand? after with _ | command
          · rfl
          · cases command <;> rfl

@[simp] theorem command?_recast (tokens : List Token) :
    command? (tokens.map r.token) = (command? tokens).map r.action := by
  have hmarker : (tokens.map r.token).head?.bind marker? = tokens.head?.bind marker? := by
    cases tokens with
    | nil => rfl
    | cons t tokens => exact marker?_recast r t
  rw [command?, command?, hmarker, ← List.map_tail, conditional?_recast, conditional?_recast,
    simpleCommand?_recast]
  split <;> rfl

theorem dropSubject_recast (tokens : List Token) :
    dropSubject (tokens.map r.token) = (dropSubject tokens).map r.token := by
  have howner : (tokens.map r.token).head?.bind owner? = tokens.head?.bind owner? := by
    cases tokens with
    | nil => rfl
    | cons t tokens => exact owner?_recast r t
  rw [dropSubject, dropSubject, howner, ← List.map_tail]
  split <;> rfl

theorem eq_verifyExistence_of_recast {check : Action} {d : Description}
    (hcheck : r.action check = .verifyExistence d) : ∃ former, check = .verifyExistence former := by
  cases check with
  | verifyExistence former => exact ⟨former, rfl⟩
  | _ => cases hcheck

theorem stateGoal?_recast (tokens : List Token) :
    stateGoal? (tokens.map r.token) =
      (stateGoal? tokens).map fun goal => (goal.1, r.action goal.2) := by
  rw [stateGoal?, stateGoal?, check?_recast, command?_recast]
  split
  next hrecast =>
    obtain ⟨check, hcheck, hrecast⟩ := Option.map_eq_some_iff.mp hrecast
    obtain ⟨former, rfl⟩ := eq_verifyExistence_of_recast r hrecast
    cases hrecast
    rw [hcheck]
    rfl
  next hother =>
    split
    next former hcheck =>
      exact absurd (congrArg (Option.map r.action) hcheck) (hother (r.description former))
    next =>
      cases command? tokens with
      | none => rfl
      | some action => cases action <;> rfl

theorem goal?_recast (tokens : List Token) :
    goal? (tokens.map r.token) = (goal? tokens).map fun goal => (goal.1, r.action goal.2) := by
  rw [goal?, goal?, dropSubject_recast, stateGoal?_recast]
  rcases dropSubject tokens with _ | ⟨verb, rest⟩
  · rfl
  · simp only [List.map_cons, Recast.isAnyOf_token, description?_recast]
    split
    · rw [Option.map_map, Option.map_map]
      rfl
    · rfl

end Apprentice.Utterance
