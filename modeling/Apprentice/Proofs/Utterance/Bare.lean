import Apprentice.Proofs.Lexicon.Reteaching
import Apprentice.Proofs.Utterance.Recast

/-!
# Reading without conditions

The conditions of nouns, properties and relations can be taken out of a lexicon before an utterance
is read with it. Readers do not notice this, so the statement of a goal is read as the same goal,
with the conditions taken out.
-/

namespace Apprentice

/-! ### Without conditions -/

def Term.bare (t : Term) : Term :=
  { t with predicate := .unspecified }

def Description.bare (d : Description) : Description :=
  ⟨d.alternatives.map fun terms => terms.map Term.bare⟩

def Target.bare : Target → Target
  | named name => named name
  | matching d => matching d.bare

def Action.bare : Action → Action
  | create d name => create d.bare name
  | take target => take target.bare
  | give target recipient => give target.bare recipient
  | destroy target => destroy target.bare
  | put target container => put target.bare container.bare
  | query d definition => query d.bare (definition.map fun _ => "")
  | locate target => locate target.bare
  | queryOwner target => queryOwner target.bare
  | evaluateRelation word _ left right => evaluateRelation word .unspecified left right
  | verifyProperty name d => verifyProperty name d.bare
  | verifyPossession owner d => verifyPossession owner d.bare
  | verifyExistence d => verifyExistence d.bare
  | conditionalExecution check negated command =>
    conditionalExecution check.bare negated command.bare
  | hypotheticalQuery check supposition => hypotheticalQuery check.bare supposition
  | other => other

namespace Utterance

def Role.bare : Role → Role
  | entry e => entry e.bare
  | other => other

def Token.bare (t : Token) : Token :=
  { t with role := t.role.bare }

/-- To take the conditions out is a change that readers do not notice. -/
def Recast.bare : Recast where
  wordType := WordType.bare
  explanation _ := ""
  condition _ := .unspecified
  type_iff hnoun hproperty former := by
    cases former with
    | property => exact ⟨fun h => absurd h.symm hnoun, fun h => absurd h.symm hproperty⟩
    | _ => exact Iff.rfl

namespace Recast

theorem meaning_bare : bare.meaning = Meaning.bare := by
  funext meaning
  cases meaning <;> rfl

theorem entry_bare : bare.entry = Entry.bare := by
  funext e
  rw [entry, meaning_bare]
  rfl

theorem token_bare : bare.token = Token.bare := by
  funext t
  rcases t with ⟨surface, normalized, span, role⟩
  cases role with
  | entry e =>
      rw [token, role, entry_bare]
      rfl
  | _ => rfl

theorem target_bare : bare.target = Target.bare := by
  funext target
  cases target <;> rfl

theorem action_bare : bare.action = Action.bare := by
  funext a
  induction a with
  | conditionalExecution check negated command hcheck hcommand =>
      rw [action, hcheck, hcommand]
      rfl
  | hypotheticalQuery check supposition hcheck =>
      rw [action, hcheck]
      rfl
  | take | give | destroy | put | locate | queryOwner =>
      rw [action]
      simp only [target_bare]
      rfl
  | _ => rfl

end Recast

theorem Token.is_bare (t : Token) (word : String) : t.bare.is word = t.is word :=
  Recast.token_bare ▸ Recast.bare.is_token t word

theorem content_bare (tokens : List Token) :
    content (tokens.map Token.bare) = (content tokens).map Token.bare :=
  Recast.token_bare ▸ content_recast .bare tokens

theorem unknownWords_bare (tokens : List Token) :
    unknownWords (tokens.map Token.bare) = unknownWords tokens :=
  Recast.token_bare ▸ unknownWords_recast .bare tokens

theorem goal?_bare (tokens : List Token) :
    goal? (tokens.map Token.bare) = (goal? tokens).map fun goal => (goal.1, goal.2.bare) :=
  Recast.token_bare ▸ Recast.action_bare ▸ goal?_recast .bare tokens

/-! ### Texts -/

def GoalRequest.bare (request : GoalRequest) : GoalRequest :=
  { request with condition := request.condition.bare }

def GoalReading.bare : GoalReading → GoalReading
  | goal request => goal request.bare
  | unknown words input => unknown words input

variable {lexicon : Lexicon} {world : World}

/-- The role of a word depends on the token before it only as a word of the grammar. -/
theorem roleOf_bare (previous : Option Token) (surface normalized : String) :
    roleOf lexicon.bare world (previous.map Token.bare) surface normalized =
      (roleOf lexicon world previous surface normalized).bare := by
  rw [roleOf, roleOf]
  simp only [Option.any_map, Token.is_bare, Lexicon.get?_bare]
  split
  · rfl
  · split
    · rfl
    · cases lexicon.get? normalized with
      | some e => rfl
      | none =>
          simp only [Option.map_none]
          split
          · split <;> rfl
          · split
            · rfl
            · split <;> rfl

theorem tokensAfter_bare (previous : Option Token) (words : List SpannedWord) :
    tokensAfter lexicon.bare world (previous.map Token.bare) words =
      (tokensAfter lexicon world previous words).map Token.bare := by
  induction words generalizing previous with
  | nil => rfl
  | cons w words ih =>
      have hrest := ih (some ⟨w.surface, normalizeWord w.surface, w.span,
        roleOf lexicon world previous w.surface (normalizeWord w.surface)⟩)
      rw [tokensAfter, tokensAfter, List.map_cons, ← hrest, roleOf_bare]
      rfl

theorem tokenize_bare (text : String) (lexicon : Lexicon) (world : World) :
    tokenize text lexicon.bare world = (tokenize text lexicon world).map Token.bare :=
  tokensAfter_bare none (splitWords text)

/-- With the conditions taken out of the lexicon, the statement of a goal is read as the same goal
with the conditions taken out. -/
theorem readGoal_bare (text : String) (lexicon : Lexicon) (world : World) :
    readGoal text lexicon.bare world = (readGoal text lexicon world).map GoalReading.bare := by
  rw [readGoal, readGoal]
  simp only [tokenize_bare, unknownWords_bare, content_bare, goal?_bare]
  split
  · cases goal? (content (tokenize text lexicon world)) <;> rfl
  · rfl

end Utterance

end Apprentice
