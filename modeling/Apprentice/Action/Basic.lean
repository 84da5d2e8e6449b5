import Apprentice.Description.Basic

/-!
# Actions

What the apprentice can be asked to do. An action says everything about itself that its execution
needs, and `Action.describe` puts it into words before it is carried out.
-/

namespace Apprentice

/-- How an action names its object. -/
inductive Target where
  | named (name : String)
  | matching (description : Description)
  deriving Repr

def Target.phrase : Target → String
  | named name => name
  | matching description => "the " ++ description.phrase

/-- What a question about the lexicon is about. -/
inductive KnowledgeSubject where
  | word (word : String)
  | wordType (wordType : WordType)
  | everything
  deriving DecidableEq, Repr

/-! ### Kinds -/

inductive ActionKind where
  | create
  | take
  | give
  | destroy
  | put
  | retrieveFromContainer
  | query
  | identify
  | locate
  | queryOwner
  | queryInventory
  | evaluateRelation
  | verifyProperty
  | outputQuestion
  | socialRespond
  | verifyUnderstanding
  | verifyPossession
  | verifyExistence
  | conditionalExecution
  | hypotheticalQuery
  | listEvents
  | queryEvents
  | knowledgeQuery
  | notUnderstood
  deriving DecidableEq, Repr

namespace ActionKind

def label : ActionKind → String
  | create => "CREATE"
  | take => "TAKE"
  | give => "GIVE"
  | destroy => "DESTROY"
  | put => "PUT"
  | retrieveFromContainer => "RETRIEVE_FROM_CONTAINER"
  | query => "QUERY"
  | identify => "IDENTIFY"
  | locate => "LOCATE"
  | queryOwner => "QUERY_OWNER"
  | queryInventory => "QUERY_INVENTORY"
  | evaluateRelation => "EVALUATE_RELATION"
  | verifyProperty => "VERIFY_PROPERTY"
  | outputQuestion => "OUTPUT_QUESTION"
  | socialRespond => "SOCIAL_RESPOND"
  | verifyUnderstanding => "VERIFY_UNDERSTANDING"
  | verifyPossession => "VERIFY_POSSESSION"
  | verifyExistence => "VERIFY_EXISTENCE"
  | conditionalExecution => "CONDITIONAL_EXECUTION"
  | hypotheticalQuery => "HYPOTHETICAL_QUERY"
  | listEvents => "LIST_EVENTS"
  | queryEvents => "QUERY_EVENTS"
  | knowledgeQuery => "KNOWLEDGE_QUERY"
  | notUnderstood => "NOT_UNDERSTOOD"

/-- Whether actions of a kind are meant to change the world. A conditional counts, because its
command may. -/
def mutates : ActionKind → Bool
  | create | take | give | destroy | put | retrieveFromContainer | conditionalExecution => true
  | _ => false

end ActionKind

/-! ### Actions -/

inductive Action where
  | create (description : Description) (name : Option String)
  | take (target : Target)
  | give (target : Target) (recipient : Owner)
  | destroy (target : Target)
  | put (target container : Target)
  /-- Take the named object out of the named container. -/
  | retrieveFromContainer (target container : String)
  /-- Look for objects. A question about a single word carries the text of its meaning. -/
  | query (description : Description) (definition : Option String)
  | identify (name : String)
  | locate (target : Target)
  | queryOwner (target : Target)
  | queryInventory (owner : Owner)
  | evaluateRelation (relation : String) (predicate : Predicate) (left right : String)
  | verifyProperty (name : String) (description : Description)
  | outputQuestion (word question : String)
  | socialRespond (word : String)
  | verifyUnderstanding (word : String)
  | verifyPossession (owner : Owner) (description : Description)
  | verifyExistence (description : Description)
  /-- Carry out the command if the check holds or, negated, if it does not. -/
  | conditionalExecution (check : Action) (negated : Bool) (command : Action)
  /-- Report whether the check holds. -/
  | hypotheticalQuery (check : Action) (supposition : String)
  | listEvents
  | queryEvents (order : TemporalOrder) (event : Nat)
  | knowledgeQuery (subject : KnowledgeSubject)
  | notUnderstood (input : String)
  deriving Repr

namespace Action

def kind : Action → ActionKind
  | create .. => .create
  | take .. => .take
  | give .. => .give
  | destroy .. => .destroy
  | put .. => .put
  | retrieveFromContainer .. => .retrieveFromContainer
  | query .. => .query
  | identify .. => .identify
  | locate .. => .locate
  | queryOwner .. => .queryOwner
  | queryInventory .. => .queryInventory
  | evaluateRelation .. => .evaluateRelation
  | verifyProperty .. => .verifyProperty
  | outputQuestion .. => .outputQuestion
  | socialRespond .. => .socialRespond
  | verifyUnderstanding .. => .verifyUnderstanding
  | verifyPossession .. => .verifyPossession
  | verifyExistence .. => .verifyExistence
  | conditionalExecution .. => .conditionalExecution
  | hypotheticalQuery .. => .hypotheticalQuery
  | listEvents => .listEvents
  | queryEvents .. => .queryEvents
  | knowledgeQuery .. => .knowledgeQuery
  | notUnderstood .. => .notUnderstood

def mutates (a : Action) : Bool :=
  a.kind.mutates

/-- What the apprentice says it will do. -/
def describe : Action → String
  | create description none => "I will create a " ++ description.phrase ++ "."
  | create description (some name) =>
    "I will create a " ++ description.phrase ++ " named " ++ name ++ "."
  | take target => "I will take " ++ target.phrase ++ "."
  | give target recipient =>
    let receiver :=
      match recipient with
      | .user => "you"
      | .agent => "myself"
      | .world => "the world"
    "I will give " ++ target.phrase ++ " to " ++ receiver ++ "."
  | destroy target => "I will destroy " ++ target.phrase ++ "."
  | put target container => "I will put " ++ target.phrase ++ " in " ++ container.phrase ++ "."
  | retrieveFromContainer target container =>
    "I will get " ++ target ++ " out of " ++ container ++ "."
  | query description (some _) =>
    "I will explain \"" ++ description.phrase ++ "\" and look for matching objects."
  | query description none => "I will look for " ++ description.phrase ++ " objects."
  | identify name => "I will describe " ++ name ++ "."
  | locate target => "I will find where " ++ target.phrase ++ " is."
  | queryOwner target => "I will check who has " ++ target.phrase ++ "."
  | queryInventory .agent => "I will list what I have."
  | queryInventory .user => "I will list what you have."
  | queryInventory .world => "I will list what nobody holds."
  | evaluateRelation relation _ left right =>
    "I will check whether " ++ left ++ " is " ++ relation ++ " " ++ right ++ "."
  | verifyProperty name description =>
    "I will check whether " ++ name ++ " is " ++ description.phrase ++ "."
  | outputQuestion word _ => "I will ask about \"" ++ word ++ "\"."
  | socialRespond word => "I will respond to \"" ++ word ++ "\"."
  | verifyUnderstanding word => "I will check whether I know \"" ++ word ++ "\"."
  | verifyPossession owner description =>
    let verb := if owner = .world then "has" else "have"
    "I will check whether " ++ owner.subject ++ " " ++ verb ++ " a " ++ description.phrase ++ "."
  | verifyExistence description => "I will check whether a " ++ description.phrase ++ " exists."
  | conditionalExecution check negated command =>
    let circumstance := if negated then "unless it holds" else "if it holds"
    check.describe ++ " Then, " ++ circumstance ++ ": " ++ command.describe
  | hypotheticalQuery _ supposition =>
    "I will work out whether \"" ++ supposition
      ++ "\" would be true, without changing anything."
  | listEvents => "I will list everything that has happened."
  | queryEvents order event =>
    "I will list what happened " ++ order.label ++ " event " ++ toString event ++ "."
  | knowledgeQuery (.word word) => "I will tell you what I know about \"" ++ word ++ "\"."
  | knowledgeQuery (.wordType wordType) =>
    "I will list the " ++ wordType.label ++ " words I know."
  | knowledgeQuery .everything => "I will list the words I know."
  | notUnderstood input =>
    "I know all the words in \"" ++ input ++ "\" but not what you want me to do."

/-- The check with the conditions that its words have now. Only actions that can be the condition of
a goal are touched. -/
def withCurrentMeanings (lexicon : Lexicon) : Action → Action
  | verifyPossession owner description =>
    verifyPossession owner (description.withCurrentMeanings lexicon)
  | verifyExistence description => verifyExistence (description.withCurrentMeanings lexicon)
  | verifyProperty name description =>
    verifyProperty name (description.withCurrentMeanings lexicon)
  | query description definition => query (description.withCurrentMeanings lexicon) definition
  | evaluateRelation relation predicate left right =>
    let current := (lexicon.get? relation).bind fun entry => entry.meaning.relation?
    evaluateRelation relation (current.getD predicate) left right
  | other => other

end Action

end Apprentice
