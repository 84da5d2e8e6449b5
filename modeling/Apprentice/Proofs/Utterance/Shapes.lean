import Apprentice.Utterance.Goal

/-!
# The shapes of what is read

The readers of commands call one another in many orders, and a taught word can play any role. What
they can give all the same has few shapes: a check is one of five questions about the state of the
world, a simple command holds at most a check, and a conditional holds a check and a simple command
that holds none. Each reader is opened once, to see that it keeps to these shapes and puts into them
only what its tokens give.
-/

namespace Apprentice

/-- What an action may be made of. -/
structure Material where
  term : Term → Prop
  relation : String → Predicate → Prop
  /-- Names of objects. -/
  name : String → Prop
  /-- A word that is asked about, with the text of its meaning. -/
  definition : Term → String → Prop

def Material.any : Material :=
  ⟨fun _ => True, fun _ _ => True, fun _ => True, fun _ _ => True⟩

variable {m : Material} {a : Action} {d : Description} {kind : GoalKind} {condition : Action}

def Description.MadeOf (m : Material) (d : Description) : Prop :=
  ∀ terms ∈ d.alternatives, ∀ term ∈ terms, m.term term

def Target.MadeOf (m : Material) : Target → Prop
  | named name => m.name name
  | matching d => d.MadeOf m

/-! ### Shapes -/

namespace Action

/-- The questions that can stand behind `if`. -/
inductive IsCheck (m : Material) : Action → Prop where
  | possession {owner : Owner} {d : Description} (hd : d.MadeOf m) :
      IsCheck m (verifyPossession owner d)
  | existence {d : Description} (hd : d.MadeOf m) : IsCheck m (verifyExistence d)
  | relation {word left right : String} {p : Predicate} (hp : m.relation word p)
      (hleft : m.name left) (hright : m.name right) : IsCheck m (evaluateRelation word p left right)
  | property {name : String} {d : Description} (hname : m.name name) (hd : d.MadeOf m) :
      IsCheck m (verifyProperty name d)
  | query {d : Description} (hd : d.MadeOf m) : IsCheck m (query d none)

/-- What is asked for without a condition. -/
inductive IsSimple (m : Material) : Action → Prop where
  | check {a : Action} (ha : a.IsCheck m) : IsSimple m a
  | definition {t : Term} {text : String} (ht : m.definition t text) :
      IsSimple m (query (.conjunction [t]) (some text))
  | create {d : Description} {name : Option String} (hd : d.MadeOf m) : IsSimple m (create d name)
  | take {target : Target} (htarget : target.MadeOf m) : IsSimple m (take target)
  | give {target : Target} {recipient : Owner} (htarget : target.MadeOf m) :
      IsSimple m (give target recipient)
  | destroy {target : Target} (htarget : target.MadeOf m) : IsSimple m (destroy target)
  | put {target container : Target} (htarget : target.MadeOf m) (hcontainer : container.MadeOf m) :
      IsSimple m (put target container)
  | identify {name : String} (hname : m.name name) : IsSimple m (identify name)
  | locate {target : Target} (htarget : target.MadeOf m) : IsSimple m (locate target)
  | queryOwner {target : Target} (htarget : target.MadeOf m) : IsSimple m (queryOwner target)
  | queryInventory {owner : Owner} : IsSimple m (queryInventory owner)
  | socialRespond {word : String} : IsSimple m (socialRespond word)
  | listEvents : IsSimple m listEvents
  | queryEvents {order : TemporalOrder} {event : Nat} : IsSimple m (queryEvents order event)
  | knowledgeQuery {subject : KnowledgeSubject} : IsSimple m (knowledgeQuery subject)
  | hypotheticalQuery {check : Action} {supposition : String} (hcheck : check.IsCheck m) :
      IsSimple m (hypotheticalQuery check supposition)

inductive IsCommand (m : Material) : Action → Prop where
  | simple {a : Action} (ha : a.IsSimple m) : IsCommand m a
  | conditional {check command : Action} {negated : Bool} (hcheck : check.IsCheck m)
      (hcommand : command.IsSimple m) (hkind : command.kind ≠ .hypotheticalQuery) :
      IsCommand m (conditionalExecution check negated command)

/-- The conditions of goals, each for the kind of goal that it belongs to. -/
inductive IsCondition (m : Material) : GoalKind → Action → Prop where
  | possession {d : Description} (hd : d.MadeOf m) :
      IsCondition m .achievePossession (verifyPossession .agent d)
  | existence {d : Description} (hd : d.MadeOf m) :
      IsCondition m .achieveExistence (verifyExistence d)
  | state {a : Action} (ha : a.IsSimple m)
      (hkind : a.kind ∈ [.evaluateRelation, .query, .verifyProperty]) :
      IsCondition m .verifyState a

end Action

/-! ### Parts of token lists -/

namespace Utterance

variable {tokens before after rest : List Token} {t found : Token}

/-- A token gives what its role says. A taught word stands for itself as it was typed, and in a
definition as it is kept. -/
structure Token.Gives (m : Material) (t : Token) : Prop where
  term : ∀ p, t.meaning? = some (.predicate p) → ∀ negated, m.term ⟨t.normalized, negated, p⟩
  relation : ∀ p, t.meaning? = some (.relation p) → m.relation t.normalized p
  name : ∀ name, t.objectName? = some name → m.name name
  definition : ∀ e, t.entry? = some e → ∀ p, e.meaning = .predicate p →
    m.definition ⟨e.word, false, p⟩ e.expression

theorem Token.gives_any (t : Token) : t.Gives .any :=
  ⟨fun _ _ _ => trivial, fun _ _ => trivial, fun _ _ => trivial, fun _ _ _ _ => trivial⟩

theorem stripLeading_sublist (words : List String) (tokens : List Token) :
    (stripLeading words tokens).Sublist tokens := by
  cases tokens with
  | nil => exact .slnil
  | cons t tokens =>
      rw [stripLeading]
      split
      · exact List.sublist_cons_self t tokens
      · exact List.Sublist.refl _

theorem stripTrailing_sublist (words : List String) (tokens : List Token) :
    (stripTrailing words tokens).Sublist tokens := by
  rw [stripTrailing]
  split
  · exact List.dropLast_sublist tokens
  · exact List.Sublist.refl _

theorem splitAtFirst?_eq_some {p : Token → Bool}
    (hsplit : splitAtFirst? p tokens = some (before, found, after)) :
    tokens = before ++ found :: after ∧ p found = true := by
  induction tokens generalizing before with
  | nil => cases hsplit
  | cons t tokens ih =>
      rw [splitAtFirst?] at hsplit
      split at hsplit
      next hp =>
        cases hsplit
        exact ⟨rfl, hp⟩
      next =>
        obtain ⟨⟨rest, _, _⟩, hrest, heq⟩ := Option.map_eq_some_iff.mp hsplit
        cases heq
        obtain ⟨rfl, hp⟩ := ih hrest
        exact ⟨rfl, hp⟩

theorem forall_splitAtFirst? {p : Token → Bool} {P : Token → Prop}
    (hsplit : splitAtFirst? p tokens = some (before, found, after)) (hall : ∀ t ∈ tokens, P t) :
    (∀ t ∈ before, P t) ∧ P found ∧ ∀ t ∈ after, P t := by
  rw [(splitAtFirst?_eq_some hsplit).1] at hall
  obtain ⟨hbefore, hrest⟩ := List.forall_mem_append.mp hall
  exact ⟨hbefore, List.forall_mem_cons.mp hrest⟩

/-! ### Descriptions and targets -/

theorem readAlternatives_madeOf {negated : Bool} {terms : List Term}
    {alternatives : List (List Term)} (hterms : ∀ term ∈ terms, m.term term)
    (hgive : ∀ t ∈ tokens, t.Gives m)
    (hread : readAlternatives negated terms tokens = some alternatives) :
    ∀ conjunction ∈ alternatives, ∀ term ∈ conjunction, m.term term := by
  fun_induction readAlternatives negated terms tokens generalizing alternatives with
  | case1 => cases hread
  | case2 =>
      cases hread
      exact List.forall_mem_singleton.mpr hterms
  | case3 negated _ t _ p hp ih =>
      obtain ⟨ht, hgive⟩ := List.forall_mem_cons.mp hgive
      refine ih (List.forall_mem_append.mpr ⟨hterms, ?_⟩) hgive hread
      exact List.forall_mem_singleton.mpr (ht.term p hp negated)
  | case4 _ _ _ _ _ ih => exact ih hterms (List.forall_mem_cons.mp hgive).2 hread
  | case5 _ _ _ _ _ ih => exact ih hterms (List.forall_mem_cons.mp hgive).2 hread
  | case6 => cases hread
  | case7 _ _ _ _ _ _ ih =>
      obtain ⟨later, hlater, rfl⟩ := Option.map_eq_some_iff.mp hread
      exact List.forall_mem_cons.mpr
        ⟨hterms, ih (List.forall_mem_nil _) (List.forall_mem_cons.mp hgive).2 hlater⟩
  | case8 => cases hread

theorem description?_madeOf (hgive : ∀ t ∈ tokens, t.Gives m)
    (hread : description? tokens = some d) : d.MadeOf m := by
  obtain ⟨alternatives, halternatives, rfl⟩ := Option.map_eq_some_iff.mp hread
  have hmade := readAlternatives_madeOf (List.forall_mem_nil _)
    (fun t ht => hgive t (List.mem_filter.mp ht).1) halternatives
  exact fun terms hterms => hmade terms (List.mem_filter.mp hterms).1

theorem target?_madeOf {target : Target} (hgive : ∀ t ∈ tokens, t.Gives m)
    (hread : target? tokens = some target) : target.MadeOf m := by
  rw [target?.eq_def] at hread
  split at hread
  next t =>
    split at hread
    next name hname =>
      cases hread
      exact (hgive t List.mem_cons_self).name name hname
    next =>
      obtain ⟨d, hd, rfl⟩ := Option.map_eq_some_iff.mp hread
      exact description?_madeOf hgive hd
  next =>
    obtain ⟨d, hd, rfl⟩ := Option.map_eq_some_iff.mp hread
    exact description?_madeOf hgive hd

/-! ### Checks -/

theorem relationCheck?_isCheck (hbefore : ∀ t ∈ before, t.Gives m) (hfound : found.Gives m)
    (hafter : ∀ t ∈ after, t.Gives m) (hread : relationCheck? before found after = some a) :
    a.IsCheck m := by
  rw [relationCheck?.eq_def] at hread
  split at hread
  next l r hstrip =>
    obtain ⟨left, hleft, hread⟩ := Option.bind_eq_some_iff.mp hread
    obtain ⟨right, hright, hread⟩ := Option.bind_eq_some_iff.mp hread
    obtain ⟨p, hp, hread⟩ := Option.bind_eq_some_iff.mp hread
    cases hread
    have hl : l ∈ before :=
      (stripTrailing_sublist ["is", "are"] before).subset (hstrip ▸ List.mem_cons_self)
    have hrelation : found.meaning? = some (.relation p) := by
      obtain ⟨meaning, hmeaning, hp⟩ := Option.bind_eq_some_iff.mp hp
      cases meaning with
      | relation q => rw [hmeaning, Option.some.inj hp]
      | _ => cases hp
    exact .relation (hfound.relation p hrelation) ((hbefore l hl).name left hleft)
      ((hafter r List.mem_cons_self).name right hright)
  next => cases hread

theorem propertyCheck?_isCheck (hgive : ∀ t ∈ tokens, t.Gives m)
    (hread : propertyCheck? tokens = some a) : a.IsCheck m := by
  rw [propertyCheck?.eq_def] at hread
  split at hread
  next s t rest =>
    obtain ⟨hs, hgive⟩ := List.forall_mem_cons.mp hgive
    obtain ⟨ht, hrest⟩ := List.forall_mem_cons.mp hgive
    dsimp only at hread
    split at hread
    next name hname =>
      obtain ⟨d, hd, rfl⟩ := Option.map_eq_some_iff.mp hread
      refine .property ?_ (description?_madeOf hrest hd)
      split at hname
      next => exact ht.name name hname
      next =>
        split at hname
        next => exact hs.name name hname
        next => cases hname
    next => cases hread
  next => cases hread

theorem stateCheck?_isCheck (hgive : ∀ t ∈ tokens, t.Gives m)
    (hread : stateCheck? tokens = some a) : a.IsCheck m := by
  rw [stateCheck?] at hread
  split at hread
  next before found after hsplit =>
    have hstripped : ∀ t ∈ stripLeading ["is", "are"] tokens, t.Gives m :=
      fun t ht => hgive t ((stripLeading_sublist _ tokens).subset ht)
    obtain ⟨hbefore, hfound, hafter⟩ := forall_splitAtFirst? hsplit hstripped
    exact relationCheck?_isCheck hbefore hfound hafter hread
  next =>
    rw [Option.orElse_eq_orElse, Option.orElse_eq_or] at hread
    rcases Option.or_eq_some_iff.mp hread with hproperty | ⟨-, hquery⟩
    · exact propertyCheck?_isCheck hgive hproperty
    · obtain ⟨d, hd, rfl⟩ := Option.map_eq_some_iff.mp hquery
      exact .query (description?_madeOf hgive hd)

theorem possessionCheck?_isCheck (hrest : ∀ t ∈ rest, t.Gives m)
    (hread : possessionCheck? t rest = some a) : a.IsCheck m := by
  obtain ⟨owner, -, hread⟩ := Option.bind_eq_some_iff.mp hread
  obtain ⟨d, hd, hread⟩ := Option.bind_eq_some_iff.mp hread
  cases hread
  exact .possession (description?_madeOf hrest hd)

theorem check?_isCheck (hgive : ∀ t ∈ tokens, t.Gives m) (hread : check? tokens = some a) :
    a.IsCheck m := by
  have hexistence : ∀ {rest : List Token}, (∀ t ∈ rest, t.Gives m) →
      (description? rest).map .verifyExistence = some a → a.IsCheck m := by
    intro rest hrest hread
    obtain ⟨d, hd, rfl⟩ := Option.map_eq_some_iff.mp hread
    exact .existence (description?_madeOf hrest hd)
  have hother : (if tokens.getLast?.any fun t => t.isAnyOf ["exists", "exist"] then
      (description? tokens.dropLast).map .verifyExistence else stateCheck? tokens) = some a →
        a.IsCheck m := by
    intro hread
    split at hread
    · exact hexistence (fun t ht => hgive t ((List.dropLast_sublist tokens).subset ht)) hread
    · exact stateCheck?_isCheck hgive hread
  rw [check?.eq_def] at hread
  dsimp only at hread
  split at hread
  next s t rest =>
    have hrest : ∀ t ∈ rest, t.Gives m :=
      (List.forall_mem_cons.mp (List.forall_mem_cons.mp hgive).2).2
    split at hread
    · exact possessionCheck?_isCheck hrest hread
    · split at hread
      · exact hexistence hrest hread
      · exact hother hread
  next => exact hother hread

/-! ### Actions -/

theorem creation?_isSimple (hgive : ∀ t ∈ tokens, t.Gives m) (hread : creation? tokens = some a) :
    a.IsSimple m := by
  rw [creation?] at hread
  split at hread
  next before _ t hsplit =>
    obtain ⟨name, -, hread⟩ := Option.bind_eq_some_iff.mp hread
    obtain ⟨d, hd, hread⟩ := Option.bind_eq_some_iff.mp hread
    cases hread
    exact .create (description?_madeOf (forall_splitAtFirst? hsplit hgive).1 hd)
  next => cases hread
  next =>
    obtain ⟨d, hd, rfl⟩ := Option.map_eq_some_iff.mp hread
    exact .create (description?_madeOf hgive hd)

theorem gift?_isSimple (hgive : ∀ t ∈ tokens, t.Gives m) (hread : gift? tokens = some a) :
    a.IsSimple m := by
  have hgift : ∀ {recipient : Owner} {before : List Token}, (∀ t ∈ before, t.Gives m) →
      (target? before).map (fun target => .give target recipient) = some a → a.IsSimple m := by
    intro recipient before hbefore hread
    obtain ⟨target, htarget, rfl⟩ := Option.map_eq_some_iff.mp hread
    exact .give (target?_madeOf hbefore htarget)
  rw [gift?] at hread
  dsimp only at hread
  split at hread
  next => exact hgift hgive hread
  next hsplit => exact hgift (forall_splitAtFirst? hsplit hgive).1 hread
  next hsplit =>
    obtain ⟨owner, -, hread⟩ := Option.bind_eq_some_iff.mp hread
    exact hgift (forall_splitAtFirst? hsplit hgive).1 hread
  next => cases hread

theorem action?_isSimple {verb : Verb} (hgive : ∀ t ∈ tokens, t.Gives m)
    (hread : action? verb tokens = some a) : a.IsSimple m := by
  cases verb with
  | create => exact creation?_isSimple hgive hread
  | take =>
      obtain ⟨target, htarget, rfl⟩ := Option.map_eq_some_iff.mp hread
      exact .take (target?_madeOf hgive htarget)
  | give => exact gift?_isSimple hgive hread
  | destroy =>
      obtain ⟨target, htarget, rfl⟩ := Option.map_eq_some_iff.mp hread
      exact .destroy (target?_madeOf hgive htarget)
  | put =>
      obtain ⟨⟨before, _, after⟩, hsplit, hread⟩ := Option.bind_eq_some_iff.mp hread
      obtain ⟨target, htarget, hread⟩ := Option.bind_eq_some_iff.mp hread
      obtain ⟨container, hcontainer, hread⟩ := Option.bind_eq_some_iff.mp hread
      cases hread
      obtain ⟨hbefore, -, hafter⟩ := forall_splitAtFirst? hsplit hgive
      exact .put (target?_madeOf hbefore htarget) (target?_madeOf hafter hcontainer)

/-! ### Inquiries -/

theorem eventWindow?_isSimple (hread : eventWindow? tokens = some a) : a.IsSimple m := by
  rw [eventWindow?.eq_def] at hread
  split at hread
  next =>
    obtain ⟨_, -, hread⟩ := Option.bind_eq_some_iff.mp hread
    obtain ⟨order, -, hread⟩ := Option.bind_eq_some_iff.mp hread
    obtain ⟨event, -, hread⟩ := Option.bind_eq_some_iff.mp hread
    cases hread
    exact .queryEvents
  next => cases hread

theorem Token.objectName?_of_role (hrole : t.role = .objectName) :
    t.objectName? = some t.surface := by
  rw [objectName?, hrole]

theorem Token.entry?_of_role {e : Entry} (hrole : t.role = .entry e) : t.entry? = some e := by
  unfold entry?
  rw [hrole]

theorem knowledgeOf?_isSimple (hgive : ∀ t ∈ tokens, t.Gives m)
    (hread : knowledgeOf? tokens = some a) : a.IsSimple m := by
  rw [knowledgeOf?.eq_def] at hread
  split at hread
  next t =>
    split at hread
    next hrole =>
      cases hread
      exact .identify ((hgive t List.mem_cons_self).name _ (Token.objectName?_of_role hrole))
    next =>
      cases hread
      exact .knowledgeQuery
    next => cases hread
  next => cases hread

theorem hypothesis?_isSimple (hgive : ∀ t ∈ tokens, t.Gives m)
    (hread : hypothesis? tokens = some a) : a.IsSimple m := by
  obtain ⟨check, hcheck, rfl⟩ := Option.map_eq_some_iff.mp hread
  exact .hypotheticalQuery (check?_isCheck hgive hcheck)

theorem description?_isSimple (hgive : ∀ t ∈ tokens, t.Gives m)
    (hread : (description? tokens).map (fun d => Action.query d none) = some a) : a.IsSimple m := by
  obtain ⟨d, hd, rfl⟩ := Option.map_eq_some_iff.mp hread
  exact .check (.query (description?_madeOf hgive hd))

theorem definition?_isSimple (hgive : ∀ t ∈ tokens, t.Gives m)
    (hread : definition? tokens = some a) : a.IsSimple m := by
  rw [definition?.eq_def] at hread
  split at hread
  next t =>
    split at hread
    next hrole =>
      cases hread
      exact .identify ((hgive t List.mem_cons_self).name _ (Token.objectName?_of_role hrole))
    next e hrole =>
      split at hread
      next p hp =>
        cases hread
        have hmeaning : e.meaning = .predicate p := by
          cases hm : e.meaning with
          | predicate q =>
              rw [hm] at hp
              rw [Option.some.inj hp]
          | _ =>
              rw [hm] at hp
              cases hp
        exact .definition
          ((hgive t List.mem_cons_self).definition e (Token.entry?_of_role hrole) p hmeaning)
      next =>
        cases hread
        exact .knowledgeQuery
    next => cases hread
  next => exact description?_isSimple hgive hread

theorem openQuestion?_isSimple (hgive : ∀ t ∈ tokens, t.Gives m)
    (hread : openQuestion? tokens = some a) : a.IsSimple m := by
  rw [openQuestion?.eq_def] at hread
  split at hread
  next t after =>
    split at hread
    · exact hypothesis?_isSimple (List.forall_mem_cons.mp hgive).2 hread
    · split at hread
      · exact eventWindow?_isSimple hread
      · refine definition?_isSimple (fun u hu => ?_) hread
        exact hgive u ((stripLeading_sublist _ (t :: after)).subset hu)
  next => exact definition?_isSimple (List.forall_mem_nil _) hread

theorem whatQuestion?_isSimple (hgive : ∀ t ∈ tokens, t.Gives m)
    (hread : whatQuestion? tokens = some a) : a.IsSimple m := by
  rw [whatQuestion?.eq_def] at hread
  split at hread
  next =>
    split at hread
    · obtain ⟨owner, -, rfl⟩ := Option.map_eq_some_iff.mp hread
      exact .queryInventory
    · exact openQuestion?_isSimple hgive hread
  next =>
    split at hread
    · exact knowledgeOf?_isSimple (fun t ht => hgive t (by simp [ht])) hread
    · exact openQuestion?_isSimple hgive hread
  next => exact openQuestion?_isSimple hgive hread

theorem listing?_isSimple (hgive : ∀ t ∈ tokens, t.Gives m) (hread : listing? tokens = some a) :
    a.IsSimple m := by
  have hobjects : (description? (stripLeading ["all"] tokens)).map (fun d => Action.query d none) =
      some a → a.IsSimple m :=
    description?_isSimple fun t ht => hgive t ((stripLeading_sublist _ tokens).subset ht)
  rw [listing?.eq_def] at hread
  dsimp only at hread
  split at hread
  next => exact hobjects hread
  next =>
    split at hread
    next =>
      cases hread
      exact .listEvents
    next =>
      split at hread
      next =>
        cases hread
        exact .knowledgeQuery
      next => exact hobjects hread
  next =>
    split at hread
    next => exact eventWindow?_isSimple hread
    next =>
      split at hread
      next =>
        split at hread
        next =>
          cases hread
          exact .knowledgeQuery
        next => exact hobjects hread
      next => exact hobjects hread

theorem inquiry?_isSimple {inquiry : Inquiry} (hgive : ∀ t ∈ tokens, t.Gives m)
    (hread : inquiry? inquiry tokens = some a) : a.IsSimple m := by
  cases inquiry with
  | what => exact whatQuestion?_isSimple hgive hread
  | whereabouts =>
      obtain ⟨target, htarget, rfl⟩ := Option.map_eq_some_iff.mp hread
      refine .locate (target?_madeOf (fun t ht => ?_) htarget)
      exact hgive t ((stripLeading_sublist _ tokens).subset ht)
  | who =>
      obtain ⟨target, htarget, rfl⟩ := Option.map_eq_some_iff.mp hread
      refine .queryOwner (target?_madeOf (fun t ht => ?_) htarget)
      exact hgive t ((stripLeading_sublist _ tokens).subset ht)
  | list => exact listing?_isSimple hgive hread

/-! ### Commands and goals -/

theorem simpleCommand?_isSimple (hgive : ∀ t ∈ tokens, t.Gives m)
    (hread : simpleCommand? tokens = some a) : a.IsSimple m := by
  rw [simpleCommand?.eq_def] at hread
  split at hread
  next => cases hread
  next t rest =>
    have hrest : ∀ t ∈ rest, t.Gives m := (List.forall_mem_cons.mp hgive).2
    split at hread
    next =>
      cases hread
      exact .socialRespond
    next =>
      split at hread
      next => exact action?_isSimple hrest hread
      next => exact inquiry?_isSimple hrest hread
      next => exact .check (stateCheck?_isCheck hgive hread)

theorem conditional?_isCommand {negated : Bool} (hgive : ∀ t ∈ tokens, t.Gives m)
    (hread : conditional? negated tokens = some a) : a.IsCommand m := by
  rw [conditional?] at hread
  obtain ⟨⟨before, _, after⟩, hsplit, hread⟩ := Option.bind_eq_some_iff.mp hread
  obtain ⟨hbefore, -, hafter⟩ := forall_splitAtFirst? hsplit hgive
  obtain ⟨_, -, hread⟩ := Option.bind_eq_some_iff.mp hread
  obtain ⟨check, hcheck, hread⟩ := Option.bind_eq_some_iff.mp hread
  obtain ⟨command, hcommand, hread⟩ := Option.bind_eq_some_iff.mp hread
  have hcheck := check?_isCheck hbefore hcheck
  have hcommand := simpleCommand?_isSimple hafter hcommand
  split at hread
  next => cases hread
  next hplain =>
    cases hread
    refine .conditional hcheck hcommand fun hkind => ?_
    cases command with
    | hypotheticalQuery check supposition => exact hplain check supposition rfl
    | _ => cases hkind

theorem command?_isCommand (hgive : ∀ t ∈ tokens, t.Gives m) (hread : command? tokens = some a) :
    a.IsCommand m := by
  have htail : ∀ t ∈ tokens.tail, t.Gives m := fun t ht => hgive t (List.mem_of_mem_tail ht)
  rw [command?] at hread
  split at hread
  next => exact conditional?_isCommand htail hread
  next => exact conditional?_isCommand htail hread
  next => exact .simple (simpleCommand?_isSimple hgive hread)

theorem stateGoal?_isCondition (hgive : ∀ t ∈ tokens, t.Gives m)
    (hread : stateGoal? tokens = some (kind, condition)) : condition.IsCondition m kind := by
  rw [stateGoal?] at hread
  split at hread
  next d hcheck =>
    cases hread
    cases check?_isCheck hgive hcheck with
    | existence hd => exact .existence hd
  next =>
    obtain ⟨action, haction, hread⟩ := Option.bind_eq_some_iff.mp hread
    have hstate : action.kind ∈ [.evaluateRelation, .query, .verifyProperty] →
        action.IsCondition m .verifyState := by
      intro hkind
      cases command?_isCommand hgive haction with
      | simple ha => exact .state ha hkind
      | conditional => simp [Action.kind] at hkind
    split at hread
    case h_4 => cases hread
    all_goals
      next hkind =>
        cases hread
        exact hstate (by simp [hkind])

theorem goal?_isCondition (hgive : ∀ t ∈ tokens, t.Gives m)
    (hread : goal? tokens = some (kind, condition)) : condition.IsCondition m kind := by
  have hdropped : ∀ t ∈ dropSubject tokens, t.Gives m := by
    intro t ht
    rw [dropSubject] at ht
    split at ht
    · exact hgive t (List.mem_of_mem_tail ht)
    · exact hgive t ht
  rw [goal?] at hread
  split at hread
  next verb rest heq =>
    rw [heq] at hdropped
    split at hread
    next =>
      obtain ⟨d, hd, hcondition⟩ := Option.map_eq_some_iff.mp hread
      cases hcondition
      exact .possession (description?_madeOf (List.forall_mem_cons.mp hdropped).2 hd)
    next => exact stateGoal?_isCondition hgive hread
  next => exact stateGoal?_isCondition hgive hread

/-! ### Texts -/

variable {text : String} {lexicon : Lexicon} {world : World}

theorem command?_of_read (hread : read text lexicon world = .ok (.act a)) :
    a = (command? (content (tokenize text lexicon world))).getD
      (.notUnderstood (Text.trimmed text)) := by
  rw [read] at hread
  split at hread
  next request _ => cases request <;> cases hread
  next =>
    dsimp only at hread
    split at hread
    next =>
      cases hread
      rfl
    next => cases hread

theorem isCommand_of_read (hgive : ∀ t ∈ tokenize text lexicon world, t.Gives m)
    (hread : read text lexicon world = .ok (.act a)) :
    a.IsCommand m ∨ a = .notUnderstood (Text.trimmed text) := by
  have ha := command?_of_read hread
  cases hcommand : command? (content (tokenize text lexicon world)) with
  | none =>
      rw [hcommand] at ha
      exact .inr ha
  | some command =>
      rw [hcommand] at ha
      subst ha
      exact .inl (command?_isCommand (fun t ht => hgive t (List.mem_filter.mp ht).1) hcommand)

theorem goal?_of_readGoal {request : GoalRequest}
    (hread : readGoal text lexicon world = .ok (.goal request)) :
    goal? (content (tokenize text lexicon world)) = some (request.kind, request.condition) := by
  rw [readGoal] at hread
  split at hread
  next =>
    split at hread
    next hgoal =>
      cases hread
      exact hgoal
    next => cases hread
  next => cases hread

theorem readGoal_isCondition {request : GoalRequest}
    (hgive : ∀ t ∈ tokenize text lexicon world, t.Gives m)
    (hread : readGoal text lexicon world = .ok (.goal request)) :
    request.condition.IsCondition m request.kind :=
  goal?_isCondition (fun t ht => hgive t (List.mem_filter.mp ht).1) (goal?_of_readGoal hread)

end Utterance

end Apprentice
