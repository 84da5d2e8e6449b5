import Apprentice.Proofs.Action.Found
import Apprentice.Proofs.Utterance.Grown
import Apprentice.Proofs.Utterance.Restated

/-!
# What is read is there

A word is taken for the name of an object only if there is an object with that name, and for a
taught word only if it is in the lexicon. The readers put nothing else into an action, wherever in
it names and conditions stand. So an action that has just been read names only what is there, and
means by its words what the lexicon means. Carried out at once, it may miss what it describes, but
it does not miss an object that it names.
-/

namespace Apprentice

variable {m : Material} {a : Action} {d : Description} {target : Target}

/-! ### What an action is made of -/

def Description.terms (d : Description) : List Term :=
  d.alternatives.flatten

namespace Target

def names : Target → List String
  | named name => [name]
  | matching _ => []

def terms : Target → List Term
  | named _ => []
  | matching d => d.terms

end Target

namespace Action

/-- The names of objects in an action, also those in the check and the command that it holds. The
name that a new object is to get is none of them. -/
def names : Action → List String
  | take target | give target _ | destroy target | locate target | queryOwner target =>
    target.names
  | put target container => target.names ++ container.names
  | retrieveFromContainer target container => [target, container]
  | identify name | verifyProperty name _ => [name]
  | evaluateRelation _ _ left right => [left, right]
  | conditionalExecution check _ command => check.names ++ command.names
  | hypotheticalQuery check _ => check.names
  | _ => []

def terms : Action → List Term
  | create d _ | query d _ | verifyProperty _ d | verifyPossession _ d | verifyExistence d =>
    d.terms
  | take target | give target _ | destroy target | locate target | queryOwner target =>
    target.terms
  | put target container => target.terms ++ container.terms
  | conditionalExecution check _ command => check.terms ++ command.terms
  | hypotheticalQuery check _ => check.terms
  | _ => []

def relations : Action → List (String × Predicate)
  | evaluateRelation word p _ _ => [(word, p)]
  | conditionalExecution check _ command => check.relations ++ command.relations
  | hypotheticalQuery check _ => check.relations
  | _ => []

/-- Everything in an action is of the material. -/
structure Within (m : Material) (a : Action) : Prop where
  names : ∀ name ∈ a.names, m.name name
  terms : ∀ t ∈ a.terms, m.term t
  relations : ∀ r ∈ a.relations, m.relation r.1 r.2

end Action

theorem Description.MadeOf.forall_terms (hd : d.MadeOf m) : ∀ t ∈ d.terms, m.term t := by
  intro t ht
  obtain ⟨terms, hterms, ht⟩ := List.mem_flatten.mp ht
  exact hd terms hterms t ht

namespace Target.MadeOf

theorem forall_names (htarget : target.MadeOf m) : ∀ name ∈ target.names, m.name name := by
  cases target with
  | named name => exact List.forall_mem_singleton.mpr htarget
  | matching d => exact List.forall_mem_nil _

theorem forall_terms (htarget : target.MadeOf m) : ∀ t ∈ target.terms, m.term t := by
  cases target with
  | named name => exact List.forall_mem_nil _
  | matching d => exact Description.MadeOf.forall_terms htarget

end Target.MadeOf

namespace Action

theorem within_of_target (htarget : target.MadeOf m) (hnames : a.names = target.names)
    (hterms : a.terms = target.terms) (hrelations : a.relations = []) : a.Within m where
  names := hnames ▸ htarget.forall_names
  terms := hterms ▸ htarget.forall_terms
  relations := hrelations ▸ List.forall_mem_nil _

theorem within_of_description (hd : d.MadeOf m) (hnames : a.names = []) (hterms : a.terms = d.terms)
    (hrelations : a.relations = []) : a.Within m where
  names := hnames ▸ List.forall_mem_nil _
  terms := hterms ▸ hd.forall_terms
  relations := hrelations ▸ List.forall_mem_nil _

theorem within_of_nil (hnames : a.names = []) (hterms : a.terms = [])
    (hrelations : a.relations = []) : a.Within m where
  names := hnames ▸ List.forall_mem_nil _
  terms := hterms ▸ List.forall_mem_nil _
  relations := hrelations ▸ List.forall_mem_nil _

theorem IsCheck.within (ha : a.IsCheck m) : a.Within m := by
  cases ha with
  | possession hd | existence hd | query hd => exact within_of_description hd rfl rfl rfl
  | property hname hd =>
      exact ⟨List.forall_mem_singleton.mpr hname, hd.forall_terms, List.forall_mem_nil _⟩
  | relation hp hleft hright =>
      exact ⟨List.forall_mem_cons.mpr ⟨hleft, List.forall_mem_singleton.mpr hright⟩,
        List.forall_mem_nil _, List.forall_mem_singleton.mpr hp⟩

section Definition

variable (hdefinition : ∀ t text, m.definition t text → m.term t)

include hdefinition

theorem IsSimple.within (ha : a.IsSimple m) : a.Within m := by
  cases ha with
  | check ha => exact ha.within
  | definition ht =>
      refine ⟨List.forall_mem_nil _, ?_, List.forall_mem_nil _⟩
      exact (Description.madeOf_conjunction.mpr (hdefinition _ _ ht)).forall_terms
  | create hd => exact within_of_description hd rfl rfl rfl
  | take htarget | give htarget | destroy htarget | locate htarget | queryOwner htarget =>
      exact within_of_target htarget rfl rfl rfl
  | put htarget hcontainer =>
      exact ⟨List.forall_mem_append.mpr ⟨htarget.forall_names, hcontainer.forall_names⟩,
        List.forall_mem_append.mpr ⟨htarget.forall_terms, hcontainer.forall_terms⟩,
        List.forall_mem_nil _⟩
  | identify hname =>
      exact ⟨List.forall_mem_singleton.mpr hname, List.forall_mem_nil _, List.forall_mem_nil _⟩
  | queryInventory | socialRespond | listEvents | queryEvents | knowledgeQuery =>
      exact within_of_nil rfl rfl rfl
  | hypotheticalQuery hcheck =>
      obtain ⟨hnames, hterms, hrelations⟩ := hcheck.within
      exact ⟨hnames, hterms, hrelations⟩

/-- The shape of a command leaves no place for anything else. -/
theorem IsCommand.within (ha : a.IsCommand m) : a.Within m := by
  cases ha with
  | simple ha => exact ha.within hdefinition
  | conditional hcheck hcommand _ =>
      obtain ⟨hnames, hterms, hrelations⟩ := hcheck.within
      obtain ⟨hnames', hterms', hrelations'⟩ := hcommand.within hdefinition
      exact ⟨List.forall_mem_append.mpr ⟨hnames, hnames'⟩,
        List.forall_mem_append.mpr ⟨hterms, hterms'⟩,
        List.forall_mem_append.mpr ⟨hrelations, hrelations'⟩⟩

end Definition

end Action

namespace Utterance

variable {lexicon : Lexicon} {world : World} {text : String} {previous : Option Token} {t : Token}

/-! ### What the tokens of a text give -/

/-- What the words of a lexicon put into an action, and the names, each of them one word, of the
objects of a world. -/
def present (lexicon : Lexicon) (world : World) : Material :=
  { lexicon.material with
    name := fun name => (world.named? name).isSome ∧ ∀ c ∈ name.toList, Text.isBlank c = false }

theorem named?_of_roleOf {surface normalized : String}
    (hrole : roleOf lexicon world previous surface normalized = .objectName) :
    (world.named? surface).isSome := by
  cases plays_of_roleOf hrole with
  | objectName hnamed => exact hnamed

theorem Token.objectName?_eq_some {name : String} (hname : t.objectName? = some name) :
    t.role = .objectName ∧ name = t.surface := by
  rw [objectName?] at hname
  split at hname
  next hrole => exact ⟨hrole, (Option.some.inj hname).symm⟩
  next => cases hname

theorem present_of_objectName? (ht : t ∈ tokenize text lexicon world) {name : String}
    (hname : t.objectName? = some name) : (present lexicon world).name name := by
  obtain ⟨word, hword, before, rfl⟩ := exists_tokenOf ht
  obtain ⟨hrole, rfl⟩ := Token.objectName?_eq_some hname
  exact ⟨named?_of_roleOf hrole, isBlank_of_mem_splitWords word hword⟩

theorem gives_present : ∀ t ∈ tokenize text lexicon world, t.Gives (present lexicon world) := by
  intro t ht
  obtain ⟨hterm, hrelation, -, hdefinition⟩ := gives_of_mem_tokenize t ht
  exact ⟨hterm, hrelation, fun name hname => present_of_objectName? ht hname, hdefinition⟩

/-! ### What is read -/

theorem within_of_read (hread : read text lexicon world = .ok (.act a)) :
    a.Within (present lexicon world) := by
  rcases isCommand_of_read gives_present hread with hshape | rfl
  · exact hshape.within fun t text hdefinition => hdefinition.2.1
  · exact Action.within_of_nil rfl rfl rfl

theorem ofPhrase_of_read (hread : read text lexicon world = .ok (.act a)) (later : Lexicon) :
    (a.execute later world).1.result.OfPhrase := by
  rcases isCommand_of_read gives_present hread with hshape | rfl
  · exact hshape.ofPhrase (m := present lexicon world) (fun _ hname => hname.1) later
  · exact nofun

/-- An action that has just been read names only objects that are there, and its words mean in it
what they mean in the lexicon, also in a check or a command inside it. So it does not miss an object
that it names, if it is carried out before anything else happens. -/
theorem read_present (hread : read text lexicon world = .ok (.act a)) :
    (∀ name ∈ a.names, ∃ o, world.named? name = some o) ∧
    (∀ t ∈ a.terms, lexicon.predicate? t.word = some t.predicate) ∧
    (∀ r ∈ a.relations, lexicon.relation? r.1 = some r.2) ∧
    ∀ what, (a.execute lexicon world).1.result = .miss (.noMatch what) → what ∉ a.names := by
  obtain ⟨hnames, hterms, hrelations⟩ := within_of_read hread
  refine ⟨fun name hname => Option.isSome_iff_exists.mp (hnames name hname).1, hterms, hrelations,
    fun what hmiss hwhat => ?_⟩
  have hphrase : ' ' ∈ what.toList := ofPhrase_of_read hread lexicon _ hmiss
  cases (hnames what hwhat).2 _ hphrase

/-- The names in a check and in the command behind it, in different letter cases. -/
theorem read_present_ball :
    let isRed : Predicate :=
      ⟨.unary, .binary .eq (.attr .obj .color) (.literal (.str "red")), "obj.color == 'red'"⟩
    let lexicon : Lexicon := ⟨[⟨"if", .conditional, "if", .clause .if⟩,
      ⟨"red", .property, "obj.color == 'red'", .predicate isRed⟩,
      ⟨"take", .action, "take", .action .take⟩,
      ⟨"then", .conditional, "then", .clause .then⟩], by decide⟩
    let world := (World.new 2 1).perform (.create { name := some "ball" })
    ∃ a, read "if Ball is red then take the ball" lexicon world = .ok (.act a) ∧
      a.names = ["Ball", "ball"] ∧ (∀ name ∈ a.names, ∃ o, world.named? name = some o) ∧
      a.terms.map Term.word = ["red"] ∧
      (∀ t ∈ a.terms, lexicon.predicate? t.word = some t.predicate) ∧
      (a.execute lexicon world).1.result ≠ .miss (.noMatch "ball") := by
  intro isRed lexicon world
  have hread : read "if Ball is red then take the ball" lexicon world =
      .ok (.act (.conditionalExecution
        (.verifyProperty "Ball" (.conjunction [⟨"red", false, isRed⟩])) false
        (.take (.named "ball")))) := by
    rw [read, tokenize, show splitWords "if Ball is red then take the ball" = [⟨"if", ⟨0, 2⟩⟩,
      ⟨"Ball", ⟨3, 7⟩⟩, ⟨"is", ⟨8, 10⟩⟩, ⟨"red", ⟨11, 14⟩⟩, ⟨"then", ⟨15, 19⟩⟩,
      ⟨"take", ⟨20, 24⟩⟩, ⟨"the", ⟨25, 28⟩⟩, ⟨"ball", ⟨29, 33⟩⟩] by decide +kernel]
    rfl
  obtain ⟨hnames, hterms, -, hmiss⟩ := read_present hread
  exact ⟨_, hread, rfl, hnames, rfl, hterms, fun hball => hmiss "ball" hball (by decide)⟩

end Utterance

end Apprentice
