import Apprentice.Proofs.Action.Guard

/-!
# What is not found

An action that does not find something says what it looked for. That is a name, or a phrase of
several words: a description, an event or a word that is asked about. When all objects that are
named are there, only a phrase is left. A conditional names objects in its check and in its command.
The check changes nothing, so the command still finds the objects that were there before the check.
-/

namespace Apprentice

variable {m : Material} {a : Action} {w : World} {lexicon : Lexicon} {target : Target}
  {α β : Type} {P : α → Prop} {Q : β → Prop}

/-- What was not found is a phrase, and so no name that is one word. -/
def Miss.OfPhrase : Miss → Prop
  | noMatch what => ' ' ∈ what.toList
  | _ => True

def StepResult.OfPhrase (result : StepResult) : Prop :=
  ∀ cause, result = .miss cause → cause.OfPhrase

/-! ### Looking for objects -/

def Reaches (P : α → Prop) : Except Miss α → Prop
  | .ok x => P x
  | .error cause => cause.OfPhrase

theorem Reaches.bind {found : Except Miss α} {next : α → Except Miss β} (hfound : Reaches P found)
    (hnext : ∀ x, P x → Reaches Q (next x)) : Reaches Q (found >>= next) := by
  cases found with
  | ok x => exact hnext x hfound
  | error cause => exact hfound

theorem Reaches.map {found : Except Miss α} {f : α → β} (hfound : Reaches P found)
    (hf : ∀ x, P x → Q (f x)) : Reaches Q (found.map f) := by
  cases found with
  | ok x => exact hf x hfound
  | error cause => exact hfound

theorem reaches_change (result : Except WorldError α) :
    Reaches (fun _ => True) (Attempt.change result) := by
  cases result <;> exact trivial

theorem reaches_resolveNamed {name : String} (hname : (w.named? name).isSome) :
    Reaches (fun _ => True) (resolveNamed name w) := by
  obtain ⟨o, ho⟩ := Option.isSome_iff_exists.mp hname
  rw [resolveNamed, ho]
  exact trivial

theorem Target.ofPhrase_phrase (d : Description) :
    (Miss.noMatch (Target.matching d).phrase).OfPhrase := by
  rw [Miss.OfPhrase, phrase, String.toList_append]
  exact List.mem_append_left _ (by decide)

section Present

variable (hm : ∀ name, m.name name → (w.named? name).isSome)

include hm

theorem reaches_resolve (htarget : target.MadeOf m) :
    Reaches (fun _ => True) (target.resolve w) := by
  cases target with
  | named name => exact reaches_resolveNamed (hm name htarget)
  | matching d =>
      rw [Target.resolve]
      split
      next => exact trivial
      next => exact Target.ofPhrase_phrase d
      next => exact trivial

theorem reaches_resolveAll (htarget : target.MadeOf m) :
    Reaches (fun _ => True) (target.resolveAll w) := by
  cases target with
  | named name => exact (reaches_resolveNamed (hm name htarget)).map fun _ _ => trivial
  | matching d =>
      rw [Target.resolveAll]
      split
      next => exact Target.ofPhrase_phrase d
      next => exact trivial

end Present

/-! ### Answers and attempts -/

theorem Answer.settle_ofPhrase {answer : Except Miss StepOutcome}
    (hanswer : Reaches (fun outcome => outcome.result.OfPhrase) answer) :
    (settle answer).result.OfPhrase := by
  cases answer with
  | ok outcome => exact hanswer
  | error cause =>
      rintro _ ⟨⟩
      exact hanswer

theorem Attempt.settle_ofPhrase {attempt : Attempt}
    (hattempt : Reaches (fun done => done.1.result.OfPhrase) attempt) :
    (attempt.settle w).1.result.OfPhrase := by
  cases attempt with
  | ok done => exact hattempt
  | error cause =>
      rintro _ ⟨⟩
      exact hattempt

theorem Answer.verdict_ofPhrase (truth : Bool) (subject property : String) :
    (verdict truth subject property).result.OfPhrase := by
  cases truth <;> exact nofun

theorem Answer.eventWindow_ofPhrase (order : TemporalOrder) (event : Nat) (w : World) :
    (eventWindow order event w).result.OfPhrase := by
  rw [eventWindow]
  split
  next =>
    rintro _ ⟨⟩
    rw [Miss.OfPhrase, String.toList_append]
    exact List.mem_append_left _ (by decide)
  next => exact nofun

theorem Answer.knowledge_ofPhrase (subject : KnowledgeSubject) (lexicon : Lexicon) (w : World) :
    (knowledge subject lexicon w).result.OfPhrase := by
  cases subject with
  | word word =>
      rw [knowledge.eq_def]
      dsimp only
      split
      next => exact nofun
      next =>
        rintro _ ⟨⟩
        rw [Miss.OfPhrase, String.toList_append, String.toList_append]
        exact List.mem_append_left _ (List.mem_append_left _ (by decide))
  | wordType wordType =>
      rw [knowledge.eq_def]
      dsimp only
      split <;> exact nofun
  | everything =>
      rw [knowledge.eq_def]
      dsimp only
      split <;> exact nofun

theorem Answer.social_ofPhrase (word : String) (lexicon : Lexicon) :
    (social word lexicon).result.OfPhrase := by
  rw [social]
  split <;> exact nofun

namespace Attempt

theorem reaches_create (d : Description) (name : Option String) (w : World) :
    Reaches (fun done => done.1.result.OfPhrase) (create d name w) := by
  rw [create]
  refine Reaches.bind (P := fun _ => True) ?_ fun blueprint _ => ?_
  · cases d.synthesize name <;> exact trivial
  · refine (reaches_change _).bind fun created _ => ?_
    rintro _ ⟨⟩

section Present

variable (hm : ∀ name, m.name name → (w.named? name).isSome)

include hm

theorem reaches_take (htarget : target.MadeOf m) :
    Reaches (fun done => done.1.result.OfPhrase) (take target w) := by
  rw [take]
  refine (reaches_resolve hm htarget).bind fun o _ => ?_
  split
  next => exact nofun
  next => exact trivial
  next => exact trivial
  next => exact (reaches_change _).bind fun _ _ => nofun

theorem reaches_give (htarget : target.MadeOf m) (recipient : Owner) :
    Reaches (fun done => done.1.result.OfPhrase) (give target recipient w) := by
  rw [give]
  refine (reaches_resolve hm htarget).bind fun o _ => ?_
  split
  next => exact trivial
  next => exact (reaches_change _).bind fun _ _ => nofun

theorem reaches_destroy (htarget : target.MadeOf m) :
    Reaches (fun done => done.1.result.OfPhrase) (destroy target w) := by
  rw [destroy]
  refine (reaches_resolve hm htarget).bind fun o _ => ?_
  split
  next => exact nofun
  next => exact trivial
  next => exact nofun

theorem reaches_put {container : Target} (htarget : target.MadeOf m)
    (hcontainer : container.MadeOf m) :
    Reaches (fun done => done.1.result.OfPhrase) (put target container w) := by
  rw [put]
  refine (reaches_resolve hm htarget).bind fun o _ => ?_
  refine (reaches_resolve hm hcontainer).bind fun into _ => ?_
  split
  next => exact trivial
  next => exact (reaches_change _).bind fun _ _ => nofun

end Present

end Attempt

/-! ### Actions -/

namespace Action

variable {check command : Action} {negated : Bool}

theorem ofPhrase_of_conditional (hcheck : (check.execute lexicon w).1.result.OfPhrase)
    (hcommand : (command.execute lexicon (check.execute lexicon w).2).1.result.OfPhrase) :
    ((conditionalExecution check negated command).execute lexicon w).1.result.OfPhrase := by
  change (afterCheck (check.execute lexicon w) _).1.result.OfPhrase
  rw [afterCheck]
  split
  next cause hmiss =>
    rintro _ ⟨⟩
    exact hcheck cause hmiss
  next habort => exact fun cause hmiss => hcheck cause hmiss
  next =>
    split
    next => rintro _ ⟨⟩
    next => exact hcommand

theorem ofPhrase_of_hypothetical {supposition : String}
    (hcheck : (check.execute lexicon w).1.result.OfPhrase) :
    ((hypotheticalQuery check supposition).execute lexicon w).1.result.OfPhrase := by
  change (afterCheck (check.execute lexicon w) _).1.result.OfPhrase
  rw [afterCheck]
  split
  next cause hmiss =>
    rintro _ ⟨⟩
    exact hcheck cause hmiss
  next => exact fun cause hmiss => hcheck cause hmiss
  next => rintro _ ⟨⟩

section Present

variable (hm : ∀ name, m.name name → (w.named? name).isSome)

include hm

theorem IsCheck.ofPhrase (ha : a.IsCheck m) (lexicon : Lexicon) :
    (a.execute lexicon w).1.result.OfPhrase := by
  cases ha with
  | possession | existence | query => exact nofun
  | property hname hd =>
      exact Answer.settle_ofPhrase ((reaches_resolveNamed (hm _ hname)).map fun _ _ =>
        Answer.verdict_ofPhrase _ _ _)
  | relation hp hleft hright =>
      refine Answer.settle_ofPhrase ((reaches_resolveNamed (hm _ hleft)).bind fun l _ => ?_)
      exact (reaches_resolveNamed (hm _ hright)).bind fun r _ =>
        Answer.verdict_ofPhrase _ _ _

theorem IsSimple.ofPhrase (ha : a.IsSimple m) (lexicon : Lexicon) :
    (a.execute lexicon w).1.result.OfPhrase := by
  cases ha with
  | check ha => exact ha.ofPhrase hm lexicon
  | definition | queryInventory | listEvents => exact nofun
  | create => exact Attempt.settle_ofPhrase (Attempt.reaches_create _ _ w)
  | take htarget => exact Attempt.settle_ofPhrase (Attempt.reaches_take hm htarget)
  | give htarget => exact Attempt.settle_ofPhrase (Attempt.reaches_give hm htarget _)
  | destroy htarget => exact Attempt.settle_ofPhrase (Attempt.reaches_destroy hm htarget)
  | put htarget hcontainer =>
      exact Attempt.settle_ofPhrase (Attempt.reaches_put hm htarget hcontainer)
  | identify hname =>
      exact Answer.settle_ofPhrase ((reaches_resolveNamed (hm _ hname)).map fun _ _ => nofun)
  | locate htarget =>
      exact Answer.settle_ofPhrase ((reaches_resolve hm htarget).map fun _ _ => nofun)
  | queryOwner htarget =>
      exact Answer.settle_ofPhrase ((reaches_resolveAll hm htarget).map fun _ _ => nofun)
  | socialRespond => exact Answer.social_ofPhrase _ _
  | queryEvents => exact Answer.eventWindow_ofPhrase _ _ _
  | knowledgeQuery => exact Answer.knowledge_ofPhrase _ _ _
  | hypotheticalQuery hcheck => exact ofPhrase_of_hypothetical (hcheck.ofPhrase hm lexicon)

theorem IsCommand.ofPhrase (ha : a.IsCommand m) (lexicon : Lexicon) :
    (a.execute lexicon w).1.result.OfPhrase := by
  cases ha with
  | simple ha => exact ha.ofPhrase hm lexicon
  | conditional hcheck hcommand _ =>
      refine ofPhrase_of_conditional (hcheck.ofPhrase hm lexicon) ?_
      rw [execute_of_core hcheck.core_mutates]
      exact hcommand.ofPhrase hm lexicon

end Present

end Action

end Apprentice
