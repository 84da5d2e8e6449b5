import Apprentice.Proofs.Utterance.CheckWords
import Apprentice.Proofs.Utterance.Conditional
import Apprentice.Proofs.Utterance.Unplaced

/-!
# Suppositions and conditionals

`what if` asks whether a check holds, and `if` carries out a command when it does. The two are read
on different paths: behind `what if` everything is the check, and behind `if` the check goes up to
the first `then`. No word of a check asks for a name behind it, so `then` is itself there, whatever
the check is, and both paths come upon the same check; and the command asks for the same as it does
alone. A check changes nothing, so the command is carried out in the world that it would have been
carried out in. Therefore the answer to the supposition tells what the conditional does.
-/

namespace Apprentice

variable {m : Material} {a check command : Action} {lexicon : Lexicon} {w : World}

namespace Utterance

variable {tokens before rest : List Token} {found : Token} {marker : Marker}
  {supposition text c x : String} {negated : Bool} {e f : Entry}

/-! ### Reading -/

theorem unknownWords_eq_nil_iff :
    unknownWords tokens = [] ↔ ∀ t ∈ tokens, t.role ≠ .unknown := by
  simp only [List.eq_nil_iff_forall_not_mem, mem_unknownWords_iff, not_exists, not_and]
  exact ⟨fun hnone t ht hrole => hnone _ t ht hrole rfl,
    fun hknown _ t ht hrole => absurd hrole (hknown t ht)⟩

theorem command?_of_understood (hread : read text lexicon w = .ok (.act a))
    (hkind : a.kind ≠ .notUnderstood) :
    (∀ t ∈ tokensOf lexicon w none (surfaces text), t.role ≠ .unknown) ∧
      command? (content (tokensOf lexicon w none (surfaces text))) = some a := by
  have hcommand := command?_of_read hread
  rw [← tokenize_unplaced, ← unknownWords_eq_nil_iff, unknownWords_unplaced, content_unplaced,
    command?_unplaced]
  constructor
  · rw [read] at hread
    split at hread
    next request _ => cases request <;> cases hread
    next =>
      dsimp only at hread
      split at hread
      next hnil => exact hnil
      next => cases hread
  · cases hsome : command? (content (tokenize text lexicon w)) with
    | some command => rw [hcommand, hsome, Option.getD_some]
    | none =>
        rw [hsome] at hcommand
        exact absurd (congrArg Action.kind hcommand) hkind

theorem read_of_command? (hteach : startsTeach text.toList = false)
    (hknown : ∀ t ∈ tokensOf lexicon w none (surfaces text), t.role ≠ .unknown)
    (hcommand : command? (content (tokensOf lexicon w none (surfaces text))) = some a) :
    read text lexicon w = .ok (.act a) := by
  rw [← tokenize_unplaced, ← unknownWords_eq_nil_iff, unknownWords_unplaced] at hknown
  rw [← tokenize_unplaced, content_unplaced, command?_unplaced] at hcommand
  have hnone : parseTeach text = none := by
    rw [parseTeach, hteach]
    rfl
  rw [read, hnone]
  dsimp only
  rw [hknown, hcommand]
  rfl

/-- What holds of the tokens of a text wherever it stands. -/
theorem forall_mem_tokensOf {P : Token → Prop} (hP : ∀ t ∈ tokenize text lexicon w, P t.unplaced) :
    ∀ t ∈ tokensOf lexicon w none (surfaces text), P t := by
  rw [← tokenize_unplaced]
  exact List.forall_mem_map.mpr hP

/-! ### The sentences -/

/-- `what if c`. -/
def supposed (c : String) : String :=
  "what" ++ " " ++ "if" ++ " " ++ c

def opener (negated : Bool) : String :=
  if negated then "unless" else "if"

/-- `if c then x` or, negated, `unless c then x`. -/
def conditional (negated : Bool) (c x : String) : String :=
  opener negated ++ " " ++ c ++ " " ++ "then" ++ " " ++ x

theorem surfaces_supposed (c : String) : surfaces (supposed c) = "what" :: "if" :: surfaces c := by
  have hwhat : surfaces "what" = ["what"] := surfaces_word (by decide +kernel)
  have hif : surfaces "if" = ["if"] := surfaces_word (by decide +kernel)
  rw [supposed, surfaces_join, surfaces_join, hwhat, hif]
  rfl

theorem surfaces_conditional (negated : Bool) (c x : String) :
    surfaces (conditional negated c x) =
      opener negated :: (surfaces c ++ "then" :: surfaces x) := by
  have hopener : surfaces (opener negated) = [opener negated] :=
    surfaces_word (by cases negated <;> decide +kernel)
  have hthen : surfaces "then" = ["then"] := surfaces_word (by decide +kernel)
  rw [conditional, surfaces_join, surfaces_join, surfaces_join, hopener, hthen]
  simp

theorem startsTeach_cons {letter : Char} (hblank : Text.isBlank letter = false)
    (hteach : sameLetter letter 't' = false) (hreteach : sameLetter letter 'r' = false)
    (cs : List Char) : startsTeach (letter :: cs) = false := by
  have hstart : Text.trimStart (letter :: cs) = letter :: cs := by
    rw [Text.trimStart, List.dropWhile_cons, if_neg (by rw [hblank]; exact Bool.false_ne_true)]
  have hafter : afterTeach? (letter :: cs) = none := by
    rw [afterTeach?, hstart, show "reteach".toList = 'r' :: "eteach".toList by decide,
      show "teach".toList = 't' :: "each".toList by decide, afterWord?, afterWord?, hteach,
      hreteach]
    rfl
  rw [startsTeach, hafter]

theorem startsTeach_conditional (negated : Bool) (c x : String) :
    startsTeach (conditional negated c x).toList = false := by
  simp only [conditional, String.toList_append, List.append_assoc]
  cases negated with
  | true => exact startsTeach_cons (by decide +kernel) (by decide) (by decide) _
  | false => exact startsTeach_cons (by decide +kernel) (by decide) (by decide) _

theorem tokensOf_supposed (hwhat : lexicon.get? "what" = some e)
    (hif : lexicon.get? "if" = some f) (c : String) :
    tokensOf lexicon w none (surfaces (supposed c)) =
      ⟨"what", "what", ⟨0, 0⟩, .entry e⟩ :: ⟨"if", "if", ⟨0, 0⟩, .entry f⟩ ::
        tokensOf lexicon w none (surfaces c) := by
  rw [surfaces_supposed,
    tokensOf_known rfl (by decide +kernel) (by decide +kernel) hwhat,
    tokensOf_known rfl (by decide +kernel) (by decide +kernel) hif]

theorem tokensOf_conditional (hopener : lexicon.get? (opener negated) = some e)
    (hthen : lexicon.get? "then" = some f)
    (hname : ∀ t ∈ tokensOf lexicon w none (surfaces c), t.is "as" = false) (x : String) :
    tokensOf lexicon w none (surfaces (conditional negated c x)) =
      ⟨opener negated, opener negated, ⟨0, 0⟩, .entry e⟩ ::
        (tokensOf lexicon w none (surfaces c) ++
          ⟨"then", "then", ⟨0, 0⟩, .entry f⟩ :: tokensOf lexicon w none (surfaces x)) := by
  have hlast : ((tokensOf lexicon w none (surfaces c)).getLast?.or none).any
      (fun t => t.is "as") = false := by
    rw [Option.or_none, ← Bool.not_eq_true, Option.any_eq_true]
    rintro ⟨t, ht, hword⟩
    rw [hname t (List.mem_of_getLast? ht)] at hword
    exact Bool.false_ne_true hword
  have hkind : namesWordTypes (opener negated) = false := by cases negated <;> decide +kernel
  have hnormal : normalizeWord (opener negated) = opener negated := by
    cases negated <;> decide +kernel
  rw [surfaces_conditional, tokensOf_known rfl hkind hnormal hopener, tokensOf_append,
    tokensOf_known hlast (by decide +kernel) (by decide +kernel) hthen]

end Utterance

namespace Answer

/-! ### What is foretold -/

theorem verdict_ne_aborted (truth : Bool) (subject property : String) :
    (verdict truth subject property).result ≠ .aborted := by
  cases truth <;> exact StepResult.noConfusion

theorem property_ne_aborted (name : String) (d : Description) (w : World) :
    (property name d w).result ≠ .aborted := by
  rw [property]
  cases resolveNamed name w with
  | error cause => exact StepResult.noConfusion
  | ok o => exact verdict_ne_aborted _ _ _

theorem relation_ne_aborted (word : String) (p : Predicate) (left right : String) (w : World) :
    (relation word p left right w).result ≠ .aborted := by
  rw [relation]
  cases resolveNamed left w with
  | error cause => exact StepResult.noConfusion
  | ok l =>
      cases resolveNamed right w with
      | error cause => exact StepResult.noConfusion
      | ok r => exact verdict_ne_aborted _ _ _

end Answer

namespace Action

/-- Only what is said to a social word can be cut off. -/
theorem IsCheck.result_ne_aborted (ha : check.IsCheck m) (lexicon : Lexicon) (w : World) :
    (check.execute lexicon w).1.result ≠ .aborted := by
  cases ha with
  | possession | existence | query => exact StepResult.noConfusion
  | property => exact Answer.property_ne_aborted _ _ w
  | relation => exact Answer.relation_ne_aborted _ _ _ _ w

end Action

/-- What the answer to a supposition says about a conditional, given what its command does alone. -/
def Foretells (answer : StepResult) (negated : Bool) (w : World)
    (alone done : StepOutcome × World) : Prop :=
  match answer with
  | .miss cause => done.1.result = .miss cause ∧ done.2 = w
  | .truth truth =>
      if truth = negated then done.1.result = .truth false ∧ done.2 = w
      else done.1.result = alone.1.result ∧ done.2 = alone.2
  | _ => False

theorem afterCheck_of_miss {checked : StepOutcome × World} {cause : Miss}
    (hmiss : checked.1.result = .miss cause) (next : StepOutcome → World → StepOutcome × World) :
    afterCheck checked next = (.ofMiss cause, checked.2) := by
  rw [afterCheck, hmiss]

theorem afterCheck_of_answer {checked : StepOutcome × World}
    (hmiss : ∀ cause, checked.1.result ≠ .miss cause) (habort : checked.1.result ≠ .aborted)
    (next : StepOutcome → World → StepOutcome × World) :
    afterCheck checked next = next checked.1 checked.2 := by
  rw [afterCheck]
  split
  next cause hcause => exact absurd hcause (hmiss cause)
  next hcause => exact absurd hcause habort
  next => rfl

theorem Action.IsCheck.foretells {supposition : String} {negated : Bool} (hcheck : check.IsCheck m)
    (command : Action) (lexicon : Lexicon) (w : World) :
    Foretells ((hypotheticalQuery check supposition).execute lexicon w).1.result negated w
      (command.execute lexicon w)
      ((conditionalExecution check negated command).execute lexicon w) := by
  have hworld : (check.execute lexicon w).2 = w := execute_of_core hcheck.core_mutates lexicon w
  change Foretells (afterCheck (check.execute lexicon w) _).1.result negated w _
    (afterCheck (check.execute lexicon w) _)
  by_cases hmiss : ∃ cause, (check.execute lexicon w).1.result = .miss cause
  · obtain ⟨cause, hcause⟩ := hmiss
    rw [afterCheck_of_miss hcause, afterCheck_of_miss hcause]
    exact ⟨rfl, hworld⟩
  · have hanswer := not_exists.mp hmiss
    have habort := hcheck.result_ne_aborted lexicon w
    rw [afterCheck_of_answer hanswer habort, afterCheck_of_answer hanswer habort, hworld]
    dsimp only [Foretells]
    split <;> exact ⟨rfl, rfl⟩

namespace Utterance

theorem meaning?_of_entry (word : String) {meaning : Meaning} (hmeaning : e.meaning = meaning) :
    Token.meaning? ⟨word, word, ⟨0, 0⟩, .entry e⟩ = some meaning :=
  congrArg some hmeaning

theorem marker?_of_entry (word : String) (hmeaning : e.meaning = .clause marker) :
    marker? ⟨word, word, ⟨0, 0⟩, .entry e⟩ = some marker := by
  rw [marker?, meaning?_of_entry word hmeaning]

theorem check?_of_supposed
    (hwhat : (lexicon.get? "what").map Entry.meaning = some (.inquiry .what))
    (hif : (lexicon.get? "if").map Entry.meaning = some (.clause .if))
    (hread : read (supposed c) lexicon w = .ok (.act (.hypotheticalQuery check supposition))) :
    (∀ t ∈ tokensOf lexicon w none (surfaces c), t.role ≠ .unknown) ∧
      check? (content (tokensOf lexicon w none (surfaces c))) = some check := by
  obtain ⟨e, hwhat, hinquiry⟩ := Option.map_eq_some_iff.mp hwhat
  obtain ⟨f, hif, hclause⟩ := Option.map_eq_some_iff.mp hif
  obtain ⟨hknown, hcommand⟩ := command?_of_understood hread ActionKind.noConfusion
  rw [tokensOf_supposed hwhat hif] at hknown hcommand
  refine ⟨(List.forall_mem_cons.mp (List.forall_mem_cons.mp hknown).2).2, ?_⟩
  have hmeaning := meaning?_of_entry "what" hinquiry
  have hmarker := marker?_of_entry "if" hclause
  rw [content_cons rfl, content_cons rfl, command?, List.head?_cons, Option.bind_some, marker?,
    hmeaning] at hcommand
  dsimp only at hcommand
  rw [simpleCommand?, List.isEmpty_cons, Bool.false_and, if_neg Bool.false_ne_true,
    hmeaning] at hcommand
  dsimp only [inquiry?] at hcommand
  rw [whatQuestion?_if hmarker, hypothesis?] at hcommand
  obtain ⟨read, hcheck, hquery⟩ := Option.map_eq_some_iff.mp hcommand
  cases hquery
  exact hcheck

theorem simpleCommand?_of_command?
    (htype : ∀ t ∈ tokens, marker? t = some .then →
      t.hasType .social = false ∧ t.hasType .relation = false)
    (hcommand : command? tokens = some command) (hkind : command.kind ≠ .conditionalExecution) :
    simpleCommand? tokens = some command ∧ tokens.head?.bind marker? = none := by
  rw [command?] at hcommand
  split at hcommand
  next => exact absurd (kind_of_conditional? hcommand) hkind
  next => exact absurd (kind_of_conditional? hcommand) hkind
  next hif hunless =>
    refine ⟨hcommand, ?_⟩
    cases tokens with
    | nil => rfl
    | cons t rest =>
        rw [List.head?_cons, Option.bind_some] at hif hunless ⊢
        cases hmarker : marker? t with
        | none => rfl
        | some marker =>
            cases marker with
            | «if» => exact absurd hmarker hif
            | «unless» => exact absurd hmarker hunless
            | «then» =>
                obtain ⟨hsocial, hrelation⟩ := htype t List.mem_cons_self hmarker
                rw [simpleCommand?_of_marker? hmarker hsocial hrelation] at hcommand
                cases hcommand

theorem conditional?_of_check? (hbefore : ∀ t ∈ before, marker? t ≠ some .then)
    (hfound : marker? found = some .then) (hhead : rest.head?.bind marker? = none)
    (hcheck : check? before = some check) (hcommand : simpleCommand? rest = some command)
    (hkind : command.kind ≠ .hypotheticalQuery) (negated : Bool) :
    conditional? negated (before ++ found :: rest) =
      some (.conditionalExecution check negated command) := by
  have hsplit := splitAtFirst?_append (p := fun t => decide (marker? t = some .then))
    (fun t ht => decide_eq_false (hbefore t ht)) (decide_eq_true hfound) rest
  have hopen : (rest.head?.any fun t => (marker? t).isSome) = false := by
    cases rest with
    | nil => rfl
    | cons t rest =>
        rw [List.head?_cons, Option.bind_some] at hhead
        rw [List.head?_cons, Option.any_some, hhead]
        rfl
  rw [conditional?, hsplit, Option.bind_eq_bind, Option.bind_some]
  dsimp only
  rw [hopen, hcheck, hcommand]
  cases command with
  | hypotheticalQuery => exact absurd rfl hkind
  | _ => rfl

/-- A check and a command are a conditional, with `if` or `unless` in front and `then` between
them. -/
theorem read_conditional
    (hopener : (lexicon.get? (opener negated)).map Entry.meaning =
      some (.clause (if negated then .unless else .if)))
    (hthen : (lexicon.get? "then").map Entry.meaning = some (.clause .then))
    (hcknown : ∀ t ∈ tokensOf lexicon w none (surfaces c), t.role ≠ .unknown)
    (hxknown : ∀ t ∈ tokensOf lexicon w none (surfaces x), t.role ≠ .unknown)
    (hc : ∀ t ∈ tokensOf lexicon w none (surfaces c), marker? t ≠ some .then)
    (hcheck : check? (content (tokensOf lexicon w none (surfaces c))) = some check)
    (hx : (content (tokensOf lexicon w none (surfaces x))).head?.bind marker? = none)
    (hcommand : simpleCommand? (content (tokensOf lexicon w none (surfaces x))) = some command)
    (hkind : command.kind ≠ .hypotheticalQuery) :
    read (conditional negated c x) lexicon w =
      .ok (.act (.conditionalExecution check negated command)) := by
  obtain ⟨e, hopener, hopens⟩ := Option.map_eq_some_iff.mp hopener
  obtain ⟨f, hthen, hseparates⟩ := Option.map_eq_some_iff.mp hthen
  have htokens := tokensOf_conditional hopener hthen (is_as_of_content (is_as_of_check? hcheck)) x
  refine read_of_command? (startsTeach_conditional negated c x) ?_ ?_
  · rw [htokens]
    exact List.forall_mem_cons.mpr ⟨Role.noConfusion, List.forall_mem_append.mpr
      ⟨hcknown, List.forall_mem_cons.mpr ⟨Role.noConfusion, hxknown⟩⟩⟩
  · have hmarker := marker?_of_entry (opener negated) hopens
    have hread := conditional?_of_check? (fun t ht => hc t (List.mem_filter.mp ht).1)
      (marker?_of_entry "then" hseparates) hx hcheck hcommand hkind negated
    rw [htokens, content_cons rfl, content_append, content_cons rfl, command?, List.head?_cons,
      Option.bind_some, hmarker, List.tail_cons]
    cases negated with
    | true => exact hread
    | false => exact hread

/-- `what if` previews `if`. Whatever has been taught, a check that can be supposed can be the check
of a conditional, also of one with `unless`, and the command is carried out as it is alone, if it is
carried out at all. The supposition tells by its answer whether it is: a miss is the miss of the
conditional, and with the answer that does not select the command nothing is done. -/
theorem conditional_foretold {lessons : List Lesson}
    (hwhat : ((Lexicon.ofLessons lessons).get? "what").map Entry.meaning = some (.inquiry .what))
    (hif : ((Lexicon.ofLessons lessons).get? "if").map Entry.meaning = some (.clause .if))
    (hunless : ((Lexicon.ofLessons lessons).get? "unless").map Entry.meaning =
      some (.clause .unless))
    (hthen : ((Lexicon.ofLessons lessons).get? "then").map Entry.meaning = some (.clause .then))
    (hc : ∀ t ∈ tokenize c (Lexicon.ofLessons lessons) w, marker? t ≠ some .then)
    (hx : read x (Lexicon.ofLessons lessons) w = .ok (.act command))
    (hkind : command.kind ∉ [.notUnderstood, .conditionalExecution, .hypotheticalQuery])
    (hread : read (supposed c) (Lexicon.ofLessons lessons) w =
      .ok (.act (.hypotheticalQuery check supposition))) (negated : Bool) :
    ∃ a, read (conditional negated c x) (Lexicon.ofLessons lessons) w = .ok (.act a) ∧
      ∀ later world, Foretells
        ((Action.hypotheticalQuery check supposition).execute later world).1.result negated world
        (command.execute later world) (a.execute later world) := by
  simp only [List.mem_cons, List.not_mem_nil, or_false, not_or] at hkind
  obtain ⟨hunderstood, hconditional, hhypothetical⟩ := hkind
  obtain ⟨hcknown, hcheck⟩ := check?_of_supposed hwhat hif hread
  obtain ⟨hxknown, hcommand⟩ := command?_of_understood hx hunderstood
  have hopener : ((Lexicon.ofLessons lessons).get? (opener negated)).map Entry.meaning =
      some (.clause (if negated then .unless else .if)) := by
    cases negated with
    | true => exact hunless
    | false => exact hif
  have htype : ∀ t ∈ tokensOf (Lexicon.ofLessons lessons) w none (surfaces x),
      marker? t = some .then → t.hasType .social = false ∧ t.hasType .relation = false := by
    refine forall_mem_tokensOf fun t ht hmarker => ?_
    exact ⟨hasType_of_marker? (t := t) ht hmarker WordType.noConfusion,
      hasType_of_marker? (t := t) ht hmarker WordType.noConfusion⟩
  obtain ⟨hsimple, hhead⟩ := simpleCommand?_of_command?
    (fun t ht => htype t (List.mem_filter.mp ht).1) hcommand hconditional
  refine ⟨_, read_conditional hopener hthen hcknown hxknown (forall_mem_tokensOf hc) hcheck hhead
    hsimple hhypothetical, fun later world => ?_⟩
  have hshape : check.IsCheck .any := check?_isCheck (fun t _ => t.gives_any) hcheck
  exact hshape.foretells command later world

/-- With nothing red there, nothing is made if there is something red, and something is made unless
there is. -/
theorem conditional_foretold_red :
    let lessons : List Lesson := [⟨"if", .conditional, "if", false⟩,
      ⟨"make", .action, "create", false⟩, ⟨"red", .property, "obj.color == 'red'", false⟩,
      ⟨"then", .conditional, "then", false⟩, ⟨"unless", .conditional, "unless", false⟩,
      ⟨"what", .inquiry, "what", false⟩]
    let lexicon := Lexicon.ofLessons lessons
    let w := World.new 2 1
    ∃ sure doubtful, read "if red then make a red" lexicon w = .ok (.act sure) ∧
      read "unless red then make a red" lexicon w = .ok (.act doubtful) ∧
      (sure.execute lexicon w).1.result = .truth false ∧ (sure.execute lexicon w).2 = w ∧
      (doubtful.execute lexicon w).1.result = .created 1 := by
  intro lessons lexicon w
  let isRed : Predicate :=
    ⟨.unary, .binary .eq (.attr .obj .color) (.literal (.str "red")), "obj.color == 'red'"⟩
  let known : Lexicon := ⟨[⟨"if", .conditional, "if", .clause .if⟩,
    ⟨"make", .action, "create", .action .create⟩,
    ⟨"red", .property, "obj.color == 'red'", .predicate isRed⟩,
    ⟨"then", .conditional, "then", .clause .then⟩,
    ⟨"unless", .conditional, "unless", .clause .unless⟩,
    ⟨"what", .inquiry, "what", .inquiry .what⟩], by decide⟩
  have hred : Predicate.compile .unary "obj.color == 'red'" = .ok isRed := by
    have htokens : Expr.tokenize "obj.color == 'red'" = .ok [⟨.ident "obj", 0⟩, ⟨.dot, 3⟩,
        ⟨.ident "color", 4⟩, ⟨.eqEq, 10⟩, ⟨.str "red", 13⟩] := by
      decide +kernel
    exact Predicate.compile_of_parse (n := 18) htokens rfl (by cbv) rfl (by decide +kernel)
  have hcompiled : ∀ e ∈ known.entries,
      Meaning.compile e.word e.wordType e.expression = .ok e.meaning := by
    simp only [known, List.forall_mem_cons]
    exact ⟨by rfl, by rfl, Meaning.compile_of_unary rfl (by decide +kernel) hred, by rfl, by rfl,
      by rfl, List.forall_mem_nil _⟩
  have hwords : ∀ e ∈ known.entries, normalizeWord e.word = e.word ∧ isValidWord e.word = true ∧
      structuralWords.contains e.word = false ∧ Text.trimmed e.expression = e.expression := by
    decide +kernel
  have hlexicon : lexicon = known := Lexicon.ofLessons_entries fun e he =>
    ⟨(hwords e he).1.symm, (hwords e he).2.1, (hwords e he).2.2.1, (hwords e he).2.2.2,
      hcompiled e he⟩
  have hquestion : read (supposed "red") lexicon w = .ok (.act (.hypotheticalQuery
      (.query (.conjunction [⟨"red", false, isRed⟩]) none) "red")) := by
    rw [hlexicon, read, tokenize, show splitWords (supposed "red") =
      [⟨"what", ⟨0, 4⟩⟩, ⟨"if", ⟨5, 7⟩⟩, ⟨"red", ⟨8, 11⟩⟩] by decide +kernel]
    rfl
  have hcommand : read "make a red" lexicon w =
      .ok (.act (.create (.conjunction [⟨"red", false, isRed⟩]) none)) := by
    rw [hlexicon, read, tokenize, show splitWords "make a red" =
      [⟨"make", ⟨0, 4⟩⟩, ⟨"a", ⟨5, 6⟩⟩, ⟨"red", ⟨7, 10⟩⟩] by decide +kernel]
    rfl
  have hnothen : ∀ t ∈ tokenize "red" lexicon w, marker? t ≠ some .then := by
    rw [hlexicon, tokenize, show splitWords "red" = [⟨"red", ⟨0, 3⟩⟩] by decide +kernel]
    exact List.forall_mem_singleton.mpr (by decide +kernel)
  have hmeaning : ∀ e ∈ known.entries,
      ((Lexicon.ofLessons lessons).get? e.word).map Entry.meaning = some e.meaning := by
    intro e he
    rw [Lexicon.get?, (hwords e he).1, show Lexicon.ofLessons lessons = known from hlexicon,
      Lexicon.find?_of_mem he]
    rfl
  have hforetold := conditional_foretold (c := "red") (x := "make a red")
    (hmeaning ⟨"what", .inquiry, "what", .inquiry .what⟩ (by simp [known]))
    (hmeaning ⟨"if", .conditional, "if", .clause .if⟩ (by simp [known]))
    (hmeaning ⟨"unless", .conditional, "unless", .clause .unless⟩ (by simp [known]))
    (hmeaning ⟨"then", .conditional, "then", .clause .then⟩ (by simp [known]))
    hnothen hcommand (by decide) hquestion
  obtain ⟨sure, hsure, hdoes⟩ := hforetold false
  obtain ⟨doubtful, hdoubtful, hundone⟩ := hforetold true
  obtain ⟨hresult, hworld⟩ := hdoes lexicon w
  obtain ⟨hmade, -⟩ := hundone lexicon w
  exact ⟨sure, doubtful, hsure, hdoubtful, hresult, hworld, hmade⟩

end Utterance

end Apprentice
