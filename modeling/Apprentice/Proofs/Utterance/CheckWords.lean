import Apprentice.Proofs.Utterance.Alternatives
import Apprentice.Proofs.Utterance.Words
import Apprentice.Proofs.Lexicon.Teaching

/-!
# The words of a check

A check is made of words with a meaning, of names of objects, and of some words of the command
grammar, and `as` is none of these. So no word of a check asks for a name behind it. Words that open
clauses have a meaning, but none that a check or a simple command could begin with.
-/

namespace Apprentice

variable {a : Action} {w : World}

/-! ### Meanings of conditional words -/

theorem Meaning.wordType_of_clause {word expression : String} {wordType : WordType}
    {marker : Marker} (hcompile : compile word wordType expression = .ok (.clause marker)) :
    wordType = .conditional := by
  rw [compile, ofTrimmed.eq_def] at hcompile
  cases wordType with
  | conditional => rfl
  | noun | property | relation =>
      obtain ⟨p, -, hp⟩ := bind_eq_ok hcompile
      cases hp
  | action | inquiry | operator | pronoun =>
      dsimp only at hcompile
      split at hcompile
      next m hm =>
        obtain ⟨_, -, rfl⟩ := Option.map_eq_some_iff.mp hm
        cases hcompile
      next => cases hcompile
  | temporal =>
      dsimp only at hcompile
      split at hcompile
      next => cases hcompile
      next =>
        cases hm : TemporalOrder.ofLabel?
            (String.ofList (Text.lower (Text.trimmed expression).toList)) with
        | none =>
            rw [hm] at hcompile
            cases hcompile
        | some order =>
            rw [hm] at hcompile
            cases hcompile
  | social =>
      dsimp only at hcompile
      split at hcompile
      next => cases hcompile
      next => cases hcompile

namespace Utterance

variable {tokens before after rest : List Token} {t found : Token} {d : Description}

/-! ### The words of a check -/

theorem Token.isStructural_of_meaning? (ht : t.meaning?.isSome) : t.isStructural = false := by
  cases hrole : t.role with
  | entry e => rw [isStructural, hrole]
  | _ => simp [meaning?, entry?, hrole] at ht

theorem Token.isStructural_of_objectName? {name : String} (ht : t.objectName? = some name) :
    t.isStructural = false := by
  cases hrole : t.role with
  | objectName => rw [isStructural, hrole]
  | _ => simp [objectName?, hrole] at ht

theorem Token.is_of_isStructural (ht : t.isStructural = false) (word : String) :
    t.is word = false := by
  rw [is, ht, Bool.false_and]

theorem Token.is_of_meaning? (ht : t.meaning?.isSome) (word : String) : t.is word = false :=
  is_of_isStructural (isStructural_of_meaning? ht) word

theorem Token.is_of_objectName? {name : String} (ht : t.objectName? = some name) (word : String) :
    t.is word = false :=
  is_of_isStructural (isStructural_of_objectName? ht) word

theorem Token.isAnyOf_of_isStructural (ht : t.isStructural = false) (words : List String) :
    t.isAnyOf words = false := by
  rw [isAnyOf, ht, Bool.false_and]

theorem Token.is_of_isAnyOf {words : List String} (ht : t.isAnyOf words = true) {word : String}
    (hword : word ∉ words) : t.is word = false := by
  obtain ⟨-, hmem⟩ := Bool.and_eq_true_iff.mp ht
  have hother : t.normalized ≠ word := fun heq => hword (heq ▸ List.contains_iff_mem.mp hmem)
  rw [is, beq_false_of_ne hother, Bool.and_false]

theorem mem_stripLeading_or {words : List String} (ht : t ∈ tokens) :
    t ∈ stripLeading words tokens ∨ t.isAnyOf words = true := by
  cases tokens with
  | nil => cases ht
  | cons s tokens =>
      rw [stripLeading]
      split
      next hs =>
        rcases List.mem_cons.mp ht with rfl | ht
        · exact .inr hs
        · exact .inl ht
      next => exact .inl ht

theorem mem_stripTrailing_or {words : List String} (ht : t ∈ tokens) :
    t ∈ stripTrailing words tokens ∨ t.isAnyOf words = true := by
  rw [stripTrailing]
  split
  next hlast =>
    rcases List.eq_nil_or_concat tokens with rfl | ⟨front, last, rfl⟩
    · cases ht
    · rw [List.concat_eq_append] at ht hlast ⊢
      rw [List.getLast?_concat, Option.any_some] at hlast
      rw [List.dropLast_concat]
      rcases List.mem_append.mp ht with ht | ht
      · exact .inl ht
      · exact .inr (List.mem_singleton.mp ht ▸ hlast)
  next => exact .inl ht

theorem readAlternatives_meaning? {negated : Bool} {terms : List Term}
    {alternatives : List (List Term)}
    (hread : readAlternatives negated terms tokens = some alternatives) :
    ∀ t ∈ tokens, t.meaning?.isSome := by
  fun_induction readAlternatives negated terms tokens generalizing alternatives with
  | case1 | case2 => exact List.forall_mem_nil _
  | case3 _ _ _ _ _ hp ih => exact List.forall_mem_cons.mpr ⟨by rw [hp]; rfl, ih hread⟩
  | case4 _ _ _ _ hp ih => exact List.forall_mem_cons.mpr ⟨by rw [hp]; rfl, ih hread⟩
  | case5 _ _ _ _ hp ih => exact List.forall_mem_cons.mpr ⟨by rw [hp]; rfl, ih hread⟩
  | case6 => cases hread
  | case7 _ _ _ _ hp _ ih =>
      obtain ⟨later, hlater, -⟩ := Option.map_eq_some_iff.mp hread
      exact List.forall_mem_cons.mpr ⟨by rw [hp]; rfl, ih hlater⟩
  | case8 => cases hread

theorem is_as_of_content (hcontent : ∀ t ∈ content tokens, t.is "as" = false) :
    ∀ t ∈ tokens, t.is "as" = false := by
  intro t ht
  cases harticle : t.isArticle with
  | true => exact Token.is_of_isAnyOf harticle (by decide)
  | false => exact hcontent t (List.mem_filter.mpr ⟨ht, by rw [harticle]; rfl⟩)

theorem is_as_of_description? (hread : description? tokens = some d) :
    ∀ t ∈ tokens, t.is "as" = false := by
  obtain ⟨alternatives, halternatives, -⟩ := Option.map_eq_some_iff.mp hread
  exact is_as_of_content fun t ht =>
    Token.is_of_meaning? (readAlternatives_meaning? halternatives t ht) "as"

theorem is_as_of_relationCheck? (hread : relationCheck? before found after = some a) :
    ∀ t ∈ before ++ found :: after, t.is "as" = false := by
  rw [relationCheck?.eq_def] at hread
  split at hread
  next l r hstrip =>
    obtain ⟨left, hleft, hread⟩ := Option.bind_eq_some_iff.mp hread
    obtain ⟨right, hright, hread⟩ := Option.bind_eq_some_iff.mp hread
    obtain ⟨p, hp, -⟩ := Option.bind_eq_some_iff.mp hread
    obtain ⟨meaning, hmeaning, -⟩ := Option.bind_eq_some_iff.mp hp
    refine List.forall_mem_append.mpr ⟨fun t ht => ?_, List.forall_mem_cons.mpr ⟨?_, ?_⟩⟩
    · rcases mem_stripTrailing_or ht with hkept | hstripped
      · rw [hstrip] at hkept
        exact List.mem_singleton.mp hkept ▸ Token.is_of_objectName? hleft "as"
      · exact Token.is_of_isAnyOf hstripped (by decide)
    · exact Token.is_of_meaning? (by rw [hmeaning]; rfl) "as"
    · exact List.forall_mem_singleton.mpr (Token.is_of_objectName? hright "as")
  next => cases hread

theorem Token.is_of_is {word other : String} (ht : t.is word = true) (hother : other ≠ word) :
    t.is other = false := by
  obtain ⟨-, hword⟩ := Bool.and_eq_true_iff.mp ht
  rw [is, eq_of_beq hword, beq_false_of_ne hother.symm, Bool.and_false]

theorem is_as_of_propertyCheck? (hread : propertyCheck? tokens = some a) :
    ∀ t ∈ tokens, t.is "as" = false := by
  rw [propertyCheck?.eq_def] at hread
  split at hread
  next s t rest =>
    dsimp only at hread
    split at hread
    next name hname =>
      obtain ⟨d, hd, -⟩ := Option.map_eq_some_iff.mp hread
      suffices hpair : s.is "as" = false ∧ t.is "as" = false from
        List.forall_mem_cons.mpr ⟨hpair.1, List.forall_mem_cons.mpr
          ⟨hpair.2, is_as_of_description? hd⟩⟩
      split at hname
      next hs => exact ⟨Token.is_of_is hs (by decide), Token.is_of_objectName? hname "as"⟩
      next =>
        split at hname
        next ht => exact ⟨Token.is_of_objectName? hname "as", Token.is_of_is ht (by decide)⟩
        next => cases hname
    next => cases hread
  next => cases hread

theorem is_as_of_stateCheck? (hread : stateCheck? tokens = some a) :
    ∀ t ∈ tokens, t.is "as" = false := by
  rw [stateCheck?] at hread
  split at hread
  next before found after hsplit =>
    intro t ht
    rcases mem_stripLeading_or ht with hkept | hstripped
    · rw [(splitAtFirst?_eq_some hsplit).1] at hkept
      exact is_as_of_relationCheck? hread t hkept
    · exact Token.is_of_isAnyOf hstripped (by decide)
  next =>
    rw [Option.orElse_eq_orElse, Option.orElse_eq_or] at hread
    rcases Option.or_eq_some_iff.mp hread with hproperty | ⟨-, hquery⟩
    · exact is_as_of_propertyCheck? hproperty
    · obtain ⟨d, hd, -⟩ := Option.map_eq_some_iff.mp hquery
      exact is_as_of_description? hd

theorem is_as_of_check? (hread : check? tokens = some a) : ∀ t ∈ tokens, t.is "as" = false := by
  have hexistence : ∀ {rest : List Token}, (description? rest).map .verifyExistence = some a →
      ∀ t ∈ rest, t.is "as" = false := by
    intro rest hread
    obtain ⟨d, hd, -⟩ := Option.map_eq_some_iff.mp hread
    exact is_as_of_description? hd
  have hother : (if tokens.getLast?.any fun t => t.isAnyOf ["exists", "exist"] then
      (description? tokens.dropLast).map .verifyExistence else stateCheck? tokens) = some a →
        ∀ t ∈ tokens, t.is "as" = false := by
    intro hread
    split at hread
    next hlast =>
      have hstrip : stripTrailing ["exists", "exist"] tokens = tokens.dropLast := if_pos hlast
      intro t ht
      rcases mem_stripTrailing_or ht with hkept | hstripped
      · exact hexistence hread t (hstrip ▸ hkept)
      · exact Token.is_of_isAnyOf hstripped (by decide)
    next => exact is_as_of_stateCheck? hread
  rw [check?.eq_def] at hread
  dsimp only at hread
  split at hread
  next s t rest =>
    split at hread
    next hverb =>
      obtain ⟨owner, howner, hread⟩ := Option.bind_eq_some_iff.mp hread
      obtain ⟨d, hd, -⟩ := Option.bind_eq_some_iff.mp hread
      have hmeaning : s.meaning?.isSome := by
        rw [owner?] at howner
        split at howner
        next hm => rw [hm]; rfl
        next => cases howner
      exact List.forall_mem_cons.mpr ⟨Token.is_of_meaning? hmeaning "as", List.forall_mem_cons.mpr
        ⟨Token.is_of_isAnyOf hverb (by decide), is_as_of_description? hd⟩⟩
    next =>
      split at hread
      next hthere =>
        obtain ⟨hs, ht⟩ := Bool.and_eq_true_iff.mp hthere
        exact List.forall_mem_cons.mpr ⟨Token.is_of_is hs (by decide), List.forall_mem_cons.mpr
          ⟨Token.is_of_isAnyOf ht (by decide), hexistence hread⟩⟩
      next => exact hother hread
  next => exact hother hread

/-! ### The words of a conditional -/

variable {marker : Marker} {text : String} {negated : Bool}

theorem meaning?_of_marker? (ht : marker? t = some marker) :
    t.meaning? = some (.clause marker) := by
  rw [marker?] at ht
  split at ht
  next hm =>
    cases ht
    exact hm
  next => cases ht

theorem splitAtFirst?_append {p : Token → Bool} (hbefore : ∀ t ∈ before, p t = false)
    (hfound : p found = true) (after : List Token) :
    splitAtFirst? p (before ++ found :: after) = some (before, found, after) := by
  induction before with
  | nil => rw [List.nil_append, splitAtFirst?, if_pos hfound]
  | cons t before ih =>
      obtain ⟨ht, hbefore⟩ := List.forall_mem_cons.mp hbefore
      rw [List.cons_append, splitAtFirst?, if_neg (by simp [ht]), ih hbefore, Option.map_some]

theorem whatQuestion?_if (ht : marker? t = some .if) (tokens : List Token) :
    whatQuestion? (t :: tokens) = hypothesis? tokens := by
  have hopen : openQuestion? (t :: tokens) = hypothesis? tokens := if_pos ht
  have hstructural : t.isStructural = false :=
    Token.isStructural_of_meaning? (by rw [meaning?_of_marker? ht]; rfl)
  have hauxiliary := Token.isAnyOf_of_isStructural hstructural ["do", "does"]
  rcases tokens with _ | ⟨b, _ | ⟨c, _ | ⟨d, subject⟩⟩⟩
  · exact hopen
  · exact hopen
  · rw [whatQuestion?, hauxiliary, Bool.false_and]
    exact hopen
  · rw [whatQuestion?.eq_def]
    dsimp only
    rw [hauxiliary, Bool.false_and]
    exact hopen

theorem kind_of_conditional? (hread : conditional? negated tokens = some a) :
    a.kind = .conditionalExecution := by
  rw [conditional?] at hread
  obtain ⟨_, -, hread⟩ := Option.bind_eq_some_iff.mp hread
  obtain ⟨_, -, hread⟩ := Option.bind_eq_some_iff.mp hread
  obtain ⟨_, -, hread⟩ := Option.bind_eq_some_iff.mp hread
  obtain ⟨_, -, hread⟩ := Option.bind_eq_some_iff.mp hread
  split at hread
  next => cases hread
  next =>
    cases hread
    rfl

theorem stateCheck?_of_marker? (ht : marker? t = some marker) (htype : t.hasType .relation = false)
    (rest : List Token) : stateCheck? (t :: rest) = none := by
  have hmeaning := meaning?_of_marker? ht
  have hstructural := Token.isStructural_of_meaning? (t := t) (by rw [hmeaning]; rfl)
  have hname : t.objectName? = none := by
    cases hrole : t.role with
    | objectName => simp [Token.meaning?, Token.entry?, hrole] at hmeaning
    | _ => rw [Token.objectName?, hrole]
  have hdescription : description? (t :: rest) = none := by
    rw [description?, content_cons (by rw [hmeaning]; rfl), readAlternatives, hmeaning]
    rfl
  have hproperty : propertyCheck? (t :: rest) = none := by
    cases rest with
    | nil => rfl
    | cons u rest =>
        rw [propertyCheck?, Token.is_of_isStructural hstructural, hname]
        simp
  have hleading : stripLeading ["is", "are"] (t :: rest) = t :: rest :=
    if_neg (by simp [Token.isAnyOf_of_isStructural hstructural])
  rw [stateCheck?, hleading, splitAtFirst?, if_neg (by simp [htype])]
  cases hsplit : splitAtFirst? (fun t => t.hasType .relation) rest with
  | none =>
      rw [Option.map_none]
      dsimp only
      rw [hproperty, hdescription]
      rfl
  | some parts =>
      obtain ⟨before, found, after⟩ := parts
      rw [Option.map_some]
      dsimp only
      rw [relationCheck?.eq_def]
      split
      next l r hstrip =>
        have hmem : t ∈ stripTrailing ["is", "are"] (t :: before) :=
          (mem_stripTrailing_or List.mem_cons_self).resolve_right
            (by simp [Token.isAnyOf_of_isStructural hstructural])
        rw [hstrip, List.mem_singleton] at hmem
        rw [← hmem, hname]
        rfl
      next => rfl

theorem simpleCommand?_of_marker? (ht : marker? t = some marker)
    (hsocial : t.hasType .social = false) (hrelation : t.hasType .relation = false)
    (rest : List Token) : simpleCommand? (t :: rest) = none := by
  rw [simpleCommand?, hsocial, Bool.and_false, if_neg Bool.false_ne_true, meaning?_of_marker? ht]
  exact stateCheck?_of_marker? ht hrelation rest

theorem hasType_of_marker? {lessons : List Lesson} {wordType : WordType}
    (ht : t ∈ tokenize text (Lexicon.ofLessons lessons) w) (hmarker : marker? t = some marker)
    (hother : wordType ≠ .conditional) : t.hasType wordType = false := by
  obtain ⟨e, hentry, hmeaning⟩ := Option.map_eq_some_iff.mp (meaning?_of_marker? hmarker)
  obtain ⟨hmem, -⟩ := Lexicon.mem_of_get? (get?_of_taughtToken ht hentry).1
  obtain ⟨-, -, -, -, hcompile⟩ := Lexicon.canonical_ofLessons lessons e hmem
  rw [hmeaning] at hcompile
  rw [Token.hasType, hentry, Option.any_some, Meaning.wordType_of_clause hcompile]
  exact beq_false_of_ne hother.symm

end Utterance

end Apprentice
