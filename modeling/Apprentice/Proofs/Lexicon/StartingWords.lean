import Apprentice.Agent.Basic
import Apprentice.Proofs.Description.Reads
import Apprentice.Proofs.Lexicon.Growth

/-!
# Starting words

Before it is spoken to, an agent is taught the words of seed packs and then those of curricula. No
meaning that was there before is touched by that, and to do all of it once more changes nothing:
what was taught is known, and what was refused is refused again. A line may be refused for another
cause the second time, when a later line has given its word a meaning, but it is the same lines that
are.
-/

namespace Apprentice

variable {lexicon later : Lexicon}

/-! ### Items one after the other -/

namespace Lexicon

variable {Report Item : Type} {step : Report × Lexicon → Item → Report × Lexicon}

theorem grows_foldl (hgrows : ∀ state item, Grows state.2 (step state item).2) (items : List Item)
    (state : Report × Lexicon) : Grows state.2 (items.foldl step state).2 := by
  induction items generalizing state with
  | nil => exact .refl state.2
  | cons item items ih => exact (hgrows state item).trans (ih _)

/-- Going through items again. If each of them leaves a lexicon as it is that has grown since it was
taught, and its report stands in a relation to the first one, then so it is with all of them. -/
theorem foldl_again {R : Report → Report → Prop}
    (hgrows : ∀ state item, Grows state.2 (step state item).2)
    (hagain : ∀ state item again later, R state.1 again → Grows (step state item).2 later →
      ∃ next, step (again, later) item = (next, later) ∧ R (step state item).1 next)
    (items : List Item) (state : Report × Lexicon) (again : Report) (hrelated : R state.1 again)
    (hlater : Grows (items.foldl step state).2 later) :
    ∃ last, items.foldl step (again, later) = (last, later) ∧
      R (items.foldl step state).1 last := by
  induction items generalizing state again with
  | nil => exact ⟨again, rfl, hrelated⟩
  | cons item items ih =>
      have hgrown : Grows (step state item).2 later :=
        (grows_foldl hgrows items (step state item)).trans hlater
      obtain ⟨next, hnext, hrelated⟩ := hagain state item again later hrelated hgrown
      obtain ⟨last, hlast, hrelated⟩ := ih (step state item) next hrelated hlater
      refine ⟨last, ?_, hrelated⟩
      rw [List.foldl_cons, hnext, hlast]

end Lexicon

/-! ### Seed packs -/

namespace SeedPack

theorem grows_teachWord (state : SeedReport × Lexicon) (word : SeedWord) :
    state.2.Grows (teachWord state word).2 := by
  obtain ⟨report, lexicon⟩ := state
  rw [teachWord]
  dsimp only
  split
  next => exact .refl lexicon
  next =>
    split
    next hteach => exact Lexicon.grows_of_teach hteach
    next hteach => exact Lexicon.grows_of_teach hteach
    next => exact .refl lexicon

theorem known_of_teachWord {state : SeedReport × Lexicon} {word : SeedWord}
    (hgrows : (teachWord state word).2.Grows later) : later.contains word.word = true ∨
      ∃ cause, later.teach word.word word.wordType word.expression false = .error cause := by
  obtain ⟨report, lexicon⟩ := state
  have hlearned : ∀ {outcome taught}, lexicon.teach word.word word.wordType word.expression false =
      .ok (outcome, taught) → taught.Grows later → later.contains word.word = true := by
    intro outcome taught hteach hgrows
    obtain ⟨e, hget, -⟩ := (Lexicon.learns_of_teach
      ⟨word.word, word.wordType, word.expression, false⟩ hteach).exists_answer
    exact hgrows.contains (Option.isSome_of_eq_some hget)
  rw [teachWord] at hgrows
  split at hgrows
  next hcontains => exact .inl (hgrows.contains hcontains)
  next =>
    split at hgrows
    next hteach => exact .inl (hlearned hteach hgrows)
    next hteach => exact .inl (hlearned hteach hgrows)
    next hrefused => exact .inr (hgrows.teach_of_error hrefused)

theorem teachWord_again (state : SeedReport × Lexicon) (word : SeedWord) (again : SeedReport)
    (later : Lexicon) (hnothing : again.learned = 0)
    (hgrows : (teachWord state word).2.Grows later) :
    ∃ next, teachWord (again, later) word = (next, later) ∧ next.learned = 0 := by
  rw [teachWord]
  split
  next => exact ⟨_, rfl, hnothing⟩
  next hnew =>
    rcases known_of_teachWord hgrows with hcontains | ⟨cause, hrefused⟩
    · exact absurd hcontains hnew
    · rw [hrefused]
      exact ⟨_, rfl, hnothing⟩

theorem grows_apply (pack : SeedPack) (lexicon : Lexicon) : lexicon.Grows (pack.apply lexicon).2 :=
  Lexicon.grows_foldl grows_teachWord pack.words (⟨pack.id, 0, 0, []⟩, lexicon)

theorem apply_again (pack : SeedPack) (hgrows : (pack.apply lexicon).2.Grows later) :
    ∃ report, pack.apply later = (report, later) ∧ report.learned = 0 :=
  Lexicon.foldl_again (R := fun _ (again : SeedReport) => again.learned = 0) grows_teachWord
    teachWord_again pack.words (⟨pack.id, 0, 0, []⟩, lexicon) ⟨pack.id, 0, 0, []⟩ rfl hgrows

end SeedPack

namespace SeedRegistry

variable {registry : SeedRegistry} {ids : List String}

theorem exists_applyAll (hids : ∀ id ∈ ids, ∃ pack, registry.get id = .ok pack)
    (lexicon : Lexicon) :
    ∃ reports seeded, registry.applyAll ids lexicon = .ok (reports, seeded) ∧
      lexicon.Grows seeded ∧
      ∀ later, seeded.Grows later → ∃ again, registry.applyAll ids later = .ok (again, later) ∧
        ∀ report ∈ again, report.learned = 0 := by
  induction ids generalizing lexicon with
  | nil => exact ⟨[], lexicon, rfl, .refl lexicon, fun later _ => ⟨[], rfl, List.forall_mem_nil _⟩⟩
  | cons id ids ih =>
      obtain ⟨⟨pack, hpack⟩, hids⟩ := List.forall_mem_cons.mp hids
      obtain ⟨reports, seeded, hall, hgrows, hagain⟩ := ih hids (pack.apply lexicon).2
      have happly : ∀ lexicon, registry.apply id lexicon = .ok (pack.apply lexicon) := by
        intro lexicon
        rw [apply, hpack]
        rfl
      refine ⟨(pack.apply lexicon).1 :: reports, seeded, ?_,
        (pack.grows_apply lexicon).trans hgrows, fun later hlater => ?_⟩
      · rw [applyAll, happly]
        change (registry.applyAll ids (pack.apply lexicon).2 >>= _) = _
        rw [hall]
        rfl
      · obtain ⟨report, hreport, hnothing⟩ := pack.apply_again (hgrows.trans hlater)
        obtain ⟨again, hall, hnone⟩ := hagain later hlater
        refine ⟨report :: again, ?_, List.forall_mem_cons.mpr ⟨hnothing, hnone⟩⟩
        rw [applyAll, happly, hreport]
        change (registry.applyAll ids later >>= _) = _
        rw [hall]
        rfl

theorem exists_pack_of_applyAll {result : List SeedReport × Lexicon}
    (hall : registry.applyAll ids lexicon = .ok result) :
    ∀ id ∈ ids, ∃ pack, registry.get id = .ok pack := by
  induction ids generalizing lexicon result with
  | nil => exact List.forall_mem_nil _
  | cons id ids ih =>
      rw [applyAll] at hall
      obtain ⟨_, happly, hall⟩ := bind_eq_ok hall
      obtain ⟨pack, hpack, -⟩ := bind_eq_ok happly
      obtain ⟨_, hrest, -⟩ := bind_eq_ok hall
      exact List.forall_mem_cons.mpr ⟨⟨pack, hpack⟩, ih hrest⟩

end SeedRegistry

/-! ### Curricula -/

def CurriculumReport.failedLines (report : CurriculumReport) : List Nat :=
  report.failed.map Prod.fst

/-- Whether a report on the same lines has nothing new to tell: no word was learned, and the same
lines were refused. -/
structure CurriculumReport.Repeats (report again : CurriculumReport) : Prop where
  learned : again.learned = 0
  failed : again.failedLines = report.failedLines

theorem CurriculumReport.Repeats.refused {report again : CurriculumReport}
    (hrepeats : report.Repeats again) (number : Nat) (first second : CurriculumError) :
    Repeats ⟨report.learned, report.unchanged, report.failed ++ [(number, first)]⟩
      ⟨again.learned, again.unchanged, again.failed ++ [(number, second)]⟩ where
  learned := hrepeats.learned
  failed := by
    have hfailed := hrepeats.failed
    rw [failedLines, failedLines] at hfailed ⊢
    rw [List.map_append, List.map_append, hfailed]
    rfl

namespace Curriculum

theorem grows_teachLine (state : CurriculumReport × Lexicon) (line : CurriculumLine) :
    state.2.Grows (teachLine state line).2 := by
  obtain ⟨report, lexicon⟩ := state
  cases line with
  | malformed number text => exact .refl lexicon
  | lesson number wordType word expression =>
      rw [teachLine]
      split
      next => exact .refl lexicon
      next hteach =>
        obtain ⟨_, -, hteach⟩ := bind_eq_ok hteach
        exact Lexicon.grows_of_teach hteach
      next => exact .refl lexicon

theorem teachLesson_of_ok {wordType word expression : String} {outcome : TeachOutcome}
    {taught : Lexicon} (hteach : teachLesson lexicon wordType word expression = .ok (outcome, taught))
    (hgrows : taught.Grows later) :
    teachLesson later wordType word expression = .ok (.unchanged, later) := by
  rw [teachLesson] at hteach ⊢
  obtain ⟨parsed, hparse, hteach⟩ := bind_eq_ok hteach
  rw [hparse]
  dsimp only [bind, Except.bind]
  exact hgrows.teach_of_ok hteach

theorem teachLesson_of_error {wordType word expression : String} {cause : TeachError}
    (hrefused : teachLesson lexicon wordType word expression = .error cause)
    (hgrows : lexicon.Grows later) :
    ∃ cause, teachLesson later wordType word expression = .error cause := by
  rw [teachLesson] at hrefused ⊢
  cases hparse : WordType.parse wordType with
  | error cause => exact ⟨cause, rfl⟩
  | ok parsed =>
      rw [hparse] at hrefused
      dsimp only [bind, Except.bind] at hrefused ⊢
      exact hgrows.teach_of_error hrefused

theorem teachLesson_unchanged {wordType word expression : String} {taught : Lexicon}
    (hteach : teachLesson lexicon wordType word expression = .ok (.unchanged, taught)) :
    taught = lexicon := by
  rw [teachLesson] at hteach
  obtain ⟨parsed, -, hteach⟩ := bind_eq_ok hteach
  obtain ⟨-, hsame, -⟩ | ⟨hlearned, -⟩ := Lexicon.teach_once hteach
  · exact hsame
  · cases hlearned

theorem teachLine_again (state : CurriculumReport × Lexicon) (line : CurriculumLine)
    (again : CurriculumReport) (later : Lexicon) (hrepeats : state.1.Repeats again)
    (hgrows : (teachLine state line).2.Grows later) :
    ∃ next, teachLine (again, later) line = (next, later) ∧
      (teachLine state line).1.Repeats next := by
  obtain ⟨report, lexicon⟩ := state
  cases line with
  | malformed number text => exact ⟨_, rfl, hrepeats.refused number _ _⟩
  | lesson number wordType word expression =>
      rw [teachLine] at hgrows ⊢
      rw [teachLine]
      cases hteach : teachLesson lexicon wordType word expression with
      | error cause =>
          rw [hteach] at hgrows
          obtain ⟨other, hrefused⟩ := teachLesson_of_error hteach hgrows
          rw [hrefused]
          exact ⟨_, rfl, hrepeats.refused number _ _⟩
      | ok result =>
          obtain ⟨outcome, taught⟩ := result
          rw [hteach] at hgrows
          have hgrown : taught.Grows later := by
            cases outcome with
            | unchanged => exact teachLesson_unchanged hteach ▸ hgrows
            | learned | replaced => exact hgrows
          rw [teachLesson_of_ok hteach hgrown]
          refine ⟨_, rfl, ?_⟩
          cases outcome <;> exact ⟨hrepeats.learned, hrepeats.failed⟩

theorem grows_teach (lexicon : Lexicon) (text : String) : lexicon.Grows (teach lexicon text).2 :=
  Lexicon.grows_foldl grows_teachLine (read text) ({}, lexicon)

theorem teach_again (text : String) (hgrows : (teach lexicon text).2.Grows later) :
    ∃ report, teach later text = (report, later) ∧ (teach lexicon text).1.Repeats report :=
  Lexicon.foldl_again (R := CurriculumReport.Repeats) grows_teachLine teachLine_again (read text)
    ({}, lexicon) {} ⟨rfl, rfl⟩ hgrows

/-- Teaches texts one after the other. -/
def teachAll (lexicon : Lexicon) : List String → List CurriculumReport × Lexicon
  | [] => ([], lexicon)
  | text :: texts =>
    let (report, taught) := teach lexicon text
    let (reports, last) := teachAll taught texts
    (report :: reports, last)

theorem grows_teachAll (lexicon : Lexicon) (texts : List String) :
    lexicon.Grows (teachAll lexicon texts).2 := by
  induction texts generalizing lexicon with
  | nil => exact .refl lexicon
  | cons text texts ih => exact (grows_teach lexicon text).trans (ih _)

theorem teachAll_again (texts : List String) (hgrows : (teachAll lexicon texts).2.Grows later) :
    ∃ reports, teachAll later texts = (reports, later) ∧
      (∀ report ∈ reports, report.learned = 0) ∧
      reports.map CurriculumReport.failedLines =
        (teachAll lexicon texts).1.map CurriculumReport.failedLines := by
  induction texts generalizing lexicon with
  | nil => exact ⟨[], rfl, List.forall_mem_nil _, rfl⟩
  | cons text texts ih =>
      obtain ⟨report, hreport, hrepeats⟩ :=
        teach_again text ((grows_teachAll (teach lexicon text).2 texts).trans hgrows)
      obtain ⟨reports, hreports, hnone, hfailed⟩ := ih hgrows
      refine ⟨report :: reports, ?_, List.forall_mem_cons.mpr ⟨hrepeats.learned, hnone⟩, ?_⟩
      · rw [teachAll, hreport]
        dsimp only
        rw [hreports]
      · rw [List.map_cons, hrepeats.failed, hfailed]
        rfl

theorem learnAll_again {disk : Disk} {paths : List String} {last : Lexicon}
    (hlearn : learnAll disk paths lexicon = .ok last) :
    lexicon.Grows last ∧ ∀ later, last.Grows later → learnAll disk paths later = .ok later := by
  induction paths generalizing lexicon with
  | nil =>
      cases hlearn
      exact ⟨.refl _, fun _ _ => rfl⟩
  | cons path paths ih =>
      rw [learnAll, learn] at hlearn
      cases hread : disk.read? path with
      | none =>
          rw [hread] at hlearn
          cases hlearn
      | some text =>
          rw [hread] at hlearn
          obtain ⟨hgrows, hagain⟩ := ih hlearn
          refine ⟨(grows_teach lexicon text).trans hgrows, fun later hlater => ?_⟩
          obtain ⟨report, hreport, -⟩ := teach_again text (hgrows.trans hlater)
          rw [learnAll, learn, hread]
          dsimp only [bind, Except.bind]
          rw [hreport]
          exact hagain later hlater

end Curriculum

/-! ### All starting words -/

/-- What became of starting words, and the lexicon with them. -/
structure Equipped where
  packs : List SeedReport
  curricula : List CurriculumReport
  lexicon : Lexicon

namespace SeedRegistry

variable {registry : SeedRegistry} {ids : List String}

/-- Teaches the words of packs, and then those of texts. -/
def equip (registry : SeedRegistry) (ids texts : List String) (lexicon : Lexicon) :
    Except SeedError Equipped := do
  let (packs, seeded) ← registry.applyAll ids lexicon
  let (curricula, taught) := Curriculum.teachAll seeded texts
  return ⟨packs, curricula, taught⟩

/-- Starting words leave all entries as they are. Taught again to the lexicon that they led to, they
leave it as it is: no pack and no text has a word that is learned then, and the same lines of the
texts are refused. -/
theorem equip_again (hids : ∀ id ∈ ids, ∃ pack, registry.get id = .ok pack) (texts : List String)
    (lexicon : Lexicon) :
    ∃ first second, registry.equip ids texts lexicon = .ok first ∧
      (∀ e ∈ lexicon.entries, e ∈ first.lexicon.entries) ∧
      registry.equip ids texts first.lexicon = .ok second ∧ second.lexicon = first.lexicon ∧
      (∀ report ∈ second.packs, report.learned = 0) ∧
      (∀ report ∈ second.curricula, report.learned = 0) ∧
      second.curricula.map CurriculumReport.failedLines =
        first.curricula.map CurriculumReport.failedLines := by
  obtain ⟨reports, seeded, hseeded, hgrows, hagain⟩ := exists_applyAll hids lexicon
  have hgrown := Curriculum.grows_teachAll seeded texts
  obtain ⟨packs, hpacks, hnone⟩ := hagain (Curriculum.teachAll seeded texts).2 hgrown
  obtain ⟨curricula, hcurricula, hnothing, hfailed⟩ :=
    Curriculum.teachAll_again texts (.refl (Curriculum.teachAll seeded texts).2)
  refine ⟨⟨reports, (Curriculum.teachAll seeded texts).1, (Curriculum.teachAll seeded texts).2⟩,
    ⟨packs, curricula, (Curriculum.teachAll seeded texts).2⟩, ?_,
    fun e he => (hgrows.trans hgrown).mem he, ?_, rfl, hnone, hnothing, hfailed⟩
  · rw [equip, hseeded]
    rfl
  · rw [equip, hpacks]
    dsimp only [bind, Except.bind]
    rw [hcurricula]
    rfl

/-- The lines of a text are refused again, though the word of the first of them can be learned by
then. -/
theorem equip_again_jump :
    let texts := ["action :: jump :: fly\nsocial :: jump :: hop\n jump", "social :: jump :: leap"]
    (∀ id ∈ ["core", "social"], ∃ pack, bundled.get id = .ok pack) ∧
      ∃ first second, bundled.equip ["core", "social"] texts .empty = .ok first ∧
        bundled.equip ["core", "social"] texts first.lexicon = .ok second ∧
        second.lexicon = first.lexicon ∧
        second.curricula.map CurriculumReport.failedLines = [[1, 3], [1]] := by
  intro texts
  have hids : ∀ id ∈ ["core", "social"], ∃ pack, bundled.get id = .ok pack := by
    refine List.forall_mem_cons.mpr ⟨⟨.core, rfl⟩, List.forall_mem_singleton.mpr ⟨.social, ?_⟩⟩
    rfl
  obtain ⟨first, second, hfirst, -, hsecond, hsame, -, -, hfailed⟩ := equip_again hids texts .empty
  have hlines : (bundled.equip ["core", "social"] texts .empty).toOption.map (fun equipped =>
      equipped.curricula.map CurriculumReport.failedLines) = some [[1, 3], [1]] := by
    decide +kernel
  rw [hfirst] at hlines
  exact ⟨hids, first, second, hfirst, hsecond, hsame, hfailed.trans (Option.some.inj hlines)⟩

end SeedRegistry

theorem Config.equip_equipped {config : Config} {disk : Disk} {equipped : Lexicon}
    (hequip : config.equip disk lexicon = .ok equipped) :
    lexicon.Grows equipped ∧ config.equip disk equipped = .ok equipped := by
  rw [Config.equip] at hequip ⊢
  obtain ⟨⟨packs, seeded⟩, hseeded, hlearn⟩ := bind_eq_ok hequip
  have hseeded := mapError_eq_ok hseeded
  obtain ⟨hgrown, hlearnAgain⟩ := Curriculum.learnAll_again (mapError_eq_ok hlearn)
  obtain ⟨_, _, hall, hgrows, hagain⟩ := SeedRegistry.exists_applyAll
    (SeedRegistry.exists_pack_of_applyAll hseeded) lexicon
  cases hseeded.symm.trans hall
  obtain ⟨again, happly, -⟩ := hagain equipped hgrown
  refine ⟨hgrows.trans hgrown, ?_⟩
  rw [happly]
  dsimp only [bind, Except.bind, Except.mapError]
  rw [hlearnAgain equipped (.refl equipped)]

end Apprentice
