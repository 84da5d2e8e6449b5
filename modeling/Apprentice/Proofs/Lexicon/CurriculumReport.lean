import Apprentice.Proofs.Lexicon.CurriculumLine
import Apprentice.Proofs.Lexicon.Growth
import Mathlib.Data.List.Nodup

/-!
# Reports on curricula

Every line of a curriculum meets one fate: it is skipped, learned, known already or rejected. What
is reported is how many lines met which fate, and which lines were rejected, by their places among
all lines. What becomes of the lexicon is what the lessons among the lines make of it; a line that
is rejected may as well not be there.
-/

namespace Apprentice.Curriculum

variable {lexicon next last : Lexicon} {line : List Char} {lines : List (List Char)}
  {lesson : Lesson} {number : Nat} {text : String}

/-- Whether a line says a lesson: it is written as one, and its type is one. -/
structure Teaches (line : List Char) (lesson : Lesson) : Prop where
  written : ∃ wordType, Written line wordType lesson.word lesson.expression ∧
    WordType.parse wordType = .ok lesson.wordType
  once : lesson.replace = false

/-! ### Fates -/

inductive Fate where
  | skipped
  | learned
  | unchanged
  | rejected (cause : CurriculumError)
  deriving DecidableEq

def Fate.cause? : Fate → Option CurriculumError
  | rejected cause => some cause
  | _ => none

/-- What fate a line meets, and what becomes of the lexicon. -/
inductive Deals (lexicon : Lexicon) (line : List Char) : Fate → Lexicon → Prop where
  | skipped (hskipped : ¬Counts line) : Deals lexicon line .skipped lexicon
  | malformed (hcounts : Counts line)
      (hform : ∀ wordType word expression, ¬Written line wordType word expression) :
      Deals lexicon line (.rejected (.malformed (String.ofList (Text.trim line)))) lexicon
  | untyped {wordType word expression : String} {cause : TeachError}
      (hwritten : Written line wordType word expression)
      (htype : WordType.parse wordType = .error cause) :
      Deals lexicon line (.rejected (.refused cause)) lexicon
  | refused {lesson : Lesson} {cause : TeachError} (hteaches : Teaches line lesson)
      (hrefused : lexicon.teach lesson.word lesson.wordType lesson.expression lesson.replace =
        .error cause) :
      Deals lexicon line (.rejected (.refused cause)) lexicon
  | unchanged {lesson : Lesson} {next : Lexicon} (hteaches : Teaches line lesson)
      (hteach : lexicon.teach lesson.word lesson.wordType lesson.expression lesson.replace =
        .ok (.unchanged, next)) :
      Deals lexicon line .unchanged next
  | learned {lesson : Lesson} {next : Lexicon} (hteaches : Teaches line lesson)
      (hteach : lexicon.teach lesson.word lesson.wordType lesson.expression lesson.replace =
        .ok (.learned, next)) :
      Deals lexicon line .learned next

theorem exists_deals (lexicon : Lexicon) (line : List Char) :
    ∃ fate next, Deals lexicon line fate next := by
  by_cases hcounts : Counts line
  · by_cases hform : ∃ wordType word expression, Written line wordType word expression
    · obtain ⟨wordType, word, expression, hwritten⟩ := hform
      cases htype : WordType.parse wordType with
      | error cause => exact ⟨_, _, .untyped hwritten htype⟩
      | ok parsed =>
          have hteaches : Teaches line ⟨word, parsed, expression, false⟩ :=
            ⟨⟨wordType, hwritten, htype⟩, rfl⟩
          cases hteach : lexicon.teach word parsed expression false with
          | error cause => exact ⟨_, _, .refused hteaches hteach⟩
          | ok result =>
              obtain ⟨outcome, next⟩ := result
              obtain ⟨rfl, -⟩ | ⟨rfl, -⟩ := Lexicon.teach_once hteach
              · exact ⟨_, _, .unchanged hteaches hteach⟩
              · exact ⟨_, _, .learned hteaches hteach⟩
    · push Not at hform
      exact ⟨_, _, .malformed hcounts hform⟩
  · exact ⟨_, _, .skipped hcounts⟩

/-! ### One line -/

def enter (report : CurriculumReport) (number : Nat) : Fate → CurriculumReport
  | .skipped => report
  | .learned => { report with learned := report.learned + 1 }
  | .unchanged => { report with unchanged := report.unchanged + 1 }
  | .rejected cause => { report with failed := report.failed ++ [(number, cause)] }

/-- A line that says a lesson is read as one, and to teach it is to teach the lesson. -/
theorem Teaches.exists_reading (hteaches : Teaches line lesson) (number : Nat) :
    ∃ wordType, readLine? number line =
        some (.lesson number wordType lesson.word lesson.expression) ∧
      ∀ lexicon, teachLesson lexicon wordType lesson.word lesson.expression =
        lexicon.teach lesson.word lesson.wordType lesson.expression lesson.replace := by
  obtain ⟨⟨wordType, hwritten, htype⟩, honce⟩ := hteaches
  refine ⟨wordType, readLine?_of_written hwritten number, fun lexicon => ?_⟩
  rw [teachLesson, htype, honce]
  dsimp only [bind, Except.bind]

theorem foldl_reading {reading : CurriculumLine} (hread : readLine? number line = some reading)
    (state : CurriculumReport × Lexicon) :
    (readLine? number line).toList.foldl teachLine state = teachLine state reading := by
  rw [hread]
  rfl

theorem Deals.teachLine {fate : Fate} (hdeals : Deals lexicon line fate next)
    (report : CurriculumReport) (number : Nat) :
    (readLine? number line).toList.foldl Curriculum.teachLine (report, lexicon) =
      (enter report number fate, next) := by
  cases hdeals with
  | skipped hskipped =>
      rw [readLine?_of_not_counts hskipped]
      rfl
  | malformed hcounts hform =>
      rw [foldl_reading (readLine?_of_malformed hcounts hform number)]
      rfl
  | @untyped wordType word expression cause hwritten htype =>
      have hlesson : teachLesson lexicon wordType word expression = .error cause := by
        rw [teachLesson, htype]
        rfl
      rw [foldl_reading (readLine?_of_written hwritten number), Curriculum.teachLine, hlesson]
      rfl
  | refused hteaches hrefused =>
      obtain ⟨wordType, hread, hlesson⟩ := hteaches.exists_reading number
      rw [foldl_reading hread, Curriculum.teachLine, hlesson, hrefused]
      rfl
  | unchanged hteaches hteach =>
      obtain ⟨wordType, hread, hlesson⟩ := hteaches.exists_reading number
      rw [foldl_reading hread, Curriculum.teachLine, hlesson, hteach,
        show next = lexicon from (Lexicon.learns_of_teach _ hteach).accounts]
      rfl
  | learned hteaches hteach =>
      obtain ⟨wordType, hread, hlesson⟩ := hteaches.exists_reading number
      rw [foldl_reading hread, Curriculum.teachLine, hlesson, hteach]
      rfl

theorem enter_injective (number : Nat) : Function.Injective (enter {} number) := by
  intro fate other heq
  cases fate <;> cases other <;> simp_all [enter]

theorem Deals.unique {fate other : Fate} {later : Lexicon} (hdeals : Deals lexicon line fate next)
    (hother : Deals lexicon line other later) : fate = other ∧ next = later := by
  have heq := (hdeals.teachLine {} 0).symm.trans (hother.teachLine {} 0)
  exact ⟨enter_injective _ (Prod.mk.inj heq).1, (Prod.mk.inj heq).2⟩

/-! ### All lines -/

/-- What fates lines meet one after the other, and what becomes of the lexicon. -/
inductive Runs : Lexicon → List (List Char) → List Fate → Lexicon → Prop where
  | nil (lexicon : Lexicon) : Runs lexicon [] [] lexicon
  | cons {lexicon next last : Lexicon} {line : List Char} {lines : List (List Char)} {fate : Fate}
      {fates : List Fate} (hdeals : Deals lexicon line fate next)
      (hruns : Runs next lines fates last) : Runs lexicon (line :: lines) (fate :: fates) last

theorem exists_runs (lexicon : Lexicon) (lines : List (List Char)) :
    ∃ fates last, Runs lexicon lines fates last := by
  induction lines generalizing lexicon with
  | nil => exact ⟨[], lexicon, .nil lexicon⟩
  | cons line lines ih =>
      obtain ⟨fate, next, hdeals⟩ := exists_deals lexicon line
      obtain ⟨fates, last, hruns⟩ := ih next
      exact ⟨fate :: fates, last, .cons hdeals hruns⟩

variable {fates : List Fate}

theorem Runs.unique {others : List Fate} {later : Lexicon} (hruns : Runs lexicon lines fates last)
    (hothers : Runs lexicon lines others later) : fates = others ∧ last = later := by
  induction hruns generalizing others later with
  | nil lexicon =>
      cases hothers
      exact ⟨rfl, rfl⟩
  | cons hdeals hruns ih =>
      cases hothers with
      | cons hother hothers =>
          obtain ⟨rfl, rfl⟩ := hdeals.unique hother
          obtain ⟨rfl, rfl⟩ := ih hothers
          exact ⟨rfl, rfl⟩

/-- The lines that were rejected, by their numbers, and why. -/
def rejections (number : Nat) (fates : List Fate) : List (Nat × CurriculumError) :=
  (fates.zipIdx number).filterMap fun (fate, place) => fate.cause?.map (place, ·)

def tally (report : CurriculumReport) (number : Nat) (fates : List Fate) : CurriculumReport :=
  ⟨report.learned + fates.count .learned, report.unchanged + fates.count .unchanged,
    report.failed ++ rejections number fates⟩

theorem tally_enter (report : CurriculumReport) (number : Nat) (fate : Fate) (fates : List Fate) :
    tally (enter report number fate) (number + 1) fates = tally report number (fate :: fates) := by
  cases fate <;>
    simp [tally, enter, rejections, List.zipIdx_cons, Fate.cause?, Nat.add_right_comm,
      Nat.add_assoc]

theorem Runs.teachLines (hruns : Runs lexicon lines fates last) (report : CurriculumReport)
    (number : Nat) :
    (readLines number lines).foldl teachLine (report, lexicon) =
      (tally report number fates, last) := by
  induction hruns generalizing report number with
  | nil lexicon => simp [readLines, tally, rejections]
  | cons hdeals hruns ih =>
      rw [readLines, List.foldl_append, hdeals.teachLine, ih, tally_enter]

/-! ### Rejected lines -/

theorem rejections_cons (number : Nat) (fate : Fate) (fates : List Fate) :
    rejections number (fate :: fates) =
      (fate.cause?.map (number, ·)).toList ++ rejections (number + 1) fates := by
  rw [rejections, List.zipIdx_cons, List.filterMap_cons]
  cases fate <;> rfl

theorem mem_rejections {cause : CurriculumError} {place : Nat} :
    (place, cause) ∈ rejections number fates ↔
      number ≤ place ∧ fates[place - number]? = some (.rejected cause) := by
  simp only [rejections, List.mem_filterMap, Prod.exists, List.mem_zipIdx_iff_le_and_getElem?_sub,
    Option.map_eq_some_iff, Prod.mk.injEq]
  constructor
  · rintro ⟨fate, place', ⟨hle, hfate⟩, cause', hcause, rfl, rfl⟩
    cases fate with
    | rejected cause =>
        cases hcause
        exact ⟨hle, hfate⟩
    | _ => cases hcause
  · rintro ⟨hle, hfate⟩
    exact ⟨.rejected cause, place, ⟨hle, hfate⟩, cause, rfl, rfl, rfl⟩

theorem rejections_ascending (number : Nat) (fates : List Fate) :
    (rejections number fates).Pairwise (·.1 < ·.1) := by
  induction fates generalizing number with
  | nil => exact .nil
  | cons fate fates ih =>
      rw [rejections_cons]
      cases fate.cause? with
      | none => exact ih (number + 1)
      | some cause =>
          refine List.pairwise_cons.mpr ⟨fun ⟨place, later⟩ hlater => ?_, ih (number + 1)⟩
          exact (mem_rejections.mp hlater).1

theorem Deals.skipped_iff {fate : Fate} (hdeals : Deals lexicon line fate next) :
    fate = .skipped ↔ ¬Counts line := by
  cases hdeals with
  | skipped hskipped => exact ⟨fun _ => hskipped, fun _ => rfl⟩
  | malformed hcounts => exact ⟨nofun, fun hskipped => absurd hcounts hskipped⟩
  | untyped hwritten => exact ⟨nofun, fun hskipped => absurd hwritten.counts hskipped⟩
  | refused hteaches | unchanged hteaches | learned hteaches =>
      obtain ⟨⟨wordType, hwritten, -⟩, -⟩ := hteaches
      exact ⟨nofun, fun hskipped => absurd hwritten.counts hskipped⟩

/-- A line that is not skipped is reported once. -/
theorem one_entry (number : Nat) (fate : Fate) :
    ((if fate == .learned then 1 else 0) + (if fate == .unchanged then 1 else 0)) +
      (fate.cause?.map (number, ·)).toList.length = if fate = .skipped then 0 else 1 := by
  cases fate <;> rfl

theorem Runs.total (hruns : Runs lexicon lines fates last) (number : Nat) :
    fates.count .learned + fates.count .unchanged + (rejections number fates).length =
      lines.countP fun line => decide (Counts line) := by
  induction hruns generalizing number with
  | nil => rfl
  | @cons lexicon next last line lines fate fates hdeals hruns ih =>
      have hcounted : (if decide (Counts line) then 1 else 0) =
          if fate = .skipped then 0 else 1 := by
        simp only [hdeals.skipped_iff, decide_eq_true_eq, ite_not]
      rw [rejections_cons, List.length_append, List.count_cons, List.count_cons, List.countP_cons,
        ← ih (number + 1), hcounted, ← one_entry number fate]
      omega

theorem Deals.eq_of_rejected {cause : CurriculumError}
    (hdeals : Deals lexicon line (.rejected cause) next) : next = lexicon := by
  cases hdeals <;> rfl

def kept (lines : List (List Char)) (fates : List Fate) : List (List Char) :=
  ((lines.zip fates).filter fun (_, fate) => fate.cause?.isNone).map Prod.fst

/-- Without the lines that are rejected, the others meet the same fates. -/
theorem Runs.kept (hruns : Runs lexicon lines fates last) :
    Runs lexicon (kept lines fates) (fates.filter fun fate => fate.cause?.isNone) last := by
  induction hruns with
  | nil lexicon => exact .nil lexicon
  | @cons lexicon next last line lines fate fates hdeals hruns ih =>
      cases fate with
      | rejected cause => exact hdeals.eq_of_rejected ▸ ih
      | _ => exact .cons hdeals ih

theorem count_kept {fate : Fate} (hfate : fate.cause? = none) (fates : List Fate) :
    (fates.filter fun fate => fate.cause?.isNone).count fate = fates.count fate :=
  List.count_filter (by rw [hfate]; rfl)

theorem rejections_kept (number : Nat) (fates : List Fate) :
    rejections number (fates.filter fun fate => fate.cause?.isNone) = [] := by
  refine List.eq_nil_iff_forall_not_mem.mpr fun ⟨place, cause⟩ hmem => ?_
  have hfate := List.mem_of_getElem? (mem_rejections.mp hmem).2
  cases (List.mem_filter.mp hfate).2

/-! ### Lessons -/

/-- The lessons among lines, in order. -/
inductive Lessons : List (List Char) → List Lesson → Prop where
  | nil : Lessons [] []
  | other {line : List Char} {lines : List (List Char)} {lessons : List Lesson}
      (hnone : ∀ lesson, ¬Teaches line lesson) (hrest : Lessons lines lessons) :
      Lessons (line :: lines) lessons
  | lesson {line : List Char} {lines : List (List Char)} {lesson : Lesson} {lessons : List Lesson}
      (hteaches : Teaches line lesson) (hrest : Lessons lines lessons) :
      Lessons (line :: lines) (lesson :: lessons)

theorem Deals.study {fate : Fate} (hdeals : Deals lexicon line fate next) :
    (∃ lesson, Teaches line lesson ∧ next = lexicon.study lesson) ∨
      (∀ lesson, ¬Teaches line lesson) ∧ next = lexicon := by
  cases hdeals with
  | skipped hskipped =>
      refine .inr ⟨fun lesson hteaches => ?_, rfl⟩
      obtain ⟨wordType, hwritten, -⟩ := hteaches.written
      exact hskipped hwritten.counts
  | malformed hcounts hform =>
      refine .inr ⟨fun lesson hteaches => ?_, rfl⟩
      obtain ⟨wordType, hwritten, -⟩ := hteaches.written
      exact hform _ _ _ hwritten
  | untyped hwritten htype =>
      refine .inr ⟨fun lesson hteaches => ?_, rfl⟩
      obtain ⟨wordType, hother, hparsed⟩ := hteaches.written
      rw [← (hwritten.unique hother).1, htype] at hparsed
      cases hparsed
  | refused hteaches hteach =>
      refine .inl ⟨_, hteaches, ?_⟩
      rw [Lexicon.study, hteach]
  | unchanged hteaches hteach | learned hteaches hteach =>
      refine .inl ⟨_, hteaches, ?_⟩
      rw [Lexicon.study, hteach]

theorem Runs.exists_lessons (hruns : Runs lexicon lines fates last) :
    ∃ lessons, Lessons lines lessons ∧ last = lessons.foldl Lexicon.study lexicon := by
  induction hruns with
  | nil => exact ⟨[], .nil, rfl⟩
  | cons hdeals hruns ih =>
      obtain ⟨lessons, hlessons, hlast⟩ := ih
      rcases hdeals.study with ⟨lesson, hteaches, hnext⟩ | ⟨hnone, hnext⟩
      · refine ⟨lesson :: lessons, .lesson hteaches hlessons, ?_⟩
        rw [List.foldl_cons, ← hnext, hlast]
      · exact ⟨lessons, .other hnone hlessons, hnext ▸ hlast⟩

/-! ### Malformed lines apart -/

def isMalformed : CurriculumLine → Bool
  | .malformed .. => true
  | .lesson .. => false

/-- Teaches a text after its malformed lines are set aside, and puts what is rejected in order at
the end. -/
def teachApart (lexicon : Lexicon) (text : String) : CurriculumReport × Lexicon :=
  let malformed := (read text).filter isMalformed
  let lessons := (read text).filter fun line => !isMalformed line
  let (report, taught) := (malformed ++ lessons).foldl teachLine ({}, lexicon)
  ({ report with failed := report.failed.mergeSort fun a b => a.1 ≤ b.1 }, taught)

def join (report later : CurriculumReport) : CurriculumReport :=
  ⟨report.learned + later.learned, report.unchanged + later.unchanged,
    report.failed ++ later.failed⟩

theorem join_empty (report : CurriculumReport) : join report {} = report := by
  simp [join]

theorem join_assoc (report middle later : CurriculumReport) :
    join (join report middle) later = join report (join middle later) := by
  simp [join, Nat.add_assoc]

theorem teachLine_join (report : CurriculumReport) (lexicon : Lexicon) (line : CurriculumLine) :
    teachLine (report, lexicon) line =
      (join report (teachLine ({}, lexicon) line).1, (teachLine ({}, lexicon) line).2) := by
  cases line with
  | malformed number text => rfl
  | lesson number wordType word expression =>
      rw [teachLine, teachLine]
      cases hlesson : teachLesson lexicon wordType word expression with
      | error cause => rfl
      | ok result =>
          obtain ⟨outcome, taught⟩ := result
          cases outcome <;> simp [join]

/-- Lines are taught no matter what was reported before. -/
theorem foldl_teachLine_join (report : CurriculumReport) (lexicon : Lexicon)
    (lines : List CurriculumLine) :
    lines.foldl teachLine (report, lexicon) =
      (join report (lines.foldl teachLine ({}, lexicon)).1,
        (lines.foldl teachLine ({}, lexicon)).2) := by
  induction lines generalizing report lexicon with
  | nil => rw [List.foldl_nil, List.foldl_nil, join_empty]
  | cons line lines ih =>
      rw [List.foldl_cons, List.foldl_cons, teachLine_join, ih, ih (teachLine ({}, lexicon) line).1,
        join_assoc]

theorem exists_foldl_malformed {lines : List CurriculumLine}
    (hmalformed : ∀ line ∈ lines, isMalformed line = true) :
    ∃ moved, ∀ report lexicon,
      lines.foldl teachLine (report, lexicon) = (join report moved, lexicon) := by
  induction lines with
  | nil => exact ⟨{}, fun report lexicon => by rw [List.foldl_nil, join_empty]⟩
  | cons line lines ih =>
      obtain ⟨hline, hlines⟩ := List.forall_mem_cons.mp hmalformed
      obtain ⟨moved, hmoved⟩ := ih hlines
      cases line with
      | lesson => cases hline
      | malformed number text =>
          refine ⟨join ⟨0, 0, [(number, .malformed text)]⟩ moved, fun report lexicon => ?_⟩
          rw [List.foldl_cons, ← join_assoc]
          exact hmoved _ lexicon

/-- Whether reports have the same entries, in any order. -/
structure Agrees (report other : CurriculumReport) : Prop where
  learned : report.learned = other.learned
  unchanged : report.unchanged = other.unchanged
  failed : report.failed.Perm other.failed

theorem Agrees.trans {report middle other : CurriculumReport} (hfirst : Agrees report middle)
    (hthen : Agrees middle other) : Agrees report other where
  learned := hfirst.learned.trans hthen.learned
  unchanged := hfirst.unchanged.trans hthen.unchanged
  failed := hfirst.failed.trans hthen.failed

theorem Agrees.join {report other : CurriculumReport} (hagrees : Agrees report other)
    (later : CurriculumReport) : Agrees (join report later) (join other later) where
  learned := congrArg (· + later.learned) hagrees.learned
  unchanged := congrArg (· + later.unchanged) hagrees.unchanged
  failed := hagrees.failed.append_right later.failed

theorem agrees_swap (report first second : CurriculumReport) :
    Agrees (join (join report first) second) (join (join report second) first) where
  learned := Nat.add_right_comm ..
  unchanged := Nat.add_right_comm ..
  failed := by
    simp only [Curriculum.join, List.append_assoc]
    exact List.perm_append_comm.append_left report.failed

/-- Nothing but the order of what is rejected changes when malformed lines are set aside. -/
theorem foldl_apart (report : CurriculumReport) (lexicon : Lexicon) (lines : List CurriculumLine) :
    let apart := (lines.filter isMalformed ++ lines.filter fun line => !isMalformed line).foldl
      teachLine (report, lexicon)
    Agrees apart.1 (lines.foldl teachLine (report, lexicon)).1 ∧
      apart.2 = (lines.foldl teachLine (report, lexicon)).2 := by
  induction lines generalizing report lexicon with
  | nil => exact ⟨⟨rfl, rfl, .refl _⟩, rfl⟩
  | cons line lines ih =>
      cases hline : isMalformed line with
      | true =>
          rw [List.filter_cons_of_pos hline, List.filter_cons_of_neg (by simp [hline])]
          exact ih _ _
      | false =>
          -- a lesson is moved behind the malformed lines that follow it
          have hmalformed : ∀ line ∈ lines.filter isMalformed, isMalformed line = true :=
            fun line hline => (List.mem_filter.mp hline).2
          obtain ⟨moved, hmoved⟩ := exists_foldl_malformed hmalformed
          have hlesson : ∀ report, teachLine (report, lexicon) line =
              (join report (teachLine ({}, lexicon) line).1, (teachLine ({}, lexicon) line).2) :=
            fun report => teachLine_join report lexicon line
          generalize teachLine ({}, lexicon) line = taught at hlesson
          have hrest := ih (join report taught.1) taught.2
          rw [List.filter_cons_of_neg (by simp [hline]), List.filter_cons_of_pos (by simp [hline]),
            List.foldl_append, hmoved, List.foldl_cons, List.foldl_cons, hlesson, hlesson,
            foldl_teachLine_join]
          rw [List.foldl_append, hmoved, foldl_teachLine_join] at hrest
          exact ⟨((agrees_swap report moved taught.1).join _).trans hrest.1, hrest.2⟩

theorem mergeSort_of_perm {entries others : List (Nat × CurriculumError)}
    (hascending : entries.Pairwise (·.1 < ·.1)) (hperm : others.Perm entries) :
    others.mergeSort (fun a b => a.1 ≤ b.1) = entries := by
  have hnumbers : (entries.map Prod.fst).Nodup :=
    List.pairwise_map.mpr (hascending.imp Nat.ne_of_lt)
  have hsorted : (others.mergeSort fun a b => a.1 ≤ b.1).Pairwise (·.1 ≤ ·.1) := by
    refine (List.pairwise_mergeSort ?_ ?_ others).imp of_decide_eq_true
    · exact fun a b c hab hbc =>
        decide_eq_true (Nat.le_trans (of_decide_eq_true hab) (of_decide_eq_true hbc))
    · intro a b
      simpa using Nat.le_total a.1 b.1
  have hsame := (List.mergeSort_perm others fun a b => a.1 ≤ b.1).trans hperm
  refine List.Perm.eq_of_pairwise (fun a b ha hb hab hba => ?_) hsorted
    (hascending.imp Nat.le_of_lt) hsame
  exact List.inj_on_of_nodup_map hnumbers (hsame.mem_iff.mp ha) hb (Nat.le_antisymm hab hba)

theorem Runs.teach_eq (hruns : Runs lexicon (Text.lines text) fates last) :
    teach lexicon text =
      (⟨fates.count .learned, fates.count .unchanged, rejections 1 fates⟩, last) := by
  rw [teach, read, hruns.teachLines, tally, Nat.zero_add, Nat.zero_add, List.nil_append]

/-- To set malformed lines aside first makes no difference in the end. -/
theorem teachApart_eq (lexicon : Lexicon) (text : String) :
    teachApart lexicon text = teach lexicon text := by
  obtain ⟨fates, last, hruns⟩ := exists_runs lexicon (Text.lines text)
  have hascending : (teach lexicon text).1.failed.Pairwise (·.1 < ·.1) := by
    rw [hruns.teach_eq]
    exact rejections_ascending 1 fates
  obtain ⟨hagrees, hlexicon⟩ := foldl_apart {} lexicon (read text)
  have hfailed := mergeSort_of_perm hascending hagrees.failed
  rw [teachApart]
  dsimp only
  rw [hfailed, hlexicon, hagrees.learned, hagrees.unchanged]
  rfl

/-! ### The account -/

/-- What the result of teaching lines has to do with the fates of the lines. -/
structure Account (lexicon : Lexicon) (lines : List (List Char)) (fates : List Fate)
    (result : CurriculumReport × Lexicon) : Prop where
  runs : ∀ others last, Runs lexicon lines others last ↔ others = fates ∧ last = result.2
  learned : result.1.learned = fates.count .learned
  unchanged : result.1.unchanged = fates.count .unchanged
  failed : ∀ number cause, (number, cause) ∈ result.1.failed ↔
    1 ≤ number ∧ fates[number - 1]? = some (.rejected cause)
  ascending : result.1.failed.Pairwise (·.1 < ·.1)
  total : result.1.learned + result.1.unchanged + result.1.failed.length =
    lines.countP fun line => decide (Counts line)
  lessons : ∃ lessons, Lessons lines lessons ∧ result.2 = lessons.foldl Lexicon.study lexicon
  without : (readLines 1 (kept lines fates)).foldl teachLine ({}, lexicon) =
    (⟨result.1.learned, result.1.unchanged, []⟩, result.2)

/-- Whatever a text and a lexicon are, every line meets one fate, and the report accounts for all of
them: it counts the words that were learned and those that were known, and lists the lines that were
rejected by their numbers, in order. The lexicon is what the lessons among the lines make of it, and
without the lines that were rejected it would be the same. To set malformed lines aside first and to
sort what was rejected in the end gives the same. -/
theorem teach_accounts (lexicon : Lexicon) (text : String) :
    ∃ fates, Account lexicon (Text.lines text) fates (teach lexicon text) ∧
      teachApart lexicon text = teach lexicon text := by
  obtain ⟨fates, last, hruns⟩ := exists_runs lexicon (Text.lines text)
  refine ⟨fates, ?_, teachApart_eq lexicon text⟩
  rw [hruns.teach_eq]
  refine ⟨fun others later => ⟨fun hothers => ?_, ?_⟩, rfl, rfl, fun number cause => mem_rejections,
    rejections_ascending 1 fates, hruns.total 1, hruns.exists_lessons, ?_⟩
  · exact hothers.unique hruns
  · rintro ⟨rfl, rfl⟩
    exact hruns
  · rw [hruns.kept.teachLines, tally, count_kept rfl, count_kept rfl, rejections_kept,
      Nat.zero_add, Nat.zero_add, List.append_nil]

/-- There may be a double colon in an expression. -/
example :
    let text := "# hello\nsocial :: hi :: Hi :: you\n\nwhat\nsocial::hi::Hi :: you\nverbs::go::x"
    (teach .empty text).1 =
      ⟨1, 1, [(4, .malformed "what"), (6, .refused (.unknownWordType "verbs"))]⟩ := by
  decide +kernel

end Apprentice.Curriculum
