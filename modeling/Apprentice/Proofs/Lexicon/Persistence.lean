import Apprentice.Proofs.Disk
import Apprentice.Proofs.Lexicon.NormalForm
import Apprentice.Proofs.Lexicon.Records
import Apprentice.Proofs.Lexicon.Taught

/-!
# Saving and loading

A lexicon file is read by teaching its records in the order of their words. Each of them comes after
all that were taught before it, so it is new and takes its place at the end. It is kept under the
normal form of its word, and this is the word it was saved with only if that is a normal form again:
putting a composed word into lower case can leave letters and accents that compose anew. A lexicon
without such words is the same after it has been saved and loaded.
-/

namespace Apprentice

namespace Lexicon

variable {lexicon : Lexicon} {entry : Entry} {rest : List Entry} {report : LoadReport}
  {disk saved : Disk} {path : String} {count : Nat}

theorem restoreRecord_ofEntry {word : String} (htaught : entry.Taught word)
    (hstable : normalizeWord entry.word = entry.word)
    (hlast : ∀ e ∈ report.lexicon.entries, e.word < entry.word) :
    restoreRecord report (.ofEntry entry) =
      ⟨report.lexicon.insert entry, report.loaded + 1, report.skipped⟩ := by
  have hnew : report.lexicon.find? entry.word = none :=
    find?_eq_none fun e he heq => String.lt_irrefl _ (heq ▸ hlast e he)
  rw [restoreRecord, WordRecord.ofEntry, teach_of_taught htaught hstable hnew]

/-- The records of a lexicon that have not been restored yet lead to that lexicon. -/
theorem foldl_restoreRecord (hentries : report.lexicon.entries ++ rest = lexicon.entries)
    (htaught : ∀ e ∈ rest, ∃ word, e.Taught word)
    (hstable : ∀ e ∈ rest, normalizeWord e.word = e.word) :
    (rest.map WordRecord.ofEntry).foldl restoreRecord report =
      ⟨lexicon, report.loaded + rest.length, report.skipped⟩ := by
  induction rest generalizing report with
  | nil =>
      rw [List.append_nil] at hentries
      rw [← eq_of_entries hentries]
      rfl
  | cons entry rest ih =>
      obtain ⟨⟨word, hentry⟩, hrest⟩ := List.forall_mem_cons.mp htaught
      obtain ⟨hnormal, hnormals⟩ := List.forall_mem_cons.mp hstable
      -- the lexicon is sorted, so all that was restored before has smaller words
      have hlast : ∀ e ∈ report.lexicon.entries, e.word < entry.word := by
        have hsorted := lexicon.sorted
        rw [← hentries] at hsorted
        exact fun e he => (List.pairwise_append.mp hsorted).2.2 e he entry List.mem_cons_self
      have hnext : (report.lexicon.insert entry).entries ++ rest = lexicon.entries := by
        change insertEntry entry report.lexicon.entries ++ rest = lexicon.entries
        rw [insertEntry_of_lt hlast, List.append_assoc]
        exact hentries
      rw [List.map_cons, List.foldl_cons, restoreRecord_ofEntry hentry hnormal hlast,
        ih hnext hrest hnormals, List.length_cons, Nat.add_assoc, Nat.add_comm 1]

/-- All records of a lexicon are restored, and give it back as it was, if every word is its own
normal form. -/
theorem restore_records (htaught : ∀ e ∈ lexicon.entries, ∃ word, e.Taught word)
    (hstable : ∀ e ∈ lexicon.entries, normalizeWord e.word = e.word) :
    restore lexicon.records = ⟨lexicon, lexicon.size, []⟩ := by
  have hrestored : restore lexicon.records = ⟨lexicon, 0 + lexicon.size, []⟩ :=
    foldl_restoreRecord (List.nil_append _) htaught hstable
  rwa [Nat.zero_add] at hrestored

/-- To restore a record is to study it as a lesson that replaces nothing. -/
theorem lexicon_restore (records : List WordRecord) :
    (restore records).lexicon =
      ofLessons (records.map fun r => ⟨r.word, r.wordType, r.expression, false⟩) := by
  suffices hfold : ∀ report : LoadReport, (records.foldl restoreRecord report).lexicon =
      records.foldl (fun lexicon r => lexicon.study ⟨r.word, r.wordType, r.expression, false⟩)
        report.lexicon by
    rw [restore, ofLessons, List.foldl_map]
    exact hfold {}
  induction records with
  | nil =>
      intro report
      rw [List.foldl_nil, List.foldl_nil]
  | cons r records ih =>
      intro report
      rw [List.foldl_cons, List.foldl_cons, ih, restoreRecord, study]
      dsimp only
      cases report.lexicon.teach r.word r.wordType r.expression false <;> rfl

theorem ofLessons_entries (htaught : ∀ e ∈ lexicon.entries, e.Taught e.word) :
    ofLessons (lexicon.entries.map fun e => ⟨e.word, e.wordType, e.expression, false⟩) =
      lexicon := by
  have hrestored := restore_records (fun e he => ⟨e.word, htaught e he⟩)
    fun e he => (htaught e he).normal.symm
  have hlessons := lexicon_restore lexicon.records
  rw [hrestored, records, List.map_map] at hlessons
  exact hlessons.symm

/-- Only normal forms of the words that were saved are restored. So a word that is not the normal
form of one of them is lost. -/
theorem normal_of_restored (hmem : entry ∈ (restore lexicon.records).lexicon.entries) :
    ∃ e ∈ lexicon.entries, entry.word = normalizeWord e.word := by
  rw [lexicon_restore] at hmem
  obtain ⟨lesson, hlesson, htaught⟩ := taught_ofLessons hmem
  obtain ⟨r, hr, rfl⟩ := List.mem_map.mp hlesson
  obtain ⟨e, he, rfl⟩ := List.mem_map.mp hr
  exact ⟨e, he, htaught.normal⟩

theorem save_eq_ok (hsave : lexicon.save disk path = (.ok count, saved)) :
    count = lexicon.size ∧ disk.write path (WordRecord.encode lexicon.records) = (true, saved) := by
  rw [save] at hsave
  split at hsave
  next written hwrite =>
    cases hsave
    exact ⟨rfl, hwrite⟩
  next => cases hsave

theorem load_of_save (hrooted : disk.Rooted) (hsave : lexicon.save disk path = (.ok count, saved)) :
    load saved path = .ok (restore lexicon.records) := by
  obtain ⟨-, hwrite⟩ := save_eq_ok hsave
  have hread := Disk.read?_of_write hrooted hwrite
  rw [load, Disk.pathExists_of_read? hread, hread]
  dsimp only
  rw [WordRecord.decode?_encode]
  rfl

/-- A lexicon that lessons led to is loaded just as it was saved, with all its words and none of
them skipped, and saving it again writes the same file, if every word that it keeps is its own
normal form. -/
theorem load_saved (lessons : List Lesson)
    (hstable : ∀ e ∈ (ofLessons lessons).entries, normalizeWord e.word = e.word)
    (hrooted : disk.Rooted) (hsave : (ofLessons lessons).save disk path = (.ok count, saved)) :
    ∃ report, load saved path = .ok report ∧ report.loaded = (ofLessons lessons).size ∧
      report.skipped = [] ∧ report.lexicon.records = (ofLessons lessons).records ∧
      report.lexicon.save saved path = (.ok count, saved) := by
  obtain ⟨rfl, hwrite⟩ := save_eq_ok hsave
  have htaught : ∀ e ∈ (ofLessons lessons).entries, ∃ word, e.Taught word := by
    intro e he
    obtain ⟨lesson, -, htaught⟩ := taught_ofLessons he
    exact ⟨lesson.word, htaught⟩
  refine ⟨⟨ofLessons lessons, (ofLessons lessons).size, []⟩, ?_, rfl, rfl, rfl, ?_⟩
  · rw [load_of_save hrooted hsave, restore_records htaught hstable]
  · rw [save, Disk.write_of_write hrooted hwrite]

/-- Two greetings are taught, one of them twice, and a word of the grammar, which is refused. -/
theorem load_saved_greetings :
    let lexicon := ofLessons [⟨" Hello ", .social, "greeting", false⟩, ⟨"the", .social, "no", false⟩,
      ⟨"good_day", .social, " polite greeting ", false⟩, ⟨"hello", .social, "warm greeting", true⟩]
    let disk := Disk.bare ["home"]
    ∃ saved, lexicon.save disk "memory/words.json" = (.ok 2, saved) ∧
      ∃ report, load saved "memory/words.json" = .ok report ∧ report.loaded = lexicon.size ∧
        report.skipped = [] ∧ report.lexicon.records = lexicon.records ∧
        report.lexicon.save saved "memory/words.json" = (.ok 2, saved) := by
  intro lexicon disk
  have hcount : (lexicon.save disk "memory/words.json").1 = .ok 2 := by
    decide +kernel
  have hsave : lexicon.save disk "memory/words.json" =
      (.ok 2, (lexicon.save disk "memory/words.json").2) := Prod.ext hcount rfl
  exact ⟨_, hsave, load_saved _ (normal_of_ascii (by decide +kernel)) (Disk.rooted_bare ["home"])
    hsave⟩

/-- A word that is not its own normal form takes the place of another one when it is loaded. -/
example :
    let lexicon := ofLessons [⟨"\u0386\u0345", .social, "hello", false⟩,
      ⟨"\u1fb4", .social, "goodbye", false⟩]
    lexicon.records = [⟨"\u03ac\u0345", .social, "hello"⟩, ⟨"\u1fb4", .social, "goodbye"⟩] ∧
      (restore lexicon.records).lexicon.records = [⟨"\u1fb4", .social, "hello"⟩] := by
  decide +kernel

end Lexicon

end Apprentice
