import Apprentice.Action.Execution
import Apprentice.Proofs.Lexicon.NormalForm
import Apprentice.Proofs.Lexicon.PrefixBlock
import Apprentice.Proofs.Text.ByteLength

/-!
# Replies

A word is answered with the social entries of its response word, which is the word behind
`response_to_`. The candidates are found by the normal form of the response word; what follows it in
them is looked for behind as many bytes as the response word has in the spelling that was given. If
that spelling is the normal form, this is the same place, and the reply is made of exactly the
entries that are meant. In another spelling of the same length the entry under the normal form
itself is left out, as it differs from the response word and nothing follows it. In a spelling of
another length the place may be anywhere in a candidate, inside a character or behind its end.
-/

namespace Apprentice

variable {α : Type} {n : Nat} {cs rest : List Char} {asked key word : String} {lexicon : Lexicon}
  {w : World}

/-! ### Tests that may fail -/

theorem filterAuxM_of_some {test : α → Option Bool} {keep : α → Bool} {xs : List α}
    (htest : ∀ x ∈ xs, test x = some (keep x)) (done : List α) :
    List.filterAuxM test xs done = some ((xs.filter keep).reverse ++ done) := by
  induction xs generalizing done with
  | nil => rfl
  | cons x xs ih =>
    obtain ⟨hx, hxs⟩ := List.forall_mem_cons.mp htest
    rw [List.filterAuxM, hx]
    cases hkeep : keep x with
    | true => simpa [hkeep] using ih hxs (x :: done)
    | false => simpa [hkeep] using ih hxs done

theorem filterM_of_some {test : α → Option Bool} {keep : α → Bool} {xs : List α}
    (htest : ∀ x ∈ xs, test x = some (keep x)) : xs.filterM test = some (xs.filter keep) := by
  rw [List.filterM, filterAuxM_of_some htest]
  simp

theorem filterAuxM_eq_none {test : α → Option Bool} {xs : List α} {x : α} (hx : x ∈ xs)
    (hnone : test x = none) (done : List α) : List.filterAuxM test xs done = none := by
  induction xs generalizing done with
  | nil => cases hx
  | cons y ys ih =>
    rw [List.filterAuxM]
    cases htest : test y with
    | none => rfl
    | some kept =>
      obtain rfl | hys := List.mem_cons.mp hx
      · cases hnone.symm.trans htest
      · exact ih hys _

theorem filterM_eq_none_iff {test : α → Option Bool} {xs : List α} :
    xs.filterM test = none ↔ ∃ x ∈ xs, test x = none := by
  constructor
  · intro hnone
    by_contra hall
    have htest : ∀ x ∈ xs, test x = some ((test x).getD false) := fun x hx => by
      cases hresult : test x with
      | none => exact absurd ⟨x, hx, hresult⟩ hall
      | some kept => rfl
    cases (filterM_of_some htest).symm.trans hnone
  · rintro ⟨x, hx, hnone⟩
    rw [List.filterM, filterAuxM_eq_none hx hnone]
    rfl

namespace Answer

/-! ### The place behind a number of bytes -/

/-- A character of the text ends behind the given number of bytes, or the text begins there. -/
def Aligned (n : Nat) (text : String) : Prop :=
  ∃ front back : String, text = front ++ back ∧ front.utf8ByteSize = n

/-- An underscore stands behind as many bytes as another text has. -/
def GoesOn (asked text : String) : Prop :=
  ∃ front back : String, text = front ++ "_" ++ back ∧ front.utf8ByteSize = asked.utf8ByteSize

theorem dropBytes?_eq_some_iff :
    dropBytes? n cs = some rest ↔ ∃ front, cs = front ++ rest ∧ Text.byteLength front = n := by
  fun_induction dropBytes? n cs with
  | case1 cs =>
    constructor
    · rintro ⟨⟩
      exact ⟨[], rfl, rfl⟩
    · rintro ⟨front, rfl, hzero⟩
      rw [Text.byteLength_eq_zero_iff.mp hzero, List.nil_append]
  | case2 n =>
    refine iff_of_false nofun ?_
    rintro ⟨front, hnil, hlength⟩
    rw [(List.append_eq_nil_iff.mp hnil.symm).1] at hlength
    cases hlength
  | case3 n c cs hle ih =>
    rw [ih]
    constructor
    · rintro ⟨front, rfl, hlength⟩
      refine ⟨c :: front, rfl, ?_⟩
      rw [Text.byteLength, hlength, Nat.add_sub_cancel' hle]
    · rintro ⟨front, hcons, hlength⟩
      cases front with
      | nil => cases hlength
      | cons d ds =>
        cases hcons
        rw [Text.byteLength] at hlength
        exact ⟨ds, rfl, by omega⟩
  | case4 n c cs hlong =>
    refine iff_of_false nofun ?_
    rintro ⟨front, hcons, hlength⟩
    cases front with
    | nil => cases hlength
    | cons d ds =>
      cases hcons
      rw [Text.byteLength] at hlength
      omega

theorem dropBytes?_toList : dropBytes? n word.toList = some rest ↔
    ∃ front : String, word = front ++ String.ofList rest ∧ front.utf8ByteSize = n := by
  rw [dropBytes?_eq_some_iff]
  constructor
  · rintro ⟨front, hword, hlength⟩
    refine ⟨String.ofList front, ?_, (Text.byteLength_ofList front).trans hlength⟩
    rw [← String.ofList_append, ← hword, String.ofList_toList]
  · rintro ⟨front, rfl, hsize⟩
    refine ⟨front.toList, ?_, (Text.byteLength_toList front).trans hsize⟩
    rw [String.toList_append, String.toList_ofList]

theorem continues?_eq_none_iff :
    continues? asked word = none ↔ word ≠ asked ∧ ¬ Aligned asked.utf8ByteSize word := by
  unfold continues?
  split
  · next heq => exact iff_of_false nofun fun hne => hne.1 heq
  · next hne =>
    rw [Option.map_eq_none_iff, Option.eq_none_iff_forall_ne_some]
    constructor
    · rintro hnone
      refine ⟨hne, ?_⟩
      rintro ⟨front, back, hword, hsize⟩
      refine hnone back.toList (dropBytes?_toList.mpr ⟨front, ?_, hsize⟩)
      rw [String.ofList_toList, hword]
    · rintro ⟨-, hunaligned⟩ rest hrest
      obtain ⟨front, hword, hsize⟩ := dropBytes?_toList.mp hrest
      exact hunaligned ⟨front, String.ofList rest, hword, hsize⟩

theorem continues?_eq_true_iff :
    continues? asked word = some true ↔ word = asked ∨ GoesOn asked word := by
  unfold continues?
  split
  · next heq => exact iff_of_true rfl (.inl heq)
  · next hne =>
    rw [Option.map_eq_some_iff]
    constructor
    · rintro ⟨rest, hrest, hhead⟩
      obtain ⟨front, hword, hsize⟩ := dropBytes?_toList.mp hrest
      obtain ⟨back, rfl⟩ := List.head?_eq_some_iff.mp (beq_iff_eq.mp hhead)
      refine .inr ⟨front, String.ofList back, ?_, hsize⟩
      rw [hword, String.append_assoc, ← List.singleton_append, String.ofList_append]
    · rintro (heq | ⟨front, back, hword, hsize⟩)
      · exact absurd heq hne
      · refine ⟨'_' :: back.toList, dropBytes?_toList.mpr ⟨front, ?_, hsize⟩, rfl⟩
        rw [hword, String.append_assoc, ← List.singleton_append, String.ofList_append,
          String.ofList_toList]

/-- In a word that begins with a key, the place behind the bytes of the key is behind the key. -/
theorem continues?_of_starts (hsize : key.utf8ByteSize = asked.utf8ByteSize)
    (hstarts : key.toList <+: word.toList) : continues? asked word =
      some (word == asked || (key ++ "_").toList.isPrefixOf word.toList) := by
  unfold continues?
  split
  · next heq => rw [beq_iff_eq.mpr heq, Bool.true_or]
  · next hne =>
    obtain ⟨rest, hrest⟩ := hstarts
    have hdrop : dropBytes? asked.utf8ByteSize word.toList = some rest :=
      dropBytes?_eq_some_iff.mpr
        ⟨key.toList, hrest.symm, (Text.byteLength_toList key).trans hsize⟩
    have hhead : (rest.head? == some '_') = (key ++ "_").toList.isPrefixOf word.toList := by
      rw [Bool.eq_iff_iff, beq_iff_eq, List.isPrefixOf_iff_prefix, ← hrest, String.toList_append,
        List.prefix_append_right_inj, List.head?_eq_some_iff]
      exact ⟨fun ⟨back, hback⟩ => ⟨back, hback.symm⟩, fun ⟨back, hback⟩ => ⟨back, hback.symm⟩⟩
    rw [hdrop, Option.map_some, hhead, beq_false_of_ne hne, Bool.false_or]

/-! ### The entries of a reply -/

def responseWord (word : String) : String :=
  "response_to_" ++ word

/-- The word under which a response to a word is kept. -/
def responseKey (word : String) : String :=
  normalizeWord (responseWord word)

/-- Whether an entry is social and kept under a key, or under a word that goes on behind the key
with an underscore. -/
def answers (key : String) (e : Entry) : Bool :=
  e.wordType == .social &&
    (e.word == key || (key ++ "_").toList.isPrefixOf e.word.toList)

/-- The outcome that entries give as the responses to a word. -/
def replyWith (word : String) : List Entry → StepOutcome
  | [] =>
    ⟨"I recognize \"" ++ word ++ "\", but nobody has taught me how to answer it.", .unit⟩
  | entries =>
    let content := String.intercalate " " (entries.map fun e => e.expression)
    ⟨content, .reply content⟩

theorem responseKey_of_plain (hword : ∀ c ∈ word.toList, isWordChar c = true)
    (hascii : ∀ c ∈ word.toList, Text.isAscii c = true)
    (hplain : ∀ c ∈ word.toList, Text.isPlain c = true) : responseKey word = responseWord word := by
  have hchars : (responseWord word).toList = "response_to_".toList ++ word.toList :=
    String.toList_append
  refine normalizeWord_of_plain ?_ ?_ ?_
  · have hfilled : (responseWord word).isEmpty = false := by
      rw [String.isEmpty_eq_false_iff, responseWord]
      exact fun hempty => by simpa using congrArg String.toList hempty
    rw [isValidWord, hfilled, hchars, List.all_append, List.all_eq_true.mpr hword]
    decide +kernel
  · rw [hchars]
    exact List.forall_mem_append.mpr ⟨List.all_eq_true.mp (by decide), hascii⟩
  · rw [hchars]
    exact List.forall_mem_append.mpr ⟨List.all_eq_true.mp (by decide), hplain⟩

/-- The outcome if an entry cannot be compared with a word. -/
def abortedReply : StepOutcome :=
  ⟨"", .aborted⟩

theorem replyWith_ne_aborted (entries : List Entry) : replyWith word entries ≠ abortedReply := by
  cases entries with
  | nil => exact fun h => nomatch congrArg StepOutcome.result h
  | cons e es => exact fun h => nomatch congrArg StepOutcome.result h

theorem social_of_some {entries : List Entry} (h : responses? word lexicon = some entries) :
    social word lexicon = replyWith word entries := by
  rw [social, h]
  cases entries with
  | nil => rfl
  | cons e es => rfl

theorem social_of_none (h : responses? word lexicon = none) :
    social word lexicon = abortedReply := by
  rw [social, h]
  rfl

theorem social_eq_aborted_iff :
    social word lexicon = abortedReply ↔ responses? word lexicon = none := by
  refine ⟨fun haborted => ?_, social_of_none⟩
  cases hresponses : responses? word lexicon with
  | none => rfl
  | some entries =>
    exact absurd ((social_of_some hresponses).symm.trans haborted) (replyWith_ne_aborted entries)

/-- An entry may answer a word if it is social and its word begins with the normal form. -/
def candidate (key : String) (e : Entry) : Bool :=
  e.wordType == .social && key.toList.isPrefixOf e.word.toList

theorem candidate_iff {e : Entry} :
    candidate key e = true ↔ e.wordType = .social ∧ key.toList <+: e.word.toList := by
  rw [candidate, Bool.and_eq_true, beq_iff_eq, List.isPrefixOf_iff_prefix]

/-- Every candidate is looked at, in ascending order, and nothing else. -/
theorem responses?_eq (word : String) (lexicon : Lexicon) : responses? word lexicon =
    (lexicon.entries.filter (candidate (responseKey word))).filterM fun e =>
      continues? (responseWord word) e.word := by
  rw [responses?, Lexicon.withPrefix_eq, List.filter_filter]
  rfl

theorem answers_iff {e : Entry} : answers key e = true ↔
    e.wordType = .social ∧ (e.word = key ∨ (key ++ "_").toList <+: e.word.toList) := by
  rw [answers, Bool.and_eq_true, Bool.or_eq_true, beq_iff_eq, beq_iff_eq,
    List.isPrefixOf_iff_prefix]

theorem prefix_append_underscore (key : String) : key.toList <+: (key ++ "_").toList := by
  rw [String.toList_append]
  exact List.prefix_append _ _

theorem ne_of_underscore (hstarts : (key ++ "_").toList <+: word.toList) : word ≠ key := by
  rintro rfl
  have hlength := hstarts.length_le
  rw [String.toList_append, List.length_append] at hlength
  exact absurd hlength (Nat.not_le.mpr (Nat.lt_add_of_pos_right (by decide)))

theorem kept_iff_of_size (hsize : key.utf8ByteSize = asked.utf8ByteSize) (e : Entry) :
    candidate key e = true ∧ (e.word = asked ∨ (key ++ "_").toList <+: e.word.toList) ↔
      answers key e = true ∧ (key = asked ∨ e.word ≠ key) := by
  rw [candidate_iff, answers_iff]
  constructor
  · rintro ⟨⟨hsocial, hstarts⟩, heq | hunderscore⟩
    · have hkey : key = asked := Text.eq_of_prefix_of_size (heq ▸ hstarts) hsize
      exact ⟨⟨hsocial, .inl (heq.trans hkey.symm)⟩, .inl hkey⟩
    · exact ⟨⟨hsocial, .inr hunderscore⟩, .inr (ne_of_underscore hunderscore)⟩
  · rintro ⟨⟨hsocial, heq | hunderscore⟩, hspelled⟩
    · have hkey : key = asked := hspelled.resolve_right (absurd heq)
      exact ⟨⟨hsocial, heq ▸ List.prefix_refl _⟩, .inl (heq.trans hkey)⟩
    · exact ⟨⟨hsocial, (prefix_append_underscore key).trans hunderscore⟩, .inr hunderscore⟩

/-- If the spelling is as long as the key, the entries that are meant are kept, without the one
under the key itself in another spelling. -/
theorem filterM_of_size (hsize : key.utf8ByteSize = asked.utf8ByteSize) (entries : List Entry) :
    (entries.filter (candidate key)).filterM (fun e => continues? asked e.word) =
      some (entries.filter fun e => answers key e && (key == asked || e.word != key)) := by
  have htest : ∀ e ∈ entries.filter (candidate key), continues? asked e.word =
      some (e.word == asked || (key ++ "_").toList.isPrefixOf e.word.toList) := fun e he =>
    continues?_of_starts hsize (candidate_iff.mp (List.mem_filter.mp he).2).2
  rw [filterM_of_some htest, List.filter_filter]
  refine congrArg some (List.filter_congr fun e _ => ?_)
  rw [Bool.eq_iff_iff, Bool.and_eq_true, Bool.and_eq_true, Bool.or_eq_true, Bool.or_eq_true,
    beq_iff_eq, beq_iff_eq, bne_iff_ne, List.isPrefixOf_iff_prefix, and_comm]
  exact kept_iff_of_size hsize e

theorem not_aligned_of_lt (hlt : key.utf8ByteSize < n) : ¬ Aligned n key := by
  rintro ⟨front, back, rfl, rfl⟩
  rw [String.utf8ByteSize_append] at hlt
  omega

theorem responses?_eq_none_iff : responses? word lexicon = none ↔
    ∃ e ∈ lexicon.entries, candidate (responseKey word) e = true ∧
      e.word ≠ responseWord word ∧ ¬ Aligned (responseWord word).utf8ByteSize e.word := by
  simp only [responses?_eq, filterM_eq_none_iff, List.mem_filter, continues?_eq_none_iff, and_assoc]

theorem responses?_of_ne_none (hsome : responses? word lexicon ≠ none) :
    ∃ entries, responses? word lexicon = some entries ∧ entries.Sublist lexicon.entries ∧
      ∀ e, e ∈ entries ↔ e ∈ lexicon.entries ∧ candidate (responseKey word) e = true ∧
        (e.word = responseWord word ∨ GoesOn (responseWord word) e.word) := by
  let keep (e : Entry) : Bool := continues? (responseWord word) e.word == some true
  refine ⟨(lexicon.entries.filter (candidate (responseKey word))).filter keep, ?_,
    List.filter_sublist.trans List.filter_sublist, fun e => ?_⟩
  · rw [responses?_eq] at hsome ⊢
    refine filterM_of_some fun e he => ?_
    cases hresult : continues? (responseWord word) e.word with
    | none => exact absurd (filterM_eq_none_iff.mpr ⟨e, he, hresult⟩) hsome
    | some kept => cases kept <;> simp [keep, hresult]
  · simp only [List.mem_filter, keep, beq_iff_eq, continues?_eq_true_iff, and_assoc]

/-- If the normal form is shorter than the spelling, an answer that is kept under the normal form
itself cannot be compared. -/
theorem social_of_shorter {e : Entry} (he : e ∈ lexicon.entries) (hsocial : e.wordType = .social)
    (hkey : e.word = responseKey word)
    (hlt : (responseKey word).utf8ByteSize < (responseWord word).utf8ByteSize) :
    social word lexicon = abortedReply := by
  refine social_of_none (responses?_eq_none_iff.mpr ⟨e, he, ?_, ?_, ?_⟩)
  · exact candidate_iff.mpr ⟨hsocial, hkey ▸ List.prefix_refl _⟩
  · exact fun heq => Nat.ne_of_lt hlt (congrArg String.utf8ByteSize (hkey.symm.trans heq))
  · exact hkey ▸ not_aligned_of_lt hlt

/-- The word is the normal form of another one, so it may have been spoken. Its own normal form is
shorter by a byte. -/
example : social "\u03ac\u0345" (.ofLessons [⟨"response_to_\u1fb4", .social, "Hi!", false⟩]) =
    abortedReply := by
  decide +kernel

end Answer

/-- Answering a word gives the expressions of the social entries that are kept under the normal form
of its response word, or go on behind it with an underscore, in ascending order, if the response
word is its own normal form. In another spelling of the same length the entry under the normal form
itself is left out. In general the underscore is looked for behind the bytes of the spelling, and
the answer is aborted if they end inside a character of a candidate or reach beyond it. -/
theorem Action.execute_socialRespond (word : String) (lexicon : Lexicon) (w : World) :
    let asked := Answer.responseWord word
    let key := Answer.responseKey word
    let done := (socialRespond word).execute lexicon w
    (key = asked →
      done = (Answer.replyWith word (lexicon.entries.filter (Answer.answers key)), w)) ∧
    (key ≠ asked → key.utf8ByteSize = asked.utf8ByteSize →
      done = (Answer.replyWith word
        (lexicon.entries.filter fun e => Answer.answers key e && e.word != key), w)) ∧
    (done = (Answer.abortedReply, w) ↔
      ∃ e ∈ lexicon.entries, Answer.candidate key e = true ∧ e.word ≠ asked ∧
        ¬ Answer.Aligned asked.utf8ByteSize e.word) ∧
    (done ≠ (Answer.abortedReply, w) → ∃ entries : List Entry,
      done = (Answer.replyWith word entries, w) ∧ entries.Sublist lexicon.entries ∧
        ∀ e, e ∈ entries ↔ e ∈ lexicon.entries ∧ Answer.candidate key e = true ∧
          (e.word = asked ∨ Answer.GoesOn asked e.word)) := by
  intro asked key done
  have hsocial : ∀ outcome, done = (outcome, w) ↔ Answer.social word lexicon = outcome :=
    fun outcome => ⟨congrArg Prod.fst, congrArg (·, w)⟩
  have hkept : key.utf8ByteSize = asked.utf8ByteSize →
      Answer.responses? word lexicon = some (lexicon.entries.filter fun e =>
        Answer.answers key e && (key == asked || e.word != key)) := fun hsize =>
    (Answer.responses?_eq word lexicon).trans (Answer.filterM_of_size hsize lexicon.entries)
  refine ⟨fun hkey => ?_, fun hkey hsize => ?_, ?_, fun hdone => ?_⟩
  · have hall := hkept (congrArg String.utf8ByteSize hkey)
    simp only [beq_iff_eq.mpr hkey, Bool.true_or, Bool.and_true] at hall
    exact (hsocial _).mpr (Answer.social_of_some hall)
  · have hrest := hkept hsize
    simp only [beq_false_of_ne hkey, Bool.false_or] at hrest
    exact (hsocial _).mpr (Answer.social_of_some hrest)
  · rw [hsocial, Answer.social_eq_aborted_iff, Answer.responses?_eq_none_iff]
  · have hsome : Answer.responses? word lexicon ≠ none := fun hnone =>
      hdone ((hsocial _).mpr (Answer.social_of_none hnone))
    obtain ⟨entries, hentries, hsublist, hmem⟩ := Answer.responses?_of_ne_none hsome
    exact ⟨entries, (hsocial _).mpr (Answer.social_of_some hentries), hsublist, hmem⟩

/-- The responses to "hello" are found, without the one to another word. If it is asked for in
capital letters, the response under the word itself is missing. -/
theorem Action.execute_socialRespond_hello :
    let lexicon := Lexicon.ofLessons [⟨"hello", .social, "greeting", false⟩,
      ⟨"response_to_hello", .social, "Hello there!", false⟩,
      ⟨"response_to_hello_2", .social, "Nice to see you.", false⟩,
      ⟨"response_to_helloween", .social, "Boo!", false⟩]
    let w := World.new 1 1
    (socialRespond "hello").execute lexicon w =
        (⟨"Hello there! Nice to see you.", .reply "Hello there! Nice to see you."⟩, w) ∧
      (socialRespond "HELLO").execute lexicon w =
        (⟨"Nice to see you.", .reply "Nice to see you."⟩, w) := by
  intro lexicon w
  have hplain : Answer.responseKey "hello" = Answer.responseWord "hello" :=
    Answer.responseKey_of_plain (List.all_eq_true.mp (by decide +kernel))
      (List.all_eq_true.mp (by decide)) (List.all_eq_true.mp (by decide))
  have hcapital : Answer.responseKey "HELLO" ≠ Answer.responseWord "HELLO" := by
    decide +kernel
  have hsize : (Answer.responseKey "HELLO").utf8ByteSize =
      (Answer.responseWord "HELLO").utf8ByteSize := by
    decide +kernel
  refine ⟨((execute_socialRespond "hello" lexicon w).1 hplain).trans ?_,
    ((execute_socialRespond "HELLO" lexicon w).2.1 hcapital hsize).trans ?_⟩
  · refine congrArg (·, w) ?_
    decide +kernel
  · refine congrArg (·, w) ?_
    decide +kernel

end Apprentice
