import Apprentice.Json.Parser
import Apprentice.Json.Printer

/-!
# Reading what was written

The reader gives back every value that the writer has written. Inside quotes this holds character by
character; a list or an object is read part by part, and the blanks that the writer puts between the
parts are skipped, as no part starts with one.
-/

namespace Apprentice.Json

variable {cs mid after rest text : List Char} {c : Char} {name : String} {v : Json} {vs : List Json}
  {members : List (Option String × Json)} {α : Type}

def Reads (reader : (cs : List Char) → Option (Parsed Char α cs.length)) (cs : List Char) (read : α)
    (rest : List Char) : Prop :=
  (reader cs).map (fun p => (p.value, p.rest)) = some (read, rest)

theorem Reads.parsed {reader : (cs : List Char) → Option (Parsed Char α cs.length)} {read : α}
    (hreads : Reads reader cs read rest) :
    ∃ hshorter, reader cs = some ⟨read, rest, hshorter⟩ := by
  obtain ⟨⟨value, rest, hshorter⟩, hparsed, hread⟩ := Option.map_eq_some_iff.mp hreads
  cases hread
  exact ⟨hshorter, hparsed⟩

/-! ### Blanks -/

theorem skipSpace_append (hblank : ∀ c ∈ cs, isSpace c = true) (rest : List Char) :
    skipSpace (cs ++ rest) = skipSpace rest :=
  List.dropWhile_append_of_pos hblank

theorem skipSpace_cons (hblank : isSpace c = false) (cs : List Char) :
    skipSpace (c :: cs) = c :: cs :=
  List.dropWhile_cons_of_neg (by simp [hblank])

theorem toList_lineBreak (level : Nat) :
    (lineBreak level).toList = '\n' :: List.replicate (2 * level) ' ' := by
  simp [lineBreak]

theorem skipSpace_lineBreak (level : Nat) (rest : List Char) :
    skipSpace ((lineBreak level).toList ++ rest) = skipSpace rest := by
  refine skipSpace_append (fun c hc => ?_) rest
  rw [toList_lineBreak] at hc
  rcases List.mem_cons.mp hc with rfl | hc
  · rfl
  · rw [List.eq_of_mem_replicate hc]
    rfl

/-! ### Strings -/

-- Derives the equations of the reader once, for all the proofs that rewrite with them.
attribute [local simp] stringTail value itemsTail membersTail

theorem stringTail_letter {letter : Char} (hletter : escaped? letter = some c)
    (htail : Reads stringTail cs (some text) rest) :
    Reads stringTail ('\\' :: letter :: cs) (some (c :: text)) rest := by
  obtain ⟨_, htail⟩ := htail.parsed
  rw [Reads, stringTail, hletter, htail]
  · rfl
  · -- `u` starts a code point, and is none of the letters that stand for one character
    rintro a b c d rest rfl
    cases hletter

theorem stringTail_plain (hcontrol : ¬ c.toNat < 0x20) (hquote : c ≠ '"') (hescape : c ≠ '\\')
    (htail : Reads stringTail cs (some text) rest) :
    Reads stringTail (c :: cs) (some (c :: text)) rest := by
  obtain ⟨_, htail⟩ := htail.parsed
  rw [Reads, stringTail, htail]
  · rw [if_neg (by simpa [hescape] using hcontrol)]
    rfl
  · exact hquote
  · exact fun _ _ _ _ _ hbackslash => absurd hbackslash hescape
  · exact fun _ _ hbackslash => absurd hbackslash hescape

theorem hexValue4?_hexDigit :
    ∀ n < 0x20, hexValue4? '0' '0' (hexDigit (n / 16)) (hexDigit (n % 16)) = some n := by
  decide +kernel

theorem stringTail_code (hcontrol : c.toNat < 0x20)
    (htail : Reads stringTail cs (some text) rest) :
    Reads stringTail ('\\' :: 'u' :: '0' :: '0' :: hexDigit (c.toNat / 16) ::
      hexDigit (c.toNat % 16) :: cs) (some (c :: text)) rest := by
  obtain ⟨_, htail⟩ := htail.parsed
  have hhigh : isHighSurrogate c.toNat = false := by
    rw [isHighSurrogate, Bool.and_eq_false_iff, decide_eq_false_iff_not]
    exact .inl (by omega)
  have hlow : isLowSurrogate c.toNat = false := by
    rw [isLowSurrogate, Bool.and_eq_false_iff, decide_eq_false_iff_not]
    exact .inl (by omega)
  rw [Reads, stringTail, hexValue4?_hexDigit _ hcontrol]
  dsimp only [Option.bind_eq_bind, Option.bind_some]
  rw [hhigh, hlow, htail]
  simp

theorem stringTail_escapeChar (c : Char) (htail : Reads stringTail cs (some text) rest) :
    Reads stringTail (escapeChar c ++ cs) (some (c :: text)) rest := by
  fun_cases escapeChar c with
  | case8 _ hcontrol =>
      rw [if_pos hcontrol]
      exact stringTail_code hcontrol htail
  | case9 _ hcontrol hquote hescape =>
      rw [if_neg hcontrol]
      exact stringTail_plain hcontrol hquote hescape htail
  | _ => exact stringTail_letter rfl htail

theorem stringTail_escaped (text rest : List Char) :
    Reads stringTail (text.flatMap escapeChar ++ '"' :: rest) (some text) rest := by
  induction text with
  | nil =>
      rw [Reads, List.flatMap_nil, List.nil_append, stringTail]
      rfl
  | cons c text ih =>
      rw [List.flatMap_cons, List.append_assoc]
      exact stringTail_escapeChar c ih

theorem toList_quote (text : String) :
    (quote text).toList = '"' :: (text.toList.flatMap escapeChar ++ ['"']) := by
  simp [quote]

/-! ### The rules of the reader -/

theorem value_string (htail : Reads stringTail cs (some text) rest) :
    Reads value ('"' :: cs) (.string (some (String.ofList text))) rest := by
  obtain ⟨_, htail⟩ := htail.parsed
  rw [Reads, value, htail]
  rfl

/-- What starts with a letter is one of the three words, if it is anything. -/
theorem value_word (word : List Char) (hletter : ∃ c, word.head? = some c ∧ c.isAlpha = true)
    (hfound : (((word? "null".toList (word ++ rest)).map fun rest => (Json.null, rest)).or
      ((word? "true".toList (word ++ rest)).map fun rest => (.bool true, rest))).or
        ((word? "false".toList (word ++ rest)).map fun rest => (.bool false, rest)) =
          some (v, rest)) : Reads value (word ++ rest) v rest := by
  obtain ⟨c, hc, hletter⟩ := hletter
  obtain ⟨tail, rfl⟩ := List.head?_eq_some_iff.mp hc
  have hshorter : rest.length < (c :: tail ++ rest).length := by
    rw [List.cons_append, List.length_cons, List.length_append]
    omega
  rw [Reads, value]
  · dsimp only
    rw [← Option.or_assoc, ← Option.or_assoc, hfound, Option.some_or, Option.bind_some,
      dif_pos hshorter]
    rfl
  -- no letter opens a string, a list or an object
  all_goals
    intro _ hstart
    obtain ⟨rfl, -⟩ := List.cons.inj hstart
    exact absurd hletter (by decide)

theorem value_array_nil (hclose : skipSpace cs = ']' :: rest) :
    Reads value ('[' :: cs) (.array []) rest := by
  rw [Reads, value]
  split
  next heq =>
    obtain rfl := (List.cons.inj (hclose.symm.trans heq)).2
    rfl
  next hopen => exact absurd hclose (hopen rest)

theorem value_array (hopen : (skipSpace cs).head? ≠ some ']')
    (hitems : Reads itemsTail (skipSpace cs) vs rest) :
    Reads value ('[' :: cs) (.array vs) rest := by
  obtain ⟨_, hitems⟩ := hitems.parsed
  rw [Reads, value]
  split
  next heq => exact absurd (by rw [heq]; rfl) hopen
  next =>
    rw [hitems]
    rfl

theorem value_object_nil (hclose : skipSpace cs = '\x7d' :: rest) :
    Reads value ('\x7b' :: cs) (.object []) rest := by
  rw [Reads, value]
  split
  next heq =>
    obtain rfl := (List.cons.inj (hclose.symm.trans heq)).2
    rfl
  next hopen => exact absurd hclose (hopen rest)

theorem value_object (hopen : (skipSpace cs).head? ≠ some '\x7d')
    (hmembers : Reads membersTail (skipSpace cs) members rest) :
    Reads value ('\x7b' :: cs) (.object members) rest := by
  obtain ⟨_, hmembers⟩ := hmembers.parsed
  rw [Reads, value]
  split
  next heq => exact absurd (by rw [heq]; rfl) hopen
  next =>
    rw [hmembers]
    rfl

theorem itemsTail_last (hvalue : Reads value cs v mid) (hclose : skipSpace mid = ']' :: rest) :
    Reads itemsTail cs [v] rest := by
  obtain ⟨_, hvalue⟩ := hvalue.parsed
  rw [Reads, itemsTail, hvalue]
  dsimp only [Option.bind_eq_bind, Option.bind_some]
  split
  next heq =>
    obtain rfl := (List.cons.inj (hclose.symm.trans heq)).2
    rfl
  next heq => cases hclose.symm.trans heq
  next hopen _ => exact absurd hclose (hopen rest)

theorem itemsTail_next (hvalue : Reads value cs v mid) (hcomma : skipSpace mid = ',' :: after)
    (hitems : Reads itemsTail (skipSpace after) vs rest) :
    Reads itemsTail cs (v :: vs) rest := by
  obtain ⟨_, hvalue⟩ := hvalue.parsed
  obtain ⟨_, hitems⟩ := hitems.parsed
  rw [Reads, itemsTail, hvalue]
  dsimp only [Option.bind_eq_bind, Option.bind_some]
  split
  next heq => cases hcomma.symm.trans heq
  next heq =>
    obtain rfl := (List.cons.inj (hcomma.symm.trans heq)).2
    rw [hitems]
    rfl
  next _ hnext => exact absurd hcomma (hnext after)

def ReadsMember (cs : List Char) (name : String) (v : Json) (rest : List Char) : Prop :=
  ∃ tail colon after, cs = '"' :: tail ∧ Reads stringTail tail (some name.toList) colon ∧
    skipSpace colon = ':' :: after ∧ Reads value (skipSpace after) v rest

theorem membersTail_last (hmember : ReadsMember cs name v mid)
    (hclose : skipSpace mid = '\x7d' :: rest) :
    Reads membersTail cs [(some name, v)] rest := by
  obtain ⟨tail, colon, after, rfl, hkey, hcolon, hvalue⟩ := hmember
  obtain ⟨_, hkey⟩ := hkey.parsed
  obtain ⟨_, hvalue⟩ := hvalue.parsed
  rw [Reads, membersTail, hkey]
  dsimp only [Option.bind_eq_bind, Option.bind_some]
  split
  next heq =>
    obtain rfl := (List.cons.inj (hcolon.symm.trans heq)).2
    rw [hvalue]
    dsimp only [Option.bind_some]
    split
    next heq =>
      obtain rfl := (List.cons.inj (hclose.symm.trans heq)).2
      rw [Option.map_some, String.ofList_toList]
      rfl
    next heq => cases hclose.symm.trans heq
    next hopen _ => exact absurd hclose (hopen rest)
  next hnone => exact absurd hcolon (hnone after)

theorem membersTail_next (hmember : ReadsMember cs name v mid)
    (hcomma : skipSpace mid = ',' :: after)
    (hmembers : Reads membersTail (skipSpace after) members rest) :
    Reads membersTail cs ((some name, v) :: members) rest := by
  obtain ⟨tail, colon, behind, rfl, hkey, hcolon, hvalue⟩ := hmember
  obtain ⟨_, hkey⟩ := hkey.parsed
  obtain ⟨_, hvalue⟩ := hvalue.parsed
  obtain ⟨_, hmembers⟩ := hmembers.parsed
  rw [Reads, membersTail, hkey]
  dsimp only [Option.bind_eq_bind, Option.bind_some]
  split
  next heq =>
    obtain rfl := (List.cons.inj (hcolon.symm.trans heq)).2
    rw [hvalue]
    dsimp only [Option.bind_some]
    split
    next heq => cases hcomma.symm.trans heq
    next heq =>
      obtain rfl := (List.cons.inj (hcomma.symm.trans heq)).2
      rw [hmembers, Option.map_some, String.ofList_toList]
      rfl
    next _ hnext => exact absurd hcomma (hnext after)
  next hnone => exact absurd hcolon (hnone behind)

/-! ### Values -/

/-- A value that the writer can write so that it can be read: no string is without a text. Numbers
are left out, as nothing that is written has any. -/
inductive Writable : Json → Prop
  | null : Writable .null
  | bool (value : Bool) : Writable (.bool value)
  | string (text : String) : Writable (.string (some text))
  | array {items : List Json} (hitems : ∀ item ∈ items, Writable item) : Writable (.array items)
  | object {members : List (Option String × Json)} (hnames : ∀ m ∈ members, m.1.isSome = true)
      (hvalues : ∀ m ∈ members, Writable m.2) : Writable (.object members)

/-- Whether a text starts with neither a blank nor the closing bracket of a list. -/
def Opens (cs : List Char) : Prop :=
  ∃ c, cs.head? = some c ∧ isSpace c = false ∧ c ≠ ']'

theorem Opens.skipSpace (hopens : Opens cs) (rest : List Char) :
    skipSpace (cs ++ rest) = cs ++ rest := by
  obtain ⟨c, hc, hblank, -⟩ := hopens
  obtain ⟨tail, rfl⟩ := List.head?_eq_some_iff.mp hc
  exact skipSpace_cons hblank _

theorem Opens.head?_ne (hopens : Opens cs) (rest : List Char) : (cs ++ rest).head? ≠ some ']' := by
  obtain ⟨c, hc, -, hclose⟩ := hopens
  rw [List.head?_append, hc]
  simpa using hclose

theorem toList_array (level : Nat) (v : Json) (vs : List Json) :
    (prettyAt level (.array (v :: vs))).toList =
      '[' :: ((lineBreak (level + 1)).toList ++ ((prettyAt (level + 1) v).toList ++
        ((prettyItems level vs).toList ++ ((lineBreak level).toList ++ [']'])))) := by
  simp [prettyAt]

theorem toList_items (level : Nat) (v : Json) (vs : List Json) :
    (prettyItems level (v :: vs)).toList =
      ',' :: ((lineBreak (level + 1)).toList ++ ((prettyAt (level + 1) v).toList ++
        (prettyItems level vs).toList)) := by
  simp [prettyItems]

theorem toList_object (level : Nat) (name : String) (v : Json)
    (members : List (Option String × Json)) :
    (prettyAt level (.object ((some name, v) :: members))).toList =
      '\x7b' :: ((lineBreak (level + 1)).toList ++ ((quote name).toList ++
        (':' :: ' ' :: ((prettyAt (level + 1) v).toList ++ ((prettyMembers level members).toList ++
          ((lineBreak level).toList ++ ['\x7d'])))))) := by
  simp [prettyAt]

theorem toList_members (level : Nat) (name : String) (v : Json)
    (members : List (Option String × Json)) :
    (prettyMembers level ((some name, v) :: members)).toList =
      ',' :: ((lineBreak (level + 1)).toList ++ ((quote name).toList ++
        (':' :: ' ' :: ((prettyAt (level + 1) v).toList ++
          (prettyMembers level members).toList)))) := by
  simp [prettyMembers]

theorem opens_prettyAt (hwritable : v.Writable) (level : Nat) :
    Opens (prettyAt level v).toList := by
  cases hwritable with
  | null => exact ⟨'n', by simp [prettyAt], rfl, by decide⟩
  | bool value =>
      cases value with
      | false => exact ⟨'f', by simp [prettyAt], rfl, by decide⟩
      | true => exact ⟨'t', by simp [prettyAt], rfl, by decide⟩
  | string text => exact ⟨'"', by simp [prettyAt, toList_quote], rfl, by decide⟩
  | @array items _ => exact ⟨'[', by cases items <;> simp [prettyAt], rfl, by decide⟩
  | @object members _ _ => exact ⟨'\x7b', by cases members <;> simp [prettyAt], rfl, by decide⟩

/-- Whether a value is read from what is written for it, at any level and before anything. -/
def Readable (v : Json) : Prop :=
  ∀ level rest, Reads value ((prettyAt level v).toList ++ rest) v rest

theorem itemsTail_pretty (level : Nat) (hwritable : ∀ item ∈ v :: vs, Writable item)
    (hreadable : ∀ item ∈ v :: vs, Readable item) (rest : List Char) :
    Reads itemsTail ((prettyAt (level + 1) v).toList ++ ((prettyItems level vs).toList ++
      ((lineBreak level).toList ++ ']' :: rest))) (v :: vs) rest := by
  induction vs generalizing v with
  | nil =>
      refine itemsTail_last (hreadable v List.mem_cons_self (level + 1) _) ?_
      rw [prettyItems, String.toList_empty, List.nil_append, skipSpace_lineBreak]
      exact skipSpace_cons rfl rest
  | cons next vs ih =>
      have hopens := opens_prettyAt (hwritable next (by simp)) (level + 1)
      have hrest := ih (fun item hitem => hwritable item (List.mem_cons_of_mem _ hitem))
        (fun item hitem => hreadable item (List.mem_cons_of_mem _ hitem))
      rw [toList_items, List.cons_append]
      refine itemsTail_next (hreadable v List.mem_cons_self (level + 1) _) (skipSpace_cons rfl _) ?_
      rw [List.append_assoc, skipSpace_lineBreak, List.append_assoc, hopens.skipSpace]
      exact hrest

theorem readsMember_pretty (level : Nat) (hwritable : v.Writable) (hreadable : v.Readable)
    (name : String) (rest : List Char) :
    ReadsMember ((quote name).toList ++ (':' :: ' ' :: ((prettyAt level v).toList ++ rest))) name v
      rest := by
  refine ⟨_, _, _, by rw [toList_quote, List.cons_append, List.append_assoc]; rfl,
    stringTail_escaped _ _, skipSpace_cons rfl _, ?_⟩
  have hblank : skipSpace (' ' :: ((prettyAt level v).toList ++ rest)) =
      skipSpace ((prettyAt level v).toList ++ rest) := rfl
  rw [hblank, (opens_prettyAt hwritable level).skipSpace]
  exact hreadable level rest

theorem skipSpace_quote (name : String) (rest : List Char) :
    skipSpace ((quote name).toList ++ rest) = (quote name).toList ++ rest := by
  rw [toList_quote]
  exact skipSpace_cons rfl _

theorem membersTail_pretty (level : Nat) (hnames : ∀ m ∈ members, m.1.isSome = true)
    (hwritable : ∀ m ∈ (some name, v) :: members, Writable m.2)
    (hreadable : ∀ m ∈ (some name, v) :: members, Readable m.2) (rest : List Char) :
    Reads membersTail ((quote name).toList ++ (':' :: ' ' :: ((prettyAt (level + 1) v).toList ++
      ((prettyMembers level members).toList ++ ((lineBreak level).toList ++ '\x7d' :: rest)))))
      ((some name, v) :: members) rest := by
  have hmember := readsMember_pretty (level + 1) (hwritable _ List.mem_cons_self)
    (hreadable _ List.mem_cons_self) name
  induction members generalizing name v with
  | nil =>
      refine membersTail_last (hmember _) ?_
      rw [prettyMembers, String.toList_empty, List.nil_append, skipSpace_lineBreak]
      exact skipSpace_cons rfl rest
  | cons next members ih =>
      obtain ⟨hname, hothers⟩ := List.forall_mem_cons.mp hnames
      obtain ⟨key, next⟩ := next
      obtain ⟨key, rfl⟩ := Option.isSome_iff_exists.mp hname
      have hrest := ih hothers (fun m hm => hwritable m (List.mem_cons_of_mem _ hm))
        (fun m hm => hreadable m (List.mem_cons_of_mem _ hm))
        (readsMember_pretty (level + 1) (hwritable _ (by simp)) (hreadable _ (by simp)) key)
      rw [toList_members, List.cons_append]
      refine membersTail_next (hmember _) (skipSpace_cons rfl _) ?_
      rw [List.append_assoc, skipSpace_lineBreak, List.append_assoc, skipSpace_quote]
      simp only [List.cons_append, List.append_assoc]
      exact hrest

theorem Writable.readable (hwritable : v.Writable) : v.Readable := by
  induction hwritable with
  | null => exact fun level rest => value_word "null".toList ⟨_, rfl, rfl⟩ rfl
  | bool value =>
      cases value with
      | false => exact fun level rest => value_word "false".toList ⟨_, rfl, rfl⟩ rfl
      | true => exact fun level rest => value_word "true".toList ⟨_, rfl, rfl⟩ rfl
  | string text =>
      intro level rest
      have htail := value_string (stringTail_escaped text.toList rest)
      rw [prettyAt, Option.getD_some, toList_quote, List.cons_append, List.append_assoc]
      rwa [String.ofList_toList] at htail
  | @array items hwritable ih =>
      intro level rest
      cases items with
      | nil =>
          rw [prettyAt]
          exact value_array_nil (skipSpace_cons rfl rest)
      | cons v vs =>
          have hopens := opens_prettyAt (hwritable v List.mem_cons_self) (level + 1)
          rw [toList_array]
          simp only [List.cons_append, List.append_assoc, List.nil_append]
          refine value_array ?_ ?_
          · rw [skipSpace_lineBreak, hopens.skipSpace]
            exact hopens.head?_ne _
          · rw [skipSpace_lineBreak, hopens.skipSpace]
            exact itemsTail_pretty level hwritable ih rest
  | @object members hnames hwritable ih =>
      intro level rest
      cases members with
      | nil =>
          rw [prettyAt]
          exact value_object_nil (skipSpace_cons rfl rest)
      | cons member members =>
          obtain ⟨hname, hothers⟩ := List.forall_mem_cons.mp hnames
          obtain ⟨name, v⟩ := member
          obtain ⟨name, rfl⟩ := Option.isSome_iff_exists.mp hname
          rw [toList_object]
          simp only [List.cons_append, List.append_assoc, List.nil_append]
          refine value_object ?_ ?_
          · rw [skipSpace_lineBreak, skipSpace_quote, toList_quote]
            simp
          · rw [skipSpace_lineBreak, skipSpace_quote]
            exact membersTail_pretty level hothers hwritable ih rest

/-- A text that was written for a value, with a line break at its end, holds that value. -/
theorem parse?_pretty (hwritable : v.Writable) : parse? (pretty v ++ "\n") = some v := by
  obtain ⟨_, hread⟩ := (hwritable.readable 0 ['\n']).parsed
  have htext : skipSpace (pretty v ++ "\n").toList = (prettyAt 0 v).toList ++ ['\n'] := by
    rw [String.toList_append]
    exact (opens_prettyAt hwritable 0).skipSpace _
  rw [parse?, htext, hread]
  rfl

end Apprentice.Json
