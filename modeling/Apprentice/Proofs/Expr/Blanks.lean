import Apprentice.Expr.Lexer
import Apprentice.Proofs.Text.Ends

/-!
# Blanks around an expression

Blanks before an expression only move its tokens, and blanks behind it are passed over: a blank is
neither part of a name or a number nor the second character of an operator, and it does not close a
string. So a text has the same lexemes as what is left of it without the blanks at its ends. Which
texts cannot be read is the same too, but not where the error is.
-/

namespace Apprentice.Expr

open Text

variable {p : Char → Bool} {b c : Char} {cs blanks rest : List Char} {offset offset' : Nat}

/-! ### Characters that are no blanks -/

theorem isBlank_of_isIdentRest (hc : isIdentRest c = true) : isBlank c = false := by
  have hascii : isAscii c = true := by
    simp only [isIdentRest, Char.isAlphanum, Bool.or_eq_true, beq_iff_eq] at hc
    rcases hc with (halpha | hdigit) | rfl
    · exact isAscii_of_isAlpha halpha
    · exact isAscii_of_isDigit hdigit
    · rfl
  exact forall_ascii (P := fun c => isIdentRest c = true → isBlank c = false)
    (by decide +kernel) hascii hc

theorem pairLexeme?_of_isBlank (hb : isBlank b = true) : pairLexeme? c b = none := by
  unfold pairLexeme?
  split <;> first | rfl | exact absurd hb (by decide)

theorem ne_of_isBlank (hquote : c = '\'' ∨ c = '"') (hb : isBlank b = true) : b ≠ c := by
  rintro rfl
  rcases hquote with rfl | rfl <;> exact absurd hb (by decide)

theorem forall_blanks_of_kind (hkind : ∀ c, p c = true → isBlank c = false)
    (hblanks : ∀ b ∈ blanks, isBlank b = true) : ∀ b ∈ blanks, p b = false := by
  intro b hb
  rw [Bool.eq_false_iff]
  intro hp
  exact absurd (hblanks b hb) (by simp [hkind b hp])

/-! ### Runs of characters, and what comes after them -/

theorem takeWhile_append_of_neg (hblanks : ∀ b ∈ blanks, p b = false) (cs : List Char) :
    (cs ++ blanks).takeWhile p = cs.takeWhile p := by
  have hnone : blanks.takeWhile p = [] :=
    List.takeWhile_eq_nil_iff.mpr fun hnonempty => by simp [hblanks _ (List.getElem_mem hnonempty)]
  rw [List.takeWhile_append, hnone, List.append_nil]
  split
  next hwhole => exact ((List.takeWhile_prefix p).eq_of_length hwhole).symm
  next => rfl

theorem dropWhile_append_of_neg (hblanks : ∀ b ∈ blanks, p b = false) (cs : List Char) :
    (cs ++ blanks).dropWhile p = cs.dropWhile p ++ blanks := by
  have hall : blanks.dropWhile p = blanks :=
    List.dropWhile_eq_self_iff.mpr fun hnonempty => by simp [hblanks _ (List.getElem_mem hnonempty)]
  rw [List.dropWhile_append, hall]
  split
  next hempty => rw [List.isEmpty_iff.mp hempty, List.nil_append]
  next => rfl

/-- A run that has come to its end is not changed by what comes after that. -/
theorem append_of_dropWhile_eq_cons (hend : cs.dropWhile p = c :: rest) (more : List Char) :
    (cs ++ more).takeWhile p = cs.takeWhile p ∧
      (cs ++ more).dropWhile p = c :: (rest ++ more) := by
  constructor
  · have hproper : (cs.takeWhile p).length ≠ cs.length := by
      have hlength := congrArg List.length (List.takeWhile_append_dropWhile (p := p) (l := cs))
      rw [hend, List.length_append, List.length_cons] at hlength
      omega
    rw [List.takeWhile_append, if_neg hproper]
  · rw [List.dropWhile_append, hend]
    rfl

/-! ### One lexeme -/

def read? : Except Error (Reading cs) → Option (Lexeme × List Char)
  | .ok reading => some (reading.lexeme, reading.rest)
  | .error _ => none

theorem read?_quote (hquote : c = '\'' ∨ c = '"') (offset : Nat) (cs : List Char) :
    read? (readLexeme offset c cs) =
      match cs.dropWhile (· != c) with
      | [] => none
      | _ :: rest => some (.str (String.ofList (cs.takeWhile (· != c))), rest) := by
  have hident : ¬ isIdentStart c = true := by rcases hquote with rfl | rfl <;> decide
  have hdigit : ¬ c.isDigit = true := by rcases hquote with rfl | rfl <;> decide
  have hstring : (c == '\'' || c == '"') = true := by rcases hquote with rfl | rfl <;> rfl
  unfold readLexeme
  rw [if_neg hident, if_neg hdigit, if_pos hstring]
  dsimp only
  split
  next hnone => rw [hnone, read?]
  next hsome => simp only [hsome, read?]

theorem read?_quote_append (hblanks : ∀ b ∈ blanks, isBlank b = true)
    (hquote : c = '\'' ∨ c = '"') (offset offset' : Nat) (cs : List Char) :
    read? (readLexeme offset' c (cs ++ blanks)) =
      (read? (readLexeme offset c cs)).map fun (m, rest) => (m, rest ++ blanks) := by
  rw [read?_quote hquote, read?_quote hquote]
  cases hend : cs.dropWhile (· != c) with
  | nil =>
      -- the string is not closed, and blanks do not close it
      have hpass : ∀ b ∈ blanks, (b != c) = true := fun b hb =>
        bne_iff_ne.mpr (ne_of_isBlank hquote (hblanks b hb))
      have hall : ∀ d ∈ cs ++ blanks, (d != c) = true :=
        List.forall_mem_append.mpr ⟨List.dropWhile_eq_nil_iff.mp hend, hpass⟩
      rw [List.dropWhile_eq_nil_iff.mpr hall]
      rfl
  | cons quote rest =>
      obtain ⟨htake, hdrop⟩ := append_of_dropWhile_eq_cons hend blanks
      rw [htake, hdrop]
      rfl

/-- Blanks behind a text are left behind its first lexeme, wherever the text stands. -/
theorem read?_append (hblanks : ∀ b ∈ blanks, isBlank b = true) (offset offset' : Nat) (c : Char)
    (cs : List Char) : read? (readLexeme offset' c (cs ++ blanks)) =
      (read? (readLexeme offset c cs)).map fun (m, rest) => (m, rest ++ blanks) := by
  by_cases hquote : c = '\'' ∨ c = '"'
  · exact read?_quote_append hblanks hquote offset offset' cs
  · have hident := forall_blanks_of_kind (fun _ => isBlank_of_isIdentRest) hblanks
    have hdigit := forall_blanks_of_kind (fun _ => isBlank_of_isDigit) hblanks
    have hstring : ¬ (c == '\'' || c == '"') = true := by simpa using hquote
    unfold readLexeme
    split
    next => simp only [takeWhile_append_of_neg hident, dropWhile_append_of_neg hident, read?,
        Option.map_some]
    next =>
      split
      next =>
        simp only [takeWhile_append_of_neg hdigit, dropWhile_append_of_neg hdigit]
        split <;> rfl
      next =>
        -- no string, by `hstring`, so a mark or an operator, which may be of two characters
        match cs, blanks, hblanks with
        | [], [], _ =>
          dsimp only [List.nil_append]
          cases charLexeme? c <;> rfl
        | [], b :: blanks, hblanks =>
          dsimp only [List.nil_append]
          rw [pairLexeme?_of_isBlank (hblanks b List.mem_cons_self)]
          cases charLexeme? c <;> rfl
        | d :: rest, blanks, _ =>
          dsimp only [List.cons_append]
          cases pairLexeme? c d <;> cases charLexeme? c <;> rfl

/-! ### All lexemes -/

/-- The lexemes of tokens, if the tokens can be read. -/
def lexemes? (tokens : Except Error (List Token)) : Option (List Lexeme) :=
  tokens.toOption.map fun tokens => tokens.map Token.lexeme

theorem tokensFrom_blanks (hblanks : ∀ b ∈ blanks, isBlank b = true) (offset : Nat)
    (cs : List Char) :
    tokensFrom offset (blanks ++ cs) = tokensFrom (offset + byteLength blanks) cs := by
  induction blanks generalizing offset with
  | nil => rfl
  | cons b blanks ih =>
      obtain ⟨hb, hblanks⟩ := List.forall_mem_cons.mp hblanks
      rw [List.cons_append, tokensFrom, if_pos hb, ih hblanks, byteLength, Nat.add_assoc]

theorem lexemes?_bind_cons (token : Token) (tokens : Except Error (List Token)) :
    lexemes? (tokens >>= fun later => return token :: later) =
      (lexemes? tokens).map (token.lexeme :: ·) := by
  cases tokens <;> rfl

theorem lexemes?_of_read?_eq_none (hc : isBlank c = false)
    (hread : read? (readLexeme offset c cs) = none) :
    lexemes? (tokensFrom offset (c :: cs)) = none := by
  rw [tokensFrom, if_neg (by simp [hc])]
  cases hlexeme : readLexeme offset c cs with
  | error => rfl
  | ok => simp [hlexeme, read?] at hread

theorem lexemes?_of_read?_eq_some {m : Lexeme} (hc : isBlank c = false)
    (hread : read? (readLexeme offset c cs) = some (m, rest)) :
    ∃ later, lexemes? (tokensFrom offset (c :: cs)) =
      (lexemes? (tokensFrom later rest)).map (m :: ·) := by
  rw [tokensFrom, if_neg (by simp [hc])]
  cases hlexeme : readLexeme offset c cs with
  | error => simp [hlexeme, read?] at hread
  | ok reading =>
      rw [hlexeme, read?, Option.some.injEq, Prod.mk.injEq] at hread
      obtain ⟨rfl, rfl⟩ := hread
      exact ⟨offset + byteLength (c :: reading.body), lexemes?_bind_cons ⟨_, offset⟩ _⟩

theorem lexemes?_append (hblanks : ∀ b ∈ blanks, isBlank b = true) (offset offset' : Nat)
    (cs : List Char) :
    lexemes? (tokensFrom offset' (cs ++ blanks)) = lexemes? (tokensFrom offset cs) := by
  fun_induction tokensFrom offset cs generalizing offset' with
  | case1 offset =>
      have hnone := tokensFrom_blanks hblanks offset' []
      rw [List.append_nil] at hnone
      rw [List.nil_append, hnone, tokensFrom]
  | case2 offset c cs hc ih =>
      rw [List.cons_append, tokensFrom, if_pos hc]
      exact ih _
  | case3 offset c cs hc ih =>
      have hblank : isBlank c = false := by simpa using hc
      have hread := read?_append hblanks offset offset' c cs
      rw [List.cons_append]
      cases hlexeme : readLexeme offset c cs with
      | error e =>
          rw [hlexeme, read?, Option.map_none] at hread
          rw [lexemes?_of_read?_eq_none hblank hread]
          rfl
      | ok reading =>
          rw [hlexeme, read?, Option.map_some] at hread
          obtain ⟨later, hlater⟩ := lexemes?_of_read?_eq_some hblank hread
          rw [hlater, ih reading later]
          exact (lexemes?_bind_cons ⟨_, offset⟩ _).symm

theorem lexemes?_trimmed (source : String) :
    lexemes? (tokenize (trimmed source)) = lexemes? (tokenize source) := by
  obtain ⟨front, back, hsplit, hfront, hback⟩ := exists_strip isBlank source.toList
  rw [tokenize, tokenize, trimmed, String.toList_ofList, trim_eq_strip]
  conv_rhs => rw [hsplit, List.append_assoc, tokensFrom_blanks hfront]
  exact (lexemes?_append hback _ _ _).symm

end Apprentice.Expr
