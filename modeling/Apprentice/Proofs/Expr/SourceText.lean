import Apprentice.Proofs.Expr.Blanks
import Apprentice.Proofs.Expr.Places
import Apprentice.Proofs.Expr.Typing
import Apprentice.Proofs.Text.Trim

/-!
# Predicates and their source

A predicate keeps its source without the blanks around it, and is compared by that and its arity.
This is enough: the tree of a text depends on its lexemes only, and the blanks around a text are no
part of them. So predicates that are equal are the same condition, and every predicate can be had
again from the source that it keeps.
-/

namespace Apprentice

variable {arity arity' : Arity} {source source' : String} {p q : Predicate}

namespace Predicate

open Apprentice.Expr Apprentice.Text

/-- The tree of a text is a function of its lexemes. -/
theorem toOption_treeOf (arity : Arity) (source : String) :
    (treeOf arity source).toOption =
      (lexemes? (tokenize source)).bind fun lexemes =>
        (parse 0 (lexemes.map (⟨·, 0⟩))).toOption.bind fun root =>
          (checkCondition arity root).toOption.map fun _ => root := by
  rw [treeOf]
  cases tokenize source with
  | error => rfl
  | ok tokens =>
      have hlexemes : tokens.map Token.lexeme =
          ((tokens.map Token.lexeme).map (⟨·, 0⟩)).map Token.lexeme := by
        rw [List.map_map]
        exact (List.map_id _).symm
      change (parse source.utf8ByteSize tokens >>= _).toOption =
        (parse 0 ((tokens.map Token.lexeme).map (⟨·, 0⟩))).toOption.bind _
      rw [← toOption_parse_eq source.utf8ByteSize 0 hlexemes]
      cases parse source.utf8ByteSize tokens with
      | error => rfl
      | ok root =>
          change (checkCondition arity root >>= _).toOption =
            (checkCondition arity root).toOption.map _
          cases checkCondition arity root <;> rfl

theorem toOption_compile (arity : Arity) (source : String) :
    (compile arity source).toOption =
      (treeOf arity source).toOption.map fun root => ⟨arity, root, trimmed source⟩ := by
  rw [compile]
  cases treeOf arity source <;> rfl

/-- Blanks around a text do not matter, to whether it is a condition and to which. -/
theorem toOption_compile_trimmed (arity : Arity) (source : String) :
    (compile arity (trimmed source)).toOption = (compile arity source).toOption := by
  rw [toOption_compile, toOption_compile, toOption_treeOf, toOption_treeOf, lexemes?_trimmed,
    trimmed_trimmed]

theorem source_of_compile_eq_ok (hcompile : compile arity source = .ok p) :
    p.source = trimmed source := by
  obtain ⟨root, -, hok⟩ := bind_eq_ok hcompile
  obtain rfl := Except.ok.inj hok
  rfl

theorem beq_iff : (p == q) = true ↔ p.arity = q.arity ∧ p.source = q.source := by
  change (p.arity == q.arity && p.source == q.source) = true ↔ _
  rw [Bool.and_eq_true, beq_iff_eq, beq_iff_eq]

theorem eq_of_beq_of_compile (hp : compile arity source = .ok p)
    (hq : compile arity' source' = .ok q) (hbeq : (p == q) = true) : p = q := by
  obtain ⟨harity, hsource⟩ := beq_iff.mp hbeq
  rw [(compile_eq_ok hp).1, (compile_eq_ok hq).1] at harity
  rw [source_of_compile_eq_ok hp, source_of_compile_eq_ok hq] at hsource
  refine Option.some.inj ?_
  calc some p
    _ = (compile arity source).toOption := (toOption_eq_some_iff.mpr hp).symm
    _ = (compile arity' (trimmed source')).toOption := by
      rw [← toOption_compile_trimmed, harity, hsource]
    _ = some q := by rw [toOption_compile_trimmed, toOption_eq_some_iff.mpr hq]

theorem compile_trimmed_eq_ok_iff :
    compile arity (trimmed source) = .ok p ↔ compile arity source = .ok p := by
  rw [← toOption_eq_some_iff, toOption_compile_trimmed, toOption_eq_some_iff]

/-- Predicates that are equal have the same tree and hold of the same objects and pairs. A text can
be compiled exactly if it can be without the blanks around it, and comes to the same predicate. The
source that a predicate keeps can always be compiled, to this predicate. -/
theorem compile_determined :
    (∀ {arity arity' : Arity} {source source' : String} {p q : Predicate},
      compile arity source = .ok p → compile arity' source' = .ok q → (p == q) = true →
        p.root = q.root ∧ (∀ o, p.test o = q.test o) ∧
          ∀ left right, p.testPair left right = q.testPair left right) ∧
    (∀ (arity : Arity) (source : String) (p : Predicate),
      compile arity (trimmed source) = .ok p ↔ compile arity source = .ok p) ∧
    ∀ {arity : Arity} {source : String} {p : Predicate},
      compile arity source = .ok p → compile p.arity p.source = .ok p := by
  refine ⟨fun hp hq hbeq => ?_, fun _ _ _ => compile_trimmed_eq_ok_iff, fun hp => ?_⟩
  · obtain rfl := eq_of_beq_of_compile hp hq hbeq
    exact ⟨rfl, fun _ => rfl, fun _ _ => rfl⟩
  · rw [(compile_eq_ok hp).1, source_of_compile_eq_ok hp]
    exact compile_trimmed_eq_ok_iff.mpr hp

/-- Two texts of one condition, with blanks in different places around it. -/
theorem compile_determined_of_blanks : ∃ p q : Predicate,
    compile .unary "  obj.size > 6" = .ok p ∧ compile .unary "obj.size > 6\t\n" = .ok q ∧
    (p == q) = true ∧ p.root = q.root ∧ (∀ o, p.test o = q.test o) ∧
    compile .unary (trimmed "  obj.size > 6") = .ok p ∧ compile q.arity q.source = .ok q := by
  have htrimmed : trimmed "  obj.size > 6" = "obj.size > 6" := by decide +kernel
  have htrimmed' : trimmed "obj.size > 6\t\n" = "obj.size > 6" := by decide +kernel
  have htokens : tokenize "  obj.size > 6" = .ok [⟨.ident "obj", 2⟩, ⟨.dot, 5⟩,
      ⟨.ident "size", 6⟩, ⟨.gt, 11⟩, ⟨.int 6, 13⟩] := by decide +kernel
  have htokens' : tokenize "obj.size > 6\t\n" = .ok [⟨.ident "obj", 0⟩, ⟨.dot, 3⟩,
      ⟨.ident "size", 4⟩, ⟨.gt, 9⟩, ⟨.int 6, 11⟩] := by decide +kernel
  have hp : compile .unary "  obj.size > 6" =
      .ok ⟨.unary, .binary .gt (.attr .obj .size) (.literal (.int 6)), "obj.size > 6"⟩ :=
    compile_of_parse (n := 14) htokens rfl (by cbv) rfl htrimmed
  have hq : compile .unary "obj.size > 6\t\n" =
      .ok ⟨.unary, .binary .gt (.attr .obj .size) (.literal (.int 6)), "obj.size > 6"⟩ :=
    compile_of_parse (n := 14) htokens' rfl (by cbv) rfl htrimmed'
  obtain ⟨hequal, htrim, hsource⟩ := compile_determined
  obtain ⟨hroot, htest, -⟩ := hequal hp hq (beq_iff.mpr ⟨rfl, rfl⟩)
  exact ⟨_, _, hp, hq, beq_iff.mpr ⟨rfl, rfl⟩, hroot, htest, (htrim _ _ _).mpr hp, hsource hq⟩

end Predicate

end Apprentice
