import Apprentice.Expr.Predicate
import Apprentice.Proofs.Except

/-!
# Typed expressions

An expression has a type only if its operands have types that fit together. One lemma for each form
of expression says which ones; later proofs take a typed expression apart by them and never open the
checker.
-/

namespace Apprentice

namespace Expr

variable {arity : Arity} {t : Ty}

/-! ### The forms of expressions -/

-- Derives the equations of the typing once, for all the proofs that rewrite with them.
attribute [local simp] typeOf typesOf

theorem typeOf_attr_eq_ok {subject : Variable} {field : Attribute}
    (hok : typeOf arity (.attr subject field) = .ok t) :
    subject.boundBy arity = true ∧ t = field.ty := by
  rw [typeOf] at hok
  split at hok
  next hbound => exact ⟨hbound, (Except.ok.inj hok).symm⟩
  next => cases hok

theorem indexType_eq_ok {target index : Ty} {position : Expr}
    (hok : indexType target position index = .ok t) :
    index = .int ∧ ((target = .pos ∧ t = .int) ∨ (target = .str ∧ t = .str)) := by
  unfold indexType at hok
  split at hok
  next => cases hok
  next hindex =>
    refine ⟨Decidable.not_not.mp hindex, ?_⟩
    split at hok
    next =>
      split at hok
      · exact .inl ⟨rfl, (Except.ok.inj hok).symm⟩
      · cases hok
    next => exact .inl ⟨rfl, (Except.ok.inj hok).symm⟩
    next => exact .inr ⟨rfl, (Except.ok.inj hok).symm⟩
    next => cases hok

theorem typeOf_index_eq_ok {target position : Expr}
    (hok : typeOf arity (.index target position) = .ok t) :
    ∃ targetTy, typeOf arity target = .ok targetTy ∧ typeOf arity position = .ok .int ∧
      ((targetTy = .pos ∧ t = .int) ∨ (targetTy = .str ∧ t = .str)) := by
  rw [typeOf] at hok
  obtain ⟨targetTy, htarget, hok⟩ := bind_eq_ok hok
  obtain ⟨positionTy, hposition, hok⟩ := bind_eq_ok hok
  obtain ⟨rfl, hresult⟩ := indexType_eq_ok hok
  exact ⟨targetTy, htarget, hposition, hresult⟩

theorem typeOf_list_eq_ok {items : List Expr} (hok : typeOf arity (.list items) = .ok t) :
    (∃ tys, typesOf arity items = .ok tys) ∧ t = .list := by
  rw [typeOf] at hok
  obtain ⟨tys, hitems, hok⟩ := bind_eq_ok hok
  exact ⟨⟨tys, hitems⟩, (Except.ok.inj hok).symm⟩

theorem typeOf_unary_eq_ok {op : UnaryOp} {operand : Expr}
    (hok : typeOf arity (.unary op operand) = .ok t) :
    ∃ ty, typeOf arity operand = .ok ty ∧ op.result? ty = some t := by
  rw [typeOf] at hok
  obtain ⟨ty, hoperand, hok⟩ := bind_eq_ok hok
  refine ⟨ty, hoperand, ?_⟩
  split at hok
  next hresult => rw [hresult, Except.ok.inj hok]
  next => cases hok

theorem typeOf_binary_eq_ok {op : BinaryOp} {left right : Expr}
    (hok : typeOf arity (.binary op left right) = .ok t) :
    ∃ leftTy rightTy, typeOf arity left = .ok leftTy ∧ typeOf arity right = .ok rightTy ∧
      op.result? leftTy rightTy = some t := by
  rw [typeOf] at hok
  obtain ⟨leftTy, hleft, hok⟩ := bind_eq_ok hok
  obtain ⟨rightTy, hright, hok⟩ := bind_eq_ok hok
  refine ⟨leftTy, rightTy, hleft, hright, ?_⟩
  split at hok
  next hresult => rw [hresult, Except.ok.inj hok]
  next => cases hok

theorem typeOf_call_eq_ok {function : Function} {arguments : List Expr}
    (hok : typeOf arity (.call function arguments) = .ok t) :
    ∃ tys, typesOf arity arguments = .ok tys ∧ function.result? tys = some t := by
  rw [typeOf] at hok
  obtain ⟨tys, harguments, hok⟩ := bind_eq_ok hok
  refine ⟨tys, harguments, ?_⟩
  split at hok
  next hresult => rw [hresult, Except.ok.inj hok]
  next => cases hok

theorem typesOf_cons_eq_ok {e : Expr} {es : List Expr} {tys : List Ty}
    (hok : typesOf arity (e :: es) = .ok tys) :
    ∃ ty rest, typeOf arity e = .ok ty ∧ typesOf arity es = .ok rest ∧ tys = ty :: rest := by
  rw [typesOf] at hok
  obtain ⟨ty, hty, hok⟩ := bind_eq_ok hok
  obtain ⟨rest, hrest, hok⟩ := bind_eq_ok hok
  exact ⟨ty, rest, hty, hrest, (Except.ok.inj hok).symm⟩

/-! ### The operators -/

theorem BinaryOp.result?_connective {op : BinaryOp} {left right : Ty} (hop : op = .and ∨ op = .or)
    (hresult : op.result? left right = some t) : left = .bool ∧ right = .bool ∧ t = .bool := by
  rcases hop with rfl | rfl <;> cases left <;> cases right <;> simp_all [result?]

end Expr

theorem Predicate.compile_eq_ok {arity : Arity} {source : String} {p : Predicate}
    (hok : Predicate.compile arity source = .ok p) :
    p.arity = arity ∧ Expr.typeOf arity p.root = .ok .bool := by
  obtain ⟨root, htree, hok⟩ := bind_eq_ok hok
  obtain rfl := Except.ok.inj hok
  obtain ⟨tokens, -, htree⟩ := bind_eq_ok htree
  obtain ⟨parsed, -, htree⟩ := bind_eq_ok htree
  obtain ⟨_, hcheck, htree⟩ := bind_eq_ok htree
  obtain rfl := Except.ok.inj htree
  obtain ⟨ty, htype, hcheck⟩ := bind_eq_ok hcheck
  refine ⟨rfl, ?_⟩
  split at hcheck
  next hbool => rw [htype, hbool]
  next => cases hcheck

theorem Predicate.compile_of_parse {arity : Arity} {source trimmed : String}
    {tokens : List Expr.Token} {n : Nat} {root : Expr}
    (htokens : Expr.tokenize source = .ok tokens) (hsize : source.utf8ByteSize = n)
    (hparse : Expr.parse n tokens = .ok root) (htype : Expr.typeOf arity root = .ok .bool)
    (htrimmed : Text.trimmed source = trimmed) :
    Predicate.compile arity source = .ok ⟨arity, root, trimmed⟩ := by
  subst hsize htrimmed
  have hcheck : Expr.checkCondition arity root = .ok () := by
    rw [Expr.checkCondition, htype]
    rfl
  have htree : Predicate.treeOf arity source = .ok root := by
    rw [Predicate.treeOf, htokens]
    change (Expr.parse _ tokens >>= _) = _
    rw [hparse]
    change (Expr.checkCondition arity root >>= _) = _
    rw [hcheck]
    rfl
  rw [Predicate.compile, htree]
  rfl

end Apprentice
