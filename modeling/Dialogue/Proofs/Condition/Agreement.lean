import Dialogue.Proofs.Condition.Completeness

/-! Reading an expression and finding its value in one go is the same as reading it as a tree
first and finding the value of the tree afterwards. -/
namespace Dialogue.Condition

/-- A tree that the tokens write decides the value, and there is no value without one. -/
theorem valueOf_eq_ok_iff (scope : Scope) {ts : List Token}
    (shallow : ∀ t, Expresses scope.root ts t → t.nesting < depthLimit) (v : Value) :
    valueOf scope ts = .ok v ↔ ∃ t, Expresses scope.root ts t ∧ t.value scope.data = .ok v := by
  constructor
  · exact exists_tree_of_valueOf
  · rintro ⟨t, ht, hv⟩
    rw [valueOf_of_expresses ht (shallow t ht), hv]

theorem valueOf_eq_error_iff (scope : Scope) {ts : List Token}
    (shallow : ∀ t, Expresses scope.root ts t → t.nesting < depthLimit) :
    (∃ p, valueOf scope ts = .error p) ↔
      (¬ ∃ t, Expresses scope.root ts t) ∨
        ∃ t p, Expresses scope.root ts t ∧ t.value scope.data = .error p := by
  constructor
  · rintro ⟨p, hp⟩
    by_cases h : ∃ t, Expresses scope.root ts t
    · obtain ⟨t, ht⟩ := h
      exact .inr ⟨t, p, ht, by rw [← valueOf_of_expresses ht (shallow t ht), hp]⟩
    · exact .inl h
  · rintro (h | ⟨t, p, ht, hp⟩)
    · cases hv : valueOf scope ts with
      | error p => exact ⟨p, rfl⟩
      | ok v =>
        obtain ⟨t, ht, -⟩ := exists_tree_of_valueOf hv
        exact absurd ⟨t, ht⟩ h
    · exact ⟨p, by rw [valueOf_of_expresses ht (shallow t ht), hp]⟩

private theorem ofString_of_allBlank {s : String} (h : Text.allBlank s = true) :
    Token.ofString s = .ok [] := by
  have hall : ∀ c ∈ s.toList.reverse, Text.isBlank c = true := by
    simpa [Text.allBlank] using h
  have hdrop : (s.toList.reverse ++ []).dropWhile Text.isBlank = [].dropWhile Text.isBlank :=
    List.dropWhile_append_of_pos hall
  have hnil : Text.dropEndWhile Text.isBlank s.toList = [] := by
    rw [Text.dropEndWhile, ← List.append_nil s.toList.reverse, hdrop]
    rfl
  rw [Token.ofString, hnil]
  rfl

/-- A blank expression is no exception: it has no tokens, and no tokens have no value. -/
theorem test_of_tokens (scope : Scope) {s : String} {ts : List Token}
    (h : Token.ofString s = .ok ts) :
    (∀ v, valueOf scope ts = .ok v → test scope s = .ok (holds v)) ∧
      (∀ p, valueOf scope ts = .error p → ∃ q, test scope s = .error q) := by
  by_cases hb : Text.allBlank s = true
  · have hts : ts = [] := by
      rw [ofString_of_allBlank hb] at h
      exact (Except.ok.inj h).symm
    subst hts
    have hempty : test scope s = .error .empty := by
      rw [test, if_pos hb]
      rfl
    refine ⟨?_, fun p _ => ⟨.empty, hempty⟩⟩
    intro v hv
    cases hv
  · have htest : test scope s = (valueOf scope ts).map holds := by
      rw [test, if_neg hb]
      simp only [h, bind, Except.bind]
      cases valueOf scope ts <;> rfl
    exact ⟨fun v hv => by rw [htest, hv]; rfl, fun p hp => ⟨p, by rw [htest, hp]; rfl⟩⟩

/-- Not-a-number is the one value that counts as true elsewhere and as false in a condition. -/
theorem holds_iff (v : Value) :
    holds v = true ↔ v.truthy = true ∧ ∀ x, v = .float x → x.isNaN = false := by
  cases v with
  | float x => simp [holds, Value.truthy, and_comm]
  | _ => simp [holds]

/-- For tokens nested less than a hundred levels deep: they have a value exactly when they write
a tree with this value, and none exactly when they write no tree or what has to be looked at in
the tree has no value. An expression made of them holds if its value counts as true; without a
value it does not hold, and that is reported once. -/
theorem reading_agrees_with_tree (root : String) (data : Value) (ts : List Token)
    (shallow : ∀ t, Expresses root ts t → t.nesting < 100) :
    (∀ v, valueOf ⟨root, data⟩ ts = .ok v ↔ ∃ t, Expresses root ts t ∧ t.value data = .ok v) ∧
    ((∃ p, valueOf ⟨root, data⟩ ts = .error p) ↔
      (¬ ∃ t, Expresses root ts t) ∨ ∃ t p, Expresses root ts t ∧ t.value data = .error p) ∧
    (∀ s, Token.ofString s = .ok ts →
      (∀ v, valueOf ⟨root, data⟩ ts = .ok v →
        (decided ⟨root, data⟩ s).2 = [] ∧
          ((decided ⟨root, data⟩ s).1 = true ↔
            v.truthy = true ∧ ∀ x, v = .float x → x.isNaN = false)) ∧
      (∀ p, valueOf ⟨root, data⟩ ts = .error p →
        decided ⟨root, data⟩ s = (false, [.conditionFailed]))) ∧
    (∀ s p, Token.ofString s = .error p →
      decided ⟨root, data⟩ s = (false, [.conditionFailed])) := by
  have deep : ∀ t, Expresses root ts t → t.nesting < depthLimit :=
    fun t ht => Nat.lt_trans (shallow t ht) (by decide)
  refine ⟨valueOf_eq_ok_iff ⟨root, data⟩ deep,
    valueOf_eq_error_iff ⟨root, data⟩ deep, ?_, ?_⟩
  · intro s hs
    obtain ⟨hok, herr⟩ := test_of_tokens ⟨root, data⟩ hs
    refine ⟨?_, ?_⟩
    · intro v hv
      rw [decided, hok v hv]
      exact ⟨rfl, holds_iff v⟩
    · intro p hp
      obtain ⟨q, hq⟩ := herr p hp
      rw [decided, hq]
  · intro s p hs
    have hb : ¬ Text.allBlank s = true := by
      intro hb
      rw [ofString_of_allBlank hb] at hs
      cases hs
    rw [decided, test, if_neg hb, hs]
    rfl

/-- `data.vip === true || data.missing.deep > 1`, where nothing is missing but on the right. -/
theorem reading_agrees_with_tree_passing_over :
    let ts : List Token := [.name "data", .sign .dot, .name "vip", .sign (.compare .strictEqual),
      .literal (.bool true), .sign .either, .name "data", .sign .dot, .name "missing", .sign .dot,
      .name "deep", .sign (.compare .greater), .literal (.int 1)]
    let data : Value := .dict [("vip", .bool true)]
    (∀ t, Expresses "data" ts t → t.nesting < 100) ∧
      ∃ t, Expresses "data" ts t ∧ t.value data = .ok (.bool true) := by
  intro ts data
  have shallow : ∀ t, Expresses "data" ts t → t.nesting < 100 :=
    fun t ht => Nat.lt_of_le_of_lt ht.nesting_le (by decide)
  exact ⟨shallow, ((reading_agrees_with_tree "data" data ts shallow).1 (.bool true)).mp rfl⟩

end Dialogue.Condition
