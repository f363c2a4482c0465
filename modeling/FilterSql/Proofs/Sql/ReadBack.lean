import FilterSql.Proofs.Sql.Written

/-!
# Reading back what is written

The reader finds in the text of a well-formed condition that condition: what is nested stays nested,
and every placeholder gets its own parameter.

* `Term.WellFormed.readTerm`: an operand is read back in front of whatever follows.
* `ReadBack`: a condition is read back at each level of the grammar that it belongs to, in front of
  what may follow a condition of that level.
* `Condition.WellFormed.read?_fragment`: reading undoes writing.
-/

namespace FilterSql.Sql

/-! ## Operands -/

namespace Term

theorem readTerms_of_readTerm {as : List Term} (hne : as ≠ [])
    (h : ∀ a ∈ as, ∀ fuel rest, a.tokens.length ≤ fuel →
      Sql.readTerm fuel (a.tokens ++ rest) = some (a, rest)) :
    ∀ fuel rest, (tokensList as).length < fuel →
      readTerms fuel (tokensList as ++ .closing :: rest) = some (as, rest) := by
  intro fuel rest hFuel
  cases fuel with
  | zero => omega
  | succ fuel =>
    match as, hne with
    | [a], _ =>
      rw [tokensList] at hFuel ⊢
      rw [readTerms, h a List.mem_cons_self fuel _ (by omega)]
      rfl
    | a :: b :: as, _ =>
      rw [tokensList, List.length_append, List.length_cons] at hFuel
      have hRest := readTerms_of_readTerm (List.cons_ne_nil b as)
        (fun d hd => h d (List.mem_cons_of_mem a hd)) fuel rest (by omega)
      rw [tokensList, List.append_assoc, List.cons_append, readTerms,
        h a List.mem_cons_self fuel _ (by omega)]
      show (readTerms fuel _).bind _ = _
      rw [hRest]
      rfl

/-- An operand is read back, whatever follows. A call of the grammar takes a token. -/
theorem WellFormed.readTerm {a : Term} (h : a.WellFormed) :
    ∀ fuel rest, a.tokens.length ≤ fuel →
      Sql.readTerm fuel (a.tokens ++ rest) = some (a, rest) := by
  induction h with
  | column _ _ =>
    intro fuel rest hFuel
    cases fuel with
    | zero => exact absurd hFuel (by simp [tokens])
    | succ fuel => rfl
  | value _ =>
    intro fuel rest hFuel
    cases fuel with
    | zero => exact absurd hFuel (by simp [tokens])
    | succ fuel => rfl
  | number _ =>
    intro fuel rest hFuel
    cases fuel with
    | zero => exact absurd hFuel (by simp [tokens])
    | succ fuel => rfl
  | @call f args _ hne _ ih =>
    intro fuel rest hFuel
    rw [tokens, List.length_cons, List.length_cons, List.length_append, List.length_singleton]
      at hFuel
    cases fuel with
    | zero => omega
    | succ fuel =>
      have hArgs := readTerms_of_readTerm hne ih fuel rest (by omega)
      rw [tokens, List.cons_append, List.cons_append, List.append_assoc, List.singleton_append,
        Sql.readTerm, hArgs]
      rfl

theorem WellFormed.tokens_pos {a : Term} (h : a.WellFormed) : 0 < a.tokens.length := by
  cases h <;> exact Nat.succ_pos _

/-- A predicate begins with an operand, which neither NOT nor a parenthesis begins. -/
theorem readFactor_tokens (a : Term) (fuel : Nat) (rest : List Token) :
    readFactor (fuel + 1) (a.tokens ++ rest) = readPredicate fuel (a.tokens ++ rest) := by
  cases a <;> rfl

end Term

/-! ## Conditions -/

/-- What may follow a condition of a level. -/
inductive Ends : Nat → List Token → Prop where
  | nil {level : Nat} : Ends level []
  | closing {level : Nat} (ts : List Token) : Ends level (.closing :: ts)
  | or {level : Nat} (ts : List Token) (h : level ≤ 1) : Ends level (.keyword .or :: ts)
  | and {level : Nat} (ts : List Token) (h : level = 0) : Ends level (.keyword .and :: ts)

/-- A condition is read back at each level that it belongs to. -/
structure ReadBack (c : Condition) : Prop where
  factor : c.level = 0 → ∀ fuel rest, 4 * c.tokens.length ≤ fuel → Ends 0 rest →
    readFactor fuel (c.tokens ++ rest) = some (c, rest)
  conjunction : c.level ≤ 1 → ∀ fuel rest, 4 * c.tokens.length + 1 ≤ fuel → Ends 1 rest →
    readConjunction fuel (c.tokens ++ rest) = some (c, rest)
  disjunction : ∀ fuel rest, 4 * c.tokens.length + 2 ≤ fuel → Ends 2 rest →
    readDisjunction fuel (c.tokens ++ rest) = some (c, rest)

theorem Ends.zero {level : Nat} {ts : List Token} (h : Ends level ts) : Ends 0 ts := by
  cases h with
  | nil => exact .nil
  | closing => exact .closing _
  | or => exact .or _ (Nat.zero_le 1)
  | and => exact .and _ rfl

theorem readConjunction_of_factor {c : Condition} {fuel : Nat} {ts rest : List Token}
    (h : readFactor fuel ts = some (c, rest)) (hRest : Ends 1 rest) :
    readConjunction (fuel + 1) ts = some (c, rest) := by
  rw [readConjunction, h]
  cases hRest with
  | nil => rfl
  | closing => rfl
  | or => rfl
  | and _ h => omega

theorem readDisjunction_of_conjunction {c : Condition} {fuel : Nat} {ts rest : List Token}
    (h : readConjunction fuel ts = some (c, rest)) (hRest : Ends 2 rest) :
    readDisjunction (fuel + 1) ts = some (c, rest) := by
  rw [readDisjunction, h]
  cases hRest with
  | nil => rfl
  | closing => rfl
  | or _ h => omega
  | and _ h => omega

theorem Ends.one {ts : List Token} (h : Ends 2 ts) : Ends 1 ts := by
  cases h with
  | nil => exact .nil
  | closing => exact .closing _
  | or _ h => omega
  | and _ h => omega

/-- What is read back as a conjunction is read back as a disjunction. -/
theorem ReadBack.of_conjunction {c : Condition} (hLevel : c.level = 1)
    (h : ∀ fuel rest, 4 * c.tokens.length + 1 ≤ fuel → Ends 1 rest →
      readConjunction fuel (c.tokens ++ rest) = some (c, rest)) : ReadBack c where
  factor h0 := absurd h0 (by omega)
  conjunction _ := h
  disjunction fuel rest hFuel hRest := by
    cases fuel with
    | zero => omega
    | succ fuel => exact readDisjunction_of_conjunction (h fuel rest (by omega) hRest.one) hRest

/-- What is read back as a factor is read back at all levels. -/
theorem ReadBack.of_factor {c : Condition}
    (h : ∀ fuel rest, 4 * c.tokens.length ≤ fuel → Ends 0 rest →
      readFactor fuel (c.tokens ++ rest) = some (c, rest)) : ReadBack c := by
  have hConjunction : ∀ fuel rest, 4 * c.tokens.length + 1 ≤ fuel → Ends 1 rest →
      readConjunction fuel (c.tokens ++ rest) = some (c, rest) := by
    intro fuel rest hFuel hRest
    cases fuel with
    | zero => omega
    | succ fuel => exact readConjunction_of_factor (h fuel rest (by omega) hRest.zero) hRest
  refine ⟨fun _ => h, fun _ => hConjunction, fun fuel rest hFuel hRest => ?_⟩
  cases fuel with
  | zero => omega
  | succ fuel =>
    exact readDisjunction_of_conjunction (hConjunction fuel rest (by omega) hRest.one) hRest

/-- A predicate that is read back in front of what may follow is read back as a factor. -/
theorem ReadBack.of_predicate {c : Condition} {a : Term} (ts : List Token)
    (hTokens : c.tokens = a.tokens ++ ts) (ha : a.WellFormed)
    (h : ∀ fuel rest, c.tokens.length ≤ fuel → Ends 0 rest →
      readPredicate fuel (c.tokens ++ rest) = some (c, rest)) : ReadBack c := by
  refine .of_factor fun fuel rest hFuel hRest => ?_
  have hPos : 0 < c.tokens.length := by
    have := ha.tokens_pos
    rw [hTokens, List.length_append]
    omega
  cases fuel with
  | zero => omega
  | succ fuel =>
    have hFactor := a.readFactor_tokens fuel (ts ++ rest)
    rw [← List.append_assoc, ← hTokens] at hFactor
    rw [hFactor]
    exact h fuel rest (by omega) hRest

/-! ## Predicates -/

theorem readBack_compare {l r : Term} (hl : l.WellFormed) (hr : r.WellFormed)
    (op : ComparisonOp) : ReadBack (.compare op l r) := by
  refine .of_predicate (.comparison op :: r.tokens) rfl hl fun fuel rest hFuel _ => ?_
  rw [Condition.tokens, List.length_append, List.length_cons] at hFuel
  rw [Condition.tokens, List.append_assoc, List.cons_append, readPredicate,
    hl.readTerm fuel _ (by omega)]
  show (readTerm fuel (r.tokens ++ rest)).bind _ = _
  rw [hr.readTerm fuel _ (by omega)]
  rfl

theorem readBack_overlaps {l r : Term} (hl : l.WellFormed) (hr : r.WellFormed) :
    ReadBack (.overlaps l r) := by
  refine .of_predicate (.overlaps :: r.tokens) rfl hl fun fuel rest hFuel _ => ?_
  rw [Condition.tokens, List.length_append, List.length_cons] at hFuel
  rw [Condition.tokens, List.append_assoc, List.cons_append, readPredicate,
    hl.readTerm fuel _ (by omega)]
  show (readTerm fuel (r.tokens ++ rest)).bind _ = _
  rw [hr.readTerm fuel _ (by omega)]
  rfl

/-- The first AND after BETWEEN belongs to it. -/
theorem readBack_between {s low high : Term} (hs : s.WellFormed) (hLow : low.WellFormed)
    (hHigh : high.WellFormed) : ReadBack (.between s low high) := by
  refine .of_predicate (.keyword .between :: (low.tokens ++ .keyword .and :: high.tokens)) rfl
    hs fun fuel rest hFuel _ => ?_
  rw [Condition.tokens, List.length_append, List.length_cons, List.length_append,
    List.length_cons] at hFuel
  rw [Condition.tokens, List.append_assoc, List.cons_append, List.append_assoc, List.cons_append,
    readPredicate, hs.readTerm fuel _ (by omega)]
  show (readTerm fuel (low.tokens ++ _)).bind _ = _
  rw [hLow.readTerm fuel _ (by omega)]
  show (readTerm fuel (high.tokens ++ rest)).bind _ = _
  rw [hHigh.readTerm fuel _ (by omega)]
  rfl

theorem readBack_isNull {s : Term} (hs : s.WellFormed) : ReadBack (.isNull s) := by
  refine .of_predicate [.keyword .is, .keyword .null] rfl hs fun fuel rest hFuel _ => ?_
  rw [Condition.tokens, List.length_append] at hFuel
  rw [Condition.tokens, List.append_assoc, readPredicate, hs.readTerm fuel _ (by omega)]
  rfl

theorem readBack_isNotNull {s : Term} (hs : s.WellFormed) : ReadBack (.isNotNull s) := by
  refine .of_predicate [.keyword .is, .keyword .not, .keyword .null] rfl hs
    fun fuel rest hFuel _ => ?_
  rw [Condition.tokens, List.length_append] at hFuel
  rw [Condition.tokens, List.append_assoc, readPredicate, hs.readTerm fuel _ (by omega)]
  rfl

/-- A pattern is over unless ESCAPE follows, which is no end of a predicate. -/
theorem readBack_like {s p : Term} (hs : s.WellFormed) (hp : p.WellFormed) :
    ∀ escape, ReadBack (.like s p escape)
  | none => by
    refine .of_predicate (.keyword .like :: p.tokens) rfl hs fun fuel rest hFuel hRest => ?_
    rw [Condition.tokens, List.length_append, List.length_cons] at hFuel
    rw [Condition.tokens, List.append_assoc, List.cons_append, readPredicate,
      hs.readTerm fuel _ (by omega)]
    show (readTerm fuel (p.tokens ++ rest)).bind _ = _
    rw [hp.readTerm fuel _ (by omega)]
    cases hRest <;> rfl
  | some e => by
    refine .of_predicate (.keyword .like :: (p.tokens ++ [.keyword .escape, .quoted e])) rfl
      hs fun fuel rest hFuel _ => ?_
    rw [Condition.tokens, List.length_append, List.length_cons, List.length_append] at hFuel
    rw [Condition.tokens, List.append_assoc, List.cons_append, List.append_assoc, readPredicate,
      hs.readTerm fuel _ (by omega)]
    show (readTerm fuel (p.tokens ++ _)).bind _ = _
    rw [hp.readTerm fuel _ (by omega)]
    rfl

theorem readBack_isIn {s : Term} {cs : List Term} (hs : s.WellFormed) (hne : cs ≠ [])
    (hcs : ∀ c ∈ cs, c.WellFormed) : ReadBack (.isIn s cs) := by
  refine .of_predicate
    (.keyword .isIn :: .opening :: (Term.tokensList cs ++ [.closing])) rfl hs
    fun fuel rest hFuel _ => ?_
  rw [Condition.tokens, List.length_append, List.length_cons, List.length_cons,
    List.length_append] at hFuel
  have hList := Term.readTerms_of_readTerm hne (fun c hc => (hcs c hc).readTerm) fuel rest
    (by omega)
  rw [Condition.tokens, List.append_assoc, List.cons_append, List.cons_append, List.append_assoc,
    readPredicate, hs.readTerm fuel _ (by omega)]
  show (readTerms fuel _).bind _ = _
  rw [List.singleton_append, hList]
  rfl

/-- A value stands for itself in front of whatever ends a predicate. -/
theorem readBack_test {s : Term} (hs : s.WellFormed) : ReadBack (.test s) := by
  refine .of_predicate [] (List.append_nil _).symm hs fun fuel rest hFuel hRest => ?_
  rw [Condition.tokens] at hFuel ⊢
  rw [readPredicate, hs.readTerm fuel _ hFuel]
  cases hRest <;> rfl

/-! ## Combinations -/

theorem readBack_not {c : Condition} (h : ReadBack c) (hLevel : c.level = 0) :
    ReadBack (.not c) := by
  refine .of_factor fun fuel rest hFuel hRest => ?_
  rw [Condition.tokens, List.length_cons] at hFuel
  cases fuel with
  | zero => omega
  | succ fuel =>
    rw [Condition.tokens, List.cons_append, readFactor, h.factor hLevel fuel rest (by omega) hRest]
    rfl

/-- The parenthesis that opens a group is closed by the one behind it. -/
theorem readBack_group {c : Condition} (h : ReadBack c) : ReadBack (.group c) := by
  refine .of_factor fun fuel rest hFuel _ => ?_
  rw [Condition.tokens, List.length_cons, List.length_append] at hFuel
  cases fuel with
  | zero => omega
  | succ fuel =>
    have hInner := h.disjunction fuel (.closing :: rest) (by omega) (.closing rest)
    rw [Condition.tokens, List.cons_append, List.append_assoc, List.singleton_append, readFactor,
      hInner]
    rfl

theorem readBack_and {c d : Condition} (hc : ReadBack c) (hd : ReadBack d) (hcLevel : c.level = 0)
    (hdLevel : d.level ≤ 1) : ReadBack (.and c d) := by
  refine .of_conjunction rfl fun fuel rest hFuel hRest => ?_
  rw [Condition.tokens, List.length_append, List.length_cons] at hFuel
  cases fuel with
  | zero => omega
  | succ fuel =>
    rw [Condition.tokens, List.append_assoc, List.cons_append, readConjunction,
      hc.factor hcLevel fuel _ (by omega) (.and _ rfl)]
    show (readConjunction fuel (d.tokens ++ rest)).bind _ = _
    rw [hd.conjunction hdLevel fuel rest (by omega) hRest]
    rfl

theorem readBack_or {c d : Condition} (hc : ReadBack c) (hd : ReadBack d) (hcLevel : c.level ≤ 1) :
    ReadBack (.or c d) := by
  have hLevel : (Condition.or c d).level = 2 := rfl
  refine ⟨fun h => by omega, fun h => by omega, fun fuel rest hFuel hRest => ?_⟩
  rw [Condition.tokens, List.length_append, List.length_cons] at hFuel
  cases fuel with
  | zero => omega
  | succ fuel =>
    rw [Condition.tokens, List.append_assoc, List.cons_append, readDisjunction,
      hc.conjunction hcLevel fuel _ (by omega) (.or _ (Nat.le_refl 1))]
    show (readDisjunction fuel (d.tokens ++ rest)).bind _ = _
    rw [hd.disjunction fuel rest (by omega) hRest]
    rfl

namespace Condition

theorem WellFormed.readBack {c : Condition} (h : c.WellFormed) : ReadBack c := by
  induction h with
  | compare op hl hr => exact readBack_compare hl hr op
  | between hs hLow hHigh => exact readBack_between hs hLow hHigh
  | isNull hs => exact readBack_isNull hs
  | isNotNull hs => exact readBack_isNotNull hs
  | like hs hp _ => exact readBack_like hs hp _
  | isIn hs hne hcs => exact readBack_isIn hs hne hcs
  | overlaps hl hr => exact readBack_overlaps hl hr
  | test hs => exact readBack_test hs
  | not _ hLevel ih => exact readBack_not ih hLevel
  | and _ _ hcLevel hdLevel ihc ihd => exact readBack_and ihc ihd hcLevel hdLevel
  | or _ _ hcLevel ihc ihd => exact readBack_or ihc ihd hcLevel
  | group _ ih => exact readBack_group ih

/-- **Reading undoes writing.** -/
theorem WellFormed.read?_fragment {c : Condition} (h : c.WellFormed) :
    read? c.fragment.sql c.fragment.params = some c := by
  have hRead := h.readBack.disjunction (4 * c.tokens.length + 2) [] (Nat.le_refl _) .nil
  rw [List.append_nil] at hRead
  unfold read?
  rw [h.lex]
  simp only [Option.bind_eq_bind, Option.bind_some]
  rw [hRead]

end Condition

end FilterSql.Sql
