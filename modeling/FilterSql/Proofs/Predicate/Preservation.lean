import FilterSql.Proofs.Predicate.Operators
import FilterSql.Proofs.Sql.ReadBack

/-!
# Conditions keep the meaning of filters

The text that a filter is compiled to says of a row what the filter says of the record. That holds
under every nesting: children are put into parentheses, so that no operator of the context gets hold
of a part of them, and parameters stand in the order of their placeholders.

* `lower_spec`: every filter, by induction on its structure.
* `compile_preserves_truth`: the text, read with its parameters, has the filter's truth value.
-/

namespace FilterSql

open FilterSql.Sql (Aliases Condition DialectKind Fragment Interpretation Tuple)
open FilterSql.Filter

variable {m : Mapping} {d : DialectKind} {catalog : Option Catalog} {a b : Aliases} {f : Fragment}

/-! ## Combinations -/

/-- Conditions in parentheses with a keyword between them. -/
theorem junction_means {keyword : String} (combine : Condition → Condition → Condition)
    {op : Truth → Truth → Truth} {unit : Truth} (bound : Nat)
    (hText : ∀ c d, (combine c d).fragment = c.fragment ++ .text keyword ++ d.fragment)
    (hLevel : ∀ c d, (combine c d).level ≤ bound)
    (hCombine : ∀ {c d t u}, Means m a c t → Means m a d u → c.level = 0 → d.level ≤ bound →
      Means m a (combine c d) fun I values => op (t I values) (u I values))
    (hUnit : ∀ t, op t unit = t) :
    ∀ {fs : List Fragment} {ts : List Meaning}, fs ≠ [] → List.Forall₂ (Denotes m a) fs ts →
      ∃ cond : Condition,
        (Fragment.join keyword (fs.map Compiler.parenthesized)).Same cond.fragment ∧
        cond.level ≤ bound ∧
        Means m a cond fun I values => (ts.map fun t => t I values).foldr op unit
  | [f], [t], _, .cons h .nil => by
    obtain ⟨cond, hSame, hMeans⟩ := h
    refine ⟨.group cond, hSame.parenthesized, Nat.zero_le bound,
      (means_group hMeans).congr fun I values => ?_⟩
    exact (hUnit _).symm
  | f :: g :: fs, t :: u :: ts, _, .cons h hRest => by
    obtain ⟨cond, hSame, hMeans⟩ := h
    obtain ⟨rest, hRestSame, hRestLevel, hRestMeans⟩ :=
      junction_means combine bound hText hLevel hCombine hUnit (List.cons_ne_nil g fs) hRest
    refine ⟨combine (.group cond) rest, ?_, hLevel _ _,
      hCombine (means_group hMeans) hRestMeans rfl hRestLevel⟩
    rw [hText]
    exact (hSame.parenthesized.append ⟨rfl, rfl⟩).append hRestSame

theorem conjunction_denotes {fs : List Fragment} {ts : List Meaning}
    (h : List.Forall₂ (Denotes m a) fs ts) :
    Denotes m a (Compiler.junction " AND " .alwaysTrue fs) fun I values =>
      .all (ts.map fun t => t I values) := by
  cases h with
  | nil => exact alwaysTrue_denotes
  | cons hHead hTail =>
    obtain ⟨cond, hSame, -, hMeans⟩ := junction_means .and 1
      (fun _ _ => rfl) (fun _ _ => Nat.le_refl 1) means_and Truth.and_yes (List.cons_ne_nil _ _)
      (.cons hHead hTail)
    exact ⟨cond, hSame, hMeans⟩

theorem disjunction_denotes {fs : List Fragment} {ts : List Meaning}
    (h : List.Forall₂ (Denotes m a) fs ts) :
    Denotes m a (Compiler.junction " OR " .alwaysFalse fs) fun I values =>
      .any (ts.map fun t => t I values) := by
  cases h with
  | nil => exact alwaysFalse_denotes
  | cons hHead hTail =>
    obtain ⟨cond, hSame, -, hMeans⟩ := junction_means .or 2
      (fun _ _ => rfl) (fun _ _ => Nat.le_refl 2)
      (fun hc hd hcLevel _ => means_or hc hd (by omega)) Truth.or_no (List.cons_ne_nil _ _)
      (.cons hHead hTail)
    exact ⟨cond, hSame, hMeans⟩

/-! ## Filters -/

/-- What a filter says about the properties of a record. -/
def Filter.meaning (m : Mapping) (d : DialectKind) (catalog : Option Catalog) (f : Filter) :
    Meaning :=
  fun I values => f.truth m d catalog I values

theorem truths_eq_map (I : Interpretation) (values : Values) (fs : List Filter) :
    truths m d catalog I values fs =
      (fs.map (Filter.meaning m d catalog)).map fun t => t I values := by
  induction fs with
  | nil => rfl
  | cons f fs ih => rw [truths, ih]; rfl

mutual

/-- **The condition of a filter says what the filter means.** -/
theorem lower_spec : ∀ {f : Filter} {a b : Aliases} {frag : Fragment}, a.Sound →
    Yields ((Compiler.ofKind m d catalog).lower f) a frag b →
    Grows a b ∧ Denotes m b frag (f.meaning m d catalog)
  | .everything, a, b, frag, ha, h => by
    obtain ⟨rfl, rfl⟩ := yields_pure.mp h
    exact ⟨.refl ha, alwaysTrue_denotes⟩
  | .nothing, a, b, frag, ha, h => by
    obtain ⟨rfl, rfl⟩ := yields_pure.mp h
    exact ⟨.refl ha, alwaysFalse_denotes⟩
  | .comparison op left right, a, b, frag, ha, h => lowerComparison_spec ha h
  | .between property low high, a, b, frag, ha, h => lowerBetween_spec ha h
  | .isNull property, a, b, frag, ha, h => lowerIsNull_spec ha h
  | .isNotNull property, a, b, frag, ha, h => lowerIsNotNull_spec ha h
  | .like property pattern o, a, b, frag, ha, h => lowerLike_spec ha h
  | .and fs, a, b, frag, ha, h => by
    obtain ⟨frags, hList, rfl⟩ := yields_map.mp h
    obtain ⟨hGrows, hDenotes⟩ := lowerList_spec ha hList
    refine ⟨hGrows, ?_⟩
    have hMeaning : (Filter.and fs).meaning m d catalog = fun I values =>
        .all ((fs.map (Filter.meaning m d catalog)).map fun t => t I values) := by
      funext I values
      rw [← truths_eq_map]
      rfl
    rw [hMeaning]
    exact conjunction_denotes hDenotes
  | .or fs, a, b, frag, ha, h => by
    obtain ⟨frags, hList, rfl⟩ := yields_map.mp h
    obtain ⟨hGrows, hDenotes⟩ := lowerList_spec ha hList
    refine ⟨hGrows, ?_⟩
    have hMeaning : (Filter.or fs).meaning m d catalog = fun I values =>
        .any ((fs.map (Filter.meaning m d catalog)).map fun t => t I values) := by
      funext I values
      rw [← truths_eq_map]
      rfl
    rw [hMeaning]
    exact disjunction_denotes hDenotes
  | .not f, a, b, frag, ha, h => by
    obtain ⟨inner, hInner, rfl⟩ := yields_map.mp h
    obtain ⟨hGrows, cond, hSame, hMeans⟩ := lower_spec ha hInner
    exact ⟨hGrows, .not (.group cond), hSame.negated, means_not (means_group hMeans) rfl⟩
  | .during r, a, b, frag, ha, h => lowerDuring_spec ha h
  | .instant t, a, b, frag, ha, h => lowerInstant_spec ha h
  | .bbox property e, a, b, frag, ha, h => lowerBbox_spec ha h
  | .distance op property center radius, a, b, frag, ha, h => lowerDistance_spec ha h
  | .procedure id, a, b, frag, ha, h => lowerProcedure_spec ha h

/-- The same for a list of filters. What one of them registers does not change the others. -/
theorem lowerList_spec : ∀ {fs : List Filter} {a b : Aliases} {frags : List Fragment}, a.Sound →
    Yields ((Compiler.ofKind m d catalog).lowerList fs) a frags b →
    Grows a b ∧ List.Forall₂ (Denotes m b) frags (fs.map (Filter.meaning m d catalog))
  | [], a, b, frags, ha, h => by
    obtain ⟨rfl, rfl⟩ := yields_pure.mp h
    exact ⟨.refl ha, .nil⟩
  | f :: fs, a, b, frags, ha, h => by
    obtain ⟨head, a₁, hHead, h⟩ := yields_bind.mp h
    obtain ⟨tail, a₂, hTail, h⟩ := yields_bind.mp h
    obtain ⟨rfl, rfl⟩ := yields_pure.mp h
    obtain ⟨hGrows₁, hDenotes⟩ := lower_spec ha hHead
    obtain ⟨hGrows₂, hRest⟩ := lowerList_spec hGrows₁.sound hTail
    exact ⟨hGrows₁.trans hGrows₂, .cons (hDenotes.mono hGrows₂.extends_) hRest⟩

end

/-! ## Rows of a statement -/

/-- **A condition has the truth value of its filter.** The text that a filter is compiled to, read
with its parameters, has on every row that holds the properties of a record the truth value that the
filter has for the record. -/
theorem compile_preserves_truth {filter : Filter}
    (h : (Compiler.ofKind m d catalog).compile filter (Compiler.ofKind m d catalog).aliases =
      (.ok f, a))
    (I : Interpretation) {row : Tuple} {values : Values}
    (hRow : ∀ property col,
      ((Compiler.ofKind m d catalog).column property).run.run a = (.ok col, a) →
        row col.toColumn = values property) :
    Sql.truth? I row f.sql f.params = some (filter.truth m d catalog I values) := by
  have hSound : (Compiler.ofKind m d catalog).aliases.Sound := Aliases.sound_ofRoot m.root_plain.1
  obtain ⟨-, cond, ⟨hSql, hParams⟩, hMeans⟩ := lower_spec hSound h
  have hAgrees : Agrees m a row values := by
    intro property p name hResolve hReg
    exact hRow property _ (column_of_registered hResolve hReg)
  unfold Sql.truth?
  rw [hSql, hParams, hMeans.wellFormed.read?_fragment]
  exact congrArg some (hMeans.truth I row values hAgrees)

/-- A negated conjunction of a range and an escaped pattern, and a comparison with the literal on
its left side. -/
def nestedFilter : Filter :=
  .or [.not (.and [.between "year" (.literal (.integer 1990)) (.literal (.integer 2000)),
      .like "title" (.literal (.text "50%*")) LikeOptions.ogc.caseInsensitive]),
    .comparison .lt (.literal (.text "a?")) (.property "keyword")]

/-- The condition of `nestedFilter`. -/
def nestedCondition : Fragment :=
  ⟨[.text "(", .text "NOT (", .text "(", .text "datasets.year", .text " BETWEEN ",
    .param (.integer 1990), .text " AND ", .param (.integer 2000), .text ")", .text " AND ",
    .text "(", .text "LOWER(", .text "datasets.title", .text ")", .text " LIKE ",
    .param (.text "50\\%%"), .text " ESCAPE '\\'", .text ")", .text ")", .text ")", .text " OR ",
    .text "(", .text "keywords.word", .text " > ", .param (.text "a?"), .text ")"]⟩

/-- A row of the table of datasets and the table of keywords. -/
def datasetRow : Tuple
  | ⟨"datasets", "year"⟩ => .integer 1995
  | ⟨"datasets", "title"⟩ => .text "50% of all"
  | ⟨"keywords", "word"⟩ => .text "all"
  | _ => .null

/-- The properties of that row in a statement. -/
def Compiler.recordOf (c : Compiler) (a : Aliases) (row : Tuple) : Values := fun property =>
  match ((c.column property).run.run a).1 with
  | .ok col => row col.toColumn
  | .error _ => .null

/-- The compiler of the example. -/
abbrev sampleCompiler : Compiler :=
  .ofKind .sample .sqlite none

/-- The aliases after `nestedFilter`. -/
def nestedAliases : Aliases :=
  ((Aliases.ofRoot "datasets").register [⟨"datasets", "id", "keywords", "dataset"⟩]).2

theorem compile_preserves_truth_nested :
    sampleCompiler.compile nestedFilter sampleCompiler.aliases =
        (.ok nestedCondition, nestedAliases) ∧
      nestedFilter.truth .sample .sqlite none .ordered
        (sampleCompiler.recordOf nestedAliases datasetRow) = .yes ∧
      Sql.truth? .ordered datasetRow nestedCondition.sql nestedCondition.params = some .yes := by
  have hCompile : sampleCompiler.compile nestedFilter sampleCompiler.aliases =
      (.ok nestedCondition, nestedAliases) := by decide +kernel
  have hTruth : nestedFilter.truth .sample .sqlite none .ordered
      (sampleCompiler.recordOf nestedAliases datasetRow) = .yes := by decide +kernel
  refine ⟨hCompile, hTruth, ?_⟩
  have hRow : ∀ property col, (sampleCompiler.column property).run.run nestedAliases =
      (.ok col, nestedAliases) →
        datasetRow col.toColumn = sampleCompiler.recordOf nestedAliases datasetRow property := by
    intro property col hCol
    unfold Compiler.recordOf
    rw [hCol]
  rw [compile_preserves_truth hCompile .ordered hRow, hTruth]

end FilterSql
