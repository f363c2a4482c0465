import FilterSql.Proofs.Like.Prefix
import FilterSql.Proofs.Predicate.Patterns

/-!
# Searching for prefixes

A search without regard to cases for the texts that start in a given way, on a database that folds
cases in full. The pattern is folded as a whole and so is the text, each with the sigmas that end
its own words. So the search misses texts in which a word goes on after the start, where the start
ends in a sigma.

* `Interpretation.FoldsCases`: a database matches patterns and folds cases in full.
* `likeTruth_prefix`: the truth value of the filter.
* `prefix_search_finds`: which of the texts that start in this way are found.
* `prefix_search_misses`: one that is not.
-/

namespace FilterSql

open FilterSql.Like (Pattern escaped_or_not_mem_startOf lower_startOf matches_lower
  ofFilter_prefixPattern prefixPattern sqlEscape startOf)
open FilterSql.Sql (Aliases DialectKind Fragment Interpretation Tuple)
open FilterSql.Text (casedFirst endsInSigma lowerFrom)
open FilterSql.Filter

/-! ## Databases -/

/-- The database matches patterns, and the function that folds cases folds all of them. A backslash
is special in a pattern if the condition declares it as the escape character; whether it is without
that does not matter. -/
structure Sql.Interpretation.FoldsCases (I : Interpretation) : Prop where
  like : ∀ (text : String) (p : Pattern), p.escaped = true ∨ sqlEscape ∉ p.chars →
    I.like (.text text) (.text p.text) (if p.escaped then some "\\" else none) =
      .ofBool (p.matches text.toList)
  lower : ∀ text : String, I.call "LOWER" [.text text] = .text (Text.lower text)

/-- The interpretation that knows patterns and folds cases in full. -/
def Sql.Interpretation.folding : Interpretation where
  __ := Interpretation.ordered
  call
    | "LOWER", [.text s] => .text (Text.lower s)
    | _, _ => .null

theorem Sql.Interpretation.folding_foldsCases : Interpretation.folding.FoldsCases where
  like text p _ := Interpretation.ordered_knowsPatterns.like text p
  lower _ := rfl

variable {m : Mapping} {d : DialectKind} {catalog : Option Catalog}
variable {I : Interpretation} {values : Values} {property : String} {o : LikeOptions}

/-! ## The meaning of the filter -/

theorem lower_text (p : Pattern) :
    Text.lower p.text = Pattern.text { p with chars := lowerFrom [] p.chars } := by
  unfold Text.lower Pattern.text
  rw [String.toList_ofList]

/-- The filter for a prefix holds of the texts that start with it, except where the folding of the
prefix is not the start of the folding of the text. -/
theorem likeTruth_prefix (hI : I.FoldsCases) (hCase : o.matchCase = false)
    (hWild : o.wildCard ≠ o.escapeChar) {start rest : String}
    (hText : values property = .text (start ++ rest)) :
    likeTruth .postgis I values property o
        (.literal (.text (String.ofList (prefixPattern o start.toList)))) =
      .ofBool (!(endsInSigma start.toList && casedFirst rest.toList)) := by
  have hFolded : (Text.lower (start ++ rest)).toList =
      lowerFrom [] (start.toList ++ rest.toList) := by
    unfold Text.lower
    rw [String.toList_ofList, String.toList_append]
  rw [← matches_lower, ← hFolded, ← hI.like _ _ (escaped_or_not_mem_startOf _), ← lower_startOf,
    ← lower_text]
  simp only [likeTruth, hCase, Bool.false_eq_true, if_false, hText, hI.lower,
    String.toList_ofList, ofFilter_prefixPattern hWild]
  rfl

/-! ## Conditions -/

/-- A pattern filter is compiled, and its condition has the truth value of the filter. -/
theorem compile_like_truth {p : Mapping.Property} (hResolve : m.resolve property = .ok p)
    (hType : p.type ≠ .geometry) (I : Interpretation) (d : DialectKind) (catalog : Option Catalog)
    (o : LikeOptions) (pattern : String) :
    ∃ f col b, (Compiler.ofKind m d catalog).compile
        (.like property (.literal (.text pattern)) o) (Compiler.ofKind m d catalog).aliases =
          (.ok f, b) ∧
      Locates m b property col ∧
      ∀ row : Tuple, ∃ values : Values, values property = row col.toColumn ∧
        Sql.truth? I row f.sql f.params =
          some (likeTruth d I values property o (.literal (.text pattern))) := by
  have hSound : (Compiler.ofKind m d catalog).aliases.Sound := Aliases.sound_ofRoot m.root_plain.1
  obtain ⟨f, col, b, hLower, hColumn⟩ := compile_like hResolve hType d catalog
    (Compiler.ofKind m d catalog).aliases o pattern
  obtain ⟨-, hLocates⟩ := column_spec hSound hColumn
  obtain ⟨-, hDenotes⟩ := lowerLike_spec hSound hLower
  exact ⟨f, col, b, hLower, hLocates, fun row => ⟨(Compiler.ofKind m d catalog).recordOf b row,
    Compiler.recordOf_eq hLocates.yields,
    hDenotes.truth (agrees_recordOf (Compiler.ofKind m d catalog) b row)⟩⟩

/-- **A search for a prefix without regard to cases finds the texts that start with it**, unless the
prefix ends in a capital sigma that would end a word, and the word goes on in the text. For every
property that is no geometry the filter is compiled, and the condition, read with its parameter, has
this truth value. The other special characters of the pattern need not be different. -/
theorem prefix_search_finds {p : Mapping.Property} (hResolve : m.resolve property = .ok p)
    (hType : p.type ≠ .geometry) (hI : I.FoldsCases) (catalog : Option Catalog)
    (hCase : o.matchCase = false) (hWild : o.wildCard ≠ o.escapeChar) (start : String) :
    ∃ f col b, (Compiler.ofKind m .postgis catalog).compile
        (.like property (.literal (.text (String.ofList (prefixPattern o start.toList)))) o)
        (Compiler.ofKind m .postgis catalog).aliases = (.ok f, b) ∧
      Locates m b property col ∧
      ∀ (row : Tuple) (rest : String), row col.toColumn = .text (start ++ rest) →
        Sql.truth? I row f.sql f.params =
          some (.ofBool (!(endsInSigma start.toList && casedFirst rest.toList))) := by
  obtain ⟨f, col, b, hCompile, hLocates, hTruth⟩ :=
    compile_like_truth hResolve hType I .postgis catalog o
      (String.ofList (prefixPattern o start.toList))
  refine ⟨f, col, b, hCompile, hLocates, fun row rest hText => ?_⟩
  obtain ⟨values, hValues, hTruth⟩ := hTruth row
  rw [hTruth, likeTruth_prefix hI hCase hWild (hValues.trans hText)]

/-- A prefix that ends in a sigma, with a special character of the filter and one of the statement.
Texts in which a new word starts after it are found. -/
theorem prefix_search_finds_word :
    Mapping.sample.resolve "title" = .ok ⟨"datasets", "title", .text, []⟩ ∧
      ValueType.text ≠ .geometry ∧ Interpretation.folding.FoldsCases ∧
      LikeOptions.ogc.wildCard ≠ LikeOptions.ogc.escapeChar ∧
      ∃ f col b, (Compiler.ofKind .sample .postgis none).compile
          (.like "title" (.literal (.text "50% !* ΟΔΟΣ*")) LikeOptions.ogc.caseInsensitive)
          (Compiler.ofKind .sample .postgis none).aliases = (.ok f, b) ∧
        Locates .sample b "title" col ∧
        ∀ row : Tuple, row col.toColumn = .text "50% * ΟΔΟΣ Ω" →
          Sql.truth? .folding row f.sql f.params = some .yes := by
  have hResolve : Mapping.sample.resolve "title" = .ok ⟨"datasets", "title", .text, []⟩ := by
    decide +kernel
  have hType : ValueType.text ≠ .geometry := by decide
  have hFolds := Interpretation.folding_foldsCases
  have hWild : LikeOptions.ogc.caseInsensitive.wildCard ≠
      LikeOptions.ogc.caseInsensitive.escapeChar := by decide
  obtain ⟨f, col, b, hCompile, hLocates, hFinds⟩ := prefix_search_finds hResolve hType hFolds none
    rfl hWild "50% * ΟΔΟΣ"
  refine ⟨hResolve, hType, hFolds, hWild, f, col, b, hCompile, hLocates, fun row hText => ?_⟩
  rw [hFinds row " Ω" hText]
  decide +kernel

/-- **A word that goes on after a sigma is not found by its start.** The pattern is folded with a
final sigma, the text with another one. -/
theorem prefix_search_misses :
    Interpretation.folding.FoldsCases ∧
      ∃ f col b, (Compiler.ofKind .sample .postgis none).compile
          (.like "title" (.literal (.text "ΟΔΟΣ*")) LikeOptions.ogc.caseInsensitive)
          (Compiler.ofKind .sample .postgis none).aliases = (.ok f, b) ∧
        Locates .sample b "title" col ∧
        ∀ row : Tuple, row col.toColumn = .text ("ΟΔΟΣ" ++ "Ω") →
          Sql.truth? .folding row f.sql f.params = some .no := by
  have hFolds := Interpretation.folding_foldsCases
  have hResolve : Mapping.sample.resolve "title" = .ok ⟨"datasets", "title", .text, []⟩ := by
    decide +kernel
  obtain ⟨f, col, b, hCompile, hLocates, hTruth⟩ :=
    compile_like_truth hResolve (by decide) .folding .postgis none LikeOptions.ogc.caseInsensitive
      "ΟΔΟΣ*"
  refine ⟨hFolds, f, col, b, hCompile, hLocates, fun row hText => ?_⟩
  obtain ⟨values, hValues, hTruth⟩ := hTruth row
  have hPrefix := likeTruth_prefix (o := LikeOptions.ogc.caseInsensitive) hFolds rfl (by decide)
    (hValues.trans hText)
  rw [hTruth]
  refine (congrArg some hPrefix).trans ?_
  decide +kernel

end FilterSql
