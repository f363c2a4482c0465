import FilterSql.Proofs.Like.Matching
import FilterSql.Proofs.Predicate.Preservation

/-!
# Conditions of patterns

The condition of a pattern filter, read with its parameter, holds of just the texts that the pattern
matches by the rules of filters. The escape character counts in it where the clause that declares it
is there to be read.

* `Interpretation.KnowsPatterns`: a database matches patterns and folds ASCII letters.
* `compile_like`: the filter is compiled for every property that is no geometry.
* `like_condition_matches`: what its condition holds of.
-/

namespace FilterSql

open FilterSql.Like (Matches Pattern keepsSpecial_toLower matches_folded matches_ofFilter)
open FilterSql.Sql (Aliases DialectKind Fragment Interpretation Tuple)
open FilterSql.Filter

/-! ## Databases -/

/-- The database matches patterns. A backslash is special in a pattern if the condition declares it
as the escape character. The function that folds cases folds ASCII letters only. -/
structure Sql.Interpretation.KnowsPatterns (I : Interpretation) : Prop where
  like : ∀ (text : String) (p : Pattern),
    I.like (.text text) (.text p.text) (if p.escaped then some "\\" else none) =
      .ofBool (p.matches text.toList)
  lower : ∀ text : String, I.call "LOWER" [.text text] = .text (Text.lowerAscii text)

theorem Sql.Interpretation.ordered_knowsPatterns : Interpretation.ordered.KnowsPatterns where
  like text p := by
    show Truth.ofBool (Pattern.matches ⟨p.text.toList, _⟩ text.toList) = _
    obtain ⟨chars, escaped⟩ := p
    cases escaped <;> simp [Pattern.text]
  lower _ := rfl

variable {m : Mapping} {d : DialectKind} {catalog : Option Catalog} {a : Aliases}
variable {I : Interpretation} {values : Values} {property : String} {o : LikeOptions}

/-! ## The meaning of pattern filters -/

theorem likeTruth_of_matchCase (hI : I.KnowsPatterns) {pattern text : String}
    (hCase : o.matchCase = true) (hText : values property = .text text) :
    likeTruth d I values property o (.literal (.text pattern)) =
      .ofBool (decide (Matches o id pattern.toList text.toList)) := by
  rw [← matches_ofFilter, ← hI.like]
  simp only [likeTruth, hCase, if_true, hText]

theorem toList_lowerAscii (s : String) :
    (Text.lowerAscii s).toList = s.toList.map Char.toLower :=
  String.toList_map

/-- The text of a pattern, folded like the text that it is matched against. -/
theorem lowerAscii_text (p : Pattern) :
    Text.lowerAscii p.text = Pattern.text { p with chars := p.chars.map Char.toLower } := by
  unfold Text.lowerAscii Pattern.text
  rw [← String.toList_inj, String.toList_map, String.toList_ofList, String.toList_ofList]

/-- The bundled database folds the text and its dialect the pattern, both in the same way. -/
theorem likeTruth_of_folded (hI : I.KnowsPatterns) {pattern text : String}
    (hCase : o.matchCase = false) (hText : values property = .text text) :
    likeTruth .sqlite I values property o (.literal (.text pattern)) =
      .ofBool (decide (Matches o Char.toLower pattern.toList text.toList)) := by
  rw [← matches_folded keepsSpecial_toLower, ← toList_lowerAscii, ← hI.like, ← lowerAscii_text]
  simp only [likeTruth, hCase, Bool.false_eq_true, if_false, hText, hI.lower]
  rfl

/-! ## Conditions -/

/-- A pattern is compiled for every property that is no geometry. -/
theorem compile_like {p : Mapping.Property} (hResolve : m.resolve property = .ok p)
    (hType : p.type ≠ .geometry) (d : DialectKind) (catalog : Option Catalog) (a : Aliases)
    (o : LikeOptions) (pattern : String) :
    ∃ f col b, Yields ((Compiler.ofKind m d catalog).lower
        (.like property (.literal (.text pattern)) o)) a f b ∧
      Yields ((Compiler.ofKind m d catalog).column property) a col b := by
  have hColumn : Yields ((Compiler.ofKind m d catalog).column property) a _ _ :=
    column_of_resolve hResolve
  suffices h : ∃ f, Yields ((Compiler.ofKind m d catalog).lowerLike property
      (.literal (.text pattern)) o) a f (a.register p.joins).2 by
    obtain ⟨f, h⟩ := h
    exact ⟨f, _, _, h, hColumn⟩
  unfold Compiler.lowerLike
  simp only [yields_bind, yields_lift]
  exact ⟨_, pattern, a, ⟨rfl, rfl⟩, _, _, hColumn, by
    rw [if_neg hType]
    exact yields_pure.mpr ⟨rfl, rfl⟩⟩

/-- The columns of a row hold the properties of its record. -/
theorem Compiler.recordOf_eq {c : Compiler} {row : Tuple} {col : TypedColumn}
    (h : Yields (c.column property) a col a) : c.recordOf a row property = row col.toColumn := by
  unfold Compiler.recordOf
  rw [show (c.column property).run.run a = (.ok col, a) from h]

theorem agrees_recordOf (c : Compiler) (a : Aliases) (row : Tuple) :
    Agrees c.mapping a row (c.recordOf a row) := by
  intro property p name hResolve hReg
  rw [Compiler.recordOf_eq (column_of_registered hResolve hReg)]

/-- The text of a condition, read with its parameters, has the truth value of the condition. -/
theorem Denotes.truth {f : Fragment} {t : Meaning} {row : Tuple} (h : Denotes m a f t)
    (hRow : Agrees m a row values) : Sql.truth? I row f.sql f.params = some (t I values) := by
  obtain ⟨cond, ⟨hSql, hParams⟩, hMeans⟩ := h
  unfold Sql.truth?
  rw [hSql, hParams, hMeans.wellFormed.read?_fragment]
  exact congrArg some (hMeans.truth I row values hRow)

/-- **The condition of a pattern holds of the texts that the pattern matches.** For every property
that is no geometry a filter by a pattern is compiled, and the condition, read with its parameter,
tells whether the text in the column of the property matches the pattern by the rules of filters. To
ignore cases, ASCII letters are folded, which the bundled database does as its dialect does. -/
theorem like_condition_matches {p : Mapping.Property} (hResolve : m.resolve property = .ok p)
    (hType : p.type ≠ .geometry) (hI : I.KnowsPatterns) (d : DialectKind)
    (catalog : Option Catalog) (o : LikeOptions) (pattern : String) :
    ∃ f col b, (Compiler.ofKind m d catalog).compile
        (.like property (.literal (.text pattern)) o) (Compiler.ofKind m d catalog).aliases =
          (.ok f, b) ∧
      Locates m b property col ∧
      ∀ (row : Tuple) (text : String), row col.toColumn = .text text →
        (o.matchCase = true → Sql.truth? I row f.sql f.params =
          some (.ofBool (decide (Matches o id pattern.toList text.toList)))) ∧
        (o.matchCase = false → d = .sqlite → Sql.truth? I row f.sql f.params =
          some (.ofBool (decide (Matches o Char.toLower pattern.toList text.toList)))) := by
  have hSound : (Compiler.ofKind m d catalog).aliases.Sound := Aliases.sound_ofRoot m.root_plain.1
  obtain ⟨f, col, b, hLower, hColumn⟩ := compile_like hResolve hType d catalog
    (Compiler.ofKind m d catalog).aliases o pattern
  obtain ⟨-, hLocates⟩ := column_spec hSound hColumn
  obtain ⟨-, hDenotes⟩ := lowerLike_spec hSound hLower
  refine ⟨f, col, b, hLower, hLocates, fun row text hText => ?_⟩
  have hRecord : (Compiler.ofKind m d catalog).recordOf b row property = .text text := by
    rw [Compiler.recordOf_eq hLocates.yields, hText]
  rw [hDenotes.truth (agrees_recordOf (Compiler.ofKind m d catalog) b row)]
  constructor
  · intro hCase
    rw [likeTruth_of_matchCase hI hCase hRecord]
  · rintro hCase rfl
    rw [likeTruth_of_folded hI hCase hRecord]

/-- A pattern whose first asterisk is escaped and whose percent sign needs an escape in a statement,
and a title that differs from it in the cases of ASCII letters. The last letter is not folded. -/
theorem like_condition_matches_escaped :
    Mapping.sample.resolve "title" = .ok ⟨"datasets", "title", .text, []⟩ ∧
      ValueType.text ≠ .geometry ∧ Interpretation.ordered.KnowsPatterns ∧
      ∃ f col b, sampleCompiler.compile
          (.like "title" (.literal (.text "50%!* O*#Ä")) LikeOptions.ogc.caseInsensitive)
          sampleCompiler.aliases = (.ok f, b) ∧
        Locates .sample b "title" col ∧
        ∀ row : Tuple,
          (row col.toColumn = .text "50%* of allÄ" →
            Sql.truth? .ordered row f.sql f.params = some .yes) ∧
          (row col.toColumn = .text "50%* of allä" →
            Sql.truth? .ordered row f.sql f.params = some .no) := by
  have hResolve : Mapping.sample.resolve "title" = .ok ⟨"datasets", "title", .text, []⟩ := by
    decide +kernel
  have hType : ValueType.text ≠ .geometry := by decide
  have hKnows := Interpretation.ordered_knowsPatterns
  obtain ⟨f, col, b, hCompile, hLocates, hMatches⟩ := like_condition_matches hResolve hType hKnows
    .sqlite none LikeOptions.ogc.caseInsensitive "50%!* O*#Ä"
  refine ⟨hResolve, hType, hKnows, f, col, b, hCompile, hLocates, fun row => ⟨?_, ?_⟩⟩
  · intro hText
    rw [(hMatches row _ hText).2 rfl rfl]
    decide +kernel
  · intro hText
    rw [(hMatches row _ hText).2 rfl rfl]
    decide +kernel

end FilterSql
