import FilterSql.Proofs.Filter.Meaning
import FilterSql.Proofs.Sql.Written

/-!
# Filters as conditions

The condition of a filter for given columns of its properties, by recursion on the filter and
without any state, and the properties that it refers to. Filters that cannot be compiled have a
condition too, which no statement holds.

* `Filter.condition`: the condition of a filter.
* `Filter.references`: the properties that a filter refers to, one for each time that its condition
  names a column.
* `columns_condition`: the columns in the condition's text are those of the references, in order.
* `wellFormed_condition`: the condition is well formed if all columns are plain.
-/

namespace FilterSql

open Sql (Column Condition DialectKind Term Token)

/-- The columns of properties. -/
abbrev Resolution := String → Column

/-! ## Conditions -/

/-- A condition that every row meets. -/
def Sql.Condition.always : Condition :=
  .compare .eq (.number 1) (.number 1)

/-- A condition that no row meets. -/
def Sql.Condition.never : Condition :=
  .compare .eq (.number 1) (.number 0)

/-- Conditions in parentheses, put together from the right; `unit` if there are none. -/
def Sql.Condition.combined (combine : Condition → Condition → Condition) (unit : Condition) :
    List Condition → Condition
  | [] => unit
  | [c] => .group c
  | c :: d :: cs => combine (.group c) (combined combine unit (d :: cs))

/-- The condition that a geometry intersects a box, in the functions of a database. -/
def Sql.DialectKind.boxCondition (c : Column) (e : Envelope) : DialectKind → Condition
  | postgis =>
    let low := .call "ST_Point" [.value (.float e.minX), .value (.float e.minY)]
    let high := .call "ST_Point" [.value (.float e.maxX), .value (.float e.maxY)]
    let box := .call "ST_MakeBox2D" [low, high]
    .overlaps (.column c) (.call "ST_SetSRID" [box, .value (.integer e.srid.toInt64)])
  | sqlite =>
    .test (.call Sql.bboxFunction [.column c, .value (.float e.minX), .value (.float e.minY),
      .value (.float e.maxX), .value (.float e.maxY)])

/-- The condition that a geometry is within a distance of a point, in the functions of a
database. -/
def Sql.DialectKind.nearCondition (c : Column) (p : Point) (distance : Float) :
    DialectKind → Condition
  | postgis =>
    let point := .call "ST_Point" [.value (.float p.x), .value (.float p.y)]
    let center := .call "ST_SetSRID" [point, .value (.integer p.srid.toInt64)]
    .test (.call "ST_DWithin" [.column c, center, .value (.float distance)])
  | sqlite =>
    .test (.call Sql.dwithinFunction [.column c, .value (.float p.x), .value (.float p.y),
      .value (.float distance)])

section

variable (m : Mapping) (d : DialectKind) (catalog : Option Catalog) (σ : Resolution)

namespace Filter

/-- An operand that stands beside a property. -/
def operandTerm (property : String) : Expr → Term
  | .literal v => .value (m.literal property v)
  | .property p => .column (σ p)
  | _ => .value .null

/-- A comparison. The property is put on the left side. -/
def comparisonCondition (op : ComparisonOp) : Expr → Expr → Condition
  | .literal v, .property p => .compare op.flipped (.column (σ p)) (.value (m.literal p v))
  | .property p, right => .compare op (.column (σ p)) (operandTerm m σ p right)
  | _, right => .compare op (.value .null) (operandTerm m σ "" right)

/-- The text of a pattern operand. -/
def patternText : Expr → String
  | .literal (.text s) => s
  | _ => ""

/-- What a pattern is compared with. To ignore cases, the column is folded. -/
def likeSubject (c : Column) (matchCase : Bool) : Term :=
  if matchCase then .column c else .call "LOWER" [.column c]

/-- The escape character that a pattern declares. -/
def declaredEscape (p : Like.Pattern) : Option String :=
  if p.escaped then some "\\" else none

/-- A property like a pattern. To ignore cases, both are folded. -/
def likeCondition (property : String) (o : LikeOptions) (pattern : Expr) : Condition :=
  let p := Like.Pattern.ofFilter o (patternText pattern).toList
  let bound := if o.matchCase then p.text else d.dialect.foldCase p.text
  .like (likeSubject (σ property) o.matchCase) (.value (.text bound)) (declaredEscape p)

/-- A column in a window of time. -/
def rangeCondition (c : Column) (r : TemporalRange) : Condition :=
  let lower := fun t =>
    Condition.compare (if r.inclusiveStart then .gte else .gt) (.column c) (.value (.timestamp t))
  let upper := fun t =>
    Condition.compare (if r.inclusiveStop then .lte else .lt) (.column c) (.value (.timestamp t))
  match r.start?, r.stop? with
  | none, none => .always
  | some start, none => .group (lower start)
  | none, some stop => .group (upper stop)
  | some start, some stop => .group (.and (lower start) (upper stop))

/-- A condition on the column of the time property. -/
def timeCondition (f : Column → Condition) : Condition :=
  match m.timeProperty with
  | none => .never
  | some p => f (σ p)

/-- The procedure is the given one. -/
def procedureCondition (id : String) : Condition :=
  match m.procedureProperty with
  | none => .always
  | some p => .compare .eq (.column (σ p)) (.value (m.literal p (.text id)))

/-- The procedure is one of those that a catalog selects. -/
def selectedCondition : Except Error (List String) → Condition
  | .ok (id :: ids) =>
    match m.procedureProperty with
    | none => .always
    | some p =>
      .isIn (.column (σ p)) ((id :: ids).map fun id => .value (m.literal p (.text id)))
  | _ => .never

/-- A spatial condition on a property: that of a catalog which knows its geometries, if there is
one, and else the condition `direct` on its column. -/
def spatialCondition (property : String) (selected : Catalog → Except Error (List String))
    (direct : Column → Condition) : Condition :=
  match catalogOf catalog property with
  | some c => selectedCondition m σ (selected c)
  | none => direct (σ property)

/-- A distance compared with a given one. -/
def distanceCondition (op : DistanceOp) (center : Point) (radius : Float) (c : Column) :
    Condition :=
  match op with
  | .within => d.nearCondition c center radius
  | .beyond => .not (.group (d.nearCondition c center radius))

mutual

/-- The condition of a filter. -/
def condition : Filter → Condition
  | everything => .always
  | nothing => .never
  | comparison op left right => comparisonCondition m σ op left right
  | between p low high =>
    .between (.column (σ p)) (operandTerm m σ p low) (operandTerm m σ p high)
  | isNull p => .isNull (.column (σ p))
  | isNotNull p => .isNotNull (.column (σ p))
  | like p pattern o => likeCondition d σ p o pattern
  | and fs => .combined .and .always (conditions fs)
  | or fs => .combined .or .never (conditions fs)
  | not f => .not (.group (condition f))
  | during r => timeCondition m σ fun c => rangeCondition c r
  | instant t => timeCondition m σ fun c => .compare .eq (.column c) (.value (.timestamp t))
  | bbox p e => spatialCondition m catalog σ p (·.withinEnvelope e) (d.boxCondition · e)
  | distance op p center radius =>
    spatialCondition m catalog σ p (·.atDistance op center radius)
      (distanceCondition d op center radius)
  | procedure id => procedureCondition m σ id

/-- The conditions of a list of filters. -/
def conditions : List Filter → List Condition
  | [] => []
  | f :: fs => condition f :: conditions fs

end

/-! ## References -/

/-- The property that an operand refers to. -/
def operandReferences : Expr → List String
  | .property p => [p]
  | _ => []

/-- The time property, as often as a condition names its column. -/
def timeReferences (n : Nat) : List String :=
  match m.timeProperty with
  | none => []
  | some p => List.replicate n p

/-- The number of ends of a window. -/
def ends (r : TemporalRange) : Nat :=
  (r.start?.toList ++ r.stop?.toList).length

/-- The property that stands for the procedures that a catalog selects, if it selects any. -/
def selectedReferences : Except Error (List String) → List String
  | .ok (_ :: _) => m.procedureProperty.toList
  | _ => []

/-- What a spatial operator refers to: the property itself, unless a catalog knows its
geometries. -/
def spatialReferences (property : String) (selected : Catalog → Except Error (List String)) :
    List String :=
  match catalogOf catalog property with
  | some c => selectedReferences m (selected c)
  | none => [property]

mutual

/-- The properties that a filter refers to, one for each time that its condition names a column.
A window of time names the column for each of its ends. -/
def references : Filter → List String
  | everything => []
  | nothing => []
  | comparison _ left right => operandReferences left ++ operandReferences right
  | between p low high => p :: (operandReferences low ++ operandReferences high)
  | isNull p => [p]
  | isNotNull p => [p]
  | like p _ _ => [p]
  | and fs => referencesList fs
  | or fs => referencesList fs
  | not f => references f
  | during r => timeReferences m (ends r)
  | instant _ => timeReferences m 1
  | bbox p e => spatialReferences m catalog p (·.withinEnvelope e)
  | distance op p center radius => spatialReferences m catalog p (·.atDistance op center radius)
  | procedure _ => m.procedureProperty.toList

/-- The properties that a list of filters refers to. -/
def referencesList : List Filter → List String
  | [] => []
  | f :: fs => references f ++ referencesList fs

end

end Filter

end

/-! ## Columns of a text -/

/-- The column that a token names. -/
def Sql.Token.column? : Token → Option Column
  | .column c => some c
  | _ => none

/-- The columns that some tokens name. -/
def Sql.Token.columns (ts : List Token) : List Column :=
  ts.filterMap Token.column?

namespace Sql.Token

@[simp] theorem columns_nil : columns [] = [] := rfl

@[simp] theorem columns_cons (t : Token) (ts : List Token) :
    columns (t :: ts) = t.column?.toList ++ columns ts := by
  unfold columns
  rw [List.filterMap_cons]
  cases t.column? <;> rfl

@[simp] theorem columns_append (ts us : List Token) :
    columns (ts ++ us) = columns ts ++ columns us :=
  List.filterMap_append

theorem columns_values {α : Type} (f : α → Scalar) (xs : List α) :
    columns (Term.tokensList (xs.map fun x => .value (f x))) = [] := by
  match xs with
  | [] => rfl
  | [x] => rfl
  | x :: y :: xs =>
    have h := columns_values f (y :: xs)
    rw [List.map_cons] at h
    simp [Term.tokensList, Term.tokens, column?, h]

theorem columns_like (s p : Term) (escape : Option String) :
    columns (Condition.like s p escape).tokens = columns s.tokens ++ columns p.tokens := by
  cases escape <;> simp [Condition.tokens, column?]

theorem columns_and (c d : Condition) :
    columns (Condition.and c d).tokens = columns c.tokens ++ columns d.tokens := by
  simp [Condition.tokens, column?]

theorem columns_or (c d : Condition) :
    columns (Condition.or c d).tokens = columns c.tokens ++ columns d.tokens := by
  simp [Condition.tokens, column?]

/-- Parentheses and keywords between conditions name no columns. -/
theorem columns_combined {combine : Condition → Condition → Condition} {unit : Condition}
    (hUnit : columns unit.tokens = [])
    (hCombine : ∀ c d, columns (combine c d).tokens = columns c.tokens ++ columns d.tokens) :
    ∀ cs : List Condition, columns (Condition.combined combine unit cs).tokens =
      cs.flatMap fun c => columns c.tokens
  | [] => hUnit
  | [c] => by simp [Condition.combined, Condition.tokens, column?]
  | c :: d :: cs => by
    have h := columns_combined hUnit hCombine (d :: cs)
    rw [Condition.combined, hCombine, h]
    simp [Condition.tokens, column?]

end Sql.Token

open Sql.Token

section

variable {m : Mapping} {d : DialectKind} {catalog : Option Catalog} {σ : Resolution}

namespace Filter

theorem columns_operandTerm (property : String) (e : Expr) :
    columns (operandTerm m σ property e).tokens = (operandReferences e).map σ := by
  cases e <;> rfl

theorem columns_comparisonCondition (op : ComparisonOp) (left right : Expr) :
    columns (comparisonCondition m σ op left right).tokens =
      (operandReferences left ++ operandReferences right).map σ := by
  unfold comparisonCondition
  split
  · rfl
  · simp [Condition.tokens, Term.tokens, column?, columns_operandTerm, operandReferences]
  · rename_i hLeft _
    have hNone : operandReferences left = [] := by
      cases left with
      | property p => exact absurd rfl (hLeft p)
      | _ => rfl
    simp [Condition.tokens, Term.tokens, column?, columns_operandTerm, hNone]

theorem columns_likeCondition (property : String) (o : LikeOptions) (pattern : Expr) :
    columns (likeCondition d σ property o pattern).tokens = [σ property] := by
  unfold likeCondition likeSubject
  rw [columns_like]
  cases o.matchCase <;> rfl

theorem columns_rangeCondition (c : Column) (r : TemporalRange) :
    columns (rangeCondition c r).tokens = List.replicate (ends r) c := by
  unfold rangeCondition ends
  cases r.start? <;> cases r.stop? <;> rfl

theorem columns_timeCondition {f : Column → Condition} {n : Nat}
    (h : ∀ c, columns (f c).tokens = List.replicate n c) :
    columns (timeCondition m σ f).tokens = (timeReferences m n).map σ := by
  unfold timeCondition timeReferences
  cases m.timeProperty with
  | none => rfl
  | some p => rw [List.map_replicate, h]

theorem columns_procedureCondition (id : String) :
    columns (procedureCondition m σ id).tokens = m.procedureProperty.toList.map σ := by
  unfold procedureCondition
  cases m.procedureProperty <;> rfl

theorem columns_selectedCondition (selected : Except Error (List String)) :
    columns (selectedCondition m σ selected).tokens = (selectedReferences m selected).map σ := by
  unfold selectedCondition
  split
  · rename_i id ids
    unfold selectedReferences
    cases m.procedureProperty with
    | none => rfl
    | some p =>
      have hValues := columns_values (fun id => m.literal p (.text id)) (id :: ids)
      simp only [Condition.tokens, Term.tokens, columns_append, columns_cons, hValues]
      rfl
  · rename_i hNone
    unfold selectedReferences
    split
    · exact absurd rfl (hNone _ _)
    · rfl

theorem columns_spatialCondition (property : String)
    (selected : Catalog → Except Error (List String)) {direct : Column → Condition}
    (h : ∀ c, columns (direct c).tokens = [c]) :
    columns (spatialCondition m catalog σ property selected direct).tokens =
      (spatialReferences m catalog property selected).map σ := by
  unfold spatialCondition spatialReferences
  cases catalogOf catalog property with
  | none => exact h _
  | some c => exact columns_selectedCondition _

mutual

/-- **The columns in the text of a filter's condition are those of its references.** -/
theorem columns_condition : ∀ f : Filter,
    columns (f.condition m d catalog σ).tokens = (f.references m catalog).map σ
  | everything => rfl
  | nothing => rfl
  | comparison op left right => columns_comparisonCondition op left right
  | between p low high => by
    simp [condition, references, Condition.tokens, Term.tokens, column?, columns_operandTerm]
  | isNull p => rfl
  | isNotNull p => rfl
  | like p pattern o => columns_likeCondition p o pattern
  | and fs => (columns_combined rfl columns_and _).trans (columns_conditions fs)
  | or fs => (columns_combined rfl columns_or _).trans (columns_conditions fs)
  | not f => by
    have h := columns_condition f
    simp [condition, references, Condition.tokens, column?, h]
  | during r => columns_timeCondition fun c => columns_rangeCondition c r
  | instant t => columns_timeCondition fun _ => rfl
  | bbox p e => columns_spatialCondition p _ fun c => by cases d <;> rfl
  | distance op p center radius =>
    columns_spatialCondition p _ fun c => by cases op <;> cases d <;> rfl
  | procedure id => columns_procedureCondition id

theorem columns_conditions : ∀ fs : List Filter,
    ((conditions m d catalog σ fs).flatMap fun c => columns c.tokens) =
      (referencesList m catalog fs).map σ
  | [] => rfl
  | f :: fs => by
    rw [conditions, List.flatMap_cons, columns_condition f, columns_conditions fs, referencesList,
      List.map_append]

end

end Filter

end

/-! ## Well-formed conditions -/

/-- The functions that conditions call. -/
def functions : List String :=
  ["LOWER", "ST_Point", "ST_MakeBox2D", "ST_SetSRID", "ST_DWithin", Sql.bboxFunction,
    Sql.dwithinFunction]

theorem functionName_of_mem {name : String} (h : name ∈ functions) : Term.FunctionName name := by
  have hAll : ∀ s ∈ functions, s.toList ≠ [] ∧ s.toList.all isNameChar = true ∧
      Sql.wordToken s.toList = .name s := by decide
  obtain ⟨hne, hChars, hToken⟩ := hAll name h
  exact ⟨⟨hne, List.all_eq_true.mp hChars⟩, hToken⟩

/-- All columns of a resolution have plain names. -/
def Resolution.Plain (σ : Resolution) : Prop :=
  ∀ property, PlainName (σ property).qualifier ∧ PlainName (σ property).name

theorem wellFormed_call {name : String} (h : name ∈ functions) {arg : Term} {args : List Term}
    (hArgs : ∀ a ∈ arg :: args, a.WellFormed) : (Term.call name (arg :: args)).WellFormed :=
  .call (functionName_of_mem h) (List.cons_ne_nil arg args) hArgs

theorem wellFormed_always : Condition.always.WellFormed :=
  .compare .eq (.number 1) (.number 1)

theorem wellFormed_never : Condition.never.WellFormed :=
  .compare .eq (.number 1) (.number 0)

/-- Conditions in parentheses bind as their combination does. -/
theorem wellFormed_combined (combine : Condition → Condition → Condition) {unit : Condition}
    (bound : Nat) (hUnit : unit.WellFormed) (hLevel : ∀ c d, (combine c d).level ≤ bound)
    (hCombine : ∀ {c d}, c.WellFormed → d.WellFormed → c.level = 0 → d.level ≤ bound →
      (combine c d).WellFormed) :
    ∀ {cs : List Condition}, (∀ c ∈ cs, c.WellFormed) →
      (Condition.combined combine unit cs).WellFormed
  | [], _ => hUnit
  | [c], h => .group (h c List.mem_cons_self)
  | c :: d :: cs, h => by
    have hRest := wellFormed_combined combine bound hUnit hLevel hCombine
      (fun e he => h e (List.mem_cons_of_mem c he))
    refine hCombine (.group (h c List.mem_cons_self)) hRest rfl ?_
    cases cs with
    | nil => exact Nat.zero_le bound
    | cons e es => exact hLevel _ _

section

variable {m : Mapping} {d : DialectKind} {catalog : Option Catalog} {σ : Resolution}

namespace Filter

theorem wellFormed_column (hσ : σ.Plain) (property : String) :
    (Term.column (σ property)).WellFormed :=
  .column (hσ property).1 (hσ property).2

theorem wellFormed_operandTerm (hσ : σ.Plain) (property : String) (e : Expr) :
    (operandTerm m σ property e).WellFormed := by
  cases e with
  | property p => exact wellFormed_column hσ p
  | literal v => exact .value _
  | arithmetic op left right => exact .value _
  | function name args => exact .value _

theorem wellFormed_comparisonCondition (hσ : σ.Plain) (op : ComparisonOp) (left right : Expr) :
    (comparisonCondition m σ op left right).WellFormed := by
  unfold comparisonCondition
  split
  · exact .compare _ (wellFormed_column hσ _) (.value _)
  · exact .compare _ (wellFormed_column hσ _) (wellFormed_operandTerm hσ _ _)
  · exact .compare _ (.value _) (wellFormed_operandTerm hσ _ _)

theorem quote_not_mem_declaredEscape {p : Like.Pattern} {e : String}
    (h : declaredEscape p = some e) : '\'' ∉ e.toList := by
  unfold declaredEscape at h
  split at h
  · rw [← Option.some.inj h]
    decide
  · exact absurd h (by simp)

theorem wellFormed_likeCondition (hσ : σ.Plain) (property : String) (o : LikeOptions)
    (pattern : Expr) : (likeCondition d σ property o pattern).WellFormed := by
  have hSubject : (likeSubject (σ property) o.matchCase).WellFormed := by
    unfold likeSubject
    cases o.matchCase with
    | true => exact wellFormed_column hσ property
    | false => exact wellFormed_call (by decide) (by simpa using wellFormed_column hσ property)
  exact .like hSubject (.value _) fun _ => quote_not_mem_declaredEscape

theorem wellFormed_rangeCondition {c : Column} (h : (Term.column c).WellFormed)
    (r : TemporalRange) : (rangeCondition c r).WellFormed := by
  obtain ⟨start?, stop?, inclusiveStart, inclusiveStop⟩ := r
  have hSide : ∀ op t, (Condition.compare op (.column c) (.value (.timestamp t))).WellFormed :=
    fun op t => .compare op h (.value _)
  match start?, stop? with
  | none, none => exact wellFormed_always
  | some start, none => exact .group (hSide _ start)
  | none, some stop => exact .group (hSide _ stop)
  | some start, some stop => exact .group (.and (hSide _ start) (hSide _ stop) rfl (Nat.zero_le 1))

theorem wellFormed_timeCondition {f : Column → Condition}
    (h : ∀ property, (f (σ property)).WellFormed) : (timeCondition m σ f).WellFormed := by
  unfold timeCondition
  cases m.timeProperty with
  | none => exact wellFormed_never
  | some p => exact h p

theorem wellFormed_procedureCondition (hσ : σ.Plain) (id : String) :
    (procedureCondition m σ id).WellFormed := by
  unfold procedureCondition
  cases m.procedureProperty with
  | none => exact wellFormed_always
  | some p => exact .compare .eq (wellFormed_column hσ p) (.value _)

theorem wellFormed_selectedCondition (hσ : σ.Plain) (selected : Except Error (List String)) :
    (selectedCondition m σ selected).WellFormed := by
  unfold selectedCondition
  split
  · cases m.procedureProperty with
    | none => exact wellFormed_always
    | some p =>
      refine .isIn (wellFormed_column hσ p) (List.cons_ne_nil _ _) fun c hc => ?_
      obtain ⟨id, -, rfl⟩ := List.mem_map.mp hc
      exact .value _
  · exact wellFormed_never

theorem wellFormed_spatialCondition (hσ : σ.Plain) (property : String)
    (selected : Catalog → Except Error (List String)) {direct : Column → Condition}
    (h : (direct (σ property)).WellFormed) :
    (spatialCondition m catalog σ property selected direct).WellFormed := by
  unfold spatialCondition
  cases catalogOf catalog property with
  | none => exact h
  | some c => exact wellFormed_selectedCondition hσ _

theorem wellFormed_boxCondition {c : Column} (h : (Term.column c).WellFormed) (e : Envelope) :
    (d.boxCondition c e).WellFormed := by
  have hValue : ∀ v : Scalar, (Term.value v).WellFormed := .value
  cases d with
  | postgis =>
    have hPoint : ∀ x y : Float,
        (Term.call "ST_Point" [.value (.float x), .value (.float y)]).WellFormed :=
      fun x y => wellFormed_call (by decide) (by simp [hValue])
    have hBox : ∀ {s t : Term}, s.WellFormed → t.WellFormed →
        (Term.call "ST_MakeBox2D" [s, t]).WellFormed :=
      fun hs ht => wellFormed_call (by decide) (by simp [hs, ht])
    exact .overlaps h (wellFormed_call (by decide) (by simp [hValue, hBox, hPoint]))
  | sqlite => exact .test (wellFormed_call (by decide) (by simp [h, hValue]))

theorem wellFormed_nearCondition {c : Column} (h : (Term.column c).WellFormed) (p : Point)
    (distance : Float) : (d.nearCondition c p distance).WellFormed := by
  have hValue : ∀ v : Scalar, (Term.value v).WellFormed := .value
  cases d with
  | postgis =>
    have hPoint : (Term.call "ST_Point" [.value (.float p.x), .value (.float p.y)]).WellFormed :=
      wellFormed_call (by decide) (by simp [hValue])
    have hCenter : ∀ {s : Term}, s.WellFormed →
        (Term.call "ST_SetSRID" [s, .value (.integer p.srid.toInt64)]).WellFormed :=
      fun hs => wellFormed_call (by decide) (by simp [hs, hValue])
    exact .test (wellFormed_call (by decide) (by simp [h, hCenter hPoint, hValue]))
  | sqlite => exact .test (wellFormed_call (by decide) (by simp [h, hValue]))

theorem wellFormed_distanceCondition {c : Column} (h : (Term.column c).WellFormed)
    (op : DistanceOp) (center : Point) (radius : Float) :
    (distanceCondition d op center radius c).WellFormed := by
  cases op with
  | within => exact wellFormed_nearCondition h center radius
  | beyond => exact .not (.group (wellFormed_nearCondition h center radius)) rfl

mutual

/-- **The condition of a filter is well formed if all columns are plain.** -/
theorem wellFormed_condition (hσ : σ.Plain) : ∀ f : Filter,
    (f.condition m d catalog σ).WellFormed
  | everything => wellFormed_always
  | nothing => wellFormed_never
  | comparison op left right => wellFormed_comparisonCondition hσ op left right
  | between p low high =>
    .between (wellFormed_column hσ p) (wellFormed_operandTerm hσ p low)
      (wellFormed_operandTerm hσ p high)
  | isNull p => .isNull (wellFormed_column hσ p)
  | isNotNull p => .isNotNull (wellFormed_column hσ p)
  | like p pattern o => wellFormed_likeCondition hσ p o pattern
  | and fs =>
    wellFormed_combined .and 1 wellFormed_always (fun _ _ => Nat.le_refl 1) .and
      (wellFormed_conditions hσ fs)
  | or fs =>
    wellFormed_combined .or 2 wellFormed_never (fun _ _ => Nat.le_refl 2)
      (fun hc hd hcLevel _ => .or hc hd (by omega)) (wellFormed_conditions hσ fs)
  | not f => .not (.group (wellFormed_condition hσ f)) rfl
  | during r =>
    wellFormed_timeCondition fun p => wellFormed_rangeCondition (wellFormed_column hσ p) r
  | instant t => wellFormed_timeCondition fun p => .compare .eq (wellFormed_column hσ p) (.value _)
  | bbox p e =>
    wellFormed_spatialCondition hσ p _ (wellFormed_boxCondition (wellFormed_column hσ p) e)
  | distance op p center radius =>
    wellFormed_spatialCondition hσ p _
      (wellFormed_distanceCondition (wellFormed_column hσ p) op center radius)
  | procedure id => wellFormed_procedureCondition hσ id

theorem wellFormed_conditions (hσ : σ.Plain) : ∀ fs : List Filter,
    ∀ c ∈ conditions m d catalog σ fs, c.WellFormed
  | [] => fun _ hc => absurd hc List.not_mem_nil
  | f :: fs =>
    List.forall_mem_cons.mpr ⟨wellFormed_condition hσ f, wellFormed_conditions hσ fs⟩

end

end Filter

end

end FilterSql
