import FilterSql.Filter.Wire
import FilterSql.Proofs.Json.Fields
import FilterSql.Proofs.Time.Documents

/-!
# Filters in documents

A filter is read back from its form, if the form holds it exactly. What a form cannot hold are
numbers that are not finite, instants outside the years 0 to 9999 and leap seconds within a minute;
all else in a filter is written exactly, at any depth.

* `Scalar.Exact`: a value that its form holds exactly.
* `Expr.values`, `Filter.values`: the values in an operand and in a filter.
* `Expr.read?_toJson`, `Filter.read?_toJson`: operands and filters are read back, by induction on
  their parts.
-/

namespace FilterSql

open FilterSql.Time (Instant)
open Json (fields? objectFields? required? orDefault? optional? ofOption ofFloat fields?_zip
  objectFields?_zip list?_map optional?_ofOption)

/-! ## Values -/

/-- A form holds the value exactly. -/
def Scalar.Exact : Scalar → Prop
  | .float x => x.isFinite = true
  | .timestamp i => i.FourDigitYear ∧ i.LeapLast
  | _ => True

instance : (v : Scalar) → Decidable v.Exact
  | .float x => inferInstanceAs (Decidable (x.isFinite = true))
  | .timestamp i => inferInstanceAs (Decidable (i.FourDigitYear ∧ i.LeapLast))
  | .null | .bool _ | .integer _ | .text _ | .bytes _ => inferInstanceAs (Decidable True)

/-- The coordinates of a point. -/
def Point.values (p : Point) : List Scalar :=
  [.float p.x, .float p.y]

/-- The coordinates of a box. -/
def Envelope.values (e : Envelope) : List Scalar :=
  [.float e.minX, .float e.minY, .float e.maxX, .float e.maxY]

/-- The ends of a window of time. -/
def TemporalRange.values (r : TemporalRange) : List Scalar :=
  (r.start?.toList ++ r.stop?.toList).map .timestamp

mutual

/-- The values in an operand. -/
def Expr.values : Expr → List Scalar
  | .literal v => [v]
  | .property _ => []
  | .arithmetic _ left right => left.values ++ right.values
  | .function _ args => Expr.listValues args

/-- The values in a list of operands. -/
def Expr.listValues : List Expr → List Scalar
  | [] => []
  | e :: es => e.values ++ Expr.listValues es

end

mutual

/-- The values in a filter: its literals, and the numbers and instants of its operators. -/
def Filter.values : Filter → List Scalar
  | .comparison _ left right => left.values ++ right.values
  | .between _ lower upper => lower.values ++ upper.values
  | .like _ pattern _ => pattern.values
  | .and children | .or children => Filter.listValues children
  | .not child => child.values
  | .during range => range.values
  | .instant i => [.timestamp i]
  | .bbox _ envelope => envelope.values
  | .distance _ _ center radius => center.values ++ [.float radius]
  | .everything | .nothing | .isNull _ | .isNotNull _ | .procedure _ => []

/-- The values in a list of filters. -/
def Filter.listValues : List Filter → List Scalar
  | [] => []
  | f :: fs => f.values ++ Filter.listValues fs

end

/-! ## Parts -/

theorem instantOfJson?_instantJson {i : Instant} (h : i.FourDigitYear ∧ i.LeapLast) :
    instantOfJson? (instantJson i) = some i := by
  simp [instantOfJson?, instantJson, Json.str?, Instant.readDocument?_exactText h.1,
    Instant.settle_of_leapLast h.2]

theorem Scalar.ofJson?_toJson {v : Scalar} (h : v.Exact) :
    Scalar.ofJson? v.toJson = some v := by
  cases v with
  | null =>
    simp [toJson, ofJson?, Json.choice?, Json.nothing?]
  | bool b | text s =>
    simp [toJson, ofJson?, tagged, Json.choice?, required?, Json.bool?, Json.str?]
  | integer i =>
    simp [toJson, ofJson?, tagged, Json.choice?, required?, Json.int64?_toInt]
  | float x =>
    simp [toJson, ofJson?, tagged, Json.choice?, required?, Json.float?_ofFloat h]
  | timestamp i =>
    simp [toJson, ofJson?, tagged, Json.choice?, required?, instantOfJson?_instantJson h]
  | bytes b =>
    have hBytes : Json.list? Json.byte? (.arr (b.map fun n => .int n.toNat)) = some b :=
      list?_map fun n _ => Json.byte?_toNat n
    simp [toJson, ofJson?, tagged, Json.choice?, required?, hBytes]

theorem ComparisonOp.ofJson?_name (op : ComparisonOp) :
    ComparisonOp.ofJson? (.str op.name) = some op := by
  cases op <;> rfl

theorem ArithmeticOp.ofJson?_name (op : ArithmeticOp) :
    ArithmeticOp.ofJson? (.str op.name) = some op := by
  cases op <;> rfl

theorem DistanceOp.ofJson?_name (op : DistanceOp) :
    DistanceOp.ofJson? (.str op.name) = some op := by
  cases op <;> rfl

theorem Point.ofJson?_toJson {p : Point} (h : ∀ v ∈ p.values, v.Exact) :
    Point.ofJson? p.toJson = some p := by
  simp only [values, List.forall_mem_cons] at h
  obtain ⟨hx, hy, -⟩ := h
  have hFields : fields? ["x", "y", "srid"] 3 p.toJson =
      some [some (ofFloat p.x), some (ofFloat p.y), some (.int p.srid.toInt)] :=
    fields?_zip [_, _, _] (by decide) rfl 3
  simp [ofJson?, hFields, required?, Json.float?_ofFloat hx, Json.float?_ofFloat hy,
    Json.int32?_toInt]

theorem Envelope.ofJson?_toJson {e : Envelope} (h : ∀ v ∈ e.values, v.Exact) :
    Envelope.ofJson? e.toJson = some e := by
  simp only [values, List.forall_mem_cons] at h
  obtain ⟨hMinX, hMinY, hMaxX, hMaxY, -⟩ := h
  have hFields : fields? ["min_x", "min_y", "max_x", "max_y", "srid"] 5 e.toJson =
      some [some (ofFloat e.minX), some (ofFloat e.minY), some (ofFloat e.maxX),
        some (ofFloat e.maxY), some (.int e.srid.toInt)] :=
    fields?_zip [_, _, _, _, _] (by decide) rfl 5
  simp [ofJson?, hFields, required?, Json.float?_ofFloat hMinX, Json.float?_ofFloat hMinY,
    Json.float?_ofFloat hMaxX, Json.float?_ofFloat hMaxY, Json.int32?_toInt]

theorem char?_charJson (c : Char) : Json.char? (charJson c) = some c := by
  simp [Json.char?, charJson]

theorem LikeOptions.ofJson?_toJson (o : LikeOptions) :
    LikeOptions.ofJson? o.toJson = some o := by
  have hFields : fields? ["wild_card", "single_char", "escape_char", "match_case"] 0 o.toJson =
      some [some (charJson o.wildCard), some (charJson o.singleChar),
        some (charJson o.escapeChar), some (.bool o.matchCase)] :=
    fields?_zip [_, _, _, _] (by decide) rfl 0
  simp [ofJson?, hFields, orDefault?, char?_charJson, Json.bool?]

theorem TemporalRange.ofJson?_toJson {r : TemporalRange} (h : ∀ v ∈ r.values, v.Exact) :
    TemporalRange.ofJson? r.toJson = some r := by
  have hFields : fields? ["begin", "end", "inclusive_begin", "inclusive_end"] 4 r.toJson =
      some [some (ofOption instantJson r.start?), some (ofOption instantJson r.stop?),
        some (.bool r.inclusiveStart), some (.bool r.inclusiveStop)] :=
    fields?_zip [_, _, _, _] (by decide) rfl 4
  have hEnd (o : Option Instant) (hMem : ∀ i ∈ o, Scalar.timestamp i ∈ r.values) :
      optional? instantOfJson? (some (ofOption instantJson o)) = some o :=
    optional?_ofOption (fun _ => Json.noConfusion)
      fun i hi => instantOfJson?_instantJson (h _ (hMem i hi))
  have hStart := hEnd r.start? fun i hi => by simp_all [values]
  have hStop := hEnd r.stop? fun i hi => by simp_all [values]
  simp [ofJson?, hFields, hStart, hStop, required?, Json.bool?]

/-! ## Operands -/

@[simp]
theorem depth_tagged (name : String) (content : Json) :
    (tagged name content).depth = content.depth + 1 := by
  simp [tagged, Json.depth, Json.membersDepth]

theorem depth_obj (ms : List (String × Json)) :
    (Json.obj ms).depth = Json.membersDepth ms + 1 := rfl

namespace Expr

variable {n : Nat}

theorem read?_literal {v : Scalar} (h : v.Exact) :
    read? (n + 1) (literal v).toJson = some (literal v) := by
  simp [toJson, read?, tagged, Json.choice?, Scalar.ofJson?_toJson h]

theorem read?_property (name : String) :
    read? (n + 1) (property name).toJson = some (property name) := by
  simp [toJson, read?, tagged, Json.choice?, Json.str?]

theorem read?_arithmetic (op : ArithmeticOp) {left right : Expr}
    (hLeft : read? n left.toJson = some left) (hRight : read? n right.toJson = some right) :
    read? (n + 1) (arithmetic op left right).toJson = some (arithmetic op left right) := by
  have hFields : objectFields? ["op", "left", "right"]
      (.obj [("op", .str op.name), ("left", left.toJson), ("right", right.toJson)]) =
        some [some (.str op.name), some left.toJson, some right.toJson] :=
    objectFields?_zip [_, _, _] (by decide) rfl
  simp [toJson, read?, tagged, Json.choice?, hFields, required?, ArithmeticOp.ofJson?_name,
    hLeft, hRight]

theorem read?_function (name : String) {args : List Expr}
    (hArgs : (listJson args).mapM (read? n) = some args) :
    read? (n + 1) (function name args).toJson = some (function name args) := by
  have hFields : objectFields? ["name", "args"]
      (.obj [("name", .str name), ("args", .arr (listJson args))]) =
        some [some (.str name), some (.arr (listJson args))] :=
    objectFields?_zip [_, _] (by decide) rfl
  simp [toJson, read?, tagged, Json.choice?, hFields, required?, Json.str?, Json.list?, hArgs]

mutual

/-- An operand is read back at any depth that its form does not exceed. -/
theorem read?_toJson : ∀ {e : Expr} {n : Nat}, (∀ v ∈ e.values, v.Exact) →
    e.toJson.depth ≤ n → read? n e.toJson = some e
  | .literal v, n + 1, h, _ => read?_literal (h v List.mem_cons_self)
  | .property name, n + 1, _, _ => read?_property name
  | .arithmetic op left right, n + 1, h, hn => by
    simp only [toJson, depth_tagged, depth_obj, Json.membersDepth] at hn
    obtain ⟨hLeft, hRight⟩ := List.forall_mem_append.mp h
    exact read?_arithmetic op (read?_toJson hLeft (by omega)) (read?_toJson hRight (by omega))
  | .function name args, n + 1, h, hn => by
    simp only [toJson, depth_tagged, Json.membersDepth, Json.depth] at hn
    exact read?_function name (mapM_listJson h (by omega))

theorem mapM_listJson : ∀ {es : List Expr} {n : Nat}, (∀ v ∈ listValues es, v.Exact) →
    Json.itemsDepth (listJson es) ≤ n → (listJson es).mapM (read? n) = some es
  | [], _, _, _ => rfl
  | e :: es, n, h, hn => by
    simp only [listJson, Json.itemsDepth] at hn ⊢
    obtain ⟨hHead, hTail⟩ := List.forall_mem_append.mp h
    have hRead : read? n e.toJson = some e := read?_toJson hHead (by omega)
    have hRest : (listJson es).mapM (read? n) = some es := mapM_listJson hTail (by omega)
    simp [hRead, hRest]

end

/-- An operand is read back. -/
theorem ofJson?_toJson {e : Expr} (h : ∀ v ∈ e.values, v.Exact) :
    Expr.ofJson? e.toJson = some e :=
  read?_toJson h (Nat.le_refl _)

end Expr

/-! ## Filters -/

namespace Filter

variable {n : Nat}

/-- An alternative that holds something is read by its content. -/
theorem read?_tagged {name : String} (hInclude : name ≠ "include") (hExclude : name ≠ "exclude")
    (content : Json) :
    read? (n + 1) (tagged name content) = readContent? (read? n) name content := by
  simp [read?, tagged, Json.choice?]

section

variable {read : Json → Option Filter}

theorem readContent?_comparison (op : ComparisonOp) {left right : Expr}
    (hLeft : ∀ v ∈ left.values, v.Exact) (hRight : ∀ v ∈ right.values, v.Exact) :
    readContent? read "comparison"
        (.obj [("op", .str op.name), ("left", left.toJson), ("right", right.toJson)]) =
      some (comparison op left right) := by
  have hFields : objectFields? ["op", "left", "right"]
      (.obj [("op", .str op.name), ("left", left.toJson), ("right", right.toJson)]) =
        some [some (.str op.name), some left.toJson, some right.toJson] :=
    objectFields?_zip [_, _, _] (by decide) rfl
  simp [readContent?, hFields, required?, ComparisonOp.ofJson?_name,
    Expr.ofJson?_toJson hLeft, Expr.ofJson?_toJson hRight]

theorem readContent?_between (property : String) {lower upper : Expr}
    (hLower : ∀ v ∈ lower.values, v.Exact) (hUpper : ∀ v ∈ upper.values, v.Exact) :
    readContent? read "between"
        (.obj [("property", .str property), ("lower", lower.toJson), ("upper", upper.toJson)]) =
      some (between property lower upper) := by
  have hFields : objectFields? ["property", "lower", "upper"]
      (.obj [("property", .str property), ("lower", lower.toJson), ("upper", upper.toJson)]) =
        some [some (.str property), some lower.toJson, some upper.toJson] :=
    objectFields?_zip [_, _, _] (by decide) rfl
  simp [readContent?, hFields, required?, Json.str?, Expr.ofJson?_toJson hLower,
    Expr.ofJson?_toJson hUpper]

theorem property_field (property : String) :
    objectFields? ["property"] (.obj [("property", .str property)]) =
      some [some (.str property)] :=
  objectFields?_zip [_] (by decide) rfl

theorem readContent?_like (property : String) {pattern : Expr} (options : LikeOptions)
    (hPattern : ∀ v ∈ pattern.values, v.Exact) :
    readContent? read "like"
        (.obj [("property", .str property), ("pattern", pattern.toJson),
          ("options", options.toJson)]) =
      some (like property pattern options) := by
  have hFields : objectFields? ["property", "pattern", "options"]
      (.obj [("property", .str property), ("pattern", pattern.toJson),
        ("options", options.toJson)]) =
        some [some (.str property), some pattern.toJson, some options.toJson] :=
    objectFields?_zip [_, _, _] (by decide) rfl
  simp [readContent?, hFields, required?, orDefault?, Json.str?, Expr.ofJson?_toJson hPattern,
    LikeOptions.ofJson?_toJson]

theorem readContent?_bbox (property : String) {envelope : Envelope}
    (h : ∀ v ∈ envelope.values, v.Exact) :
    readContent? read "spatial_b_box"
        (.obj [("property", .str property), ("envelope", envelope.toJson)]) =
      some (bbox property envelope) := by
  have hFields : objectFields? ["property", "envelope"]
      (.obj [("property", .str property), ("envelope", envelope.toJson)]) =
        some [some (.str property), some envelope.toJson] :=
    objectFields?_zip [_, _] (by decide) rfl
  simp [readContent?, hFields, required?, Json.str?, Envelope.ofJson?_toJson h]

theorem readContent?_distance (op : DistanceOp) (property : String) {center : Point}
    {radius : Float} (hCenter : ∀ v ∈ center.values, v.Exact) (hRadius : radius.isFinite = true) :
    readContent? read "spatial_distance"
        (.obj [("op", .str op.name), ("property", .str property), ("center", center.toJson),
          ("distance", ofFloat radius)]) =
      some (distance op property center radius) := by
  have hFields : objectFields? ["op", "property", "center", "distance"]
      (.obj [("op", .str op.name), ("property", .str property), ("center", center.toJson),
        ("distance", ofFloat radius)]) =
        some [some (.str op.name), some (.str property), some center.toJson,
          some (ofFloat radius)] :=
    objectFields?_zip [_, _, _, _] (by decide) rfl
  simp [readContent?, hFields, required?, Json.str?, DistanceOp.ofJson?_name,
    Point.ofJson?_toJson hCenter, Json.float?_ofFloat hRadius]

end

mutual

/-- A filter is read back at any depth that its form does not exceed. -/
theorem read?_toJson : ∀ {f : Filter} {n : Nat}, (∀ v ∈ f.values, v.Exact) →
    f.toJson.depth ≤ n → read? n f.toJson = some f
  | .everything, n + 1, _, _ | .nothing, n + 1, _, _ => by
    simp [toJson, read?, Json.choice?, Json.nothing?]
  | .comparison op left right, n + 1, h, _ => by
    obtain ⟨hLeft, hRight⟩ := List.forall_mem_append.mp h
    rw [toJson, read?_tagged (by decide) (by decide), readContent?_comparison op hLeft hRight]
  | .between property lower upper, n + 1, h, _ => by
    obtain ⟨hLower, hUpper⟩ := List.forall_mem_append.mp h
    rw [toJson, read?_tagged (by decide) (by decide), readContent?_between property hLower hUpper]
  | .isNull property, n + 1, _, _ | .isNotNull property, n + 1, _, _ => by
    rw [toJson, read?_tagged (by decide) (by decide)]
    simp [readContent?, property_field, required?, Json.str?]
  | .like property pattern options, n + 1, h, _ => by
    rw [toJson, read?_tagged (by decide) (by decide), readContent?_like property options h]
  | .and children, n + 1, h, hn | .or children, n + 1, h, hn => by
    simp only [toJson, depth_tagged, Json.depth] at hn
    have hChildren : (listJson children).mapM (read? n) = some children :=
      mapM_listJson h (by omega)
    rw [toJson, read?_tagged (by decide) (by decide)]
    simp [readContent?, Json.list?, hChildren]
  | .not child, n + 1, h, hn => by
    simp only [toJson, depth_tagged] at hn
    have hChild : read? n child.toJson = some child := read?_toJson h (by omega)
    rw [toJson, read?_tagged (by decide) (by decide)]
    simp [readContent?, hChild]
  | .during range, n + 1, h, _ => by
    rw [toJson, read?_tagged (by decide) (by decide)]
    simp [readContent?, TemporalRange.ofJson?_toJson h]
  | .instant i, n + 1, h, _ => by
    have hInstant : i.FourDigitYear ∧ i.LeapLast := h _ List.mem_cons_self
    rw [toJson, read?_tagged (by decide) (by decide)]
    simp [readContent?, instantOfJson?_instantJson hInstant]
  | .bbox property envelope, n + 1, h, _ => by
    rw [toJson, read?_tagged (by decide) (by decide), readContent?_bbox property h]
  | .distance op property center radius, n + 1, h, _ => by
    obtain ⟨hCenter, hRadius⟩ := List.forall_mem_append.mp h
    have hRadius : radius.isFinite = true := hRadius _ List.mem_cons_self
    rw [toJson, read?_tagged (by decide) (by decide),
      readContent?_distance op property hCenter hRadius]
  | .procedure identifier, n + 1, _, _ => by
    rw [toJson, read?_tagged (by decide) (by decide)]
    simp [readContent?, Json.str?]

theorem mapM_listJson : ∀ {fs : List Filter} {n : Nat}, (∀ v ∈ listValues fs, v.Exact) →
    Json.itemsDepth (listJson fs) ≤ n → (listJson fs).mapM (read? n) = some fs
  | [], _, _, _ => rfl
  | f :: fs, n, h, hn => by
    simp only [listJson, Json.itemsDepth] at hn ⊢
    obtain ⟨hHead, hTail⟩ := List.forall_mem_append.mp h
    have hRead : read? n f.toJson = some f := read?_toJson hHead (by omega)
    have hRest : (listJson fs).mapM (read? n) = some fs := mapM_listJson hTail (by omega)
    simp [hRead, hRest]

end

/-- **A filter is read back from its form**, if the form holds its values exactly. -/
theorem ofJson?_toJson {f : Filter} (h : ∀ v ∈ f.values, v.Exact) :
    Filter.ofJson? f.toJson = some f :=
  read?_toJson h (Nat.le_refl _)

end Filter

end FilterSql
