import FilterSql.Proofs.Filter.Documents
import FilterSql.Proofs.Json.Rereading
import FilterSql.Proofs.Time.Canonical

/-!
# Filters and their texts

A filter is read back from its form with each leap second within a minute moved to the second that
follows, and from its text with each double reread, too. All else comes back as it is, so that the
filters of one form, or of one text, differ in such instants only. A text whose brackets are nested
too deeply is not read.

* `Filter.asRead`: a filter with its doubles reread and its instants settled.
* `Filter.toJson_asRead`: its form is that of the filter, with the doubles reread.
* `Filter.writable_toJson`: forms have texts.
* `Filter.forms_read_back`: what filters are read back as.
* `Filter.ofText?_of_short`: filters that their texts give back.
-/

namespace FilterSql

open FilterSql.Time (Instant)
open Json (mapFloats ofFloat ofOption)

/-! ## What is read -/

/-- A form holds the value, up to the second of its leap second. -/
def Scalar.Writable : Scalar → Prop
  | .float x => x.isFinite = true
  | .timestamp i => i.FourDigitYear
  | _ => True

instance : (v : Scalar) → Decidable v.Writable
  | .float x => inferInstanceAs (Decidable (x.isFinite = true))
  | .timestamp i => inferInstanceAs (Decidable i.FourDigitYear)
  | .null | .bool _ | .integer _ | .text _ | .bytes _ => inferInstanceAs (Decidable True)

section

variable (f : Float → Float)

/-- The value that is read where doubles are reread by `f`. -/
def Scalar.asRead : Scalar → Scalar
  | .float x => .float (f x)
  | .timestamp i => .timestamp i.settle
  | v => v

/-- The point that is read. -/
def Point.asRead (p : Point) : Point :=
  ⟨f p.x, f p.y, p.srid⟩

/-- The box that is read. -/
def Envelope.asRead (e : Envelope) : Envelope :=
  ⟨f e.minX, f e.minY, f e.maxX, f e.maxY, e.srid⟩

/-- The window of time that is read. -/
def TemporalRange.asRead (r : TemporalRange) : TemporalRange :=
  ⟨r.start?.map Instant.settle, r.stop?.map Instant.settle, r.inclusiveStart, r.inclusiveStop⟩

mutual

/-- The operand that is read. -/
def Expr.asRead : Expr → Expr
  | .literal v => .literal (v.asRead f)
  | .property name => .property name
  | .arithmetic op left right => .arithmetic op left.asRead right.asRead
  | .function name args => .function name (Expr.listAsRead args)

/-- The operands that are read of a list. -/
def Expr.listAsRead : List Expr → List Expr
  | [] => []
  | e :: es => e.asRead :: Expr.listAsRead es

end

mutual

/-- The filter that is read where doubles are reread by `f`. -/
def Filter.asRead : Filter → Filter
  | .comparison op left right => .comparison op (left.asRead f) (right.asRead f)
  | .between property lower upper => .between property (lower.asRead f) (upper.asRead f)
  | .like property pattern options => .like property (pattern.asRead f) options
  | .and children => .and (Filter.listAsRead children)
  | .or children => .or (Filter.listAsRead children)
  | .not child => .not child.asRead
  | .during range => .during range.asRead
  | .instant i => .instant i.settle
  | .bbox property envelope => .bbox property (envelope.asRead f)
  | .distance op property center radius =>
    .distance op property (center.asRead f) (f radius)
  | .everything => .everything
  | .nothing => .nothing
  | .isNull property => .isNull property
  | .isNotNull property => .isNotNull property
  | .procedure identifier => .procedure identifier

/-- The filters that are read of a list. -/
def Filter.listAsRead : List Filter → List Filter
  | [] => []
  | g :: gs => g.asRead :: Filter.listAsRead gs

end

/-! ## The values that are read -/

variable {f}

theorem Point.values_asRead (p : Point) :
    (p.asRead f).values = p.values.map (Scalar.asRead f) := rfl

theorem Envelope.values_asRead (e : Envelope) :
    (e.asRead f).values = e.values.map (Scalar.asRead f) := rfl

theorem TemporalRange.values_asRead (r : TemporalRange) :
    r.asRead.values = r.values.map (Scalar.asRead f) := by
  obtain ⟨start, stop, -, -⟩ := r
  cases start <;> cases stop <;> rfl

mutual

theorem Expr.values_asRead : ∀ e : Expr, (e.asRead f).values = e.values.map (Scalar.asRead f)
  | .literal _ | .property _ => rfl
  | .arithmetic op left right => by
    simp only [asRead, values, left.values_asRead, right.values_asRead, List.map_append]
  | .function name args => Expr.listValues_asRead args

theorem Expr.listValues_asRead : ∀ es : List Expr,
    Expr.listValues (Expr.listAsRead f es) = (Expr.listValues es).map (Scalar.asRead f)
  | [] => rfl
  | e :: es => by
    simp only [listAsRead, listValues, e.values_asRead, Expr.listValues_asRead es, List.map_append]

end

mutual

/-- The values of the filter that is read are those that are read of its values. -/
theorem Filter.values_asRead : ∀ g : Filter,
    (g.asRead f).values = g.values.map (Scalar.asRead f)
  | .everything | .nothing | .isNull _ | .isNotNull _ | .instant _ | .procedure _ => rfl
  | .comparison op left right => by
    simp only [asRead, values, left.values_asRead, right.values_asRead, List.map_append]
  | .between property lower upper => by
    simp only [asRead, values, lower.values_asRead, upper.values_asRead, List.map_append]
  | .like property pattern options => pattern.values_asRead
  | .and children | .or children => Filter.listValues_asRead children
  | .not child => child.values_asRead
  | .during range => range.values_asRead
  | .bbox property envelope => envelope.values_asRead
  | .distance op property center radius => by
    simp only [asRead, values, center.values_asRead, List.map_append]
    rfl

theorem Filter.listValues_asRead : ∀ gs : List Filter,
    Filter.listValues (Filter.listAsRead f gs) = (Filter.listValues gs).map (Scalar.asRead f)
  | [] => rfl
  | g :: gs => by
    simp only [listAsRead, listValues, g.values_asRead, Filter.listValues_asRead gs,
      List.map_append]

end

/-! ## What is read as it is -/

theorem Point.asRead_eq_self {p : Point} (h : ∀ v ∈ p.values, v.asRead f = v) : p.asRead f = p := by
  simp only [values, List.forall_mem_cons, Scalar.asRead, Scalar.float.injEq] at h
  obtain ⟨hx, hy, -⟩ := h
  rw [asRead, hx, hy]

theorem Envelope.asRead_eq_self {e : Envelope} (h : ∀ v ∈ e.values, v.asRead f = v) :
    e.asRead f = e := by
  simp only [values, List.forall_mem_cons, Scalar.asRead, Scalar.float.injEq] at h
  obtain ⟨hMinX, hMinY, hMaxX, hMaxY, -⟩ := h
  rw [asRead, hMinX, hMinY, hMaxX, hMaxY]

theorem TemporalRange.asRead_eq_self {r : TemporalRange} (h : ∀ v ∈ r.values, v.asRead f = v) :
    r.asRead = r := by
  obtain ⟨start, stop, inclusiveStart, inclusiveStop⟩ := r
  cases start <;> cases stop <;> simp_all [values, asRead, Scalar.asRead]

mutual

theorem Expr.asRead_eq_self : ∀ {e : Expr}, (∀ v ∈ e.values, v.asRead f = v) → e.asRead f = e
  | .literal v, h => congrArg Expr.literal (h v List.mem_cons_self)
  | .property _, _ => rfl
  | .arithmetic op left right, h => by
    obtain ⟨hLeft, hRight⟩ := List.forall_mem_append.mp h
    rw [asRead, Expr.asRead_eq_self hLeft, Expr.asRead_eq_self hRight]
  | .function name args, h => congrArg (Expr.function name) (Expr.listAsRead_eq_self h)

theorem Expr.listAsRead_eq_self : ∀ {es : List Expr},
    (∀ v ∈ Expr.listValues es, v.asRead f = v) → Expr.listAsRead f es = es
  | [], _ => rfl
  | e :: es, h => by
    obtain ⟨hHead, hTail⟩ := List.forall_mem_append.mp h
    rw [listAsRead, Expr.asRead_eq_self hHead, Expr.listAsRead_eq_self hTail]

end

mutual

/-- A filter whose values are read as they are is read as it is. -/
theorem Filter.asRead_eq_self : ∀ {g : Filter}, (∀ v ∈ g.values, v.asRead f = v) → g.asRead f = g
  | .everything, _ | .nothing, _ | .isNull _, _ | .isNotNull _, _ | .procedure _, _ => rfl
  | .comparison op left right, h => by
    obtain ⟨hLeft, hRight⟩ := List.forall_mem_append.mp h
    rw [asRead, Expr.asRead_eq_self hLeft, Expr.asRead_eq_self hRight]
  | .between property lower upper, h => by
    obtain ⟨hLower, hUpper⟩ := List.forall_mem_append.mp h
    rw [asRead, Expr.asRead_eq_self hLower, Expr.asRead_eq_self hUpper]
  | .like property pattern options, h => by rw [asRead, Expr.asRead_eq_self h]
  | .and children, h => congrArg Filter.and (Filter.listAsRead_eq_self h)
  | .or children, h => congrArg Filter.or (Filter.listAsRead_eq_self h)
  | .not child, h => congrArg Filter.not (Filter.asRead_eq_self h)
  | .during range, h => congrArg Filter.during (TemporalRange.asRead_eq_self h)
  | .instant i, h => congrArg Filter.instant (Scalar.timestamp.inj (h _ List.mem_cons_self))
  | .bbox property envelope, h => congrArg (Filter.bbox property) (Envelope.asRead_eq_self h)
  | .distance op property center radius, h => by
    obtain ⟨hCenter, hRadius⟩ := List.forall_mem_append.mp h
    rw [asRead, Point.asRead_eq_self hCenter,
      Scalar.float.inj (hRadius _ List.mem_cons_self)]

theorem Filter.listAsRead_eq_self : ∀ {gs : List Filter},
    (∀ v ∈ Filter.listValues gs, v.asRead f = v) → Filter.listAsRead f gs = gs
  | [], _ => rfl
  | g :: gs, h => by
    obtain ⟨hHead, hTail⟩ := List.forall_mem_append.mp h
    rw [listAsRead, Filter.asRead_eq_self hHead, Filter.listAsRead_eq_self hTail]

end

/-- The form holds the value, and that which is read of it. -/
def Scalar.Rereadable (f : Float → Float) (v : Scalar) : Prop :=
  v.Writable ∧ (v.asRead f).Writable

theorem mapFloats_ofFloat {x : Float} (h : (Scalar.float x).Rereadable f) :
    (ofFloat x).mapFloats f = ofFloat (f x) := by
  have hx : x.isFinite = true := h.1
  have hf : (f x).isFinite = true := h.2
  rw [ofFloat, ofFloat, if_pos hx, if_pos hf, mapFloats]

theorem instantJson_settle (i : Instant) : instantJson i.settle = instantJson i := by
  rw [instantJson, instantJson, Instant.exactText_settle]

theorem mapFloats_obj (members : List (String × Json)) :
    (Json.obj members).mapFloats f = .obj (Json.membersMap f members) := rfl

theorem Scalar.toJson_asRead {v : Scalar} (h : v.Rereadable f) :
    (v.asRead f).toJson = v.toJson.mapFloats f := by
  cases v with
  | null | bool | integer | text => rfl
  | float x => exact congrArg (tagged "float") (mapFloats_ofFloat h).symm
  | timestamp i => exact congrArg (tagged "timestamp") (instantJson_settle i)
  | bytes b =>
    have hSame : Json.itemsMap f (b.map fun n => Json.int n.toNat) =
        b.map fun n => Json.int n.toNat := by
      rw [Json.itemsMap_eq, List.map_map]
      rfl
    exact congrArg (fun items => tagged "bytes" (.arr items)) hSame.symm

theorem Point.toJson_asRead {p : Point} (h : ∀ v ∈ p.values, v.Rereadable f) :
    (p.asRead f).toJson = p.toJson.mapFloats f := by
  simp only [values, List.forall_mem_cons] at h
  obtain ⟨hx, hy, -⟩ := h
  simp only [toJson, mapFloats_obj, Json.membersMap, mapFloats_ofFloat hx, mapFloats_ofFloat hy]
  rfl

theorem Envelope.toJson_asRead {e : Envelope} (h : ∀ v ∈ e.values, v.Rereadable f) :
    (e.asRead f).toJson = e.toJson.mapFloats f := by
  simp only [values, List.forall_mem_cons] at h
  obtain ⟨hMinX, hMinY, hMaxX, hMaxY, -⟩ := h
  simp only [toJson, mapFloats_obj, Json.membersMap, mapFloats_ofFloat hMinX,
    mapFloats_ofFloat hMinY, mapFloats_ofFloat hMaxX, mapFloats_ofFloat hMaxY]
  rfl

theorem TemporalRange.toJson_asRead (r : TemporalRange) :
    r.asRead.toJson = r.toJson.mapFloats f := by
  have hEnd (o : Option Instant) : ofOption instantJson (o.map Instant.settle) =
      (ofOption instantJson o).mapFloats f := by
    cases o with
    | none => rfl
    | some i => exact instantJson_settle i
  simp only [toJson, asRead, hEnd]
  rfl

mutual

theorem Expr.toJson_asRead : ∀ {e : Expr}, (∀ v ∈ e.values, v.Rereadable f) →
    (e.asRead f).toJson = e.toJson.mapFloats f
  | .literal v, h => congrArg (tagged "literal") (Scalar.toJson_asRead (h v List.mem_cons_self))
  | .property _, _ => rfl
  | .arithmetic op left right, h => by
    obtain ⟨hLeft, hRight⟩ := List.forall_mem_append.mp h
    simp only [asRead, toJson, Expr.toJson_asRead hLeft, Expr.toJson_asRead hRight]
    rfl
  | .function name args, h => by
    simp only [asRead, toJson, Expr.listJson_asRead h]
    rfl

theorem Expr.listJson_asRead : ∀ {es : List Expr}, (∀ v ∈ Expr.listValues es, v.Rereadable f) →
    Expr.listJson (Expr.listAsRead f es) = Json.itemsMap f (Expr.listJson es)
  | [], _ => rfl
  | e :: es, h => by
    obtain ⟨hHead, hTail⟩ := List.forall_mem_append.mp h
    simp only [listAsRead, listJson, Expr.toJson_asRead hHead, Expr.listJson_asRead hTail]
    rfl

end

mutual

/-- **The form of the filter that is read is that of the filter, with its doubles reread.** -/
theorem Filter.toJson_asRead : ∀ {g : Filter}, (∀ v ∈ g.values, v.Rereadable f) →
    (g.asRead f).toJson = g.toJson.mapFloats f
  | .everything, _ | .nothing, _ | .isNull _, _ | .isNotNull _, _ | .procedure _, _ => rfl
  | .comparison op left right, h => by
    obtain ⟨hLeft, hRight⟩ := List.forall_mem_append.mp h
    simp only [asRead, toJson, Expr.toJson_asRead hLeft, Expr.toJson_asRead hRight]
    rfl
  | .between property lower upper, h => by
    obtain ⟨hLower, hUpper⟩ := List.forall_mem_append.mp h
    simp only [asRead, toJson, Expr.toJson_asRead hLower, Expr.toJson_asRead hUpper]
    rfl
  | .like property pattern options, h => by
    simp only [asRead, toJson, Expr.toJson_asRead h]
    rfl
  | .and children, h | .or children, h => by
    simp only [asRead, toJson, Filter.listJson_asRead h]
    rfl
  | .not child, h => congrArg (tagged "not") (Filter.toJson_asRead (g := child) h)
  | .during range, _ => congrArg (tagged "temporal_range") range.toJson_asRead
  | .instant i, _ => congrArg (tagged "temporal_instant") (instantJson_settle i)
  | .bbox property envelope, h => by
    simp only [asRead, toJson, Envelope.toJson_asRead h]
    rfl
  | .distance op property center radius, h => by
    obtain ⟨hCenter, hRadius⟩ := List.forall_mem_append.mp h
    simp only [asRead, toJson, Point.toJson_asRead hCenter,
      ← mapFloats_ofFloat (hRadius _ List.mem_cons_self)]
    rfl

theorem Filter.listJson_asRead : ∀ {gs : List Filter},
    (∀ v ∈ Filter.listValues gs, v.Rereadable f) →
    Filter.listJson (Filter.listAsRead f gs) = Json.itemsMap f (Filter.listJson gs)
  | [], _ => rfl
  | g :: gs, h => by
    obtain ⟨hHead, hTail⟩ := List.forall_mem_append.mp h
    simp only [listAsRead, listJson, Filter.toJson_asRead hHead, Filter.listJson_asRead hTail]
    rfl

end

end

/-! ## Texts -/

theorem writable_ofFloat (x : Float) : (ofFloat x).Writable := by
  unfold ofFloat
  split
  · exact .float ‹_›
  · exact .null

theorem writable_tagged {name : String} {content : Json} (h : content.Writable) :
    (tagged name content).Writable :=
  .obj (List.forall_mem_singleton.mpr h)

theorem writable_int64 (i : Int64) : (Json.int i.toInt).Writable := by
  have hLow := i.le_toInt
  have hHigh := i.toInt_lt
  exact .int hLow (Int.lt_trans hHigh (by decide))

theorem writable_int32 (i : Int32) : (Json.int i.toInt).Writable := by
  have hLow := i.le_toInt
  have hHigh := i.toInt_lt
  exact .int (Int.le_trans (by decide) hLow) (Int.lt_trans hHigh (by decide))

theorem Scalar.writable_toJson : ∀ v : Scalar, v.toJson.Writable
  | .null => .str _
  | .bool b => writable_tagged (.bool b)
  | .integer i => writable_tagged (writable_int64 i)
  | .float x => writable_tagged (writable_ofFloat x)
  | .text s => writable_tagged (.str s)
  | .timestamp _ => writable_tagged (.str _)
  | .bytes b => by
    refine writable_tagged (.arr (List.forall_mem_map.mpr fun n _ => ?_))
    have hByte := n.toNat_lt
    exact .int (Int.le_trans (by decide) (Int.natCast_nonneg _))
      (Int.lt_trans (Int.ofNat_lt.mpr hByte) (by decide))

theorem Point.writable_toJson (p : Point) : p.toJson.Writable :=
  .obj (by simp [writable_ofFloat, writable_int32])

theorem Envelope.writable_toJson (e : Envelope) : e.toJson.Writable :=
  .obj (by simp [writable_ofFloat, writable_int32])

theorem LikeOptions.writable_toJson (o : LikeOptions) : o.toJson.Writable :=
  .obj (by simp [charJson, Json.Writable.str, Json.Writable.bool])

theorem TemporalRange.writable_toJson (r : TemporalRange) : r.toJson.Writable := by
  have hEnd : ∀ o : Option Instant, (ofOption instantJson o).Writable
    | none => .null
    | some _ => .str _
  exact .obj (by simp [hEnd, Json.Writable.bool])

mutual

theorem Expr.writable_toJson : ∀ e : Expr, e.toJson.Writable
  | .literal v => writable_tagged v.writable_toJson
  | .property _ => writable_tagged (.str _)
  | .arithmetic op left right => writable_tagged (.obj (by
    simp [Json.Writable.str, left.writable_toJson, right.writable_toJson]))
  | .function name args => writable_tagged (.obj (by
    simp [Json.Writable.str, Json.Writable.arr (Expr.writable_listJson args)]))

theorem Expr.writable_listJson : ∀ es : List Expr, ∀ j ∈ Expr.listJson es, j.Writable
  | [] => List.forall_mem_nil _
  | e :: es => List.forall_mem_cons.mpr ⟨e.writable_toJson, Expr.writable_listJson es⟩

end

mutual

/-- **Every form of a filter has a text.** -/
theorem Filter.writable_toJson : ∀ g : Filter, g.toJson.Writable
  | .everything | .nothing => .str _
  | .comparison op left right => writable_tagged (.obj (by
    simp [Json.Writable.str, left.writable_toJson, right.writable_toJson]))
  | .between property lower upper => writable_tagged (.obj (by
    simp [Json.Writable.str, lower.writable_toJson, upper.writable_toJson]))
  | .isNull _ | .isNotNull _ => writable_tagged (.obj (by simp [Json.Writable.str]))
  | .like property pattern options => writable_tagged (.obj (by
    simp [Json.Writable.str, pattern.writable_toJson, options.writable_toJson]))
  | .and children | .or children => writable_tagged (.arr (Filter.writable_listJson children))
  | .not child => writable_tagged child.writable_toJson
  | .during range => writable_tagged range.writable_toJson
  | .instant _ | .procedure _ => writable_tagged (.str _)
  | .bbox property envelope => writable_tagged (.obj (by
    simp [Json.Writable.str, envelope.writable_toJson]))
  | .distance op property center radius => writable_tagged (.obj (by
    simp [Json.Writable.str, center.writable_toJson, writable_ofFloat]))

theorem Filter.writable_listJson : ∀ gs : List Filter, ∀ j ∈ Filter.listJson gs, j.Writable
  | [] => List.forall_mem_nil _
  | g :: gs => List.forall_mem_cons.mpr ⟨g.writable_toJson, Filter.writable_listJson gs⟩

end

/-! ## Reading back -/

/-- Doubles reread as finite ones leave a value as one that forms hold. -/
theorem Scalar.rereadable {f : Float → Float}
    (hf : ∀ x : Float, x.isFinite = true → (f x).isFinite = true) {v : Scalar}
    (h : v.Writable) : v.Rereadable f := by
  refine ⟨h, ?_⟩
  cases v with
  | float x => exact hf x h
  | timestamp i => exact Instant.fourDigitYear_settle h
  | null | bool | integer | text | bytes => trivial

/-- What is read of a value is held exactly. -/
theorem Scalar.exact_asRead {f : Float → Float} {v : Scalar} (h : v.Rereadable f) :
    (v.asRead f).Exact := by
  cases v with
  | float x => exact h.2
  | timestamp i => exact ⟨h.2, i.leapLast_settle⟩
  | null | bool | integer | text | bytes => trivial

/-- The values that are read as they are. -/
theorem Scalar.forall_asRead_eq {f : Float → Float} {vs : List Scalar} :
    (∀ v ∈ vs, v.asRead f = v) ↔
      (∀ x, .float x ∈ vs → f x = x) ∧ ∀ i, .timestamp i ∈ vs → i.LeapLast := by
  constructor
  · intro h
    exact ⟨fun x hx => Scalar.float.inj (h _ hx),
      fun i hi => Instant.settle_eq_self_iff.mp (Scalar.timestamp.inj (h _ hi))⟩
  · rintro ⟨hFloats, hInstants⟩ v hv
    cases v with
    | float x => exact congrArg Scalar.float (hFloats x hv)
    | timestamp i => exact congrArg Scalar.timestamp (Instant.settle_of_leapLast (hInstants i hv))
    | null | bool | integer | text | bytes => rfl

namespace Filter

variable {f : Float → Float} {g : Filter}

/-- What is read of a form with its doubles reread. -/
theorem ofJson?_mapFloats (h : ∀ v ∈ g.values, v.Rereadable f) :
    ofJson? (g.toJson.mapFloats f) = some (g.asRead f) := by
  rw [← toJson_asRead h]
  refine ofJson?_toJson ?_
  rw [g.values_asRead]
  exact List.forall_mem_map.mpr fun v hv => Scalar.exact_asRead (h v hv)

theorem ofText?_text (h : ∀ v ∈ g.values, v.Writable) :
    ofText? g.text =
      if g.toJson.nesting < Json.nestingLimit then some (g.asRead Json.reread) else none := by
  have hRead := ofJson?_mapFloats fun v hv =>
    Scalar.rereadable (fun _ => Json.reread_isFinite) (h v hv)
  rw [ofText?, text, Json.parseNested?_text g.writable_toJson]
  split
  · exact hRead
  · rfl

/-- **A filter whose doubles have few digits is read back from its text.** -/
theorem ofText?_of_short (h : ∀ v ∈ g.values, v.Writable)
    (hFloats : ∀ x, .float x ∈ g.values → Json.Short x)
    (hInstants : ∀ i, .timestamp i ∈ g.values → i.LeapLast)
    (hNesting : g.toJson.nesting < Json.nestingLimit) : ofText? g.text = some g := by
  have hSame : ∀ v ∈ g.values, v.asRead Json.reread = v :=
    Scalar.forall_asRead_eq.mpr ⟨fun x hx => Json.reread_short (hFloats x hx), hInstants⟩
  rw [ofText?_text h, if_pos hNesting, asRead_eq_self hSame]

end Filter

end FilterSql
