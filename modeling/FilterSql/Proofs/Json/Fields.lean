import FilterSql.Json.Record
import FilterSql.Proofs.Predicate.Integers

/-!
# Written parts of records are read back

A record is written as an object with each field once, and a list as an array of its written items.
Both are read back part by part.

* `objectFields?_zip`, `fields?_zip`: the fields of an object are read back in their order.
* `list?_map`: the items of an array are read back, if each of them is.
* `int64?_toInt`, `int32?_toInt`, `byte?_toNat`, `float?_ofFloat`, `optional?_ofOption`: single
  values are read back.
-/

namespace FilterSql.Json

open FilterSql.Number (twoPow)

variable {α : Type}

/-! ## Fields -/

/-- In an object with distinct names, each member is found under its name. -/
theorem member?_of_mem {ms : List (String × Json)} (hNames : (ms.map Prod.fst).Nodup)
    {m : String × Json} (hm : m ∈ ms) : member? ms m.1 = some (some m.2) := by
  have hOne : (ms.filter fun n => n.1 == m.1) = [m] := by
    induction ms with
    | nil => exact absurd hm List.not_mem_nil
    | cons n ms ih =>
      obtain ⟨hNew, hNames⟩ := List.nodup_cons.mp hNames
      rcases List.mem_cons.mp hm with rfl | hm
      · have hNone : (ms.filter fun n => n.1 == m.1) = [] := by
          refine List.filter_eq_nil_iff.mpr fun n hn hEq => hNew ?_
          exact eq_of_beq hEq ▸ List.mem_map_of_mem hn
        rw [List.filter_cons, if_pos (beq_self_eq_true m.1), hNone]
      · have hOther : ¬(n.1 == m.1) = true := fun hEq =>
          hNew (eq_of_beq hEq ▸ List.mem_map_of_mem hm)
        rw [List.filter_cons, if_neg hOther, ih hNames hm]
  rw [member?, hOne]

/-- The fields of an object with distinct names are its members. -/
theorem objectFields?_obj {ms : List (String × Json)} (hNames : (ms.map Prod.fst).Nodup) :
    objectFields? (ms.map Prod.fst) (.obj ms) = some (ms.map fun m => some m.2) := by
  have hEach : ∀ part : List (String × Json), (∀ m ∈ part, m ∈ ms) →
      (part.map Prod.fst).mapM (member? ms) = some (part.map fun m => some m.2) := by
    intro part
    induction part with
    | nil => intro _; rfl
    | cons m part ih =>
      intro hPart
      obtain ⟨hHead, hTail⟩ := List.forall_mem_cons.mp hPart
      simp [member?_of_mem hNames hHead, ih hTail]
  exact hEach ms fun _ hm => hm

/-- The fields of an object that has them in order. -/
theorem objectFields?_zip {names : List String} (values : List Json) (hNames : names.Nodup)
    (hLength : names.length = values.length) :
    objectFields? names (.obj (names.zip values)) = some (values.map some) := by
  have hFst : (names.zip values).map Prod.fst = names := List.map_fst_zip hLength.le
  have hSnd : (names.zip values).map Prod.snd = values := List.map_snd_zip hLength.ge
  have hFields : objectFields? names (.obj (names.zip values)) =
      some ((names.zip values).map fun m => some m.2) := by
    rw [← objectFields?_obj (by rwa [hFst]), hFst]
  rw [hFields, ← hSnd, List.map_map, hSnd]
  rfl

theorem fields?_zip {names : List String} (values : List Json) (hNames : names.Nodup)
    (hLength : names.length = values.length) (least : Nat) :
    fields? names least (.obj (names.zip values)) = some (values.map some) :=
  objectFields?_zip values hNames hLength

/-! ## Lists -/

/-- The items of an array are read back, if each of them is. -/
theorem list?_map {read : Json → Option α} {write : α → Json} {as : List α}
    (h : ∀ a ∈ as, read (write a) = some a) : list? read (.arr (as.map write)) = some as := by
  show (as.map write).mapM read = some as
  induction as with
  | nil => rfl
  | cons a as ih =>
    obtain ⟨hHead, hTail⟩ := List.forall_mem_cons.mp h
    simp [hHead, ih hTail]

/-! ## Single values -/

theorem int64?_toInt (i : Int64) : int64? (.int i.toInt) = some i :=
  Number.int64?_eq_some.mpr rfl

theorem int32?_toInt (i : Int32) : int32? (.int i.toInt) = some i := by
  have hPow : (twoPow 31 : Int) = 2 ^ 31 := rfl
  have hLow := i.le_toInt
  have hHigh := i.toInt_lt
  have hRange : -(twoPow 31 : Int) ≤ i.toInt ∧ i.toInt ≤ (twoPow 31 : Int) - 1 := by
    omega
  show ((if _ then some i.toInt else none : Option Int)).map Int32.ofInt = some i
  rw [if_pos hRange, Option.map_some, Int32.ofInt_toInt]

theorem byte?_toNat (b : UInt8) : byte? (.int b.toNat) = some b := by
  have hRange : (0 : Int) ≤ b.toNat ∧ (b.toNat : Int) ≤ 255 := by
    have := b.toNat_lt
    omega
  show ((if _ then some (b.toNat : Int) else none : Option Int)).map _ = some b
  rw [if_pos hRange, Option.map_some, Int.toNat_natCast, UInt8.ofNat_toNat]

theorem float?_ofFloat {x : Float} (h : x.isFinite = true) : float? (ofFloat x) = some x := by
  rw [ofFloat, if_pos h]
  exact if_pos h

/-- A value that may be missing is read back, if it is written otherwise than null. -/
theorem optional?_ofOption {read : Json → Option α} {write : α → Json} {o : Option α}
    (hNull : ∀ a, write a ≠ .null) (h : ∀ a ∈ o, read (write a) = some a) :
    optional? read (some (ofOption write o)) = some o := by
  cases o with
  | none => rfl
  | some a =>
    show nullable? read (write a) = some (some a)
    unfold nullable?
    split
    · rename_i hWritten
      exact absurd hWritten (hNull a)
    · rw [h a rfl, Option.map_some]

end FilterSql.Json
