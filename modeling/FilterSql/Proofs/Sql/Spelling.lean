import FilterSql.Proofs.Sql.Alias
import FilterSql.Text.Lowercase
import Mathlib.Data.List.Nodup

/-!
# The spelling of names

A database does not tell names apart that differ only in the cases of ASCII letters. Names are given
out by comparing letters as they are, so the names of a statement are distinct for the database if
its tables have one spelling each.

* `NamedByTables`: every join has the name of its table, if need be with a number.
* `OneSpelling`: tables whose names do not differ in the cases of letters alone.
* `OneSpelling.nodup_folded`: the names are distinct after folding.
-/

namespace FilterSql.Sql

open FilterSql.Mapping (Join)
open FilterSql.Text (lowerAscii)

namespace Aliases

/-! ## Folded names -/

theorem toLower_of_isDigit {c : Char} (h : c.isDigit = true) : c.toLower = c := by
  unfold Char.isDigit at h
  rw [Bool.and_eq_true, decide_eq_true_iff, decide_eq_true_iff] at h
  unfold Char.toLower
  refine dif_neg fun hUpper => ?_
  have hBelow : c.val.toNat ≤ 57 := UInt32.le_iff_toNat_le.mp h.2
  have hAbove : 65 ≤ c.val.toNat := UInt32.le_iff_toNat_le.mp hUpper.1
  omega

/-- Numbers stay as they are. -/
theorem toList_lowerAscii_numbered (table : String) (n : Nat) :
    (lowerAscii (numbered table n)).toList =
      (lowerAscii table).toList ++ '_' :: n.repr.toList := by
  have hDigits : n.repr.toList.map Char.toLower = n.repr.toList := by
    refine (List.map_congr_left fun c hc => ?_).trans (List.map_id _)
    exact toLower_of_isDigit (isDigit_of_mem_repr hc)
  unfold lowerAscii
  rw [String.toList_map, String.toList_map, toList_numbered, List.map_append, List.map_cons,
    hDigits]
  rfl

theorem underscore_not_mem_repr (n : Nat) : '_' ∉ n.repr.toList := by
  intro h
  exact absurd (isDigit_of_mem_repr h) (by decide)

/-- Lists are parted at the last `x` in one way only. -/
theorem append_cons_inj {α : Type} {x : α} {as bs cs ds : List α} (hb : x ∉ bs) (hd : x ∉ ds)
    (h : as ++ x :: bs = cs ++ x :: ds) : as = cs ∧ bs = ds := by
  rcases List.append_eq_append_iff.mp h with ⟨es, rfl, hRest⟩ | ⟨es, rfl, hRest⟩
  · cases es with
    | nil => exact ⟨(List.append_nil as).symm, (List.cons.inj hRest).2⟩
    | cons e es =>
      rw [(List.cons.inj hRest).2] at hb
      exact absurd (List.mem_append_right es List.mem_cons_self) hb
  · cases es with
    | nil => exact ⟨List.append_nil cs, (List.cons.inj hRest).2.symm⟩
    | cons e es =>
      rw [(List.cons.inj hRest).2] at hd
      exact absurd (List.mem_append_right es List.mem_cons_self) hd

/-- Names with numbers differ in the tables or in the numbers, also after folding. -/
theorem lowerAscii_numbered_inj {t u : String} {n k : Nat}
    (h : lowerAscii (numbered t n) = lowerAscii (numbered u k)) :
    lowerAscii t = lowerAscii u ∧ n = k := by
  have hList := congrArg String.toList h
  rw [toList_lowerAscii_numbered, toList_lowerAscii_numbered] at hList
  obtain ⟨hTables, hNumbers⟩ :=
    append_cons_inj (underscore_not_mem_repr n) (underscore_not_mem_repr k) hList
  exact ⟨String.toList_inj.mp hTables, Nat.repr_injective (String.toList_inj.mp hNumbers)⟩

/-! ## Names of tables -/

/-- A name that a table can be given: its own, or this with a number. -/
def NameOf (table name : String) : Prop :=
  name = table ∨ ∃ n, name = numbered table n

theorem fresh_nameOf (a : Aliases) (table : String) : NameOf table (a.fresh table).1 := by
  unfold fresh
  split
  · exact .inr ⟨_, rfl⟩
  · exact .inl rfl

/-- Every join has a name of its table. -/
def NamedByTables (a : Aliases) : Prop :=
  ∀ j ∈ a.joins, NameOf j.table j.name

theorem namedByTables_ofRoot (table : String) : NamedByTables (ofRoot table) :=
  fun _ hj => absurd hj List.not_mem_nil

theorem NamedByTables.registerBack : ∀ {path : List Join} {a : Aliases}, NamedByTables a →
    NamedByTables (registerBack path a).2
  | [], _, h => h
  | last :: before, a, h => by
    cases hl : a.paths.lookup (last :: before) with
    | some n =>
      have hReg : Registered a (last :: before) n := hl
      rw [registerBack_of_registered hReg]
      exact h
    | none =>
      have hBefore : NamedByTables (Aliases.registerBack before a).2 := h.registerBack
      rw [registerBack_of_unknown hl]
      intro j hj
      rw [joins_joined, List.mem_append, List.mem_singleton] at hj
      rcases hj with hj | rfl
      · exact hBefore j hj
      · exact fresh_nameOf _ last.toTable

/-- **A registration keeps joins named by their tables.** -/
theorem NamedByTables.register {a : Aliases} (h : NamedByTables a) (path : List Join) :
    NamedByTables (a.register path).2 :=
  NamedByTables.registerBack h

/-! ## One spelling -/

/-- The tables of a statement. -/
def tables (a : Aliases) : List String :=
  a.root :: a.joins.map JoinClause.table

/-- No table differs in the cases of letters alone from another one, or from the name of one with a
number. -/
structure OneSpelling (tables : List String) : Prop where
  plain : ∀ t ∈ tables, ∀ u ∈ tables, lowerAscii t = lowerAscii u → t = u
  numbered : ∀ t ∈ tables, ∀ u ∈ tables, ∀ n,
    lowerAscii (numbered t n) = lowerAscii u → Aliases.numbered t n = u

/-- Tables in lower case have one spelling. -/
theorem oneSpelling_of_lower {tables : List String} (h : ∀ t ∈ tables, lowerAscii t = t) :
    OneSpelling tables where
  plain t ht u hu e := by rwa [h t ht, h u hu] at e
  numbered t ht u hu n e := by
    rw [h u hu] at e
    rw [← e]
    apply String.toList_inj.mp
    rw [toList_lowerAscii_numbered, h t ht, toList_numbered]

variable {a : Aliases}

theorem NamedByTables.nameOf (h : NamedByTables a) {name : String} (hName : name ∈ a.names) :
    ∃ t ∈ a.tables, NameOf t name := by
  rcases List.mem_cons.mp hName with rfl | hJoin
  · exact ⟨a.root, List.mem_cons_self, .inl rfl⟩
  · obtain ⟨j, hj, rfl⟩ := List.mem_map.mp hJoin
    exact ⟨j.table, List.mem_cons_of_mem _ (List.mem_map_of_mem hj), h j hj⟩

/-- Names of the statement that a database does not tell apart are the same. -/
theorem OneSpelling.eq_of_folded (h : OneSpelling a.tables) (hNamed : NamedByTables a)
    {x y : String} (hx : x ∈ a.names) (hy : y ∈ a.names) (e : lowerAscii x = lowerAscii y) :
    x = y := by
  obtain ⟨t, ht, hxt⟩ := hNamed.nameOf hx
  obtain ⟨u, hu, hyu⟩ := hNamed.nameOf hy
  rcases hxt with rfl | ⟨n, rfl⟩ <;> rcases hyu with rfl | ⟨k, rfl⟩
  · exact h.plain _ ht _ hu e
  · exact (h.numbered _ hu _ ht k e.symm).symm
  · exact h.numbered _ ht _ hu n e
  · obtain ⟨hTables, rfl⟩ := lowerAscii_numbered_inj e
    rw [h.plain _ ht _ hu hTables]

/-- **Where tables have one spelling, a database tells all names of a statement apart.** -/
theorem OneSpelling.nodup_folded (h : OneSpelling a.tables) (hNamed : NamedByTables a)
    (hs : Sound a) : (a.names.map lowerAscii).Nodup :=
  List.Nodup.map_on (fun _ hx _ hy e => h.eq_of_folded hNamed hx hy e) hs.distinct

end Aliases

end FilterSql.Sql
