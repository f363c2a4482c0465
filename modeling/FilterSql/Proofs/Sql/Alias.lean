import FilterSql.Proofs.Mapping.Names
import FilterSql.Sql.Alias

/-!
# What a run of registrations keeps

The aliases of one statement grow as paths are registered. Every registration adds to what was
there: joins are appended, and no path loses its alias. The names stay plain and distinct.

* `Extends`: one state holds all that another one holds.
* `Named`: the names of a state are distinct, and they are what is in use.
* `Sound`: they are plain as well.
* `fresh_not_mem`: a new name is not in use, whatever names look like generated ones.
* `joined`: what a registration does for a path that is not known.
* `extends_registerBack`, `registered_registerBack`: a registration keeps what there was and knows
  the path.
* `register_spec`: a registration extends a sound state to a sound one that knows the path.
* `register_of_registered`: a path that is known keeps its alias and changes nothing.
-/

namespace FilterSql.Sql

open FilterSql.Mapping (Join)

namespace Aliases

/-- The names that a statement binds: the root table's and those of its joins. -/
def names (a : Aliases) : List String :=
  a.root :: a.joins.map JoinClause.name

/-- `b` holds all that `a` holds, and the joins of `a` come first. -/
structure Extends (a b : Aliases) : Prop where
  root : b.root = a.root
  joins : a.joins <+: b.joins
  paths : ∀ p n, a.paths.lookup p = some n → b.paths.lookup p = some n

theorem Extends.refl (a : Aliases) : Extends a a :=
  ⟨rfl, List.prefix_rfl, fun _ _ h => h⟩

theorem Extends.trans {a b c : Aliases} (h₁ : Extends a b) (h₂ : Extends b c) : Extends a c :=
  ⟨h₂.root.trans h₁.root, h₁.joins.trans h₂.joins, fun p n h => h₂.paths p n (h₁.paths p n h)⟩

theorem Extends.names_start {a b : Aliases} (h : Extends a b) : a.names <+: b.names := by
  obtain ⟨post, e⟩ := h.joins
  refine ⟨post.map JoinClause.name, ?_⟩
  unfold names
  rw [h.root, ← e, List.map_append, List.cons_append]

/-- The names of a state are distinct, and they are the names in use. -/
structure Named (a : Aliases) : Prop where
  used : ∀ n, n ∈ a.used ↔ n ∈ a.names
  distinct : a.names.Nodup

theorem named_ofRoot (table : String) : Named (ofRoot table) where
  used _ := Iff.rfl
  distinct := List.pairwise_singleton _ table

/-- A join whose tables and columns are plain names. -/
structure PlainClause (j : JoinClause) : Prop where
  table : PlainName j.table
  name : PlainName j.name
  parent : PlainName j.parent
  parentColumn : PlainName j.parentColumn
  column : PlainName j.column

/-- What every state keeps that is reached from the root table. -/
structure Sound (a : Aliases) : Prop where
  used : ∀ n, n ∈ a.used ↔ n ∈ a.names
  distinct : a.names.Nodup
  plain : ∀ n ∈ a.names, PlainName n
  bound : ∀ p n, a.paths.lookup p = some n → n ∈ a.names
  clauses : ∀ j ∈ a.joins, PlainClause j

theorem Sound.named {a : Aliases} (h : Sound a) : Named a where
  used := h.used
  distinct := h.distinct

theorem sound_ofRoot {table : String} (h : PlainName table) : Sound (ofRoot table) where
  used := (named_ofRoot table).used
  distinct := (named_ofRoot table).distinct
  plain n hn := by
    rw [List.mem_singleton.mp hn]
    exact h
  bound _ _ h := absurd h (by simp [ofRoot])
  clauses _ hj := absurd hj List.not_mem_nil

/-! ## New names -/

theorem numbered_injective {table : String} {m n : Nat} (h : numbered table m = numbered table n) :
    m = n := by
  have e : (table ++ "_") ++ m.repr = (table ++ "_") ++ n.repr := h
  exact Nat.repr_injective ((String.append_right_inj _).mp e)

/-- Names with different numbers are different. -/
theorem nodup_numbered (table : String) (n k : Nat) :
    ((List.range k).map fun i => numbered table (n + i)).Nodup := by
  refine List.Pairwise.map _ (fun i j hij e => ?_) List.nodup_range
  have := numbered_injective e
  omega

theorem toList_numbered (table : String) (n : Nat) :
    (numbered table n).toList = table.toList ++ '_' :: n.repr.toList := by
  show (table ++ "_" ++ n.repr).toList = _
  simp

theorem plainName_numbered {table : String} (h : PlainName table) (n : Nat) :
    PlainName (numbered table n) := by
  refine ⟨by simp [toList_numbered], fun c hc => ?_⟩
  rw [toList_numbered, List.mem_append, List.mem_cons] at hc
  rcases hc with hc | rfl | hc
  · exact h.chars c hc
  · rfl
  · exact isNameChar_of_mem_repr hc

/-- A name that the search ends with although it is used comes after used names only. -/
theorem used_of_freeNumber_used {used : List String} {table : String} :
    ∀ (fuel n : Nat), numbered table (freeNumber used table fuel n) ∈ used →
      ∀ i, i ≤ fuel → numbered table (n + i) ∈ used
  | 0, n, h, i, hi => by
    rw [Nat.le_zero.mp hi]
    exact h
  | fuel + 1, n, h, i, hi => by
    unfold freeNumber at h
    split at h
    · rename_i hn
      cases i with
      | zero => exact List.contains_iff_mem.mp hn
      | succ i =>
        rw [show n + (i + 1) = n + 1 + i by omega]
        exact used_of_freeNumber_used fuel (n + 1) h i (by omega)
    · rename_i hn
      exact absurd (List.contains_iff_mem.mpr h) hn

/-- The search ends with a free number: more names than there are would be used otherwise. -/
theorem freeNumber_not_mem (used : List String) (table : String) (n : Nat) :
    numbered table (freeNumber used table used.length n) ∉ used := by
  intro h
  have hall := used_of_freeNumber_used used.length n h
  -- one name more than there are used ones, all different
  let tried := (List.range (used.length + 1)).map fun i => numbered table (n + i)
  have hNodup : tried.Nodup := nodup_numbered table n _
  have hSubset : tried ⊆ used := by
    intro s hs
    obtain ⟨i, hi, rfl⟩ := List.mem_map.mp hs
    have := List.mem_range.mp hi
    exact hall i (by omega)
  have hle := hNodup.length_le_of_subset hSubset
  rw [List.length_map, List.length_range] at hle
  omega

/-- **A new name is not in use.** -/
theorem fresh_not_mem (a : Aliases) (table : String) : (a.fresh table).1 ∉ a.used := by
  unfold fresh
  split
  · exact freeNumber_not_mem a.used table _
  · rename_i h
    exact fun hm => h (List.contains_iff_mem.mpr hm)

/-- Apart from its number, a new name changes nothing but the names in use. -/
theorem fresh_state (a : Aliases) (table : String) :
    (a.fresh table).2.root = a.root ∧ (a.fresh table).2.paths = a.paths ∧
      (a.fresh table).2.joins = a.joins ∧
      (a.fresh table).2.used = (a.fresh table).1 :: a.used := by
  unfold fresh
  split <;> exact ⟨rfl, rfl, rfl, rfl⟩

theorem plainName_fresh {table : String} (h : PlainName table) (a : Aliases) :
    PlainName (a.fresh table).1 := by
  unfold fresh
  split
  · exact plainName_numbered h _
  · exact h

/-! ## Registration -/

/-- A path, given from its last join back, that has the alias `n`. -/
def Registered (a : Aliases) : List Join → String → Prop
  | [], n => n = a.root
  | last :: before, n => a.paths.lookup (last :: before) = some n

theorem Registered.mono {a b : Aliases} {path : List Join} {n : String} (h : Registered a path n)
    (hab : Extends a b) : Registered b path n := by
  cases path with
  | nil => exact (show n = a.root from h).trans hab.root.symm
  | cons last before => exact hab.paths _ _ h

/-- A path has one alias. -/
theorem Registered.unique {a : Aliases} {path : List Join} {n k : String} (h : Registered a path n)
    (h' : Registered a path k) : n = k := by
  cases path with
  | nil => exact (show n = a.root from h).trans (show k = a.root from h').symm
  | cons last before => exact Option.some.inj ((show _ = some n from h).symm.trans h')

theorem Registered.mem_names {a : Aliases} {path : List Join} {n : String} (h : Registered a path n)
    (hs : Sound a) : n ∈ a.names := by
  cases path with
  | nil => rw [show n = a.root from h]; exact List.mem_cons_self
  | cons last before => exact hs.bound _ _ h

theorem registerBack_of_registered {a : Aliases} {path : List Join} {n : String}
    (h : Registered a path n) : registerBack path a = (n, a) := by
  cases path with
  | nil => rw [show n = a.root from h]; rfl
  | cons last before =>
    rw [registerBack, show a.paths.lookup (last :: before) = some n from h]

/-! ### Paths that are not known -/

/-- A table is joined to the alias `parent` under a new name, which is the alias of the path
`last :: before` from then on. -/
def joined (a : Aliases) (last : Join) (before : List Join) (parent : String) : String × Aliases :=
  let next := a.fresh last.toTable
  (next.1, { next.2 with
    joins := next.2.joins ++ [⟨last.toTable, next.1, parent, last.fromColumn, last.toColumn⟩]
    paths := (last :: before, next.1) :: next.2.paths })

section Joined

variable (a : Aliases) (last : Join) (before : List Join) (parent : String)

theorem registerBack_of_unknown {a : Aliases} {last : Join} {before : List Join}
    (h : a.paths.lookup (last :: before) = none) :
    registerBack (last :: before) a =
      (registerBack before a).2.joined last before (registerBack before a).1 := by
  rw [registerBack, h]
  rfl

theorem root_joined : (a.joined last before parent).2.root = a.root :=
  (fresh_state a last.toTable).1

theorem joins_joined : (a.joined last before parent).2.joins = a.joins ++
    [⟨last.toTable, (a.joined last before parent).1, parent, last.fromColumn, last.toColumn⟩] := by
  obtain ⟨-, -, hJoins, -⟩ := fresh_state a last.toTable
  simp only [joined, hJoins]

theorem lookup_joined (path : List Join) :
    (a.joined last before parent).2.paths.lookup path =
      if path = last :: before then some (a.joined last before parent).1
      else a.paths.lookup path := by
  obtain ⟨-, hPaths, -, -⟩ := fresh_state a last.toTable
  unfold joined
  rw [List.lookup_cons, hPaths]
  by_cases h : path = last :: before
  · simp [h]
  · rw [if_neg h, beq_eq_false_iff_ne.mpr h]

theorem names_joined : (a.joined last before parent).2.names =
    a.names ++ [(a.joined last before parent).1] := by
  unfold names
  rw [root_joined, joins_joined, List.map_append]
  rfl

variable {a}

/-- The name of the new table is not in use before. -/
theorem Named.joined_not_mem (h : Named a) : (a.joined last before parent).1 ∉ a.names :=
  fun hMem => fresh_not_mem a last.toTable ((h.used _).mpr hMem)

theorem Named.joined (h : Named a) : Named (a.joined last before parent).2 := by
  obtain ⟨-, -, -, hUsed⟩ := fresh_state a last.toTable
  constructor
  · intro n
    have hNew : (a.joined last before parent).2.used =
        (a.joined last before parent).1 :: a.used := hUsed
    rw [names_joined, hNew, List.mem_cons, List.mem_append, List.mem_singleton, h.used, or_comm]
  · rw [names_joined]
    refine List.nodup_append.mpr ⟨h.distinct, List.pairwise_singleton _ _, fun x hx y hy e => ?_⟩
    rw [List.mem_singleton.mp hy] at e
    exact h.joined_not_mem last before parent (e ▸ hx)

variable {last}

theorem Sound.joined (hs : Sound a) (hp : last.Plain) {parent : String}
    (hParent : PlainName parent) : Sound (a.joined last before parent).2 := by
  have hNamed := hs.named.joined last before parent
  have hName : PlainName (a.joined last before parent).1 := plainName_fresh hp.toTable a
  refine ⟨hNamed.used, hNamed.distinct, fun n hn => ?_, fun p n hn => ?_, fun j hj => ?_⟩
  · rw [names_joined, List.mem_append, List.mem_singleton] at hn
    rcases hn with hn | rfl
    · exact hs.plain n hn
    · exact hName
  · rw [names_joined, List.mem_append, List.mem_singleton]
    rw [lookup_joined] at hn
    split at hn
    · exact .inr (Option.some.inj hn).symm
    · exact .inl (hs.bound p n hn)
  · rw [joins_joined, List.mem_append, List.mem_singleton] at hj
    rcases hj with hj | rfl
    · exact hs.clauses j hj
    · exact ⟨hp.toTable, hName, hParent, hp.fromColumn, hp.toColumn⟩

end Joined

/-! ### Any path -/

/-- A path that was not known is added to all that there was. -/
theorem Extends.joined {a b : Aliases} (h : Extends a b) {last : Join} {before : List Join}
    (hl : a.paths.lookup (last :: before) = none) (parent : String) :
    Extends a (b.joined last before parent).2 where
  root := (root_joined ..).trans h.root
  joins := by
    rw [joins_joined]
    exact h.joins.trans (List.prefix_append _ _)
  paths p n hn := by
    have hOther : p ≠ last :: before := by
      rintro rfl
      exact absurd (hl.symm.trans hn) (by simp)
    rw [lookup_joined, if_neg hOther]
    exact h.paths p n hn

/-- A registration keeps all that there was. -/
theorem extends_registerBack : ∀ (path : List Join) (a : Aliases),
    Extends a (registerBack path a).2
  | [], a => Extends.refl a
  | last :: before, a => by
    cases hl : a.paths.lookup (last :: before) with
    | some n =>
      rw [registerBack_of_registered (show Registered a (last :: before) n from hl)]
      exact Extends.refl a
    | none =>
      rw [registerBack_of_unknown hl]
      exact (extends_registerBack before a).joined hl _

/-- A registration knows the path under the alias that it answers. -/
theorem registered_registerBack : ∀ (path : List Join) (a : Aliases),
    Registered (registerBack path a).2 path (registerBack path a).1
  | [], _ => rfl
  | last :: before, a => by
    cases hl : a.paths.lookup (last :: before) with
    | some n =>
      have hReg : Registered a (last :: before) n := hl
      rw [registerBack_of_registered hReg]
      exact hReg
    | none =>
      rw [registerBack_of_unknown hl]
      exact (lookup_joined ..).trans (if_pos rfl)

/-- What a registration of a path with plain names does to a sound state. -/
structure Registers (a : Aliases) (path : List Join) (r : String × Aliases) : Prop where
  extends_ : Extends a r.2
  sound : Sound r.2
  registered : Registered r.2 path r.1

theorem sound_registerBack : ∀ {path : List Join} {a : Aliases}, Sound a → (∀ j ∈ path, j.Plain) →
    Sound (registerBack path a).2
  | [], _, hs, _ => hs
  | last :: before, a, hs, hp => by
    cases hl : a.paths.lookup (last :: before) with
    | some n =>
      rw [registerBack_of_registered (show Registered a (last :: before) n from hl)]
      exact hs
    | none =>
      have hBefore : Sound (registerBack before a).2 :=
        sound_registerBack hs fun j hj => hp j (List.mem_cons_of_mem last hj)
      have hParent := hBefore.plain _ ((registered_registerBack before a).mem_names hBefore)
      rw [registerBack_of_unknown hl]
      exact hBefore.joined before (hp last List.mem_cons_self) hParent

theorem registerBack_spec {path : List Join} {a : Aliases} (hs : Sound a)
    (hp : ∀ j ∈ path, j.Plain) : Registers a path (registerBack path a) :=
  ⟨extends_registerBack path a, sound_registerBack hs hp, registered_registerBack path a⟩

/-- **A registration extends a sound state to a sound one that knows the path.** -/
theorem register_spec {a : Aliases} (hs : Sound a) {path : List Join} (hp : ∀ j ∈ path, j.Plain) :
    Registers a path.reverse (a.register path) :=
  registerBack_spec hs fun j hj => hp j (List.mem_reverse.mp hj)

/-- **A path that is known keeps its alias and changes nothing.** -/
theorem register_of_registered {a : Aliases} {path : List Join} {n : String}
    (h : Registered a path.reverse n) : a.register path = (n, a) :=
  registerBack_of_registered h

end Aliases

end FilterSql.Sql
