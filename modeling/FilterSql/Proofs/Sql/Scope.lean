import FilterSql.Proofs.Mapping.Paths
import FilterSql.Proofs.Sql.Alias

/-!
# What the names of a statement stand for

The tables of a statement, read as a database reads them: the root table stands under its own name,
and every join binds a name to a table for the joins behind it. So a name stands for a table, and
for the path of joins that leads to it from the root table.

* `reach?`: the table and the path that a name stands for.
* `Follows`: a join of a statement is a step of a property's path.
* `Faithful`: the names of all registered paths stand for just these paths.
* `Faithful.register`: a registration keeps that.
-/

namespace FilterSql.Sql

open FilterSql.Mapping (Connected Join endOf)

/-- What a name stands for behind some joins, the last one first: a table, and the joins that lead
to it from the root table. -/
def reach? (root : String) : List JoinClause → String → Option (String × List Join)
  | [], name => if name = root then some (root, []) else none
  | j :: earlier, name =>
    if name = j.name then
      (reach? root earlier j.parent).map fun (table, path) =>
        (j.table, path ++ [⟨table, j.parentColumn, j.table, j.column⟩])
    else reach? root earlier name

variable {root name : String} {js : List JoinClause}

theorem reach?_cons_of_ne {j : JoinClause} (h : name ≠ j.name) :
    reach? root (j :: js) name = reach? root js name :=
  if_neg h

theorem reach?_append_of_not_mem {ks : List JoinClause} (h : name ∉ ks.map JoinClause.name) :
    reach? root (ks ++ js) name = reach? root js name := by
  induction ks with
  | nil => rfl
  | cons k ks ih =>
    obtain ⟨hk, hks⟩ := List.ne_and_not_mem_of_not_mem_cons h
    rw [List.cons_append, reach?_cons_of_ne hk, ih hks]

/-- A name that stands for something is bound. -/
theorem mem_of_reach? {r : String × List Join} (h : reach? root js name = some r) :
    name ∈ root :: js.map JoinClause.name := by
  induction js generalizing r with
  | nil =>
    unfold reach? at h
    split at h
    · rename_i e
      exact e ▸ List.mem_cons_self
    · exact absurd h (by simp)
  | cons j js ih =>
    unfold reach? at h
    rw [List.map_cons]
    split at h
    · rename_i e
      exact e ▸ List.mem_cons_of_mem _ List.mem_cons_self
    · rcases List.mem_cons.mp (ih h) with e | hMem
      · exact e ▸ List.mem_cons_self
      · exact List.mem_cons_of_mem _ (List.mem_cons_of_mem _ hMem)

theorem mem_of_reach?_reverse {r : String × List Join} (h : reach? root js.reverse name = some r) :
    name ∈ root :: js.map JoinClause.name := by
  have hMem := mem_of_reach? h
  rwa [List.map_reverse, List.mem_cons, List.mem_reverse, ← List.mem_cons] at hMem

/-- Only the name of the root table is reached without a join. -/
theorem eq_root_of_reach? {table : String} (h : reach? root js name = some (table, [])) :
    name = root := by
  induction js with
  | nil =>
    unfold reach? at h
    split at h
    · assumption
    · exact absurd h (by simp)
  | cons j js ih =>
    unfold reach? at h
    split at h
    · obtain ⟨⟨t, path⟩, -, e⟩ := Option.map_eq_some_iff.mp h
      exact absurd (congrArg Prod.snd e) (by simp)
    · exact ih h

/-- A join is the next step of the path of a property, and hangs on the table where that step
starts. The joins before it come last one first. -/
def Follows (m : Mapping) (earlier : List JoinClause) (j : JoinClause) : Prop :=
  ∃ property p path step rest, m.resolve property = .ok p ∧ p.joins = path ++ step :: rest ∧
    reach? m.root.table earlier j.parent = some (step.fromTable, path) ∧
    j.parentColumn = step.fromColumn ∧ j.table = step.toTable ∧ j.column = step.toColumn

/-- Every join follows the joins before it. The joins come last one first. -/
def AllFollow (m : Mapping) : List JoinClause → Prop
  | [] => True
  | j :: earlier => Follows m earlier j ∧ AllFollow m earlier

theorem AllFollow.follows {m : Mapping} {j : JoinClause} {earlier : List JoinClause} :
    ∀ later : List JoinClause, AllFollow m (later ++ j :: earlier) → Follows m earlier j
  | [], h => h.1
  | _ :: later, h => AllFollow.follows later h.2

namespace Aliases

variable {m : Mapping} {a : Aliases}

/-- What a name stands for in a statement. -/
def reach? (a : Aliases) (name : String) : Option (String × List Join) :=
  Sql.reach? a.root a.joins.reverse name

/-- The names of the registered paths stand for these paths, and the joins are those of the paths
of properties. -/
structure Faithful (m : Mapping) (a : Aliases) : Prop where
  root : a.root = m.root.table
  reached : ∀ path n, a.paths.lookup path = some n →
    a.reach? n = some (endOf m.root.table path, path.reverse)
  follow : AllFollow m a.joins.reverse

theorem faithful_ofRoot (m : Mapping) : Faithful m (ofRoot m.root.table) where
  root := rfl
  reached _ _ h := absurd h (by simp [ofRoot])
  follow := trivial

/-- The root table stands under its name. -/
theorem reach?_root (hs : Sound a) : a.reach? a.root = some (a.root, []) := by
  have hRoot : a.root ∉ a.joins.reverse.map JoinClause.name := by
    rw [List.map_reverse, List.mem_reverse]
    exact (List.nodup_cons.mp hs.distinct).1
  have h : Sql.reach? a.root (a.joins.reverse ++ []) a.root = Sql.reach? a.root [] a.root :=
    reach?_append_of_not_mem hRoot
  rw [List.append_nil] at h
  exact h.trans (if_pos rfl)

/-- The name of a registered path stands for this path. -/
theorem Faithful.reach?_registered (h : Faithful m a) (hs : Sound a) {path : List Join} {n : String}
    (hReg : a.Registered path n) : a.reach? n = some (endOf m.root.table path, path.reverse) := by
  cases path with
  | nil =>
    rw [show n = a.root from hReg, reach?_root hs, h.root]
    rfl
  | cons last before => exact h.reached _ _ hReg

/-- A table that is joined to the end of a registered path stands for the path with one step
more. -/
theorem Faithful.joined (h : Faithful m a) (hs : Sound a) {property : String}
    {p : Mapping.Property} {last : Join} {before : List Join}
    (hResolve : m.resolve property = .ok p) (hPath : (last :: before).reverse <+: p.joins)
    (hConnected : Connected m.root.table (last :: before)) {parent : String}
    (hParent : a.Registered before parent) : Faithful m (a.joined last before parent).2 := by
  have hReach := h.reach?_registered hs hParent
  unfold reach? at hReach
  have hReversed : (a.joined last before parent).2.joins.reverse =
      ⟨last.toTable, (a.joined last before parent).1, parent, last.fromColumn, last.toColumn⟩ ::
        a.joins.reverse := by
    rw [joins_joined, List.reverse_append]
    rfl
  refine ⟨(root_joined ..).trans h.root, fun path n hn => ?_, ?_⟩
  · unfold reach?
    rw [root_joined, hReversed]
    rw [lookup_joined] at hn
    split at hn
    · rename_i hKey
      rw [hKey, ← Option.some.inj hn]
      have hStep : (⟨endOf m.root.table before, last.fromColumn, last.toTable, last.toColumn⟩ :
          Join) = last := by rw [← hConnected.1]
      rw [Sql.reach?, if_pos rfl, hReach, List.reverse_cons, ← hStep]
      rfl
    · -- a name that is in use is not the new one
      have hUsed : n ≠ (a.joined last before parent).1 := by
        rintro rfl
        exact hs.named.joined_not_mem last before parent (hs.bound _ _ hn)
      rw [reach?_cons_of_ne hUsed]
      exact h.reached path n hn
  · rw [hReversed]
    obtain ⟨rest, hRest⟩ := hPath
    rw [List.reverse_cons, List.append_assoc] at hRest
    rw [h.root, ← hConnected.1] at hReach
    exact ⟨⟨property, p, before.reverse, last, rest, hResolve, hRest.symm, hReach, rfl, rfl, rfl⟩,
      h.follow⟩

theorem Faithful.registerBack {property : String} {p : Mapping.Property}
    (hResolve : m.resolve property = .ok p) :
    ∀ {path : List Join} {a : Aliases}, Faithful m a → Sound a → path.reverse <+: p.joins →
      Connected m.root.table path → Faithful m (registerBack path a).2
  | [], _, h, _, _, _ => h
  | last :: before, a, h, hs, hPath, hConnected => by
    cases hl : a.paths.lookup (last :: before) with
    | some n =>
      have hReg : Registered a (last :: before) n := hl
      rw [registerBack_of_registered hReg]
      exact h
    | none =>
      have hBefore : before.reverse <+: p.joins := by
        rw [List.reverse_cons] at hPath
        exact (List.prefix_append _ _).trans hPath
      have hPlain : ∀ j ∈ before, j.Plain := fun j hj =>
        (Mapping.resolve_plain hResolve).joins j (hBefore.subset (List.mem_reverse.mpr hj))
      obtain ⟨-, hSound, hReg⟩ := registerBack_spec hs hPlain
      have hParent := Faithful.registerBack hResolve h hs hBefore hConnected.2
      rw [registerBack_of_unknown hl]
      exact hParent.joined hSound hResolve hPath hConnected hReg

/-- **A registration of a property's path keeps the names faithful.** -/
theorem Faithful.register (h : Faithful m a) (hs : Sound a) {property : String}
    {p : Mapping.Property} (hResolve : m.resolve property = .ok p) :
    Faithful m (a.register p.joins).2 := by
  have hPath : p.joins.reverse.reverse <+: p.joins := ⟨[], by simp⟩
  exact Faithful.registerBack hResolve h hs hPath (Mapping.resolve_connected hResolve).1

end Aliases

end FilterSql.Sql
