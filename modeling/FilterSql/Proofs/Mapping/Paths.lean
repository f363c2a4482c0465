import FilterSql.Proofs.Mapping.Names

/-!
# The paths in a checked mapping

The joins of a property are a path: the first one starts at the root table, each starts at the table
where the one before it ends, and the last one ends at the property's table. Paths are given from
their last join back, as they are registered.

* `Connected`: a path from the root table.
* `Mapping.resolve_connected`: the joins of a property are a path to the property's table.
-/

namespace FilterSql.Mapping

/-- The table at the end of a path, given from its last join back. -/
def endOf (root : String) : List Join → String
  | [] => root
  | last :: _ => last.toTable

/-- Every join of a path, given from its last join back, starts where the joins before it end. -/
def Connected (root : String) : List Join → Prop
  | [] => True
  | last :: before => last.fromTable = endOf root before ∧ Connected root before

variable {root name : String}

/-- Joins that pass the check go on from where a path has ended. -/
theorem checkJoins_connected : ∀ {joins : List Join} {step : Nat} {before : List Join}
    {reached : String}, Connected root before →
    checkJoins name joins step (endOf root before) = .ok reached →
      Connected root (joins.reverse ++ before) ∧ endOf root (joins.reverse ++ before) = reached
  | [], _, _, _, hBefore, h => ⟨hBefore, Except.ok.inj h⟩
  | join :: joins, step, before, reached, hBefore, h => by
    unfold checkJoins at h
    obtain ⟨_, -, h⟩ := except_bind_ok.mp h
    obtain ⟨_, -, h⟩ := except_bind_ok.mp h
    obtain ⟨_, -, h⟩ := except_bind_ok.mp h
    obtain ⟨_, -, h⟩ := except_bind_ok.mp h
    split at h
    · exact absurd h throw_bind_ne_ok
    · rename_i hFrom
      have hNext : Connected root (join :: before) := ⟨Decidable.not_not.mp hFrom, hBefore⟩
      rw [List.reverse_cons, List.append_assoc]
      exact checkJoins_connected hNext h

/-- The joins of a property that passes the check are a path to its table. -/
theorem Property.check_connected {p : Property} (h : p.check root name = .ok ()) :
    Connected root p.joins.reverse ∧ endOf root p.joins.reverse = p.table := by
  unfold Property.check at h
  obtain ⟨_, -, h⟩ := except_bind_ok.mp h
  obtain ⟨_, -, h⟩ := except_bind_ok.mp h
  split at h
  · rename_i hEmpty
    rw [List.isEmpty_iff.mp hEmpty]
    split at h
    · exact absurd h throw_ne_ok
    · rename_i hTable
      exact ⟨trivial, (Decidable.not_not.mp hTable).symm⟩
  · obtain ⟨reached, hJoins, h⟩ := except_bind_ok.mp h
    have hStart : checkJoins name p.joins 0 (endOf root []) = .ok reached := hJoins
    have hNone : Connected root [] := trivial
    have hPath := checkJoins_connected hNone hStart
    rw [List.append_nil] at hPath
    split at h
    · exact absurd h throw_ne_ok
    · rename_i hReached
      exact ⟨hPath.1, hPath.2.trans (Decidable.not_not.mp hReached)⟩

/-- **The joins of a property are a path from the root table to the property's table.** -/
theorem resolve_connected {m : Mapping} {p : Property} (h : m.resolve name = .ok p) :
    Connected m.root.table p.joins.reverse ∧ endOf m.root.table p.joins.reverse = p.table :=
  Property.check_connected (check_of_resolve h)

end FilterSql.Mapping
