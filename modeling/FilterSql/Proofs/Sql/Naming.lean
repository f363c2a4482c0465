import FilterSql.Proofs.Sql.Alias
import Mathlib.Data.Finset.Card

/-!
# The search for a name

A table whose name is in use gets a number, and numbers are tried one after the other until a name
is free. The search has no bound of its own: it ends because there are only so many names in use.
Here a registration is given as it goes, rule by rule, with nothing that limits the search.

* `Numbering`, `Naming`, `Registering`: the search, the choice of a name, and a registration.
* `Naming.tries_le`: a name is found after one try more than there are names in use, at most.
* `registering_iff`: every registration comes to an end, and `registerBack` is what it comes to.
-/

namespace FilterSql.Sql

open FilterSql.Mapping (Join)

namespace Aliases

/-- The numbers behind `n` are tried in turn for a table: after `tries` of them, `m` is free. -/
inductive Numbering (used : List String) (table : String) : (n tries m : Nat) → Prop
  | free {n : Nat} : numbered table (n + 1) ∉ used → Numbering used table n 1 (n + 1)
  | taken {n tries m : Nat} : numbered table (n + 1) ∈ used → Numbering used table (n + 1) tries m →
      Numbering used table n (tries + 1) m

/-- A table gets a name after `tries` names were tried, its own name first. -/
inductive Naming (a : Aliases) (table : String) : (tries : Nat) → String × Aliases → Prop
  | own : table ∉ a.used → Naming a table 1 (table, { a with used := table :: a.used })
  | numbered {tries n : Nat} : table ∈ a.used → Numbering a.used table a.counter tries n →
      Naming a table (tries + 1)
        (Aliases.numbered table n,
          { a with used := Aliases.numbered table n :: a.used, counter := n })

/-- A path, given from its last join back, is registered: the empty one is the root table, a known
one keeps its alias, and any other one is joined to the path before its last step. -/
inductive Registering : List Join → Aliases → String × Aliases → Prop
  | root (a : Aliases) : Registering [] a (a.root, a)
  | known {last : Join} {before : List Join} {a : Aliases} {name : String} :
      a.paths.lookup (last :: before) = some name → Registering (last :: before) a (name, a)
  | joined {last : Join} {before : List Join} {a b c : Aliases} {parent name : String}
      {tries : Nat} :
      a.paths.lookup (last :: before) = none → Registering before a (parent, b) →
      Naming b last.toTable tries (name, c) →
      Registering (last :: before) a
        (name,
          { c with
            joins := c.joins ++ [⟨last.toTable, name, parent, last.fromColumn, last.toColumn⟩]
            paths := (last :: before, name) :: c.paths })

variable {used : List String} {table : String} {n tries m : Nat}

/-! ## Numbers -/

/-- The search goes from number to number, and all but the last are in use. -/
theorem Numbering.spec (h : Numbering used table n tries m) :
    m = n + tries ∧ 0 < tries ∧ (∀ i, i + 1 < tries → numbered table (n + 1 + i) ∈ used) ∧
      numbered table m ∉ used := by
  induction h with
  | free hFree => exact ⟨rfl, Nat.one_pos, fun i hi => by omega, hFree⟩
  | @taken n tries m hUsed _ ih =>
    obtain ⟨hLast, -, hTried, hFree⟩ := ih
    refine ⟨by omega, by omega, fun i hi => ?_, hFree⟩
    cases i with
    | zero => exact hUsed
    | succ i =>
      rw [show n + 1 + (i + 1) = n + 1 + 1 + i by omega]
      exact hTried i (by omega)

/-- The search has one outcome. -/
theorem Numbering.unique {tries' m' : Nat} (h : Numbering used table n tries m)
    (h' : Numbering used table n tries' m') : m = m' := by
  obtain ⟨hLast, hPos, hTried, hFree⟩ := h.spec
  obtain ⟨hLast', hPos', hTried', hFree'⟩ := h'.spec
  rcases Nat.lt_trichotomy tries tries' with hLt | rfl | hGt
  · refine absurd (hTried' (tries - 1) (by omega)) ?_
    rwa [show n + 1 + (tries - 1) = m by omega]
  · rw [hLast, hLast']
  · refine absurd (hTried (tries' - 1) (by omega)) ?_
    rwa [show n + 1 + (tries' - 1) = m' by omega]

/-- Looking for a free number with enough fuel is the search without a bound. -/
theorem numbering_freeNumber : ∀ (fuel n : Nat),
    numbered table (freeNumber used table fuel (n + 1)) ∉ used →
      ∃ tries, Numbering used table n tries (freeNumber used table fuel (n + 1))
  | 0, _, hFree => ⟨1, .free hFree⟩
  | fuel + 1, n, hFree => by
    unfold freeNumber at hFree ⊢
    by_cases hUsed : used.contains (numbered table (n + 1)) = true
    · rw [if_pos hUsed] at hFree ⊢
      obtain ⟨tries, h⟩ := numbering_freeNumber fuel (n + 1) hFree
      exact ⟨tries + 1, .taken (List.contains_iff_mem.mp hUsed) h⟩
    · rw [if_neg hUsed] at hFree ⊢
      exact ⟨1, .free hFree⟩

/-! ## Names -/

theorem numbered_ne (table : String) (n : Nat) : numbered table n ≠ table := by
  intro h
  have hLength := congrArg List.length (congrArg String.toList h)
  simp [toList_numbered] at hLength

/-- **A name is found after one try more than there are names in use, at most.** All names that
were tried before it are in use, and no name is tried twice. -/
theorem Naming.tries_le {a : Aliases} {r : String × Aliases} (h : Naming a table tries r) :
    tries ≤ a.used.toFinset.card + 1 := by
  cases h with
  | own _ => omega
  | @numbered tries n hOwn hNumbering =>
    obtain ⟨-, hPos, hTried, -⟩ := hNumbering.spec
    let tried := table :: (List.range (tries - 1)).map fun i =>
      Aliases.numbered table (a.counter + 1 + i)
    have hNodup : tried.Nodup := by
      refine List.nodup_cons.mpr ⟨fun hMem => ?_, nodup_numbered table _ _⟩
      obtain ⟨i, -, hEq⟩ := List.mem_map.mp hMem
      exact numbered_ne table _ hEq
    have hUsed : tried.toFinset ⊆ a.used.toFinset := by
      intro name hName
      rw [List.mem_toFinset] at hName ⊢
      rcases List.mem_cons.mp hName with rfl | hName
      · exact hOwn
      · obtain ⟨i, hi, rfl⟩ := List.mem_map.mp hName
        exact hTried i (by have := List.mem_range.mp hi; omega)
    have hCard : tried.toFinset.card = tries := by
      rw [List.toFinset_card_of_nodup hNodup]
      simp only [tried, List.length_cons, List.length_map, List.length_range]
      omega
    have := Finset.card_le_card hUsed
    omega

/-- A new name is one that the search finds. -/
theorem naming_fresh (a : Aliases) (table : String) :
    ∃ tries, Naming a table tries (a.fresh table) := by
  unfold fresh
  by_cases hUsed : a.used.contains table = true
  · rw [if_pos hUsed]
    obtain ⟨tries, h⟩ := numbering_freeNumber a.used.length a.counter
      (freeNumber_not_mem a.used table _)
    exact ⟨tries + 1, .numbered (List.contains_iff_mem.mp hUsed) h⟩
  · rw [if_neg hUsed]
    exact ⟨1, .own fun hMem => hUsed (List.contains_iff_mem.mpr hMem)⟩

theorem Naming.eq_fresh {a : Aliases} {r : String × Aliases} (h : Naming a table tries r) :
    r = a.fresh table := by
  unfold fresh
  cases h with
  | own hFree => rw [if_neg fun hUsed => hFree (List.contains_iff_mem.mp hUsed)]
  | @numbered tries n hUsed h =>
    obtain ⟨tries', h'⟩ := numbering_freeNumber a.used.length a.counter
      (freeNumber_not_mem a.used table _)
    rw [if_pos (List.contains_iff_mem.mpr hUsed), h.unique h']

/-! ## Registrations -/

theorem registering_registerBack : ∀ (path : List Join) (a : Aliases),
    Registering path a (registerBack path a)
  | [], a => .root a
  | last :: before, a => by
    cases hl : a.paths.lookup (last :: before) with
    | some name =>
      rw [registerBack_of_registered (show Registered a (last :: before) name from hl)]
      exact .known hl
    | none =>
      obtain ⟨tries, hName⟩ := naming_fresh (registerBack before a).2 last.toTable
      rw [registerBack_of_unknown hl]
      exact .joined hl (registering_registerBack before a) hName

/-- **Every registration comes to an end, with what `registerBack` answers.** -/
theorem registering_iff {path : List Join} {a : Aliases} {r : String × Aliases} :
    Registering path a r ↔ r = registerBack path a := by
  constructor
  · intro h
    induction h with
    | root a => rfl
    | @known last before a name hl =>
      exact (registerBack_of_registered (show Registered a (last :: before) name from hl)).symm
    | joined hl _ hName ih =>
      rw [registerBack_of_unknown hl, ← ih]
      unfold joined
      rw [← hName.eq_fresh]
  · rintro rfl
    exact registering_registerBack path a

end Aliases

end FilterSql.Sql
