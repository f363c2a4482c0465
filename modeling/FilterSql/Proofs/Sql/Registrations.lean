import FilterSql.Proofs.Sql.Naming
import Mathlib.Data.List.Forall2
import Mathlib.Data.List.Infix

/-!
# Runs of registrations

What any sequence of registrations comes to, from any root table and for any paths: nothing is asked
of the names of tables, which may look like names with numbers, nor of the steps of a path, which
need not fit together. A path is joined where its last step is, so a statement needs a join for
every prefix of every path, and each of them once.

* `requested`: the distinct prefixes of paths, in the order in which they are needed.
* `HasJoins`: the joins of a state are those of given paths, one by one.
* `HasJoins.registerBack`: a registration adds the joins of the prefixes that are new.
* `HasJoins.eq_of_registered`: paths with the same alias are the same.
* `registrations_of_any_run`: what a run answers, what it joins, and that it ends.
-/

namespace FilterSql.Sql

open FilterSql.Mapping (Join)

/-! ## Prefixes -/

/-- The prefixes of a path that are not empty, the shortest first. -/
def prefixes (path : List Join) : List (List Join) :=
  path.inits.tail

/-- The prefixes of paths, each where it is needed first. -/
def requested (paths : List (List Join)) : List (List Join) :=
  (paths.flatMap prefixes).eraseDups

theorem mem_prefixes {p q : List Join} : q ∈ prefixes p ↔ q <+: p ∧ q ≠ [] := by
  cases p with
  | nil =>
    constructor
    · intro h
      exact absurd h List.not_mem_nil
    · rintro ⟨hPrefix, hq⟩
      exact absurd (List.prefix_nil.mp hPrefix) hq
  | cons j p =>
    have hTail : prefixes (j :: p) = p.inits.map (j :: ·) := by simp [prefixes]
    rw [hTail, List.mem_map]
    constructor
    · rintro ⟨q, hq, rfl⟩
      exact ⟨List.prefix_cons_inj j |>.mpr ((List.mem_inits q p).mp hq), by simp⟩
    · rintro ⟨hPrefix, hq⟩
      obtain ⟨k, q, rfl⟩ := List.exists_cons_of_ne_nil hq
      obtain ⟨rfl, hRest⟩ := List.cons_prefix_cons.mp hPrefix
      exact ⟨q, (List.mem_inits q p).mpr hRest, rfl⟩

theorem prefixes_concat (path : List Join) (last : Join) :
    prefixes (path ++ [last]) = prefixes path ++ [path ++ [last]] := by
  have hInits : path.inits ≠ [] := by
    intro h
    have := congrArg List.length h
    simp at this
  simp [prefixes, List.inits_append, List.tail_append_of_ne_nil hInits]

theorem mem_requested {paths : List (List Join)} {q : List Join} :
    q ∈ requested paths ↔ q ≠ [] ∧ ∃ p ∈ paths, q <+: p := by
  simp only [requested, List.mem_eraseDups, List.mem_flatMap, mem_prefixes]
  constructor
  · rintro ⟨p, hp, hPrefix, hq⟩
    exact ⟨hq, p, hp, hPrefix⟩
  · rintro ⟨hq, p, hp, hPrefix⟩
    exact ⟨p, hp, hPrefix, hq⟩

/-- What is there already is not added. -/
theorem eraseDups_append_of_subset {xs ys : List (List Join)} (h : ys ⊆ xs) :
    (xs ++ ys).eraseDups = xs.eraseDups := by
  have hNone : ys.removeAll xs = [] := by
    refine List.filter_eq_nil_iff.mpr fun y hy => ?_
    simp [h hy]
  rw [List.eraseDups_append, hNone, List.eraseDups_nil, List.append_nil]

/-- What is new is added at the end. -/
theorem eraseDups_concat_of_not_mem {xs : List (List Join)} {y : List Join} (h : y ∉ xs) :
    (xs ++ [y]).eraseDups = xs.eraseDups ++ [y] := by
  have hAll : [y].removeAll xs = [y] := by simp [List.removeAll, h]
  rw [List.eraseDups_append, hAll]
  simp [List.eraseDups_cons]

/-! ## Joins and paths -/

namespace Aliases

/-- The join of the path `before` with one step more: it has the alias of that path, and it hangs
on the alias of `before`. -/
structure JoinOf (a : Aliases) (before : List Join) (last : Join) (j : JoinClause) : Prop where
  table : j.table = last.toTable
  name : Registered a (before ++ [last]).reverse j.name
  parent : Registered a before.reverse j.parent
  parentColumn : j.parentColumn = last.fromColumn
  column : j.column = last.toColumn

/-- The join of a path. -/
def Joins (a : Aliases) (path : List Join) (j : JoinClause) : Prop :=
  ∃ before last, path = before ++ [last] ∧ JoinOf a before last j

theorem Joins.mono {a b : Aliases} {path : List Join} {j : JoinClause} (h : Joins a path j)
    (hExt : Extends a b) : Joins b path j := by
  obtain ⟨before, last, rfl, hJoin⟩ := h
  exact ⟨before, last, rfl, hJoin.table, hJoin.name.mono hExt, hJoin.parent.mono hExt,
    hJoin.parentColumn, hJoin.column⟩

theorem Joins.registered {a : Aliases} {path : List Join} {j : JoinClause} (h : Joins a path j) :
    Registered a path.reverse j.name := by
  obtain ⟨before, last, rfl, hJoin⟩ := h
  exact hJoin.name

/-- The joins of a state are those of the paths `ps`, one by one. Paths come behind their
prefixes. -/
structure HasJoins (a : Aliases) (ps : List (List Join)) : Prop where
  named : Named a
  known : ∀ p, p ∈ ps ↔ ∃ n, a.paths.lookup p.reverse = some n
  joins : List.Forall₂ (Joins a) ps a.joins
  ordered : ps.Pairwise fun p q => ¬q <+: p

theorem hasJoins_ofRoot (table : String) : HasJoins (ofRoot table) [] where
  named := named_ofRoot table
  known p := by simp [ofRoot]
  joins := .nil
  ordered := .nil

variable {a : Aliases} {ps : List (List Join)} {p q : List Join} {n : String}

/-- A path and its join stand in the same place. -/
theorem HasJoins.exists_join (h : HasJoins a ps) (hp : p ∈ ps) : ∃ j, Joins a p j := by
  obtain ⟨i, hi, rfl⟩ := List.getElem_of_mem hp
  exact ⟨_, h.joins.get hi (h.joins.length_eq ▸ hi)⟩

/-- What a path hangs on is joined as well. -/
theorem HasJoins.before_mem (h : HasJoins a ps) {last : Join} (hp : p ++ [last] ∈ ps) :
    p = [] ∨ p ∈ ps := by
  obtain ⟨j, before, last', hEq, hJoin⟩ := h.exists_join hp
  obtain ⟨rfl, -⟩ := List.append_inj' hEq rfl
  have hParent := hJoin.parent
  cases hRev : p.reverse with
  | nil => exact .inl (List.reverse_eq_nil_iff.mp hRev)
  | cons k ks =>
    rw [hRev] at hParent
    exact .inr ((h.known p).mpr ⟨j.parent, hRev ▸ hParent⟩)

/-- The prefixes of a path are joined as well. -/
theorem HasJoins.prefix_mem (h : HasJoins a ps) (hp : p ∈ ps) (hPrefix : q <+: p) :
    q = [] ∨ q ∈ ps := by
  obtain ⟨rest, rfl⟩ := hPrefix
  -- the steps behind the prefix are taken off, the last one first
  induction rest using List.reverseRecOn with
  | nil => exact .inr (List.append_nil q ▸ hp)
  | append_singleton rest last ih =>
    rw [← List.append_assoc] at hp
    rcases h.before_mem hp with hNil | hMem
    · exact .inl (List.append_eq_nil_iff.mp hNil).1
    · exact ih hMem

/-! ### Aliases -/

/-- The names of a state are the aliases of the empty path and of the paths, in this order. -/
theorem HasJoins.registered (h : HasJoins a ps) :
    List.Forall₂ (fun p n => Registered a p.reverse n) ([] :: ps) a.names := by
  refine .cons rfl (List.forall₂_map_right_iff.mpr ?_)
  exact h.joins.imp fun _ _ => Joins.registered

theorem HasJoins.mem_of_registered (h : HasJoins a ps) (hp : Registered a p.reverse n) :
    p ∈ [] :: ps := by
  by_cases hNil : p = []
  · simp [hNil]
  · obtain ⟨last, before, hRev⟩ :=
      List.exists_cons_of_ne_nil fun hRev => hNil (List.reverse_eq_nil_iff.mp hRev)
    rw [hRev] at hp
    exact List.mem_cons_of_mem _ ((h.known p).mpr ⟨n, hRev ▸ hp⟩)

/-- **Paths with the same alias are the same.** -/
theorem HasJoins.eq_of_registered (h : HasJoins a ps) (hp : Registered a p.reverse n)
    (hq : Registered a q.reverse n) : p = q := by
  obtain ⟨i, hi, rfl⟩ := List.getElem_of_mem (h.mem_of_registered hp)
  obtain ⟨k, hk, rfl⟩ := List.getElem_of_mem (h.mem_of_registered hq)
  have hLength := h.registered.length_eq
  have hName : a.names[i] = a.names[k] :=
    ((h.registered.get hi (hLength ▸ hi)).unique hp).trans
      ((h.registered.get hk (hLength ▸ hk)).unique hq).symm
  have hIndex : i = k := (List.Nodup.getElem_inj_iff h.named.distinct).mp hName
  subst hIndex
  rfl

/-! ### Registrations -/

/-- A path that is new is joined behind the others. -/
theorem HasJoins.joined (h : HasJoins a ps) {last : Join} {before : List Join} {parent : String}
    (hNew : (last :: before).reverse ∉ ps) (hParent : Registered a before parent) :
    HasJoins (a.joined last before parent).2 (ps ++ [(last :: before).reverse]) := by
  have hUnknown : a.paths.lookup (last :: before) = none := by
    cases hl : a.paths.lookup (last :: before) with
    | none => rfl
    | some n => exact absurd ((h.known _).mpr ⟨n, by rwa [List.reverse_reverse]⟩) hNew
  have hExt := (Extends.refl a).joined hUnknown parent
  refine ⟨h.named.joined last before parent, fun p => ?_, ?_, ?_⟩
  · have hLast : p = (last :: before).reverse ↔ p.reverse = last :: before :=
      List.reverse_eq_iff.symm
    rw [lookup_joined, List.mem_append, List.mem_singleton, h.known, hLast]
    by_cases hp : p.reverse = last :: before
    · simp [hp]
    · simp [hp]
  · have hName : Registered (a.joined last before parent).2 (last :: before)
        (a.joined last before parent).1 := (lookup_joined ..).trans (if_pos rfl)
    rw [joins_joined]
    refine List.rel_append (h.joins.imp fun _ _ hj => hj.mono hExt) (.cons ?_ .nil)
    refine ⟨before.reverse, last, List.reverse_cons, rfl, ?_, ?_, rfl, rfl⟩
    · rwa [← List.reverse_cons, List.reverse_reverse]
    · rw [List.reverse_reverse]
      exact hParent.mono hExt
  · refine List.pairwise_append.mpr ⟨h.ordered, List.pairwise_singleton _ _, fun p hp q hq => ?_⟩
    rw [List.mem_singleton.mp hq]
    intro hPrefix
    rcases h.prefix_mem hp hPrefix with hNil | hMem
    · exact absurd hNil (by simp)
    · exact hNew hMem

/-- **A registration adds the joins of the prefixes that are new.** -/
theorem HasJoins.registerBack : ∀ (path : List Join) {a : Aliases} {needed : List (List Join)},
    HasJoins a needed.eraseDups →
      HasJoins (registerBack path a).2 (needed ++ prefixes path.reverse).eraseDups
  | [], a, needed, h => by
    have hNone : prefixes [].reverse = [] := by simp [prefixes]
    rw [hNone, List.append_nil]
    exact h
  | last :: before, a, needed, h => by
    cases hl : a.paths.lookup (last :: before) with
    | some n =>
      have hMem : (last :: before).reverse ∈ needed.eraseDups :=
        (h.known _).mpr ⟨n, by rwa [List.reverse_reverse]⟩
      have hSubset : prefixes (last :: before).reverse ⊆ needed := by
        intro q hq
        obtain ⟨hPrefix, hNil⟩ := mem_prefixes.mp hq
        exact List.mem_eraseDups.mp ((h.prefix_mem hMem hPrefix).resolve_left hNil)
      rw [registerBack_of_registered (show Registered a (last :: before) n from hl),
        eraseDups_append_of_subset hSubset]
      exact h
    | none =>
      have hBefore := HasJoins.registerBack before h
      have hNew : (last :: before).reverse ∉ needed ++ prefixes before.reverse := by
        rw [List.mem_append]
        rintro (hMem | hMem)
        · obtain ⟨n, hn⟩ := (h.known _).mp (List.mem_eraseDups.mpr hMem)
          rw [List.reverse_reverse, hl] at hn
          exact absurd hn (by simp)
        · have hLength := (mem_prefixes.mp hMem).1.length_le
          simp only [List.length_reverse, List.length_cons] at hLength
          omega
      have hAll : (needed ++ prefixes (last :: before).reverse).eraseDups =
          (needed ++ prefixes before.reverse).eraseDups ++ [(last :: before).reverse] := by
        rw [← eraseDups_concat_of_not_mem hNew, List.append_assoc, List.reverse_cons,
          prefixes_concat]
      rw [registerBack_of_unknown hl, hAll]
      exact hBefore.joined (fun hMem => hNew (List.mem_eraseDups.mp hMem))
        (registered_registerBack before a)

/-! ## Runs -/

/-- Registers paths one after the other: the calls with their answers, and the aliases after
them. -/
def registerAll : List (List Join) → Aliases → List (List Join × String) × Aliases
  | [], a => ([], a)
  | path :: paths, a =>
    let (name, b) := a.register path
    let (calls, c) := registerAll paths b
    ((path, name) :: calls, c)

theorem paths_registerAll : ∀ (paths : List (List Join)) (a : Aliases),
    (registerAll paths a).1.map Prod.fst = paths
  | [], _ => rfl
  | path :: paths, a => by
    rw [registerAll, List.map_cons, paths_registerAll paths]

theorem extends_registerAll : ∀ (paths : List (List Join)) (a : Aliases),
    Extends a (registerAll paths a).2
  | [], a => Extends.refl a
  | path :: paths, a =>
    (extends_registerBack path.reverse a).trans (extends_registerAll paths (a.register path).2)

theorem registerAll_append : ∀ (before after : List (List Join)) (a : Aliases),
    (registerAll (before ++ after) a).2 = (registerAll after (registerAll before a).2).2
  | [], _, _ => rfl
  | path :: before, after, a => registerAll_append before after (a.register path).2

/-- Every path of a run has, at its end, the alias that its call answered. -/
theorem registered_registerAll : ∀ {paths : List (List Join)} {a : Aliases} {p : List Join}
    {n : String}, (p, n) ∈ (registerAll paths a).1 → Registered (registerAll paths a).2 p.reverse n
  | path :: paths, a, p, n, h => by
    rcases List.mem_cons.mp h with hHead | hTail
    · obtain ⟨rfl, rfl⟩ := Prod.mk.inj hHead
      exact (registered_registerBack p.reverse a).mono (extends_registerAll paths (a.register p).2)
    · have hRest : Registered (registerAll paths (a.register path).2).2 p.reverse n :=
        registered_registerAll hTail
      exact hRest

theorem hasJoins_registerAll : ∀ (paths : List (List Join)) {a : Aliases} {done : List (List Join)},
    HasJoins a (requested done) → HasJoins (registerAll paths a).2 (requested (done ++ paths))
  | [], a, done, h => by
    rw [List.append_nil]
    exact h
  | path :: paths, a, done, h => by
    have hPath : HasJoins (a.register path).2 (requested (done ++ [path])) := by
      have := HasJoins.registerBack path.reverse h
      rwa [List.reverse_reverse, ← List.flatMap_singleton prefixes path, ← List.flatMap_append]
        at this
    rw [List.append_cons]
    exact hasJoins_registerAll paths hPath

/-- A run of registrations of paths: its calls with their answers, and the aliases after it. -/
structure Run (root : String) (paths : List (List Join)) (calls : List (List Join × String))
    (a : Aliases) : Prop where
  /-- Every path is answered. -/
  answered : calls.map Prod.fst = paths
  /-- The empty path is the root table. -/
  empty : ∀ n, ([], n) ∈ calls → n = root
  /-- Two calls answer the same alias if their paths are equal, and only then. -/
  alias_iff : ∀ p n q k, (p, n) ∈ calls → (q, k) ∈ calls → (n = k ↔ p = q)
  /-- A join for each prefix that a path has needed, in the order of these prefixes. -/
  joins : List.Forall₂ (Joins a) (requested paths) a.joins
  every_prefix : ∀ q, q ∈ requested paths ↔ q ≠ [] ∧ ∃ p ∈ paths, q <+: p
  /-- No prefix is joined twice, or behind a path that it is a prefix of. -/
  ordered : (requested paths).Pairwise fun p q => ¬q <+: p
  /-- No alias is given twice, nor that of the root table. -/
  distinct : a.names.Nodup
  /-- A call that is repeated, and one for a prefix, change nothing. -/
  again : ∀ p n, (p, n) ∈ calls → a.register p = (n, a)
  again_prefix : ∀ p ∈ requested paths, (a.register p).2 = a
  /-- Earlier joins stay as they are. -/
  earlier : ∀ before after, paths = before ++ after →
    (registerAll before (ofRoot root)).2.joins <+: a.joins

/-- **Registrations give one alias to each path, and one join to each prefix.** Each comes to an
end though nothing limits the search for a name: it tries at most one name more than there are in
use. -/
theorem registrations_of_any_run :
    (∀ root paths,
      Run root paths (registerAll paths (ofRoot root)).1 (registerAll paths (ofRoot root)).2) ∧
    (∀ path a r, Registering path.reverse a r ↔ r = a.register path) ∧
    (∀ a table tries r, Naming a table tries r → tries ≤ a.used.toFinset.card + 1) := by
  refine ⟨fun root paths => ?_, fun _ _ _ => registering_iff, fun _ _ _ _ => Naming.tries_le⟩
  have hStart : HasJoins (ofRoot root) (requested []) := hasJoins_ofRoot root
  have hJoins : HasJoins (registerAll paths (ofRoot root)).2 (requested paths) :=
    hasJoins_registerAll paths hStart
  have hRoot := (extends_registerAll paths (ofRoot root)).root
  refine ⟨paths_registerAll paths _, fun n h => ?_, fun p n q k hp hq => ?_, hJoins.joins,
    fun q => mem_requested, hJoins.ordered, hJoins.named.distinct, fun p n h => ?_, fun p hp => ?_,
    ?_⟩
  · exact (show n = _ from registered_registerAll h).trans hRoot
  · have hp' := registered_registerAll hp
    have hq' := registered_registerAll hq
    constructor
    · rintro rfl
      exact hJoins.eq_of_registered hp' hq'
    · rintro rfl
      exact hp'.unique hq'
  · exact register_of_registered (registered_registerAll h)
  · obtain ⟨j, hj⟩ := hJoins.exists_join hp
    rw [register_of_registered hj.registered]
  · rintro before after rfl
    rw [registerAll_append]
    exact (extends_registerAll after _).joins

/-- Aliases of tables that are named like a table with a number. -/
def numberedTables : Aliases :=
  ((ofRoot "t").register [⟨"t", "id", "t_1", "t_id"⟩]).2

/-- Where `t` and `t_1` are in use, `t_2` is the third name that is tried for another `t`. -/
theorem registrations_of_any_run_numbered :
    Naming numberedTables "t" 3 (numberedTables.fresh "t") ∧
      3 ≤ numberedTables.used.toFinset.card + 1 := by
  have hNaming : Naming numberedTables "t" 3 (numberedTables.fresh "t") :=
    .numbered (by decide) (.taken (by decide) (.free (by decide)))
  exact ⟨hNaming, registrations_of_any_run.2.2 _ _ _ _ hNaming⟩

end Aliases

end FilterSql.Sql
