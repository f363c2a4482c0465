import FilterSql.Proofs.Mapping.Renaming
import Mathlib.Data.List.TakeWhile

/-!
# Which documents are accepted

The check of a document goes through its names, the joins of each property and the roles, and ends
at the first fault. What it lets pass is said here without it: all names that are rendered into
statements are identifiers, every property is reached from the root table, and the roles are
declared. A mapping then knows just the properties of its document.

* `Identifier`: a text that is a plain identifier as a whole.
* `Leads`: joins lead from one table to another.
* `Document.WellFormed`: what a document has to be like.
* `Document.check_ok_iff`: the check lets just these documents pass.
* `document_accepted_iff`: so they are the documents of mappings, from which nothing is lost.
-/

namespace FilterSql

/-! ## Identifiers -/

/-- A letter of ASCII. -/
def IsLetter (c : Char) : Prop :=
  ('A' ≤ c ∧ c ≤ 'Z') ∨ ('a' ≤ c ∧ c ≤ 'z')

/-- A digit of ASCII. -/
def IsDigit (c : Char) : Prop :=
  '0' ≤ c ∧ c ≤ '9'

/-- The text as a whole is a letter or an underscore, and then letters, digits and underscores. -/
def Identifier (s : String) : Prop :=
  ∃ c cs, s.toList = c :: cs ∧ (IsLetter c ∨ c = '_') ∧
    ∀ d ∈ cs, IsLetter d ∨ IsDigit d ∨ d = '_'

theorem isAlpha_iff {c : Char} : c.isAlpha = true ↔ IsLetter c := by
  have hUpper : c.isUpper = true ↔ 'A' ≤ c ∧ c ≤ 'Z' := decide_eq_true_iff
  have hLower : c.isLower = true ↔ 'a' ≤ c ∧ c ≤ 'z' := by
    show (decide _ && decide _) = true ↔ _
    rw [Bool.and_eq_true, decide_eq_true_iff, decide_eq_true_iff]
    rfl
  show (c.isUpper || c.isLower) = true ↔ _
  rw [Bool.or_eq_true, hUpper, hLower, IsLetter]

theorem isAlphanum_iff {c : Char} : c.isAlphanum = true ↔ IsLetter c ∨ IsDigit c := by
  rw [Char.isAlphanum, Bool.or_eq_true, isAlpha_iff]
  refine or_congr_right ?_
  simp only [Char.isDigit, Bool.and_eq_true, decide_eq_true_eq, IsDigit]
  rfl

theorem isIdentifier_iff {s : String} : isIdentifier s = true ↔ Identifier s := by
  unfold isIdentifier Identifier
  cases s.toList with
  | nil => simp [isIdentifierChars]
  | cons c cs =>
    simp only [isIdentifierChars, Bool.and_eq_true, Bool.or_eq_true, List.all_eq_true, beq_iff_eq,
      isAlpha_iff, isAlphanum_iff, or_assoc]
    constructor
    · rintro ⟨hFirst, hRest⟩
      exact ⟨c, cs, rfl, hFirst, hRest⟩
    · rintro ⟨_, _, hEq, hFirst, hRest⟩
      obtain ⟨rfl, rfl⟩ := List.cons.inj hEq
      exact ⟨hFirst, hRest⟩

theorem checkIdentifier_ok_iff {s context : String} :
    checkIdentifier s context = .ok () ↔ Identifier s :=
  checkIdentifier_ok.trans isIdentifier_iff

/-! ## Checks in a row -/

section

variable {ε β : Type} {P : Prop} [Decidable P] {e : ε} {b : β}

theorem check_bind_ok {x : Except ε Unit} {y : Except ε β} :
    (x >>= fun _ => y) = .ok b ↔ x = .ok () ∧ y = .ok b := by
  rw [except_bind_ok]
  exact ⟨fun ⟨_, hx, hy⟩ => ⟨hx, hy⟩, fun ⟨hx, hy⟩ => ⟨(), hx, hy⟩⟩

theorem throw_if_bind_ok {y : Except ε β} :
    (if P then throw e >>= fun _ : Unit => y else y) = .ok b ↔ ¬P ∧ y = .ok b := by
  by_cases h : P
  · rw [if_pos h]
    exact ⟨fun hEq => absurd hEq throw_bind_ne_ok, fun hAnd => absurd h hAnd.1⟩
  · rw [if_neg h]
    exact (and_iff_right h).symm

theorem throw_if_ok : (if P then throw e else pure () : Except ε Unit) = .ok () ↔ ¬P := by
  by_cases h : P
  · rw [if_pos h]
    exact ⟨fun hEq => absurd hEq throw_ne_ok, fun hNot => absurd h hNot⟩
  · rw [if_neg h]
    exact iff_of_true rfl h

end

namespace Mapping

/-! ## Joins -/

/-- Joins lead from one table to another: each starts at the table where the one before it ended. -/
inductive Leads : String → List Join → String → Prop where
  | stay (table : String) : Leads table [] table
  | go {join : Join} {joins : List Join} {table : String}
      (rest : Leads join.toTable joins table) : Leads join.fromTable (join :: joins) table

theorem leads_nil_iff {start table : String} : Leads start [] table ↔ table = start :=
  ⟨fun h => by cases h; rfl, fun h => h ▸ .stay start⟩

theorem leads_cons_iff {start table : String} {join : Join} {joins : List Join} :
    Leads start (join :: joins) table ↔ join.fromTable = start ∧ Leads join.toTable joins table :=
  ⟨fun h => by cases h with | go rest => exact ⟨rfl, rest⟩, fun ⟨h, rest⟩ => h ▸ .go rest⟩

/-- A join whose names are all identifiers. -/
structure Join.Named (j : Join) : Prop where
  fromTable : Identifier j.fromTable
  fromColumn : Identifier j.fromColumn
  toTable : Identifier j.toTable
  toColumn : Identifier j.toColumn

/-- Joins pass the check just when their names are identifiers and they lead from the table where
the path is to the one that is answered. -/
theorem checkJoins_ok_iff {name reached : String} : ∀ {joins : List Join} {step : Nat}
    {current : String}, checkJoins name joins step current = .ok reached ↔
      (∀ j ∈ joins, j.Named) ∧ Leads current joins reached
  | [], _, _ => by
    unfold checkJoins
    rw [leads_nil_iff, Except.ok.injEq, eq_comm]
    exact (and_iff_right fun _ hj => absurd hj List.not_mem_nil).symm
  | join :: joins, step, current => by
    unfold checkJoins
    simp only [check_bind_ok, checkIdentifier_ok_iff, throw_if_bind_ok, Decidable.not_not,
      checkJoins_ok_iff, leads_cons_iff, List.forall_mem_cons]
    constructor
    · rintro ⟨hFrom, hColumn, hTo, hToColumn, hStart, hNamed, hLeads⟩
      exact ⟨⟨⟨hFrom, hColumn, hTo, hToColumn⟩, hNamed⟩, hStart, hLeads⟩
    · rintro ⟨⟨⟨hFrom, hColumn, hTo, hToColumn⟩, hNamed⟩, hStart, hLeads⟩
      exact ⟨hFrom, hColumn, hTo, hToColumn, hStart, hNamed, hLeads⟩

/-! ## Properties -/

/-- A property that a query from the root table can reach and read. -/
structure Property.WellFormed (root : String) (p : Property) : Prop where
  table : Identifier p.table
  column : Identifier p.column
  joins : ∀ j ∈ p.joins, j.Named
  path : Leads root p.joins p.table

theorem Property.check_ok_iff {p : Property} {root name : String} :
    p.check root name = .ok () ↔ p.WellFormed root := by
  unfold Property.check
  simp only [check_bind_ok, checkIdentifier_ok_iff]
  have hIff : p.WellFormed root ↔ Identifier p.table ∧ Identifier p.column ∧
      (∀ j ∈ p.joins, j.Named) ∧ Leads root p.joins p.table :=
    ⟨fun h => ⟨h.table, h.column, h.joins, h.path⟩, fun ⟨hTable, hColumn, hJoins, hPath⟩ =>
      ⟨hTable, hColumn, hJoins, hPath⟩⟩
  rw [hIff]
  refine and_congr_right fun _ => and_congr_right fun _ => ?_
  split
  · rename_i hEmpty
    rw [List.isEmpty_iff.mp hEmpty, leads_nil_iff, throw_if_ok, Decidable.not_not]
    exact (and_iff_right fun _ hj => absurd hj List.not_mem_nil).symm
  · simp only [except_bind_ok, throw_if_ok, Decidable.not_not, checkJoins_ok_iff,
      exists_eq_right]

/-! ## Documents -/

section

open FilterSql.Text (isBlank dropBlank trim)

theorem dropBlank_eq_nil_iff {cs : List Char} : dropBlank cs = [] ↔ ∀ c ∈ cs, isBlank c = true :=
  List.dropWhile_eq_nil_iff

/-- Trimming leaves nothing of a text just when it is blank. -/
theorem trim_eq_nil_iff {cs : List Char} : trim cs = [] ↔ ∀ c ∈ cs, isBlank c = true := by
  unfold trim
  rw [List.reverse_eq_nil_iff, dropBlank_eq_nil_iff]
  constructor
  · intro h
    by_contra hNot
    -- the first character that is kept from the left is not blank, so it is kept from the right
    have hKept : dropBlank cs ≠ [] := mt dropBlank_eq_nil_iff.mp hNot
    have hFirst : isBlank ((dropBlank cs).head hKept) = false := List.head_dropWhile_not _ hKept
    exact Bool.eq_false_iff.mp hFirst (h _ (List.mem_reverse.mpr (List.head_mem hKept)))
  · intro h c hc
    exact h c ((List.dropWhile_sublist _).subset (List.mem_reverse.mp hc))

end

/-- A document from which a mapping can be made. -/
structure Document.WellFormed (d : Document) : Prop where
  rootTable : Identifier d.root.table
  rootId : Identifier d.root.idColumn
  names : ∀ name ∈ d.properties.names, ∃ c ∈ name.toList, Text.isBlank c = false
  properties : ∀ entry ∈ d.properties.entries, entry.2.WellFormed d.root.table
  time : ∀ name, d.timeProperty = some name → name ∈ d.properties.names
  procedure : ∀ name, d.procedureProperty = some name → name ∈ d.properties.names

theorem get?_eq_none_iff {t : PropertyTable} {name : String} :
    t.get? name = none ↔ name ∉ t.names := by
  unfold PropertyTable.get? PropertyTable.names
  rw [List.lookup_eq_none_iff, List.mem_map]
  simp only [bne_iff_ne, not_exists, not_and]
  exact forall₂_congr fun _ _ => not_congr eq_comm

theorem contains_iff {t : PropertyTable} {name : String} :
    t.contains name = true ↔ name ∈ t.names := by
  unfold PropertyTable.contains
  rw [Option.isSome_iff_ne_none, Ne, get?_eq_none_iff, Decidable.not_not]

theorem get?_eq_some_iff {t : PropertyTable} {name : String} {p : Property} :
    t.get? name = some p ↔ (name, p) ∈ t.entries := by
  refine ⟨mem_of_get?_eq_some, fun hMem => ?_⟩
  obtain ⟨q, hq⟩ := Option.isSome_iff_exists.mp
    (contains_iff.mpr (List.mem_map_of_mem (f := Prod.fst) hMem))
  have hEq := List.inj_on_of_nodup_map t.names_nodup (mem_of_get?_eq_some hq) hMem rfl
  rw [hq, (Prod.mk.inj hEq).2]

namespace Document

theorem checkEntry_ok_iff {root : String} {entry : String × Property} :
    checkEntry root entry = .ok () ↔
      (∃ c ∈ entry.1.toList, Text.isBlank c = false) ∧ entry.2.WellFormed root := by
  unfold checkEntry
  rw [throw_if_bind_ok, Property.check_ok_iff, List.isEmpty_iff, trim_eq_nil_iff]
  refine and_congr_left fun _ => ?_
  simp only [not_forall, exists_prop, Bool.not_eq_true]

theorem checkRole_ok_iff {d : Document} {role : String} {property : Option String} :
    d.checkRole role property = .ok () ↔
      ∀ name, property = some name → name ∈ d.properties.names := by
  cases property with
  | none => exact iff_of_true rfl fun _ h => absurd h (Option.some_ne_none _).symm
  | some name =>
    unfold checkRole
    simp only [Option.some.injEq, forall_eq', ← contains_iff]
    split
    · rename_i h
      exact iff_of_true rfl h
    · rename_i h
      exact iff_of_false (by simp) h

/-- **The check of a document lets just the well-formed ones pass.** -/
theorem check_ok_iff {d : Document} : d.check = .ok () ↔ d.WellFormed := by
  unfold check
  simp only [check_bind_ok, checkIdentifier_ok_iff, forM_ok, checkEntry_ok_iff, checkRole_ok_iff]
  constructor
  · rintro ⟨hTable, hId, hEntries, hTime, hProcedure⟩
    refine ⟨hTable, hId, fun name hName => ?_, fun entry he => (hEntries entry he).2, hTime,
      hProcedure⟩
    obtain ⟨entry, he, rfl⟩ := List.mem_map.mp hName
    exact (hEntries entry he).1
  · rintro ⟨hTable, hId, hNames, hProperties, hTime, hProcedure⟩
    exact ⟨hTable, hId, fun entry he => ⟨hNames _ (List.mem_map_of_mem he), hProperties entry he⟩,
      hTime, hProcedure⟩

end Document

/-! ## Mappings -/

theorem ofDocument_ok_iff {d : Document} {m : Mapping} :
    ofDocument d = .ok m ↔ m.document = d := by
  unfold ofDocument
  split
  · rename_i hCheck
    rw [Except.ok.injEq]
    refine ⟨fun h => h ▸ rfl, ?_⟩
    rintro rfl
    rfl
  · rename_i e hCheck
    refine iff_of_false (by simp) ?_
    rintro rfl
    rw [m.checked] at hCheck
    exact absurd hCheck (by simp)

theorem resolve_ok_iff {m : Mapping} {name : String} {p : Property} :
    m.resolve name = .ok p ↔ (name, p) ∈ m.document.properties.entries := by
  rw [← get?_eq_some_iff]
  unfold resolve properties
  cases m.document.properties.get? name with
  | none => exact iff_of_false (by simp) (by simp)
  | some q => rw [Except.ok.injEq, Option.some.injEq]

theorem resolve_error {m : Mapping} {name : String} (h : name ∉ m.document.properties.names) :
    m.resolve name = .error (.unknownProperty name) := by
  unfold resolve properties
  rw [get?_eq_none_iff.mpr h]

/-- **Just the well-formed documents give mappings, and a mapping is its document.** The properties
of the document are found under their names and no others are, and the document of the mapping
gives the mapping again. -/
theorem document_accepted_iff (d : Document) :
    ((∃ m, ofDocument d = .ok m) ↔ d.WellFormed) ∧
      ∀ m, ofDocument d = .ok m →
        (∀ name p, m.resolve name = .ok p ↔ (name, p) ∈ d.properties.entries) ∧
        (∀ name, name ∉ d.properties.names → m.resolve name = .error (.unknownProperty name)) ∧
        m.document = d ∧ ofDocument m.document = .ok m := by
  refine ⟨?_, ?_⟩
  · rw [← Document.check_ok_iff]
    simp only [ofDocument_ok_iff]
    exact ⟨fun ⟨m, hm⟩ => hm ▸ m.checked, fun h => ⟨⟨d, h⟩, rfl⟩⟩
  · intro m hm
    obtain rfl := ofDocument_ok_iff.mp hm
    exact ⟨fun name p => resolve_ok_iff, fun name hName => resolve_error hName, rfl, hm⟩

/-- Datasets whose parents are found through a table of links, on a path that comes back to the
root table. -/
def parents : Document where
  root := ⟨"datasets", "id"⟩
  timeProperty := none
  procedureProperty := some "parent title"
  properties := .ofList
    [("parent title", ⟨"datasets", "title", .text,
      [⟨"datasets", "id", "links", "child"⟩, ⟨"links", "parent", "datasets", "id"⟩]⟩)]

/-- A path may come back to the root table. A name that ends in a line feed is no identifier. -/
theorem document_accepted_parents :
    (∃ m, ofDocument parents = .ok m ∧ ofDocument m.document = .ok m ∧
      m.resolve "title" = .error (.unknownProperty "title")) ∧
    ¬ ∃ m, ofDocument { parents with root := ⟨"datasets", "id\n"⟩ } = .ok m := by
  constructor
  · obtain ⟨m, hm⟩ := (document_accepted_iff parents).1.mpr (Document.check_ok_iff.mp (by decide))
    obtain ⟨-, hOther, -, hAgain⟩ := (document_accepted_iff parents).2 m hm
    exact ⟨m, hm, hAgain, hOther "title" (by decide)⟩
  · rw [(document_accepted_iff _).1, ← Document.check_ok_iff]
    decide

end Mapping

end FilterSql
