import FilterSql.Mapping.Check
import FilterSql.Proofs.Outcome
import Std.Data.String.ToNat

/-!
# The names in a checked mapping

All that a mapping puts into the text of a statement is a plain name: letters, digits and
underscores. Such a name holds neither quotes nor question marks, and no character that ends it.

* `Mapping.resolve_plain`: the column of a property and the tables and columns on its path.
* `Mapping.root_plain`: the root table and its key.
-/

namespace FilterSql

/-! ## Plain names -/

/-- A character of a plain name. -/
def isNameChar (c : Char) : Bool :=
  c.isAlphanum || c == '_'

/-- A plain name. -/
structure PlainName (s : String) : Prop where
  nonempty : s.toList ≠ []
  chars : ∀ c ∈ s.toList, isNameChar c = true

theorem isDigit_of_mem_repr {n : Nat} {c : Char} (hc : c ∈ n.repr.toList) : c.isDigit = true := by
  rw [Nat.toList_repr] at hc
  exact Nat.isDigit_of_mem_toDigits (by decide) (by decide) hc

theorem isNameChar_of_mem_repr {n : Nat} {c : Char} (hc : c ∈ n.repr.toList) :
    isNameChar c = true := by
  unfold isNameChar Char.isAlphanum
  rw [isDigit_of_mem_repr hc, Bool.or_true, Bool.true_or]

theorem plainName_of_isIdentifier {s : String} (h : isIdentifier s = true) : PlainName s := by
  unfold isIdentifier at h
  cases hs : s.toList with
  | nil => rw [hs] at h; exact absurd h Bool.false_ne_true
  | cons c cs =>
    rw [hs] at h
    simp only [isIdentifierChars, Bool.and_eq_true, List.all_eq_true] at h
    obtain ⟨hc, hcs⟩ := h
    refine ⟨by simp [hs], fun d hd => ?_⟩
    rw [hs] at hd
    rcases List.mem_cons.mp hd with rfl | hd
    · unfold isNameChar Char.isAlphanum
      rcases Bool.or_eq_true_iff.mp hc with hAlpha | hUnderscore
      · rw [hAlpha, Bool.true_or, Bool.true_or]
      · rw [hUnderscore, Bool.or_true]
    · exact hcs d hd

theorem checkIdentifier_ok {identifier context : String} :
    checkIdentifier identifier context = .ok () ↔ isIdentifier identifier = true := by
  unfold checkIdentifier
  split
  · rename_i h; exact ⟨fun _ => h, fun _ => rfl⟩
  · rename_i h; exact ⟨fun h' => absurd h' (by simp), fun h' => absurd h' h⟩

theorem plainName_of_check {identifier context : String}
    (h : checkIdentifier identifier context = .ok ()) : PlainName identifier :=
  plainName_of_isIdentifier (checkIdentifier_ok.mp h)

namespace Mapping

/-! ## Properties -/

/-- A join whose tables and columns are plain names. -/
structure Join.Plain (j : Join) : Prop where
  fromColumn : PlainName j.fromColumn
  toTable : PlainName j.toTable
  toColumn : PlainName j.toColumn

/-- A property whose column and joins are plain names. -/
structure Property.Plain (p : Property) : Prop where
  column : PlainName p.column
  joins : ∀ j ∈ p.joins, j.Plain

theorem checkJoins_plain {name : String} :
    ∀ {joins : List Join} {step : Nat} {current reached : String},
      checkJoins name joins step current = .ok reached → ∀ j ∈ joins, j.Plain
  | [], _, _, _, _, _, hj => absurd hj List.not_mem_nil
  | join :: joins, step, current, reached, h, j, hj => by
    unfold checkJoins at h
    obtain ⟨_, -, h⟩ := except_bind_ok.mp h
    obtain ⟨_, hFrom, h⟩ := except_bind_ok.mp h
    obtain ⟨_, hTable, h⟩ := except_bind_ok.mp h
    obtain ⟨_, hTo, h⟩ := except_bind_ok.mp h
    rcases List.mem_cons.mp hj with rfl | hj
    · exact ⟨plainName_of_check hFrom, plainName_of_check hTable, plainName_of_check hTo⟩
    · split at h
      · exact absurd h throw_bind_ne_ok
      · exact checkJoins_plain h j hj

theorem Property.check_plain {p : Property} {root name : String}
    (h : p.check root name = .ok ()) : p.Plain := by
  unfold Property.check at h
  obtain ⟨_, -, h⟩ := except_bind_ok.mp h
  obtain ⟨_, hColumn, h⟩ := except_bind_ok.mp h
  refine ⟨plainName_of_check hColumn, ?_⟩
  split at h
  · rename_i hEmpty
    rw [List.isEmpty_iff.mp hEmpty]
    exact fun _ hj => absurd hj List.not_mem_nil
  · obtain ⟨_, hJoins, -⟩ := except_bind_ok.mp h
    exact checkJoins_plain hJoins

/-! ## Mappings -/

theorem mem_of_get?_eq_some {t : PropertyTable} {name : String} {p : Property}
    (h : t.get? name = some p) : (name, p) ∈ t.entries := by
  unfold PropertyTable.get? at h
  obtain ⟨l, r, e, -⟩ := List.lookup_eq_some_iff.mp h
  rw [e]
  exact List.mem_append_right l List.mem_cons_self

/-- A property that a mapping knows has passed the check. -/
theorem check_of_resolve {m : Mapping} {name : String} {p : Property}
    (h : m.resolve name = .ok p) : p.check m.root.table name = .ok () := by
  unfold resolve at h
  cases hg : m.properties.get? name with
  | none => rw [hg] at h; exact absurd h (by simp)
  | some q =>
    rw [hg] at h
    obtain rfl := Except.ok.inj h
    have hc := m.checked
    unfold Document.check at hc
    obtain ⟨_, -, hc⟩ := except_bind_ok.mp hc
    obtain ⟨_, -, hc⟩ := except_bind_ok.mp hc
    obtain ⟨_, hEntries, -⟩ := except_bind_ok.mp hc
    have he := forM_ok.mp hEntries _ (mem_of_get?_eq_some hg)
    unfold Document.checkEntry at he
    split at he
    · exact absurd he throw_bind_ne_ok
    · exact he

/-- A property that a mapping knows is plain. -/
theorem resolve_plain {m : Mapping} {name : String} {p : Property}
    (h : m.resolve name = .ok p) : p.Plain :=
  Property.check_plain (check_of_resolve h)

/-- The root table of a mapping and its key are plain. -/
theorem root_plain (m : Mapping) : PlainName m.root.table ∧ PlainName m.root.idColumn := by
  have hc := m.checked
  unfold Document.check at hc
  obtain ⟨_, hTable, hc⟩ := except_bind_ok.mp hc
  obtain ⟨_, hKey, -⟩ := except_bind_ok.mp hc
  exact ⟨plainName_of_check hTable, plainName_of_check hKey⟩

/-! ## An example -/

/-- Datasets with a title, a year, a time and an extent, and keywords in a table of their own. -/
def sample : Mapping where
  document :=
    { root := ⟨"datasets", "id"⟩
      timeProperty := some "created"
      procedureProperty := none
      properties := .ofList
        [("title", ⟨"datasets", "title", .text, []⟩),
          ("year", ⟨"datasets", "year", .integer, []⟩),
          ("created", ⟨"datasets", "created", .timestamp, []⟩),
          ("extent", ⟨"datasets", "extent", .geometry, []⟩),
          ("keyword", ⟨"keywords", "word", .text, [⟨"datasets", "id", "keywords", "dataset"⟩]⟩)] }
  checked := by rfl

end Mapping

end FilterSql
