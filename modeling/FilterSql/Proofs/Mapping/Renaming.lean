import FilterSql.Proofs.Mapping.Names
import Mathlib.Data.List.Nodup
import Mathlib.Data.Set.Function

/-!
# Other names for properties

A mapping whose properties are called differently. Where no two of them get the same name, each is
found under its new name.

* `get?_ofList`: the properties of a list with distinct names are found under their names.
* `Document.rename`: the document with other names.
* `resolve_rename`: a renamed property is found under its new name.
-/

namespace FilterSql.Mapping

/-! ## Tables of properties -/

theorem lookup_cons_of_ne {key n : String} (h : key ≠ n) (p : Property)
    (entries : List (String × Property)) :
    ((n, p) :: entries).lookup key = entries.lookup key := by
  rw [List.lookup_cons, beq_false_of_ne h]

theorem lookup_insertEntry_self (name : String) (p : Property) :
    ∀ entries : List (String × Property), (insertEntry name p entries).lookup name = some p
  | [] => List.lookup_cons_self
  | (n, q) :: entries => by
    unfold insertEntry
    split
    · exact List.lookup_cons_self
    · split
      · exact List.lookup_cons_self
      · rename_i hne
        rw [lookup_cons_of_ne hne]
        exact lookup_insertEntry_self name p entries

theorem lookup_insertEntry_of_ne {name key : String} (h : key ≠ name) (p : Property) :
    ∀ entries : List (String × Property),
      (insertEntry name p entries).lookup key = entries.lookup key
  | [] => lookup_cons_of_ne h p []
  | (n, q) :: entries => by
    unfold insertEntry
    split
    · exact lookup_cons_of_ne h p _
    · split
      · rename_i hEq
        rw [lookup_cons_of_ne h, lookup_cons_of_ne (hEq ▸ h)]
      · rw [List.lookup_cons, List.lookup_cons, lookup_insertEntry_of_ne h p entries]

namespace PropertyTable

theorem get?_insert_self (t : PropertyTable) (name : String) (p : Property) :
    (t.insert name p).get? name = some p :=
  lookup_insertEntry_self name p t.entries

theorem get?_insert_of_ne (t : PropertyTable) {name key : String} (h : key ≠ name)
    (p : Property) : (t.insert name p).get? key = t.get? key :=
  lookup_insertEntry_of_ne h p t.entries

theorem get?_foldl_of_not_mem {key : String} : ∀ {entries : List (String × Property)}
    (t : PropertyTable), key ∉ entries.map Prod.fst →
      (entries.foldl (fun t e => t.insert e.1 e.2) t).get? key = t.get? key
  | [], _, _ => rfl
  | e :: entries, t, h => by
    obtain ⟨hHead, hTail⟩ := List.ne_and_not_mem_of_not_mem_cons h
    rw [List.foldl_cons, get?_foldl_of_not_mem _ hTail, get?_insert_of_ne t hHead]

theorem get?_foldl_of_mem {name : String} {p : Property} :
    ∀ {entries : List (String × Property)} (t : PropertyTable), (entries.map Prod.fst).Nodup →
      (name, p) ∈ entries → (entries.foldl (fun t e => t.insert e.1 e.2) t).get? name = some p
  | e :: entries, t, hNodup, hMem => by
    obtain ⟨hNew, hNodup⟩ := List.nodup_cons.mp hNodup
    rw [List.foldl_cons]
    rcases List.mem_cons.mp hMem with rfl | hMem
    · rw [get?_foldl_of_not_mem _ hNew, get?_insert_self]
    · exact get?_foldl_of_mem _ hNodup hMem

/-- The properties of a list with distinct names are found under their names. -/
theorem get?_ofList {entries : List (String × Property)} (h : (entries.map Prod.fst).Nodup)
    {name : String} {p : Property} (hMem : (name, p) ∈ entries) :
    (ofList entries).get? name = some p :=
  get?_foldl_of_mem empty h hMem

/-- The names of a table are distinct. -/
theorem names_nodup (t : PropertyTable) : t.names.Nodup :=
  (List.pairwise_map.mpr t.sorted).imp fun h e => absurd (e ▸ h) (String.lt_irrefl _)

end PropertyTable

/-! ## Documents -/

/-- The document in which the properties have other names. -/
def Document.rename (ρ : String → String) (d : Document) : Document where
  root := d.root
  timeProperty := d.timeProperty.map ρ
  procedureProperty := d.procedureProperty.map ρ
  properties := .ofList (d.properties.entries.map fun e => (ρ e.1, e.2))

/-- **A renamed property is found under its new name.** -/
theorem resolve_rename {m m' : Mapping} {ρ : String → String}
    (hρ : Set.InjOn ρ {name | name ∈ m.properties.names})
    (hm : m'.document = m.document.rename ρ) {name : String} {p : Property}
    (h : m.resolve name = .ok p) : m'.resolve (ρ name) = .ok p := by
  have hGet : m.properties.get? name = some p := by
    unfold resolve at h
    split at h
    · rename_i q hq
      rw [hq, Except.ok.inj h]
    · exact absurd h (by simp)
  have hNodup : ((m.properties.entries.map fun e => (ρ e.1, e.2)).map Prod.fst).Nodup := by
    rw [List.map_map]
    have hNames : (m.properties.names.map ρ).Nodup :=
      m.properties.names_nodup.map_on fun a ha b hb e => hρ ha hb e
    unfold PropertyTable.names at hNames
    rwa [List.map_map] at hNames
  have hMem : (ρ name, p) ∈ m.properties.entries.map fun e => (ρ e.1, e.2) :=
    List.mem_map_of_mem (f := fun e => (ρ e.1, e.2)) (mem_of_get?_eq_some hGet)
  have hProperties : m'.properties =
      .ofList (m.properties.entries.map fun e => (ρ e.1, e.2)) := by
    unfold properties
    rw [hm]
    rfl
  unfold resolve
  rw [hProperties, PropertyTable.get?_ofList hNodup hMem]

end FilterSql.Mapping
