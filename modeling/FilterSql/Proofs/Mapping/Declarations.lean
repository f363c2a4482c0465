import FilterSql.Mapping.Builder
import FilterSql.Mapping.Wire
import FilterSql.Proofs.Json.RoundTrip
import FilterSql.Proofs.Mapping.Acceptance
import Mathlib.Data.List.Induction

/-!
# Two ways to declare properties

Properties are declared step by step or in a document that lists them. Where every name is declared
once, both ways come to the same mapping, or to the same fault. Where a name is declared again they
part: the steps end there, while in a document the last declaration of a name takes the place of the
others.

* `Builder.table_ok`, `Builder.table_repeated`: the table of declarations made step by step.
* `Builder.ListedIn`: a JSON value lists declarations.
* `Builder.form`: one that does, and whose text is read back.
* `mapping_of_declarations`: what the two ways come to.
* `declaration_overwritten`: a declaration that is lost.
-/

namespace FilterSql.Mapping

open Json (ReadsBack fields? ofOption optional? parse_text readsBack_arr readsBack_null
  readsBack_obj readsBack_str required?)

/-! ## Step by step -/

/-- The names of declarations in their order. -/
def namesOf (entries : List (String × Property)) : List String :=
  entries.map Prod.fst

theorem contains_insert {t : PropertyTable} {name key : String} {p : Property} :
    (t.insert name p).contains key = true ↔ key = name ∨ t.contains key = true := by
  unfold PropertyTable.contains
  by_cases h : key = name
  · rw [h, PropertyTable.get?_insert_self]
    exact iff_of_true rfl (.inl rfl)
  · rw [PropertyTable.get?_insert_of_ne t h]
    exact (or_iff_right h).symm

theorem not_contains_empty (name : String) : ¬PropertyTable.empty.contains name = true :=
  Bool.false_ne_true

namespace Builder

/-- Declarations of new names are all put into the table. -/
theorem table_ok : ∀ {entries : List (String × Property)} {t : PropertyTable},
    (namesOf entries).Nodup → (∀ name ∈ namesOf entries, ¬t.contains name = true) →
      table t entries = .ok (entries.foldl (fun t e => t.insert e.1 e.2) t)
  | [], _, _, _ => rfl
  | (name, p) :: entries, t, hNodup, hNew => by
    obtain ⟨hName, hNodup⟩ := List.nodup_cons.mp hNodup
    obtain ⟨hHead, hTail⟩ := List.forall_mem_cons.mp hNew
    rw [table, if_neg hHead, List.foldl_cons]
    refine table_ok hNodup fun key hKey => ?_
    rw [contains_insert]
    rintro (rfl | hKnown)
    · exact hName hKey
    · exact hTail key hKey hKnown

/-- The first name that is declared again is refused. -/
theorem table_repeated {name : String} {p : Property} {rest : List (String × Property)} :
    ∀ {first : List (String × Property)} {t : PropertyTable}, (namesOf first).Nodup →
      (∀ key ∈ namesOf first, ¬t.contains key = true) →
      (t.contains name = true ∨ name ∈ namesOf first) →
        table t (first ++ (name, p) :: rest) = .error (.duplicateProperty name)
  | [], t, _, _, hKnown => by
    rw [List.nil_append, table, if_pos (hKnown.resolve_right List.not_mem_nil)]
  | (n, q) :: first, t, hNodup, hNew, hKnown => by
    obtain ⟨hName, hNodup⟩ := List.nodup_cons.mp hNodup
    obtain ⟨hHead, hTail⟩ := List.forall_mem_cons.mp hNew
    rw [List.cons_append, table, if_neg hHead]
    refine table_repeated hNodup (fun key hKey => ?_) ?_
    · rw [contains_insert]
      rintro (rfl | hKnown)
      · exact hName hKey
      · exact hTail key hKey hKnown
    · rw [contains_insert]
      rcases hKnown with hKnown | hKnown
      · exact .inl (.inr hKnown)
      · rcases List.mem_cons.mp hKnown with hEq | hKnown
        · exact .inl (.inl hEq)
        · exact .inr hKnown

end Builder

/-- The name is the first one that is declared again. -/
def FirstRepeated (name : String) (entries : List (String × Property)) : Prop :=
  ∃ first p rest, entries = first ++ (name, p) :: rest ∧ (namesOf first).Nodup ∧
    name ∈ namesOf first

theorem exists_firstRepeated {entries : List (String × Property)} (h : ¬(namesOf entries).Nodup) :
    ∃ name, FirstRepeated name entries := by
  induction entries using List.reverseRecOn with
  | nil => exact absurd List.nodup_nil h
  | append_singleton entries e ih =>
    by_cases hNodup : (namesOf entries).Nodup
    · refine ⟨e.1, entries, e.2, [], rfl, hNodup, ?_⟩
      by_contra hNew
      refine h ?_
      unfold namesOf at *
      rw [List.map_append, List.map_singleton]
      exact List.nodup_append.mpr ⟨hNodup, List.nodup_singleton _, fun a ha b hb hEq =>
        hNew (List.mem_singleton.mp hb ▸ hEq ▸ ha)⟩
    · obtain ⟨name, first, p, rest, hSplit, hFirst, hMem⟩ := ih hNodup
      exact ⟨name, first, p, rest ++ [e], by rw [hSplit, List.append_assoc]; rfl, hFirst, hMem⟩

/-! ## In a document -/

theorem mapM_eq_some {α β : Type} {f : α → Option β} {xs : List α} {ys : List β}
    (h : List.Forall₂ (fun x y => f x = some y) xs ys) : xs.mapM f = some ys := by
  induction h with
  | nil => rfl
  | cons hHead _ ih => rw [List.mapM_cons, hHead, ih]; rfl

namespace Builder

/-- The document of declarations, of which the last one of a name counts. -/
def document (b : Builder) : Document :=
  ⟨b.root, b.timeProperty, b.procedureProperty, .ofList b.properties⟩

/-- A JSON value lists declarations: root table and roles are its fields, and the properties are the
members of an object in the same order. -/
def ListedIn (b : Builder) (j : Json) : Prop :=
  ∃ root time procedure members,
    fields? ["root", "time_property", "procedure_property", "properties"] 4 j =
      some [root, time, procedure, some (.obj members)] ∧
    required? Root.ofJson? root = some b.root ∧
    optional? Json.str? time = some b.timeProperty ∧
    optional? Json.str? procedure = some b.procedureProperty ∧
    List.Forall₂ (fun m e => m.1 = e.1 ∧ Property.ofJson? m.2 = some e.2) members b.properties

theorem mapM_listed {members : List (String × Json)} {entries : List (String × Property)}
    (h : List.Forall₂ (fun m e => m.1 = e.1 ∧ Property.ofJson? m.2 = some e.2) members entries) :
    members.mapM (fun m => (Property.ofJson? m.2).map (Prod.mk m.1)) = some entries :=
  mapM_eq_some (h.imp fun m e ⟨hName, hProperty⟩ => by
    rw [hProperty, hName]
    rfl)

/-- A value that lists declarations is read as their document. -/
theorem ofJson_listed {b : Builder} {j : Json} (h : b.ListedIn j) :
    Document.ofJson j = .ok b.document := by
  obtain ⟨root, time, procedure, members, hFields, hRoot, hTime, hProcedure, hMembers⟩ := h
  have hProperties : required? PropertyTable.ofJson? (some (.obj members)) =
      some (.ofList b.properties) :=
    congrArg (Option.map PropertyTable.ofList) (mapM_listed hMembers)
  have hRead : Document.ofJson? j = some b.document := by
    unfold Document.ofJson?
    rw [hFields]
    simp only [Option.bind_eq_bind, Option.bind_some, hRoot, hTime, hProcedure, hProperties]
    rfl
  unfold Document.ofJson
  rw [hRead]

theorem parse_listed {b : Builder} {text : String} {j : Json} (hText : Json.parse? text = some j)
    (h : b.ListedIn j) : parse text = ofDocument b.document := by
  unfold parse
  rw [hText]
  show (Document.ofJson j >>= ofDocument) = _
  rw [ofJson_listed h]
  rfl

/-! ## Forms -/

/-- The document that lists declarations as a JSON value. -/
def form (b : Builder) : Json :=
  .obj [("root", b.root.toJson), ("time_property", ofOption .str b.timeProperty),
    ("procedure_property", ofOption .str b.procedureProperty),
    ("properties", .obj (b.properties.map fun e => (e.1, e.2.toJson)))]

end Builder

theorem ofJson_type (t : ValueType) : ValueType.ofJson? (.str t.name) = some t := by
  cases t <;> rfl

theorem ofJson_join (j : Join) : Join.ofJson? j.toJson = some j :=
  rfl

theorem ofJson_joins (joins : List Join) :
    Json.list? Join.ofJson? (.arr (joins.map Join.toJson)) = some joins :=
  mapM_eq_some (List.forall₂_map_left_iff.mpr (List.forall₂_same.mpr fun j _ => ofJson_join j))

theorem ofJson_property (p : Property) : Property.ofJson? p.toJson = some p := by
  have hType : Json.orDefault? ValueType.ofJson? .text (some (.str p.type.name)) = some p.type :=
    ofJson_type p.type
  have hJoins : Json.orDefault? (Json.list? Join.ofJson?) []
      (some (.arr (p.joins.map Join.toJson))) = some p.joins := ofJson_joins p.joins
  show (do
    some (Property.mk p.table p.column
      (← Json.orDefault? ValueType.ofJson? .text (some (.str p.type.name)))
      (← Json.orDefault? (Json.list? Join.ofJson?) [] (some (.arr (p.joins.map Join.toJson)))))) =
    some p
  rw [hType, hJoins]
  rfl

theorem optional_ofOption (s : Option String) :
    optional? Json.str? (some (ofOption .str s)) = some s := by
  cases s <;> rfl

theorem readsBack_ofOption (s : Option String) : ReadsBack (ofOption .str s) := by
  cases s with
  | none => exact readsBack_null
  | some s => exact readsBack_str s

theorem readsBack_property (p : Property) : ReadsBack p.toJson := by
  have hJoin : ∀ j : Join, ReadsBack j.toJson := fun j => readsBack_obj (by
    simp only [List.forall_mem_cons]
    exact ⟨readsBack_str _, readsBack_str _, readsBack_str _, readsBack_str _, by simp⟩)
  have hJoins : ReadsBack (.arr (p.joins.map Join.toJson)) := readsBack_arr (by
    simp only [List.forall_mem_map]
    exact fun j _ => hJoin j)
  refine readsBack_obj ?_
  simp only [List.forall_mem_cons]
  exact ⟨readsBack_str _, readsBack_str _, readsBack_str _, hJoins, by simp⟩

namespace Builder

/-- The form of declarations lists them. -/
theorem listedIn_form (b : Builder) : b.ListedIn b.form := by
  refine ⟨_, _, _, _, rfl, rfl, optional_ofOption _, optional_ofOption _, ?_⟩
  rw [List.forall₂_map_left_iff]
  exact List.forall₂_same.mpr fun e _ => ⟨rfl, ofJson_property e.2⟩

theorem readsBack_form (b : Builder) : ReadsBack b.form := by
  have hRoot : ReadsBack b.root.toJson := readsBack_obj (by
    simp only [List.forall_mem_cons]
    exact ⟨readsBack_str _, readsBack_str _, by simp⟩)
  have hProperties : ReadsBack (.obj (b.properties.map fun e => (e.1, e.2.toJson))) :=
    readsBack_obj (by
      simp only [List.forall_mem_map]
      exact fun e _ => readsBack_property e.2)
  refine readsBack_obj ?_
  simp only [List.forall_mem_cons]
  exact ⟨hRoot, readsBack_ofOption _, readsBack_ofOption _, hProperties, by simp⟩

/-- Declarations whose names are all different make the mapping of their document. -/
theorem build_of_nodup {b : Builder} (h : (namesOf b.properties).Nodup) :
    b.build = ofDocument b.document := by
  have hTable : table .empty b.properties = .ok (.ofList b.properties) :=
    table_ok h fun name _ => not_contains_empty name
  unfold build
  rw [hTable]
  rfl

theorem build_of_repeated {b : Builder} {name : String} (h : FirstRepeated name b.properties) :
    b.build = .error (.duplicateProperty name) := by
  obtain ⟨first, p, rest, hSplit, hNodup, hMem⟩ := h
  have hTable : table .empty b.properties = .error (.duplicateProperty name) := by
    rw [hSplit]
    exact table_repeated hNodup (fun key _ => not_contains_empty key) (.inr hMem)
  unfold build
  rw [hTable]
  rfl

end Builder

/-! ## Both ways -/

/-- **Declarations of different names make the same mapping step by step and in a document.** All
declarations can be listed in a document. A text that lists them is read as the document in which
the last declaration of a name counts. Where all names are different, this is what the steps come
to, be it a mapping or a fault; where a name is declared again, the steps end with the first such
name. -/
theorem mapping_of_declarations (b : Builder) :
    (Json.parse? b.form.text = some b.form ∧ b.ListedIn b.form) ∧
    ∀ text j, Json.parse? text = some j → b.ListedIn j →
      parse text = ofDocument b.document ∧
      ((namesOf b.properties).Nodup → parse text = b.build) ∧
      (¬(namesOf b.properties).Nodup → ∃ name, FirstRepeated name b.properties ∧
        b.build = .error (.duplicateProperty name)) := by
  refine ⟨⟨parse_text b.readsBack_form, b.listedIn_form⟩, fun text j hText hListed => ?_⟩
  have hParse := Builder.parse_listed hText hListed
  refine ⟨hParse, fun hNodup => hParse.trans (Builder.build_of_nodup hNodup).symm, fun hTwice => ?_⟩
  obtain ⟨name, hName⟩ := exists_firstRepeated hTwice
  exact ⟨name, hName, Builder.build_of_repeated hName⟩

namespace Builder

/-- Datasets with a time, which has a role, and keywords in a table of their own. -/
def keywords : Builder where
  root := ⟨"datasets", "id"⟩
  timeProperty := some "created"
  properties :=
    [("keyword", ⟨"keywords", "word", .text, [⟨"datasets", "id", "keywords", "dataset"⟩]⟩),
      ("created", ⟨"datasets", "created", .timestamp, []⟩)]

/-- Datasets with a title that is declared again. -/
def titles : Builder where
  root := ⟨"datasets", "id"⟩
  properties :=
    [("title", ⟨"datasets", "title", .text, []⟩), ("title", ⟨"datasets", "name", .text, []⟩)]

end Builder

theorem mapping_of_declarations_keywords :
    Json.parse? Builder.keywords.form.text = some Builder.keywords.form ∧
      Builder.keywords.ListedIn Builder.keywords.form ∧
      (namesOf Builder.keywords.properties).Nodup ∧
      parse Builder.keywords.form.text = Builder.keywords.build ∧
      ∃ m, Builder.keywords.build = .ok m := by
  obtain ⟨⟨hText, hListed⟩, hBoth⟩ := mapping_of_declarations Builder.keywords
  obtain ⟨hParse, hSame, -⟩ := hBoth _ _ hText hListed
  have hNodup : (namesOf Builder.keywords.properties).Nodup := by decide
  refine ⟨hText, hListed, hNodup, hSame hNodup, ⟨Builder.keywords.document, by decide⟩, ?_⟩
  rw [← hSame hNodup, hParse]
  exact ofDocument_ok_iff.mpr rfl

/-- **In a document a declaration can be lost without a fault.** The first of two declarations of a
title is, where the steps refuse the second one. -/
theorem declaration_overwritten :
    Json.parse? Builder.titles.form.text = some Builder.titles.form ∧
      Builder.titles.ListedIn Builder.titles.form ∧
      Builder.titles.build = .error (.duplicateProperty "title") ∧
      ∃ m, parse Builder.titles.form.text = .ok m ∧
        m.resolve "title" = .ok ⟨"datasets", "name", .text, []⟩ := by
  have hText := parse_text Builder.titles.readsBack_form
  have hListed := Builder.titles.listedIn_form
  refine ⟨hText, hListed, ?_, ⟨Builder.titles.document, by decide⟩, ?_, by decide⟩
  · exact Builder.build_of_repeated ⟨[("title", ⟨"datasets", "title", .text, []⟩)], _, [], rfl,
      by decide, by decide⟩
  · rw [Builder.parse_listed hText hListed]
    exact ofDocument_ok_iff.mpr rfl

end FilterSql.Mapping
