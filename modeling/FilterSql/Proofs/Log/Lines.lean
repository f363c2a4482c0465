import FilterSql.Log.Line
import FilterSql.Proofs.Json.RoundTrip
import Mathlib.Data.List.Nodup
import Mathlib.Data.String.Basic

/-!
# Written log lines are read back

A log line is the JSON text of an object, and every character that could end a string, an object or
a line is escaped in it. So whatever stands in its fields, a line ends at its only newline, and as a
JSON text it is the event, the severity and the fields, with nothing added to them.

* `not_control_text`: no control character stands in the text of a line, so no newline does.
* `parse?_text`: the text of a line is read as its members, in order.
* `KeySorted`: fields in the order of their keys, with those of one key in the order given.
* `written_readable`: what a line is read as, for the line as it is written.
-/

namespace FilterSql

/-! ## Escaped characters -/

namespace Json

/-- A character that no JSON text holds as it is. -/
def IsControl (c : Char) : Prop :=
  c.toNat < 0x20

instance (c : Char) : Decidable (IsControl c) :=
  inferInstanceAs (Decidable (c.toNat < 0x20))

theorem not_control_of_all {cs : List Char} (h : (cs.all fun c => !decide (IsControl c)) = true) :
    ∀ c ∈ cs, ¬IsControl c := by
  intro c hc
  simpa using List.all_eq_true.mp h c hc

theorem not_control_fixedWidth {n : Nat} (hn : n < 0x20) :
    ∀ d ∈ Text.Hex.fixedWidth 4 n, ¬IsControl d := by
  have hAll : ∀ n < 0x20,
      ((Text.Hex.fixedWidth 4 n).all fun c => !decide (IsControl c)) = true := by
    decide +kernel
  exact not_control_of_all (hAll n hn)

theorem not_control_escape (c : Char) : ∀ d ∈ escape c, ¬IsControl d := by
  unfold escape
  split
  case h_8 =>
    split
    · rename_i hControl
      simp only [List.forall_mem_cons]
      exact ⟨by decide, by decide, not_control_fixedWidth hControl⟩
    · rename_i hPlain
      exact List.forall_mem_singleton.mpr hPlain
  all_goals exact not_control_of_all (by decide)

theorem not_control_quote (s : String) : ∀ c ∈ (quote s).toList, ¬IsControl c := by
  have hQuote : ¬IsControl '"' := by decide
  rw [quote, String.toList_ofList, quoteChars, List.forall_mem_cons, List.forall_mem_append]
  refine ⟨hQuote, fun d hd => ?_, List.forall_mem_singleton.mpr hQuote⟩
  obtain ⟨c, -, hEscaped⟩ := List.mem_flatMap.mp hd
  exact not_control_escape c d hEscaped

end Json

namespace Log

open Json (IsControl ReadsBack not_control_of_all not_control_quote)

/-! ## The text of a line -/

/-- A field as a member of an object. -/
def Field.member (f : Field) : String × Json :=
  (f.1, .str f.2)

theorem toList_appendField (s : String) (f : Field) :
    (Json.appendTo (s ++ Json.quote f.1 ++ ":") (.str f.2)).toList =
      s.toList ++ (Field.text f).toList := by
  rw [Json.toList_appendTo]
  simp [Field.text, Json.text, Json.appendTo]

/-- The texts of fields with commas between them are those of the members of an object. -/
theorem toList_appendMembers : ∀ fields : List Field,
    (Json.appendMembers "" (fields.map Field.member)).toList =
      (",".intercalate (fields.map Field.text)).toList
  | [] => rfl
  | [f] => by
    simp only [List.map_cons, List.map_nil, Field.member, Json.appendMembers]
    rw [toList_appendField, String.intercalate_singleton]
    simp
  | f :: g :: fields => by
    have hComma : (Json.appendMembers "" ((f :: g :: fields).map Field.member)).toList =
        (Field.text f).toList ++
          ',' :: (Json.appendMembers "" ((g :: fields).map Field.member)).toList := by
      simp only [List.map_cons, Field.member, Json.appendMembers]
      rw [Json.toList_appendMembers, String.toList_push, toList_appendField]
      simp
    rw [hComma, toList_appendMembers (g :: fields)]
    simp

theorem not_control_field (f : Field) : ∀ c ∈ (Field.text f).toList, ¬IsControl c := by
  unfold Field.text
  rw [String.toList_append, String.toList_append, List.forall_mem_append, List.forall_mem_append]
  exact ⟨⟨not_control_quote _, not_control_of_all (by decide)⟩, not_control_quote _⟩

theorem not_control_fields : ∀ fields : List Field,
    ∀ c ∈ (",".intercalate (fields.map Field.text)).toList, ¬IsControl c
  | [] => by simp
  | [f] => by
    rw [List.map_singleton, String.intercalate_singleton]
    exact not_control_field f
  | f :: g :: fields => by
    have hRest := not_control_fields (g :: fields)
    rw [List.map_cons] at hRest
    rw [List.map_cons, List.map_cons, String.intercalate_cons_cons, String.toList_append,
      String.toList_append, List.forall_mem_append, List.forall_mem_append]
    exact ⟨⟨not_control_field f, not_control_of_all (by decide)⟩, hRest⟩

namespace Line

variable (l : Line)

/-- The object that a line is the text of. -/
def object : Json :=
  .obj (l.members.map Field.member)

theorem text_eq : l.text = l.object.text := by
  refine String.toList_injective ?_
  rw [object, Json.toList_text_obj, toList_appendMembers, text, String.toList_append,
    String.toList_append]
  rfl

/-- The text of a line is read as its members, in order. -/
theorem parse?_text : Json.parse? l.text = some l.object := by
  have hObject : ReadsBack l.object := by
    refine Json.readsBack_obj fun m hm => ?_
    obtain ⟨f, -, rfl⟩ := List.mem_map.mp hm
    exact Json.readsBack_str f.2
  rw [text_eq]
  exact Json.parse_text hObject

/-- No control character stands in the text of a line. -/
theorem not_control_text : ∀ c ∈ l.text.toList, ¬IsControl c := by
  unfold text
  rw [String.toList_append, String.toList_append, List.forall_mem_append, List.forall_mem_append]
  exact ⟨⟨not_control_of_all (by decide), not_control_fields _⟩, not_control_of_all (by decide)⟩

end Line

/-! ## The order of fields -/

/-- The list `sorted` has the fields that are `given`, in the order of their keys; those of one key
are in the order in which they were given. -/
structure KeySorted (given sorted : List Field) : Prop where
  perm : sorted.Perm given
  ordered : sorted.Pairwise fun f g => f.1 ≤ g.1
  stable : ∀ key, (sorted.filter fun f => f.1 = key) = given.filter fun f => f.1 = key

/-- Fields with distinct keys are in one order only. -/
theorem KeySorted.unique {given given' sorted sorted' : List Field} (h : KeySorted given sorted)
    (h' : KeySorted given' sorted') (hPerm : given'.Perm given)
    (hKeys : (given.map Prod.fst).Nodup) : sorted' = sorted := by
  have hSame : sorted'.Perm sorted := h'.perm.trans (hPerm.trans h.perm.symm)
  have hNodup : (sorted.map Prod.fst).Nodup := (h.perm.map Prod.fst).nodup_iff.mpr hKeys
  refine hSame.eq_of_pairwise (fun f g hf hg hfg hgf => ?_) h'.ordered h.ordered
  have hKey : f.1 = g.1 := le_antisymm hfg hgf
  exact List.inj_on_of_nodup_map hNodup (hSame.mem_iff.mp hf) hg hKey

/-- Whether a field can stand before another one. -/
def keyLe (f g : Field) : Bool :=
  decide (f.1 ≤ g.1)

theorem keyLe_trans (f g h : Field) (hfg : keyLe f g = true) (hgh : keyLe g h = true) :
    keyLe f h = true := by
  simp only [keyLe, decide_eq_true_eq] at *
  exact le_trans hfg hgh

theorem keyLe_total (f g : Field) : (keyLe f g || keyLe g f) = true := by
  simpa [keyLe] using le_total f.1 g.1

/-- The fields of a line are written in this order. -/
theorem keySorted_sortedFields (l : Line) : KeySorted l.fields l.sortedFields where
  perm := List.mergeSort_perm _ _
  ordered := by
    have hSorted : (l.fields.mergeSort keyLe).Pairwise fun f g => keyLe f g = true :=
      List.pairwise_mergeSort keyLe_trans keyLe_total l.fields
    exact hSorted.imp of_decide_eq_true
  stable key := by
    let ofKey (f : Field) : Bool := decide (f.1 = key)
    -- fields of one key are in order already, so sorting keeps them in theirs
    have hOrdered : (l.fields.filter ofKey).Pairwise fun f g => keyLe f g = true := by
      refine List.pairwise_of_forall_mem_list fun f hf g hg => ?_
      have hf : f.1 = key := of_decide_eq_true (List.mem_filter.mp hf).2
      have hg : g.1 = key := of_decide_eq_true (List.mem_filter.mp hg).2
      exact decide_eq_true (hf.trans hg.symm).le
    have hKept : (l.fields.filter ofKey).Sublist (l.fields.mergeSort keyLe) :=
      List.sublist_mergeSort keyLe_trans keyLe_total hOrdered List.filter_sublist
    have hPerm := (List.mergeSort_perm l.fields keyLe).filter ofKey
    have hFiltered := hKept.filter ofKey
    rw [List.filter_filter] at hFiltered
    simp only [Bool.and_self] at hFiltered
    exact (hFiltered.eq_of_length hPerm.length_eq.symm).symm

/-! ## Lines as they are written -/

/-- **What is written of a line is read back.** It is a text without a newline, and a newline. The
text is an object of the event, the severity and the fields in the order of their keys, so that
fields with distinct keys are written in one way, however they are given. -/
theorem written_readable (severity : Severity) (event : String) (fields : List Field) :
    ∃ text sorted, (Line.mk severity event fields).written = text ++ "\n" ∧
      '\n' ∉ text.toList ∧
      KeySorted fields sorted ∧
      Json.parse? text = some (.obj (("event", .str event) ::
        ("severity", .str severity.name) :: sorted.map fun f => (f.1, .str f.2))) ∧
      ((fields.map Prod.fst).Nodup → ∀ fields' : List Field, fields'.Perm fields →
        (Line.mk severity event fields').written = (Line.mk severity event fields).written) := by
  let l : Line := ⟨severity, event, fields⟩
  refine ⟨l.text, l.sortedFields, rfl, fun hNewline => ?_, keySorted_sortedFields l, l.parse?_text,
    fun hKeys fields' hPerm => ?_⟩
  · exact l.not_control_text '\n' hNewline (by decide)
  · let l' : Line := ⟨severity, event, fields'⟩
    have hFields : l'.sortedFields = l.sortedFields :=
      (keySorted_sortedFields l).unique (keySorted_sortedFields l') hPerm hKeys
    show l'.text ++ "\n" = l.text ++ "\n"
    unfold Line.text Line.members
    rw [hFields]

/-- A value with quotation marks, a brace and a newline in it. -/
def hostileValue : String := "\"\x7d\n\x7b\"\\"

theorem written_readable_hostile :
    (Line.mk .warn "E" [("sql", hostileValue), ("path", "\n")]).written =
      (Line.mk .warn "E" [("path", "\n"), ("sql", hostileValue)]).written := by
  obtain ⟨_, _, -, -, -, -, hOrder⟩ :=
    written_readable .warn "E" [("path", "\n"), ("sql", hostileValue)]
  exact hOrder (by decide) _ (.swap _ _ _)

end Log

end FilterSql
