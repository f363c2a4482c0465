import FilterSql.Log.Scope

/-!
# Logs of two least severities

The same lines are written to two logs, of which the second one lets fewer of them through. What has
been added to the second one is then what has been added to the first one, without the lines below
the second least severity. The names of queries and times are not compared, since no two runs have
the same.

* `Line.masked`: a line without the name of a query and without a time.
* `Thinned`: some lines, and those of them that a least severity lets through.
* `Log.Together`: two logs to which the same lines have been written.
* `Together.emit`: one more line.
-/

namespace FilterSql.Log

/-! ## Masked lines -/

/-- The keys of the values that differ from run to run. -/
def passingKeys : List String := ["query_id", "elapsed_ms"]

/-- A field without its value, if that differs from run to run. -/
def Field.masked (f : Field) : Field :=
  if f.1 ∈ passingKeys then (f.1, "") else f

/-- A line without the values that differ from run to run. -/
def Line.masked (l : Line) : Line :=
  { l with fields := l.fields.map Field.masked }

@[simp]
theorem severity_masked (l : Line) : l.masked.severity = l.severity := rfl

/-- The value of such a field does not matter. -/
theorem masked_passing {key : String} (h : key ∈ passingKeys) (value value' : String) :
    Field.masked (key, value) = Field.masked (key, value') := by
  unfold Field.masked
  rw [if_pos h, if_pos h]

theorem masked_queryId (id id' : String) (fields : List Field) :
    (("query_id", id') :: fields).map Field.masked =
      (("query_id", id) :: fields).map Field.masked := by
  rw [List.map_cons, List.map_cons, masked_passing (by decide) id' id]

/-! ## Thinned lines -/

/-- The lines `lines'` are those among `lines` that `least` lets through. -/
def Thinned (least : Severity) (lines lines' : List Line) : Prop :=
  lines'.map Line.masked = (lines.filter fun l => least.admits l.severity).map Line.masked

variable {least : Severity} {lines lines' more more' : List Line}

theorem thinned_nil : Thinned least [] [] := rfl

theorem Thinned.append (h : Thinned least lines lines') (h' : Thinned least more more') :
    Thinned least (lines ++ more) (lines' ++ more') := by
  unfold Thinned
  rw [List.filter_append, List.map_append, List.map_append, h, h']

/-- Masking keeps the severities, so that lines can be chosen by them before or after. -/
theorem map_masked_filter (p : Severity → Bool) (ls : List Line) :
    (ls.filter fun l => p l.severity).map Line.masked =
      (ls.map Line.masked).filter fun l => p l.severity := by
  rw [List.filter_map]
  rfl

/-- The lines of one stream. -/
theorem Thinned.filter (h : Thinned least lines lines') (p : Severity → Bool) :
    Thinned least (lines.filter fun l => p l.severity) (lines'.filter fun l => p l.severity) := by
  unfold Thinned at h ⊢
  rw [map_masked_filter, h, ← map_masked_filter, List.filter_filter, List.filter_filter]
  simp only [Bool.and_comm]

/-- A line written under two least severities, the second one being at least as high. -/
theorem thinned_line {lower : Severity} (h : lower.rank ≤ least.rank) {l l' : Line}
    (hMasked : l'.masked = l.masked) :
    Thinned least ([l].filter fun l => lower.admits l.severity)
      ([l'].filter fun l => least.admits l.severity) := by
  have hSeverity : l'.masked.severity = l.masked.severity := congrArg Line.severity hMasked
  rw [severity_masked, severity_masked] at hSeverity
  unfold Thinned
  rw [List.filter_filter]
  simp only [List.filter_cons, List.filter_nil, hSeverity]
  by_cases hAdmits : least.admits l.severity
  · have hLower : lower.admits l.severity :=
      decide_eq_true (Nat.le_trans h (of_decide_eq_true hAdmits))
    simp only [hAdmits, hLower, Bool.and_self, if_true, List.map_cons, List.map_nil, hMasked]
  · simp only [hAdmits, Bool.false_and, Bool.false_eq_true, if_false, List.map_nil]

/-! ## Two logs -/

@[simp]
theorem least_emit (log : Log) (severity : Severity) (event : String) (fields : List Field) :
    (log.emit severity event fields).least = log.least := by
  unfold emit
  split <;> rfl

theorem lines_emit (log : Log) (severity : Severity) (event : String) (fields : List Field) :
    (log.emit severity event fields).lines =
      log.lines ++ [⟨severity, event, fields⟩].filter fun l => log.least.admits l.severity := by
  unfold emit enabled
  by_cases h : log.least.admits severity
  · rw [if_pos h, List.filter_cons_of_pos (by exact h), List.filter_nil]
  · rw [if_neg h, List.filter_cons_of_neg (by exact h), List.filter_nil, List.append_nil]

/-- Lines have been added to `before` and to `before'`, and the second ones are those of the first
ones that `least` lets through. -/
def AddedThinned (least : Severity) (before after before' after' : List Line) : Prop :=
  ∃ lines lines', after = before ++ lines ∧ after' = before' ++ lines' ∧
    Thinned least lines lines'

/-- The logs `base` and `base'` have become `log` and `log'`, by the same lines. The second one lets
only lines through that the first one lets through as well. -/
structure Together (base base' log log' : Log) : Prop where
  raised : base.least.rank ≤ base'.least.rank
  least : log.least = base.least
  least' : log'.least = base'.least
  added : AddedThinned base'.least base.lines log.lines base'.lines log'.lines

namespace Together

variable {base base' log log' : Log}

theorem start (h : base.least.rank ≤ base'.least.rank) : Together base base' base base' :=
  ⟨h, rfl, rfl, [], [], (List.append_nil _).symm, (List.append_nil _).symm, thinned_nil⟩

/-- One more line, whose passing values may differ. -/
theorem emit (h : Together base base' log log') (severity : Severity) (event : String)
    {fields fields' : List Field} (hFields : fields'.map Field.masked = fields.map Field.masked) :
    Together base base' (log.emit severity event fields) (log'.emit severity event fields') where
  raised := h.raised
  least := (least_emit ..).trans h.least
  least' := (least_emit ..).trans h.least'
  added := by
    obtain ⟨lines, lines', hLines, hLines', hThinned⟩ := h.added
    have hMasked : Line.masked ⟨severity, event, fields'⟩ = Line.masked ⟨severity, event, fields⟩ :=
      congrArg (Line.mk severity event) hFields
    refine ⟨_, _, ?_, ?_, hThinned.append (thinned_line h.raised hMasked)⟩
    · rw [lines_emit, hLines, h.least, List.append_assoc]
    · rw [lines_emit, hLines', h.least', List.append_assoc]

/-- What has been added to the streams of the two logs. -/
theorem streams (h : Together base base' log log') (p : Severity → Bool) :
    AddedThinned base'.least (base.lines.filter fun l => p l.severity)
      (log.lines.filter fun l => p l.severity) (base'.lines.filter fun l => p l.severity)
      (log'.lines.filter fun l => p l.severity) := by
  obtain ⟨lines, lines', hLines, hLines', hThinned⟩ := h.added
  refine ⟨_, _, ?_, ?_, hThinned.filter p⟩
  · rw [hLines, List.filter_append]
  · rw [hLines', List.filter_append]

end Together

end FilterSql.Log
