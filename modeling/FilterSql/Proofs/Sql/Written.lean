import FilterSql.Proofs.Sql.Reading

/-!
# Writing conditions

The text of a condition, and the tokens that a reader finds in it. A text that stands in front of a
separator is read as if it stood alone, so the tokens of a condition are those of its parts.

* `Term.fragment`, `Condition.fragment`: the texts with their parameters.
* `Term.tokens`, `Condition.tokens`: the tokens.
* `Term.WellFormed`, `Condition.WellFormed`: plain names, and parentheses where they are needed.
* `Condition.WellFormed.lex`: the tokens of the text are those of the condition.
-/

namespace FilterSql.Sql

/-! ## Fragments -/

namespace Fragment

@[simp] theorem sql_text (s : String) : (text s).sql = s :=
  String.empty_append

@[simp] theorem params_text (s : String) : (text s).params = [] := rfl

@[simp] theorem sql_param (v : Scalar) : (param v).sql = "?" := rfl

@[simp] theorem params_param (v : Scalar) : (param v).params = [v] := rfl

@[simp] theorem sql_empty : empty.sql = "" := rfl

@[simp] theorem params_empty : empty.params = [] := rfl

@[simp] theorem sql_column (c : Column) : (column c).sql = c.sql :=
  String.empty_append

@[simp] theorem params_column (c : Column) : (column c).params = [] := rfl

end Fragment

/-! ## Texts -/

namespace Term

mutual

/-- The text of an operand. -/
def fragment : Term → Fragment
  | column c => .column c
  | value v => .param v
  | number n => .text n.repr
  | call f args => .text f ++ (.text "(" ++ fragmentList args ++ .text ")")

/-- The texts of a list of operands, separated by commas. -/
def fragmentList : List Term → Fragment
  | [] => .empty
  | [a] => fragment a
  | a :: b :: as => fragment a ++ .text ", " ++ fragmentList (b :: as)

end

mutual

/-- The tokens of an operand. -/
def tokens : Term → List Token
  | column c => [.column c]
  | value v => [.value v]
  | number n => [.number n]
  | call f args => .name f :: .opening :: (tokensList args ++ [.closing])

/-- The tokens of a list of operands. -/
def tokensList : List Term → List Token
  | [] => []
  | [a] => tokens a
  | a :: b :: as => tokens a ++ .comma :: tokensList (b :: as)

end

/-- A word that is the name of a function. -/
structure FunctionName (f : String) : Prop where
  plain : PlainName f
  token : wordToken f.toList = .name f

/-- All names of an operand are plain, and calls have operands. -/
inductive WellFormed : Term → Prop where
  | column {c : Column} (hQualifier : PlainName c.qualifier) (hName : PlainName c.name) :
      WellFormed (column c)
  | value (v : Scalar) : WellFormed (value v)
  | number (n : Nat) : WellFormed (number n)
  | call {f : String} {args : List Term} (hf : FunctionName f) (hne : args ≠ [])
      (hArgs : ∀ a ∈ args, WellFormed a) : WellFormed (call f args)

end Term

namespace Condition

/-- The text of a condition. -/
def fragment : Condition → Fragment
  | compare op l r => l.fragment ++ .text s!" {op.sql} " ++ r.fragment
  | between s low high =>
    s.fragment ++ .text " BETWEEN " ++ low.fragment ++ .text " AND " ++ high.fragment
  | isNull s => s.fragment ++ .text " IS " ++ .text "NULL"
  | isNotNull s => s.fragment ++ .text " IS NOT " ++ .text "NULL"
  | like s p none => s.fragment ++ .text " LIKE " ++ p.fragment
  | like s p (some e) =>
    s.fragment ++ .text " LIKE " ++ p.fragment ++ .text " ESCAPE " ++ .text ("'" ++ e ++ "'")
  | isIn s cs => s.fragment ++ .text " IN " ++ (.text "(" ++ Term.fragmentList cs ++ .text ")")
  | overlaps l r => l.fragment ++ .text " && " ++ r.fragment
  | test s => s.fragment
  | not c => .text "NOT " ++ c.fragment
  | and c d => c.fragment ++ .text " AND " ++ d.fragment
  | or c d => c.fragment ++ .text " OR " ++ d.fragment
  | group c => .text "(" ++ c.fragment ++ .text ")"

/-- The tokens of a condition. -/
def tokens : Condition → List Token
  | compare op l r => l.tokens ++ .comparison op :: r.tokens
  | between s low high =>
    s.tokens ++ .keyword .between :: (low.tokens ++ .keyword .and :: high.tokens)
  | isNull s => s.tokens ++ [.keyword .is, .keyword .null]
  | isNotNull s => s.tokens ++ [.keyword .is, .keyword .not, .keyword .null]
  | like s p none => s.tokens ++ .keyword .like :: p.tokens
  | like s p (some e) =>
    s.tokens ++ .keyword .like :: (p.tokens ++ [.keyword .escape, .quoted e])
  | isIn s cs => s.tokens ++ .keyword .isIn :: .opening :: (Term.tokensList cs ++ [.closing])
  | overlaps l r => l.tokens ++ .overlaps :: r.tokens
  | test s => s.tokens
  | not c => .keyword .not :: c.tokens
  | and c d => c.tokens ++ .keyword .and :: d.tokens
  | or c d => c.tokens ++ .keyword .or :: d.tokens
  | group c => .opening :: (c.tokens ++ [.closing])

/-- How loosely a condition binds: not at all, as AND does, or as OR does. -/
def level : Condition → Nat
  | and .. => 1
  | or .. => 2
  | _ => 0

/-- A condition whose operands are well formed and that has parentheses where they are needed.
Sequences of ANDs and of ORs lean to the right. -/
inductive WellFormed : Condition → Prop where
  | compare {l r : Term} (op : ComparisonOp) (hl : l.WellFormed) (hr : r.WellFormed) :
      WellFormed (compare op l r)
  | between {s low high : Term} (hs : s.WellFormed) (hLow : low.WellFormed)
      (hHigh : high.WellFormed) : WellFormed (between s low high)
  | isNull {s : Term} (hs : s.WellFormed) : WellFormed (isNull s)
  | isNotNull {s : Term} (hs : s.WellFormed) : WellFormed (isNotNull s)
  | like {s p : Term} {escape : Option String} (hs : s.WellFormed) (hp : p.WellFormed)
      (he : ∀ e, escape = some e → '\'' ∉ e.toList) : WellFormed (like s p escape)
  | isIn {s : Term} {cs : List Term} (hs : s.WellFormed) (hne : cs ≠ [])
      (hcs : ∀ c ∈ cs, c.WellFormed) : WellFormed (isIn s cs)
  | overlaps {l r : Term} (hl : l.WellFormed) (hr : r.WellFormed) : WellFormed (overlaps l r)
  | test {s : Term} (hs : s.WellFormed) : WellFormed (test s)
  | not {c : Condition} (hc : WellFormed c) (hLevel : c.level = 0) : WellFormed (not c)
  | and {c d : Condition} (hc : WellFormed c) (hd : WellFormed d) (hcLevel : c.level = 0)
      (hdLevel : d.level ≤ 1) : WellFormed (and c d)
  | or {c d : Condition} (hc : WellFormed c) (hd : WellFormed d) (hcLevel : c.level ≤ 1) :
      WellFormed (or c d)
  | group {c : Condition} (hc : WellFormed c) : WellFormed (group c)

end Condition

/-! ## Reading on -/

/-- What is read after some tokens, with these in front. -/
def after (ts : List Token) : Option (List Token × Pending × List Scalar) →
    Option (List Token × Pending × List Scalar) :=
  Option.map fun (us, p, vs) => (ts ++ us, p, vs)

theorem after_after (ts us : List Token) (r : Option (List Token × Pending × List Scalar)) :
    after ts (after us r) = after (ts ++ us) r := by
  cases r with
  | none => rfl
  | some r => simp [after]

theorem run_append {p q : Pending} {vs ws : List Scalar} {cs ds : List Char} {ts : List Token}
    (h : run p vs cs = some (ts, q, ws)) : run p vs (cs ++ ds) = after ts (run q ws ds) := by
  induction cs generalizing p vs ts with
  | nil =>
    obtain ⟨rfl, rfl, rfl⟩ : ts = [] ∧ q = p ∧ ws = vs := by simpa [run, eq_comm] using h
    cases hd : run q ws ds with
    | none => exact hd
    | some r => exact hd
  | cons c cs ih =>
    rw [run] at h
    obtain ⟨⟨us, p', vs'⟩, hStep, h⟩ := Option.bind_eq_some_iff.mp h
    obtain ⟨⟨us', p'', vs''⟩, hRun, h⟩ := Option.bind_eq_some_iff.mp h
    obtain ⟨rfl, rfl, rfl⟩ : us ++ us' = ts ∧ p'' = q ∧ vs'' = ws := by simpa using h
    rw [List.cons_append, run, hStep]
    show (run p' vs' (cs ++ ds)).bind _ = _
    rw [ih hRun]
    cases run p'' vs'' ds with
    | none => rfl
    | some r => simp [after]

/-- A token that ends in front of a character is over there. -/
theorem run_of_finish {p : Pending} {done : List Token} (hp : p.finish = some done) {c : Char}
    (hc : p.push c = none) (vs : List Scalar) (cs : List Char) :
    run p vs (c :: cs) = after done (run .blank vs (c :: cs)) := by
  have hStep : step p vs c = after done (step .blank vs c) := by
    have hBlank : Pending.push c .blank = none := rfl
    unfold step
    rw [hc, hBlank, hp]
    show (if c = '?' then _ else _) = after done (if c = '?' then _ else _)
    split
    · cases vs with
      | nil => rfl
      | cons v vs => rfl
    · cases begins c with
      | none => rfl
      | some b => rfl
  rw [run, run, hStep]
  cases step .blank vs c with
  | none => rfl
  | some r =>
    obtain ⟨ts, q, ws⟩ := r
    show (run q ws cs).bind _ = after done ((run q ws cs).bind _)
    cases run q ws cs with
    | none => rfl
    | some r => simp [after]

/-! ## Words and quoted texts -/

theorem ne_of_isWordChar {c d : Char} (hc : isWordChar c = true) (hd : isWordChar d = false) :
    c ≠ d := by
  rintro rfl
  rw [hc] at hd
  exact Bool.false_ne_true hd.symm

theorem begins_of_isWordChar {c : Char} (h : isWordChar c = true) :
    c ≠ '?' ∧ begins c = some ([], .word [c]) := by
  refine ⟨ne_of_isWordChar h (by decide), ?_⟩
  unfold begins
  rw [if_neg (ne_of_isWordChar h (by decide)), if_neg (ne_of_isWordChar h (by decide)),
    if_neg (ne_of_isWordChar h (by decide)), if_neg (ne_of_isWordChar h (by decide)), if_neg,
    if_pos h]
  rintro (e | e)
  · exact ne_of_isWordChar h (by decide) e
  · exact ne_of_isWordChar h (by decide) e

theorem run_word_on {cs : List Char} (h : ∀ c ∈ cs, isWordChar c = true) (ds : List Char)
    (vs : List Scalar) : run (.word ds) vs cs = some ([], .word (ds ++ cs), vs) := by
  induction cs generalizing ds with
  | nil => rw [List.append_nil]; rfl
  | cons c cs ih =>
    have hStep : step (.word ds) vs c = some ([], .word (ds ++ [c]), vs) := by
      unfold step Pending.push
      simp only
      rw [if_pos (h c List.mem_cons_self)]
    rw [run, hStep]
    show (run _ vs cs).bind _ = _
    rw [ih (fun d hd => h d (List.mem_cons_of_mem c hd)), List.append_assoc]
    rfl

theorem run_word {cs : List Char} (hne : cs ≠ []) (h : ∀ c ∈ cs, isWordChar c = true)
    (vs : List Scalar) : run .blank vs cs = some ([], .word cs, vs) := by
  cases cs with
  | nil => exact absurd rfl hne
  | cons c cs =>
    obtain ⟨hMark, hBegins⟩ := begins_of_isWordChar (h c List.mem_cons_self)
    have hStep : step .blank vs c = some ([], .word [c], vs) := by
      show (if c = '?' then _ else (begins c).bind _) = _
      rw [if_neg hMark, hBegins]
      rfl
    rw [run, hStep]
    show (run _ vs cs).bind _ = _
    rw [run_word_on (fun d hd => h d (List.mem_cons_of_mem c hd))]
    rfl

theorem run_quoted_on {q : Char} {cs : List Char} (h : q ∉ cs) (ds : List Char)
    (vs : List Scalar) : run (.quoted q ds) vs cs = some ([], .quoted q (ds ++ cs), vs) := by
  induction cs generalizing ds with
  | nil => rw [List.append_nil]; rfl
  | cons c cs ih =>
    obtain ⟨hc, hcs⟩ := List.ne_and_not_mem_of_not_mem_cons h
    have hStep : step (.quoted q ds) vs c = some ([], .quoted q (ds ++ [c]), vs) := by
      unfold step Pending.push
      simp only
      rw [if_neg (Ne.symm hc)]
    rw [run, hStep]
    show (run _ vs cs).bind _ = _
    rw [ih hcs, List.append_assoc]
    rfl

theorem wordToken_column {c : Column} (hq : ∀ d ∈ c.qualifier.toList, isNameChar d = true) :
    wordToken c.sql.toList = .column c := by
  have hAll : ∀ d ∈ c.qualifier.toList, (d != '.') = true := by
    intro d hd
    rw [bne_iff_ne]
    rintro rfl
    exact absurd (hq _ hd) (by decide)
  have e : c.sql.toList = c.qualifier.toList ++ '.' :: c.name.toList := by
    unfold Column.sql
    simp
  unfold wordToken
  rw [e, List.dropWhile_append_of_pos hAll, List.takeWhile_append_of_pos hAll]
  simp

theorem wordToken_number (n : Nat) : wordToken n.repr.toList = .number n := by
  have hDigits : ∀ c ∈ n.repr.toList, c.isDigit = true := fun c hc => isDigit_of_mem_repr hc
  have hAll : ∀ c ∈ n.repr.toList, (c != '.') = true := by
    intro c hc
    rw [bne_iff_ne]
    rintro rfl
    exact absurd (hDigits _ hc) (by decide)
  have hDrop : n.repr.toList.dropWhile (· != '.') = [] := by
    have h : (n.repr.toList ++ []).dropWhile (· != '.') = [] := List.dropWhile_append_of_pos hAll
    rwa [List.append_nil] at h
  unfold wordToken
  rw [hDrop]
  simp only
  rw [if_pos (List.all_eq_true.mpr hDigits), Nat.toList_repr, Nat.ofDigitChars_toDigits]
  · decide
  · decide

/-! ## Tokens of fragments -/

/-- A reader takes a fragment for some tokens and is left with a token that may go on. -/
def Lexes (f : Fragment) (ts : List Token) (p : Pending) : Prop :=
  ∀ vs, run .blank (f.params ++ vs) f.sql.toList = some (ts, p, vs)

/-- The characters in front of which a token is over. -/
def separators : List Char := [' ', '(', ')', ',']

/-- A text that begins with a separator. -/
def isSeparated (s : String) : Bool :=
  s.toList.head?.any separators.contains

/-- The tokens of a fragment that stands in front of a separator or at the end. -/
def Reads (f : Fragment) (ts : List Token) : Prop :=
  ∃ us p done, Lexes f us p ∧ p.finish = some done ∧ us ++ done = ts ∧
    ∀ c ∈ separators, p.push c = none

theorem Lexes.text {s : String} {ts : List Token} {p : Pending}
    (h : ∀ vs, run .blank vs s.toList = some (ts, p, vs)) : Lexes (.text s) ts p := by
  intro vs
  rw [Fragment.sql_text, Fragment.params_text, List.nil_append]
  exact h vs

theorem Lexes.reads {f : Fragment} {ts : List Token} (h : Lexes f ts .blank) : Reads f ts :=
  ⟨ts, .blank, [], h, rfl, List.append_nil ts, fun _ _ => rfl⟩

theorem Lexes.append {f g : Fragment} {ts us : List Token} {p : Pending} (hf : Lexes f ts .blank)
    (hg : Lexes g us p) : Lexes (f ++ g) (ts ++ us) p := by
  intro vs
  rw [Fragment.params_append, Fragment.sql_append, String.toList_append, List.append_assoc,
    run_append (hf (g.params ++ vs)), hg vs]
  rfl

theorem Lexes.append_reads {f g : Fragment} {ts us : List Token} (hf : Lexes f ts .blank)
    (hg : Reads g us) : Reads (f ++ g) (ts ++ us) := by
  obtain ⟨us, p, done, hg, hFinish, rfl, hPush⟩ := hg
  exact ⟨ts ++ us, p, done, hf.append hg, hFinish, List.append_assoc ts us done, hPush⟩

/-- Behind a fragment, text that begins with a separator is read as if it stood alone. -/
theorem Reads.append {f g : Fragment} {ts us : List Token} {p : Pending} (hf : Reads f ts)
    (hg : Lexes g us p) (hSep : isSeparated g.sql = true) : Lexes (f ++ g) (ts ++ us) p := by
  obtain ⟨ts, q, done, hf, hFinish, rfl, hPush⟩ := hf
  intro vs
  rw [Fragment.params_append, Fragment.sql_append, String.toList_append, List.append_assoc,
    run_append (hf (g.params ++ vs))]
  unfold isSeparated at hSep
  have hRun := hg vs
  cases hCons : g.sql.toList with
  | nil => rw [hCons] at hSep; exact absurd hSep Bool.false_ne_true
  | cons c cs =>
    rw [hCons] at hSep hRun
    have hc : c ∈ separators := List.contains_iff_mem.mp hSep
    rw [run_of_finish hFinish (hPush c hc), hRun, after_after]
    rfl

/-- Fragments with a separating text between them. -/
theorem Reads.separated {f g : Fragment} {ts ws : List Token} (hf : Reads f ts) (hg : Reads g ws)
    (s : String) (us : List Token) (hs : ∀ vs, run .blank vs s.toList = some (us, .blank, vs))
    (hSep : isSeparated s = true) : Reads (f ++ .text s ++ g) (ts ++ (us ++ ws)) := by
  have h := hf.append (Lexes.text hs) (by rwa [Fragment.sql_text])
  rw [← List.append_assoc]
  exact h.append_reads hg

/-- A fragment in parentheses. -/
theorem Reads.parenthesized {f : Fragment} {ts : List Token} (hf : Reads f ts) :
    Lexes (.text "(" ++ f ++ .text ")") (.opening :: (ts ++ [.closing])) .blank := by
  have hOpening : Lexes (.text "(") [.opening] .blank := Lexes.text fun _ => rfl
  have hClosing : Lexes (.text ")") [.closing] .blank := Lexes.text fun _ => rfl
  exact (hOpening.append_reads hf).append hClosing rfl

theorem Reads.word {s : String} {t : Token} (hne : s.toList ≠ [])
    (h : ∀ c ∈ s.toList, isWordChar c = true) (ht : wordToken s.toList = t) :
    Reads (.text s) [t] := by
  refine ⟨[], .word s.toList, [t], Lexes.text (run_word hne h), ?_, rfl, fun c hc => ?_⟩
  · rw [← ht]
    rfl
  · have hNot : separators.all (!isWordChar ·) = true := by decide
    have hWord : isWordChar c = false := (Bool.not_eq_true' _).mp (List.all_eq_true.mp hNot c hc)
    show (if isWordChar c = true then _ else none) = none
    rw [hWord]
    exact if_neg Bool.false_ne_true

theorem isWordChar_of_isNameChar {c : Char} (h : isNameChar c = true) : isWordChar c = true := by
  unfold isWordChar
  rw [h, Bool.true_or]

theorem isWordChar_of_mem_repr {n : Nat} {c : Char} (hc : c ∈ n.repr.toList) :
    isWordChar c = true :=
  isWordChar_of_isNameChar (isNameChar_of_mem_repr hc)

theorem isWordChar_of_mem_column {c : Column} (hq : PlainName c.qualifier) (hn : PlainName c.name)
    {d : Char} (hd : d ∈ c.sql.toList) : isWordChar d = true := by
  simp only [Column.sql, String.toList_append, List.mem_append] at hd
  rcases hd with (hd | hd) | hd
  · exact isWordChar_of_isNameChar (hq.chars d hd)
  · rw [List.mem_singleton.mp hd]
    decide
  · exact isWordChar_of_isNameChar (hn.chars d hd)

namespace Term

theorem reads_list {as : List Term} (hne : as ≠ [])
    (h : ∀ a ∈ as, Reads a.fragment a.tokens) : Reads (fragmentList as) (tokensList as) := by
  match as, hne with
  | [a], _ =>
    rw [fragmentList, tokensList]
    exact h a List.mem_cons_self
  | a :: b :: as, _ =>
    rw [fragmentList, tokensList]
    have hRest := reads_list (List.cons_ne_nil b as) fun d hd => h d (List.mem_cons_of_mem a hd)
    exact (h a List.mem_cons_self).separated hRest ", " [.comma] (fun _ => rfl) rfl

/-- **The tokens of an operand's text are those of the operand.** -/
theorem WellFormed.reads {a : Term} (h : a.WellFormed) : Reads a.fragment a.tokens := by
  induction h with
  | @column c hq hn =>
    rw [fragment, tokens]
    refine Reads.word ?_ (fun d hd => isWordChar_of_mem_column hq hn hd) (wordToken_column hq.chars)
    simp [Column.sql]
  | value v =>
    have hv : Lexes (.param v) [.value v] .blank := by
      intro vs
      rw [Fragment.sql_param, Fragment.params_param]
      rfl
    exact hv.reads
  | number n =>
    rw [fragment, tokens]
    refine Reads.word ?_ (fun d hd => isWordChar_of_mem_repr hd) (wordToken_number n)
    simp
  | @call f args hf hne _ ih =>
    rw [fragment, tokens]
    have hName : Reads (.text f) [.name f] :=
      Reads.word hf.plain.nonempty (fun d hd => isWordChar_of_isNameChar (hf.plain.chars d hd))
        hf.token
    have hArgs := (reads_list hne ih).parenthesized
    exact (hName.append hArgs (by simp [isSeparated, separators])).reads

end Term

theorem reads_null : Reads (.text "NULL") [.keyword .null] :=
  Reads.word (by decide) (List.all_eq_true.mp (by decide)) rfl

theorem reads_quoted {s : String} (h : '\'' ∉ s.toList) :
    Reads (.text ("'" ++ s ++ "'")) [.quoted s] := by
  refine ⟨[], .closed '\'' s.toList, [.quoted s], Lexes.text fun vs => ?_, ?_, rfl, ?_⟩
  · have hOpen : run .blank vs ['\''] = some ([], .quoted '\'' [], vs) := rfl
    have hClose : run (.quoted '\'' s.toList) vs ['\''] =
        some ([], .closed '\'' s.toList, vs) := rfl
    rw [String.toList_append, String.toList_append, List.append_assoc]
    show run .blank vs (['\''] ++ (s.toList ++ ['\''])) = _
    rw [run_append hOpen, run_append (run_quoted_on h [] vs), List.nil_append, hClose]
    rfl
  · show some [Token.quoted (.ofList s.toList)] = _
    rw [String.ofList_toList]
  · intro c hc
    have hNot : '\'' ∉ separators := by decide
    refine if_neg fun e => ?_
    rw [e] at hc
    exact hNot hc

namespace Condition

/-- **The tokens of a condition's text are those of the condition.** -/
theorem WellFormed.reads {c : Condition} (h : c.WellFormed) : Reads c.fragment c.tokens := by
  induction h with
  | @compare l r op hl hr =>
    rw [fragment, tokens]
    have hRun : ∀ vs,
        run .blank vs s!" {op.sql} ".toList = some ([.comparison op], .blank, vs) := by
      cases op <;> exact fun _ => rfl
    exact hl.reads.separated hr.reads _ _ hRun (by cases op <;> rfl)
  | @between s low high hs hLow hHigh =>
    rw [fragment, tokens]
    have hStart : Reads (s.fragment ++ .text " BETWEEN " ++ low.fragment) _ :=
      hs.reads.separated hLow.reads " BETWEEN " [.keyword .between] (fun _ => rfl) rfl
    have h := hStart.separated hHigh.reads " AND " [.keyword .and] (fun _ => rfl) rfl
    rwa [List.append_assoc] at h
  | isNull hs =>
    rw [fragment, tokens]
    exact hs.reads.separated reads_null " IS " [.keyword .is] (fun _ => rfl) rfl
  | isNotNull hs =>
    rw [fragment, tokens]
    exact hs.reads.separated reads_null " IS NOT " [.keyword .is, .keyword .not] (fun _ => rfl) rfl
  | @like s p escape hs hp he =>
    have hLike : Reads (s.fragment ++ .text " LIKE " ++ p.fragment) _ :=
      hs.reads.separated hp.reads " LIKE " [.keyword .like] (fun _ => rfl) rfl
    cases escape with
    | none => exact hLike
    | some e =>
      rw [fragment, tokens]
      have h := hLike.separated (reads_quoted (he e rfl)) " ESCAPE " [.keyword .escape]
        (fun _ => rfl) rfl
      rwa [List.append_assoc] at h
  | @isIn s cs hs hne hcs =>
    rw [fragment, tokens]
    have hList := Term.reads_list hne fun c hc => (hcs c hc).reads
    exact hs.reads.separated hList.parenthesized.reads " IN " [.keyword .isIn] (fun _ => rfl) rfl
  | overlaps hl hr => exact hl.reads.separated hr.reads " && " [.overlaps] (fun _ => rfl) rfl
  | test hs => exact hs.reads
  | not _ _ ih =>
    have hNot : Lexes (.text "NOT ") [.keyword .not] .blank := Lexes.text fun _ => rfl
    exact hNot.append_reads ih
  | and _ _ _ _ ihc ihd => exact ihc.separated ihd " AND " [.keyword .and] (fun _ => rfl) rfl
  | or _ _ _ ihc ihd => exact ihc.separated ihd " OR " [.keyword .or] (fun _ => rfl) rfl
  | group _ ih => exact ih.parenthesized.reads

/-- A reader finds the tokens of a condition in its text. -/
theorem WellFormed.lex {c : Condition} (h : c.WellFormed) :
    lex c.fragment.sql c.fragment.params = some c.tokens := by
  obtain ⟨us, p, done, hLexes, hFinish, hTokens, -⟩ := h.reads
  have hRun := hLexes []
  rw [List.append_nil] at hRun
  unfold Sql.lex
  rw [hRun]
  simp only
  rw [hFinish, ← hTokens]
  rfl

end Condition

end FilterSql.Sql
