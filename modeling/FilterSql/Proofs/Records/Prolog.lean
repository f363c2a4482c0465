import FilterSql.Records.Prolog
import Mathlib.Data.List.Infix
import Mathlib.Logic.IsEmpty.Basic

/-!
# What prologs are taken off

A body loses a byte order mark, and the instruction at its beginning if the name of this instruction
begins with `xml`. That is the XML declaration if the name ends there. Another instruction, such as
that of a style sheet, is lost as well.

* `Opening`: an instruction at the beginning of a body whose name begins with `xml`.
* `Stripped`: what is left of a body when its declaration is taken off, and nothing else.
* `stripProlog_iff`: a body loses its declaration only, unless it begins with such an instruction.
* `stripProlog_stylesheet`: a style sheet is lost.
-/

namespace FilterSql.Records

/-- The end of an instruction: `?>`. -/
def instructionEnd : List UInt8 := [0x3F, 0x3E]

/-- `b` is the body `body` without the byte order mark, if there is one. -/
def Unmarked (body b : List UInt8) : Prop :=
  body = byteOrderMark ++ b ∨ ¬byteOrderMark <+: body ∧ body = b

/-- An instruction at the beginning of a body, behind white space, whose name begins with `xml`. It
ends with the first `?>`. White space and the rest of the body follow. -/
structure Opening (body : List UInt8) where
  before : List UInt8
  inner : List UInt8
  after : List UInt8
  rest : List UInt8
  body_eq : body = before ++ (declarationStart ++ (inner ++ (instructionEnd ++ (after ++ rest))))
  before_space : ∀ b ∈ before, isAsciiSpace b = true
  /-- The end is the first one: neither `inner` nor its last byte and the end hold another one. -/
  first_end : ¬instructionEnd <:+: inner ++ [0x3F]
  after_space : ∀ b ∈ after, isAsciiSpace b = true
  rest_solid : ∀ b ∈ rest.head?, isAsciiSpace b = false

/-- The instruction is the XML declaration: its name ends behind `xml`. -/
def Opening.IsDeclaration {body : List UInt8} (o : Opening body) : Prop :=
  ∀ b ∈ o.inner.head?, isAsciiSpace b = true

/-- `r` is the body without its declaration and the white space around it, if it begins with one,
and the body itself otherwise. -/
def Stripped (body r : List UInt8) : Prop :=
  (∃ o : Opening body, o.IsDeclaration ∧ r = o.rest) ∨
    (∀ o : Opening body, ¬o.IsDeclaration) ∧ r = body

/-! ## The end of an instruction -/

/-- What follows an instruction stands behind the first end. -/
theorem afterDeclaration?_eq_some {bytes rest : List UInt8} :
    afterDeclaration? bytes = some rest ↔
      ∃ inner, bytes = inner ++ (instructionEnd ++ rest) ∧
        ¬instructionEnd <:+: inner ++ [0x3F] := by
  fun_induction afterDeclaration? bytes with
  | case1 tail =>
    constructor
    · intro h
      exact ⟨[], by rw [Option.some.inj h]; rfl, by decide⟩
    · rintro ⟨inner, hBytes, hFirst⟩
      rcases inner with _ | ⟨x, _ | ⟨y, inner⟩⟩
      · simp [instructionEnd] at hBytes
        rw [hBytes]
      · simp [instructionEnd] at hBytes
      · simp only [List.cons_append, List.cons.injEq] at hBytes
        obtain ⟨rfl, rfl, -⟩ := hBytes
        exact absurd (List.prefix_append instructionEnd _).isInfix hFirst
  | case2 b tail hEnd ih =>
    rw [ih]
    constructor
    · rintro ⟨inner, rfl, hFirst⟩
      refine ⟨b :: inner, rfl, ?_⟩
      rw [List.cons_append, List.infix_cons_iff]
      rintro (hStart | hLater)
      · rcases inner with _ | ⟨x, inner⟩
        · simp [instructionEnd] at hStart
        · simp [instructionEnd] at hStart
          obtain ⟨rfl, rfl⟩ := hStart
          exact hEnd _ rfl rfl
      · exact hFirst hLater
    · rintro ⟨inner, hBytes, hFirst⟩
      rcases inner with _ | ⟨x, inner⟩
      · simp [instructionEnd] at hBytes
        exact (hEnd _ hBytes.1 hBytes.2).elim
      · simp only [List.cons_append, List.cons.injEq] at hBytes
        exact ⟨inner, hBytes.2, fun hInner => hFirst (hInner.trans (List.suffix_cons x _).isInfix)⟩
  | case3 => simp [instructionEnd]

/-- The start of a declaration holds no end. -/
theorem afterDeclaration?_start (bytes : List UInt8) :
    afterDeclaration? (declarationStart ++ bytes) = afterDeclaration? bytes := by
  simp [declarationStart, afterDeclaration?]

/-! ## White space -/

theorem dropSpace_append {space bytes : List UInt8} (hSpace : ∀ b ∈ space, isAsciiSpace b = true)
    (hBytes : ∀ b ∈ bytes.head?, isAsciiSpace b = false) : dropSpace (space ++ bytes) = bytes := by
  unfold dropSpace
  rw [List.dropWhile_append_of_pos hSpace]
  cases bytes with
  | nil => rfl
  | cons b bytes => simp [hBytes b rfl]

theorem exists_space (bytes : List UInt8) : ∃ space, bytes = space ++ dropSpace bytes ∧
    (∀ b ∈ space, isAsciiSpace b = true) ∧
      ∀ b ∈ (dropSpace bytes).head?, isAsciiSpace b = false := by
  refine ⟨bytes.takeWhile isAsciiSpace, List.takeWhile_append_dropWhile.symm,
    fun b hb => List.all_eq_true.mp List.all_takeWhile b hb, fun b hb => ?_⟩
  have hHead := List.head?_dropWhile_not isAsciiSpace bytes
  unfold dropSpace at hb
  rw [Option.mem_def.mp hb] at hHead
  exact hHead

/-! ## Openings -/

/-- A body without its opening and the white space around it, if it has one. -/
def stripOpening (body : List UInt8) : List UInt8 :=
  if declarationStart.isPrefixOf (dropSpace body) then
    match afterDeclaration? (dropSpace body) with
    | some rest => dropSpace rest
    | none => body
  else body

namespace Opening

variable {body : List UInt8}

theorem dropSpace_body (o : Opening body) : dropSpace body =
    declarationStart ++ (o.inner ++ (instructionEnd ++ (o.after ++ o.rest))) := by
  have hSolid : ∀ b ∈ (declarationStart ++
      (o.inner ++ (instructionEnd ++ (o.after ++ o.rest)))).head?, isAsciiSpace b = false := by
    simp [declarationStart]
    decide
  rw [← dropSpace_append o.before_space hSolid, ← o.body_eq]

theorem after_start (o : Opening body) :
    afterDeclaration? (dropSpace body) = some (o.after ++ o.rest) := by
  rw [o.dropSpace_body, afterDeclaration?_start]
  exact afterDeclaration?_eq_some.mpr ⟨_, rfl, o.first_end⟩

/-- A body begins with one such instruction at most. -/
theorem inner_eq (o p : Opening body) : o.inner = p.inner := by
  have hTail : o.after ++ o.rest = p.after ++ p.rest :=
    Option.some.inj (o.after_start.symm.trans p.after_start)
  have hBody := o.dropSpace_body.symm.trans p.dropSpace_body
  rw [hTail] at hBody
  exact List.append_cancel_right (List.append_cancel_left hBody)

theorem stripOpening_eq (o : Opening body) : stripOpening body = o.rest := by
  have hStart : declarationStart.isPrefixOf (dropSpace body) = true := by
    rw [o.dropSpace_body]
    exact List.isPrefixOf_iff_prefix.mpr (List.prefix_append _ _)
  unfold stripOpening
  rw [if_pos hStart, o.after_start]
  exact dropSpace_append o.after_space o.rest_solid

theorem rest_ne (o : Opening body) : o.rest ≠ body := by
  intro h
  have hLength := congrArg List.length o.body_eq
  simp [declarationStart, ← h] at hLength
  omega

end Opening

theorem stripOpening_of_isEmpty {body : List UInt8} (h : IsEmpty (Opening body)) :
    stripOpening body = body := by
  unfold stripOpening
  split
  · rename_i hStart
    obtain ⟨tail, hTail⟩ := List.isPrefixOf_iff_prefix.mp hStart
    cases hAfter : afterDeclaration? (dropSpace body) with
    | none => rfl
    | some found =>
      rw [← hTail, afterDeclaration?_start] at hAfter
      obtain ⟨inner, rfl, hFirst⟩ := afterDeclaration?_eq_some.mp hAfter
      obtain ⟨before, hBody, hBefore, -⟩ := exists_space body
      obtain ⟨after, hFound, hAfterSpace, hRest⟩ := exists_space found
      refine h.elim ⟨before, inner, after, dropSpace found, ?_, hBefore, hFirst, hAfterSpace, hRest⟩
      rw [← hFound, hTail]
      exact hBody
  · rfl

/-- What is taken off a body is a prologue. -/
theorem stripOpening_suffix (body : List UInt8) : stripOpening body <:+ body := by
  by_cases h : IsEmpty (Opening body)
  · rw [stripOpening_of_isEmpty h]
  · obtain ⟨o⟩ := not_isEmpty_iff.mp h
    rw [o.stripOpening_eq]
    refine ⟨o.before ++ declarationStart ++ o.inner ++ instructionEnd ++ o.after, ?_⟩
    conv_rhs => rw [o.body_eq]
    simp

/-- A body is stripped of its declaration, unless it begins with another instruction. -/
theorem stripped_iff {body : List UInt8} :
    Stripped body (stripOpening body) ↔ ∀ o : Opening body, o.IsDeclaration := by
  constructor
  · rintro (⟨o, hDeclared, -⟩ | ⟨-, hSame⟩) p
    · unfold Opening.IsDeclaration
      rwa [p.inner_eq o]
    · exact absurd (p.stripOpening_eq.symm.trans hSame) p.rest_ne
  · intro hAll
    by_cases h : IsEmpty (Opening body)
    · exact .inr ⟨fun o => h.elim o, stripOpening_of_isEmpty h⟩
    · obtain ⟨o⟩ := not_isEmpty_iff.mp h
      exact .inl ⟨o, hAll o, o.stripOpening_eq⟩

/-! ## Bodies -/

theorem unmarked_dropStart (body : List UInt8) : Unmarked body (dropStart byteOrderMark body) := by
  unfold dropStart
  by_cases h : byteOrderMark.isPrefixOf body = true
  · rw [if_pos h]
    obtain ⟨rest, rfl⟩ := List.isPrefixOf_iff_prefix.mp h
    exact .inl (by rw [List.drop_left])
  · rw [if_neg h]
    exact .inr ⟨fun hMark => h (List.isPrefixOf_iff_prefix.mpr hMark), rfl⟩

theorem Unmarked.unique {body b c : List UInt8} (hb : Unmarked body b) (hc : Unmarked body c) :
    b = c := by
  rcases hb with rfl | ⟨hNone, rfl⟩ <;> rcases hc with h | ⟨hNone', h⟩
  · exact List.append_cancel_left h
  · exact absurd (List.prefix_append _ _) hNone'
  · exact absurd ⟨c, h.symm⟩ hNone
  · exact h

theorem Unmarked.suffix {body b : List UInt8} (h : Unmarked body b) : b <:+ body := by
  rcases h with rfl | ⟨-, rfl⟩
  · exact List.suffix_append _ _
  · exact List.suffix_rfl

theorem stripProlog_eq {body b : List UInt8} (h : Unmarked body b) :
    stripProlog body = stripOpening b := by
  rw [← (unmarked_dropStart body).unique h]
  rfl

/-- **A body loses its declaration only, unless it begins with another instruction.** What is left
is always the end of the body. If it begins, behind its byte order mark and white space, with an
instruction whose name begins with `xml`, that is what follows the instruction and white space;
otherwise only the mark is taken off. So the body is stripped as it should be just if that
instruction is the declaration. -/
theorem stripProlog_iff (body : List UInt8) : stripProlog body <:+ body ∧
    ∃ b, Unmarked body b ∧ (∀ o : Opening b, stripProlog body = o.rest) ∧
      (IsEmpty (Opening b) → stripProlog body = b) ∧
      (Stripped b (stripProlog body) ↔ ∀ o : Opening b, o.IsDeclaration) := by
  have hUnmarked := unmarked_dropStart body
  have hStrip := stripProlog_eq hUnmarked
  rw [hStrip]
  exact ⟨(stripOpening_suffix _).trans hUnmarked.suffix, _, hUnmarked,
    fun o => o.stripOpening_eq, stripOpening_of_isEmpty, stripped_iff⟩

/-- `-stylesheet`, with which the name of an instruction goes on behind `xml`. -/
def stylesheetName : List UInt8 :=
  [0x2D, 0x73, 0x74, 0x79, 0x6C, 0x65, 0x73, 0x68, 0x65, 0x65, 0x74]

/-- `<a/>`. -/
def emptyElement : List UInt8 := [0x3C, 0x61, 0x2F, 0x3E]

/-- `<?xml-stylesheet?><a/>`. -/
def styledBody : List UInt8 :=
  declarationStart ++ (stylesheetName ++ (instructionEnd ++ emptyElement))

/-- A style sheet is lost, although it is no declaration. -/
theorem stripProlog_stylesheet : stripProlog styledBody = emptyElement ∧
    ¬∃ b, Unmarked styledBody b ∧ Stripped b (stripProlog styledBody) := by
  let sheet : Opening styledBody :=
    ⟨[], stylesheetName, [], emptyElement, rfl, by simp, by decide, by simp,
      by simp [emptyElement, isAsciiSpace]⟩
  have hUnmarked : Unmarked styledBody styledBody := .inr ⟨by decide, rfl⟩
  refine ⟨by decide, ?_⟩
  rintro ⟨b, hBody, hStripped⟩
  obtain rfl := hBody.unique hUnmarked
  rw [stripProlog_eq hUnmarked, stripped_iff] at hStripped
  exact absurd (hStripped sheet 0x2D rfl) (by decide)

end FilterSql.Records
