import Courier.Proofs.Toml.Value

/-!
# Documents are read

A document is a sequence of expressions, each on lines of its own: a header, an assignment, or
nothing, with a comment after it or without. However they are written, they are read as their
statements.
-/

namespace Courier.Toml

/-! ## How documents are written -/

/-- What stands on a line before blanks and a comment, with what it says. -/
inductive Expression : List Char → Option Statement → Prop where
  | blank {b : List Char} (blanks : Blanks b) : Expression b none
  | assign {t : List Char} {path : KeyPath} {v : Value}
      (assignment : AssignmentText (ValueText nestingLimit) t (path, v)) :
      Expression t (some (.assign path v))
  | table {b k : List Char} {path : KeyPath} (blanks : Blanks b) (key : KeyText k path) :
      Expression (b ++ '[' :: (k ++ [']'])) (some (.table path))
  | tableItem {b k : List Char} {path : KeyPath} (blanks : Blanks b) (key : KeyText k path) :
      Expression (b ++ '[' :: '[' :: (k ++ [']', ']'])) (some (.tableItem path))

/-- Expressions with line ends between them. -/
inductive Lines : List Char → List Statement → Prop where
  | last {t a : List Char} {said : Option Statement} (expression : Expression t said)
      (remark : Remark a) : Lines (t ++ a) said.toList
  | more {t a l u : List Char} {said : Option Statement} {statements : List Statement}
      (expression : Expression t said) (remark : Remark a) (ends : Newline l)
      (others : Lines u statements) : Lines (t ++ (a ++ (l ++ u))) (said.toList ++ statements)

/-- How a document is written, with a byte order mark or without. -/
inductive DocumentText : List Char → List Statement → Prop where
  | plain {t : List Char} {statements : List Statement} (lines : Lines t statements) :
      DocumentText t statements
  | marked {t : List Char} {statements : List Statement} (lines : Lines t statements) :
      DocumentText ('\uFEFF' :: t) statements

/-! ## Lines -/

theorem lineEnd_skipBlank (s : List Char) : lineEnd (skipBlank s) = lineEnd s := by
  rw [lineEnd, lineEnd, skipBlank_skipBlank]

/-- A line ends with a comment or with a line end, if not with the text. -/
theorem mem_of_lineEnd {s rest : List Char} (h : lineEnd s = some rest) {c : Char}
    (first : (skipBlank s).head? = some c) : c ∈ ['#', '\n', '\r'] := by
  obtain ⟨u, same⟩ := List.head?_eq_some_iff.mp first
  rw [lineEnd, same] at h
  refine Decidable.byContradiction fun other => ?_
  simp only [List.mem_cons, List.not_mem_nil, or_false, not_or] at other
  obtain ⟨comment, feed, carriage⟩ := other
  have kept : skipComment (c :: u) = c :: u := by
    rw [skipComment]
    exact fun _ same => comment (List.cons.inj same).1
  rw [kept] at h
  simp only [newline_eq_none feed carriage] at h
  cases h

theorem ends_of_lineEnd {s rest : List Char} (h : lineEnd s = some rest) : Ends s := by
  have known : ∀ c ∈ ['#', '\n', '\r'], c ∈ ['\n', '\r', '#', ',', ']', '\x7d'] :=
    List.forall_iff_forall_mem.mp (by decide)
  exact fun c first => known c (mem_of_lineEnd h first)

theorem header_table {k : List Char} {path : KeyPath} (key : KeyText k path) (rest : List Char) :
    header (k ++ ']' :: rest) = some (.table path, rest) := by
  have read := key.read (d := ']') (by decide) rest
  obtain ⟨c, s, first, begins⟩ := key.exists_head (']' :: rest)
  rw [header.eq_def]
  split
  · rename_i more same
    rw [same] at first
    exact absurd (List.cons.inj first).1.symm (begins.ne (by decide) (by decide))
  · simp [read, expect_self]

theorem header_tableItem {k : List Char} {path : KeyPath} (key : KeyText k path)
    (rest : List Char) :
    header ('[' :: (k ++ ']' :: ']' :: rest)) = some (.tableItem path, rest) := by
  have read := key.read (d := ']') (by decide) (']' :: rest)
  simp [header, read, expect_self]

theorem line_of_bracket {b s after rest : List Char} {said : Statement} (blanks : Blanks b)
    (read : header (s ++ after) = some (said, after)) (ends : lineEnd after = some rest) :
    line (b ++ '[' :: (s ++ after)) = some (some said, rest) := by
  have start : skipBlank (b ++ '[' :: (s ++ after)) = '[' :: (s ++ after) := by
    rw [skipBlank_append blanks]
    rfl
  rw [line, start]
  simp [read, ends]

theorem assignment_skipBlank (reader : Reader Value) (s : List Char) :
    assignment reader (skipBlank s) = assignment reader s := by
  rw [assignment, assignment, keyPath_skipBlank]

/-- An expression is read before any end of a line; one that says nothing must have something
visible after it. -/
theorem Expression.line {t : List Char} {said : Option Statement} (h : Expression t said)
    {after rest : List Char} (ends : lineEnd after = some rest)
    (visible : said = none → skipBlank after ≠ []) : line (t ++ after) = some (said, rest) := by
  cases h with
  | blank blanks =>
    obtain ⟨c, s, same⟩ := List.exists_cons_of_ne_nil (visible rfl)
    have known := mem_of_lineEnd ends (by rw [same, List.head?_cons])
    rw [← lineEnd_skipBlank, same] at ends
    rw [Toml.line, skipBlank_append blanks, same]
    simp only [List.mem_cons, List.not_mem_nil, or_false] at known
    rcases known with rfl | rfl | rfl <;> simp [ends]
  | @assign t path v assignment =>
    obtain ⟨c, s, start, begins⟩ := assignment.exists_head after
    have read := assignment.read (reads_value nestingLimit) (ends_of_lineEnd ends)
    rw [← assignment_skipBlank, start] at read
    have bracket : c ≠ '[' := begins.ne (by decide) (by decide)
    have comment : c ≠ '#' := begins.ne (by decide) (by decide)
    have feed : c ≠ '\n' := begins.ne (by decide) (by decide)
    have carriage : c ≠ '\r' := begins.ne (by decide) (by decide)
    have plain : ¬ (c = '#' ∨ c = '\n' ∨ c = '\r') := by simp [comment, feed, carriage]
    simp only [Toml.line, start]
    rw [if_neg plain, read]
    simp [ends]
  | @table b k path blanks key =>
    have read := header_table key after
    rw [← List.singleton_append, ← List.append_assoc] at read
    rw [List.append_assoc, List.cons_append]
    exact line_of_bracket blanks read ends
  | @tableItem b k path blanks key =>
    have read := header_tableItem key after
    have whole : '[' :: (k ++ ']' :: ']' :: after) = '[' :: (k ++ [']', ']']) ++ after := by simp
    rw [whole] at read
    rw [List.append_assoc, List.cons_append]
    exact line_of_bracket blanks read ends

/-- Only an expression that says nothing is blank. -/
theorem Expression.eq_none {t after : List Char} {said : Option Statement} (h : Expression t said)
    (blank : skipBlank (t ++ after) = []) : said = none := by
  cases h with
  | blank => rfl
  | assign assignment =>
    obtain ⟨c, s, start, -⟩ := assignment.exists_head after
    rw [start] at blank
    cases blank
  | table blanks =>
    rw [List.append_assoc, skipBlank_append blanks] at blank
    cases blank
  | tableItem blanks =>
    rw [List.append_assoc, skipBlank_append blanks] at blank
    cases blank

theorem line_of_blank {s : List Char} (blank : skipBlank s = []) : line s = none := by
  rw [line, blank]

/-! ## Documents -/

theorem Lines.readsAll {t : List Char} {statements : List Statement} (h : Lines t statements) :
    ∃ said final, ReadsAll line t said final ∧ skipBlank final = [] ∧
      said.filterMap id = statements := by
  induction h with
  | @last t a said expression remark =>
    by_cases blank : skipBlank (t ++ a) = []
    · have silent := expression.eq_none blank
      subst silent
      exact ⟨[], t ++ a, .stop (line_of_blank blank), blank, rfl⟩
    · have read := expression.line remark.lineEnd.1 fun silent left => by
        subst silent
        cases expression with
        | blank blanks => exact blank (by rw [skipBlank_append blanks, left])
      have some : t ++ a ≠ [] := fun none => blank (by rw [none]; rfl)
      refine ⟨[said], [], .next read (List.length_pos_iff.mpr some) (.stop rfl), rfl, ?_⟩
      cases said <;> rfl
  | @more t a l u said statements expression remark ends _ ih =>
    obtain ⟨others, final, onward, blank, all⟩ := ih
    have read := expression.line (remark.lineEnd.2 l u ends) fun _ => remark.visible ends u
    refine ⟨said :: others, final, .next read ?_ onward, blank, ?_⟩
    · have longer := ends.length_pos
      simp only [List.length_append]
      omega
    · cases said with
      | none => exact all
      | some statement => exact congrArg (statement :: ·) all

theorem line_of_mark (s : List Char) : line ('\uFEFF' :: s) = none := by
  rfl

/-- A document is read as its statements. -/
theorem DocumentText.statements? {t : List Char} {statements : List Statement}
    (h : DocumentText t statements) : statements? t = some statements := by
  cases h with
  | plain lines =>
    obtain ⟨said, final, reads, blank, all⟩ := lines.readsAll
    rw [Toml.statements?]
    · simp only [reads.many_eq, if_pos blank, all]
    · rintro rest rfl
      -- a mark is no line, and is not blank
      cases reads with
      | stop =>
        rw [skipBlank_cons (by decide)] at blank
        cases blank
      | next read =>
        rw [line_of_mark] at read
        cases read
  | marked lines =>
    obtain ⟨said, final, reads, blank, all⟩ := lines.readsAll
    simp only [Toml.statements?, reads.many_eq, if_pos blank, all]

/-! ## Documents line by line -/

/-- A line with what it says. -/
inductive LineText : List Char → Option Statement → Prop where
  | intro {t : List Char} {said : Option Statement} (expression : Expression t said) :
      LineText (t ++ ['\n']) said

theorem lines_flatMap {lines : List (List Char × Option Statement)}
    (each : ∀ l ∈ lines, LineText l.1 l.2) :
    Lines (lines.flatMap (·.1)) (lines.filterMap (·.2)) := by
  induction lines with
  | nil => exact .last (.blank .nil) (.blanks .nil)
  | cons l lines ih =>
    obtain ⟨t, said⟩ := l
    have first : LineText t said := each (t, said) List.mem_cons_self
    have others := ih fun m hm => each m (List.mem_cons_of_mem _ hm)
    cases first with | @intro t said expression
    have all := Lines.more expression (.blanks .nil) .feed others
    rw [List.flatMap_cons, List.append_assoc]
    cases said <;> exact all

theorem lineText_empty : LineText ['\n'] none := .intro (t := []) (.blank .nil)

theorem lineText_assign {key : String} (bare : BareKey key) {t : List Char} {v : Value}
    (value : ValueText nestingLimit t v) :
    LineText (key.toList ++ [' ', '=', ' '] ++ t ++ ['\n']) (some (.assign ⟨[], key⟩ v)) := by
  have path := bare.keyText (.single (c := ' ') (by decide))
  have line := LineText.intro (.assign (.intro path (.single (c := ' ') (by decide)) value))
  simpa using line

theorem lineText_header {name : String} (bare : BareKey name) :
    LineText ('[' :: name.toList ++ [']', '\n']) (some (.table ⟨[], name⟩)) := by
  have line := LineText.intro (.table .nil (bare.keyText .nil))
  simpa using line

end Courier.Toml
