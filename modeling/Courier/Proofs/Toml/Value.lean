import Courier.Proofs.Toml.Key
import Courier.Proofs.Toml.Moment
import Courier.Proofs.Toml.Number

/-!
# Values are read

A value is a scalar, or an array or an inline table of values that nest one level less. Before
anything that can follow a value it is read as itself.
-/

namespace Courier.Toml

/-! ## How values are written -/

inductive ScalarText : List Char → Value → Prop where
  | text {t s : List Char} (text : QuotedText t s) : ScalarText t (.string (String.ofList s))
  | integer {t : List Char} {n : Int} (integer : IntegerText t n) : ScalarText t (.integer n)
  | float {t : List Char} {x : Binary64} (float : FloatText t x) : ScalarText t (.float x)
  | yes : ScalarText ['t', 'r', 'u', 'e'] (.boolean true)
  | no : ScalarText ['f', 'a', 'l', 's', 'e'] (.boolean false)
  | moment {t : List Char} (moment : MomentText t) : ScalarText t .moment

section

variable (text : List Char → Value → Prop)

/-- An assignment of what is written as `text` says. -/
inductive AssignmentText : List Char → KeyPath × Value → Prop where
  | intro {k b t : List Char} {path : KeyPath} {v : Value} (key : KeyText k path)
      (blanks : Blanks b) (value : text t v) : AssignmentText (k ++ '=' :: (b ++ t)) (path, v)

/-- The items of an array and its closing bracket; a comma may follow the last item. -/
inductive ArrayText : List Char → List Value → Prop where
  | empty {g : List Char} (gap : Gap true g) : ArrayText (g ++ [']']) []
  | last {g t h : List Char} {v : Value} (before : Gap true g) (item : text t v)
      (after : Gap true h) : ArrayText (g ++ (t ++ (h ++ [']']))) [v]
  | more {g t h u : List Char} {v : Value} {vs : List Value} (before : Gap true g)
      (item : text t v) (after : Gap true h) (others : ArrayText u vs) :
      ArrayText (g ++ (t ++ (h ++ ',' :: u))) (v :: vs)

/-- The assignments of an inline table and its closing brace. -/
inductive TableText : List Char → List (KeyPath × Value) → Prop where
  | empty {b : List Char} (blanks : Blanks b) : TableText (b ++ ['\x7d']) []
  | last {t b : List Char} {entry : KeyPath × Value} (assignment : AssignmentText text t entry)
      (after : Blanks b) : TableText (t ++ (b ++ ['\x7d'])) [entry]
  | more {t b u : List Char} {entry next : KeyPath × Value} {entries : List (KeyPath × Value)}
      (assignment : AssignmentText text t entry) (after : Blanks b)
      (others : TableText u (next :: entries)) :
      TableText (t ++ (b ++ ',' :: u)) (entry :: next :: entries)

/-- A scalar, or what nests values that are written as `text` says. -/
inductive NestedText : List Char → Value → Prop where
  | scalar {t : List Char} {v : Value} (scalar : ScalarText t v) : NestedText t v
  | array {t : List Char} {vs : List Value} (items : ArrayText text t vs) :
      NestedText ('[' :: t) (.array vs)
  | table {t : List Char} {assigned : List (KeyPath × Value)} {v : Value}
      (entries : TableText text t assigned) (distinct : inlineTable? assigned = some v) :
      NestedText ('\x7b' :: t) v

end

/-- How a value is written that nests arrays and inline tables at most `depth` deep. -/
def ValueText : Nat → List Char → Value → Prop
  | 0 => ScalarText
  | depth + 1 => NestedText (ValueText depth)

theorem ScalarText.valueText {t : List Char} {v : Value} (h : ScalarText t v) (depth : Nat) :
    ValueText depth t v := by
  cases depth with
  | zero => exact h
  | succ depth => exact .scalar h

/-! ## Scalars -/

/-- What scalars begin with. -/
def BeginsScalar (c : Char) : Prop :=
  isDigit c = true ∨ c ∈ ['"', '\'', '+', '-', 'i', 'n', 't', 'f']

theorem BeginsScalar.ne {c d : Char} (h : BeginsScalar c) (digit : isDigit d = false)
    (other : d ∉ ['"', '\'', '+', '-', 'i', 'n', 't', 'f']) : c ≠ d := by
  rintro rfl
  rcases h with yes | known
  · rw [digit] at yes
    cases yes
  · exact other known

theorem ScalarText.exists_head {t : List Char} {v : Value} (h : ScalarText t v) :
    ∃ c s, t = c :: s ∧ BeginsScalar c := by
  cases h with
  | text text =>
    obtain ⟨c, s, rfl, rfl | rfl⟩ := text.exists_head
    · exact ⟨_, _, rfl, .inr (by decide)⟩
    · exact ⟨_, _, rfl, .inr (by decide)⟩
  | integer integer =>
    obtain ⟨c, s, rfl, digit | rfl | rfl⟩ := integer.exists_head
    · exact ⟨_, _, rfl, .inl digit⟩
    · exact ⟨_, _, rfl, .inr (by decide)⟩
    · exact ⟨_, _, rfl, .inr (by decide)⟩
  | float float =>
    have known : ∀ c ∈ ['+', '-', 'i', 'n'], c ∈ ['"', '\'', '+', '-', 'i', 'n', 't', 'f'] :=
      List.forall_iff_forall_mem.mp (by decide)
    obtain ⟨c, s, rfl, begins⟩ := float.exists_head
    exact ⟨_, _, rfl, begins.imp_right (known c)⟩
  | yes => exact ⟨_, _, rfl, .inr (by decide)⟩
  | no => exact ⟨_, _, rfl, .inr (by decide)⟩
  | moment moment =>
    obtain ⟨c, s, rfl, digit⟩ := moment.exists_head
    exact ⟨_, _, rfl, .inl digit⟩

/-- What begins with none of the quotes and of the letters of booleans is a date, a time or a
number. -/
theorem scalar_of_other {c : Char} (other : c ∉ ['"', '\'', 't', 'f']) (s : List Char) :
    scalar (c :: s) =
      ((moment (c :: s)).map fun rest => (.moment, rest)).or (number (c :: s)) := by
  simp only [List.mem_cons, List.not_mem_nil, or_false, not_or] at other
  rw [scalar.eq_def]
  split
  · simp_all
  · simp_all
  · simp_all
  · simp_all
  · cases moment (c :: s) <;> rfl

theorem other_of_begins {c : Char} (begins : isDigit c = true ∨ c ∈ ['+', '-', 'i', 'n']) :
    c ∉ ['"', '\'', 't', 'f'] := by
  have clear : ∀ d ∈ ['"', '\'', 't', 'f'], isDigit d = false ∧ d ∉ ['+', '-', 'i', 'n'] :=
    List.forall_iff_forall_mem.mp (by decide)
  intro inside
  rcases begins with digit | known
  · rw [(clear c inside).1] at digit
    cases digit
  · exact (clear c inside).2 known

theorem ScalarText.read {t rest : List Char} {v : Value} (h : ScalarText t v) (ends : Ends rest) :
    scalar (t ++ rest) = some (v, rest) := by
  cases h with
  | text text =>
    have read := text.read (ends.ne (by decide)) (ends.ne (by decide))
    obtain ⟨c, s, rfl, rfl | rfl⟩ := text.exists_head
    all_goals
      rw [List.cons_append] at read ⊢
      rw [scalar, read]
      rfl
  | integer integer =>
    have none := integer.moment ends
    have read := integer.number ends
    obtain ⟨c, s, rfl, begins⟩ := integer.exists_head
    have known : isDigit c = true ∨ c ∈ ['+', '-', 'i', 'n'] := by
      refine begins.imp_right ?_
      rintro (rfl | rfl) <;> decide
    rw [List.cons_append] at none read ⊢
    rw [scalar_of_other (other_of_begins known), none]
    exact read
  | float float =>
    have none := float.moment rest
    have read := float.number ends
    obtain ⟨c, s, rfl, begins⟩ := float.exists_head
    rw [List.cons_append] at none read ⊢
    rw [scalar_of_other (other_of_begins begins), none]
    exact read
  | yes => rfl
  | no => rfl
  | moment moment =>
    have read := moment.read ends
    obtain ⟨c, s, rfl, digit⟩ := moment.exists_head
    rw [List.cons_append] at read ⊢
    rw [scalar_of_other (other_of_begins (.inl digit)), read]
    rfl

/-! ## Arrays and inline tables -/

/-- What a value begins with. -/
def BeginsValue (c : Char) : Prop := BeginsScalar c ∨ c = '[' ∨ c = '\x7b'

theorem BeginsValue.ne {c d : Char} (h : BeginsValue c) (digit : isDigit d = false)
    (other : d ∉ ['"', '\'', '+', '-', 'i', 'n', 't', 'f', '[', '\x7b']) : c ≠ d := by
  rcases h with begins | rfl | rfl
  · exact begins.ne digit fun known => other (List.mem_append_left ['[', '\x7b'] known)
  · rintro rfl
    exact other (by decide)
  · rintro rfl
    exact other (by decide)

theorem BeginsValue.not_blank {c : Char} (h : BeginsValue c) : isBlank c = false := by
  have space : c ≠ ' ' := h.ne (by decide) (by decide)
  have tab : c ≠ '\t' := h.ne (by decide) (by decide)
  simp [isBlank, space, tab]

theorem BeginsValue.gap {c : Char} (h : BeginsValue c) (s : List Char) : gap (c :: s) = none := by
  have comment : c ≠ '#' := h.ne (by decide) (by decide)
  have feed : c ≠ '\n' := h.ne (by decide) (by decide)
  have carriage : c ≠ '\r' := h.ne (by decide) (by decide)
  have visible : ¬ isBlank c = true := by simp [h.not_blank]
  rw [Toml.gap, if_neg visible, newline_eq_none feed carriage]
  · rfl
  · exact comment

/-- A reader takes what is written as `text` says, and nothing where an array ends. -/
structure Reads (text : List Char → Value → Prop) (reader : Reader Value) : Prop where
  begins : ∀ {t v}, text t v → ∃ c s, t = c :: s ∧ BeginsValue c
  read : ∀ {t v}, text t v → ∀ {rest}, Ends rest → reader (t ++ rest) = some (v, rest)
  refuses : ∀ rest, reader (']' :: rest) = none

/-- A gap does not keep a value from ending. -/
theorem Gap.ends {g rest : List Char} (h : Gap true g) (ends : Ends rest) : Ends (g ++ rest) := by
  induction h with
  | nil => exact ends
  | @blank c g blank _ ih => exact .blanks (b := [c]) (.single blank) ih
  | newline ends => cases ends <;> exact .cons (by decide) _
  | comment => exact .cons (by decide) _

section

variable {text : List Char → Value → Prop} {reader : Reader Value}

theorem AssignmentText.read (reads : Reads text reader) {t : List Char} {entry : KeyPath × Value}
    (h : AssignmentText text t entry) {rest : List Char} (ends : Ends rest) :
    assignment reader (t ++ rest) = some (entry, rest) := by
  cases h with | @intro k b t path v key blanks value
  obtain ⟨c, s, rfl, begins⟩ := reads.begins value
  have path := key.read (d := '=') (by decide) (b ++ (c :: s ++ rest))
  have start : skipBlank (b ++ (c :: s ++ rest)) = c :: s ++ rest := by
    rw [skipBlank_append blanks]
    exact skipBlank_cons begins.not_blank _
  simp only [assignment, List.append_assoc, List.cons_append] at path start ⊢
  rw [path]
  simp only [Option.bind_eq_bind, Option.bind_some, expect_self, start]
  rw [← List.cons_append, reads.read value ends]
  rfl

theorem AssignmentText.exists_head {t : List Char} {entry : KeyPath × Value}
    (h : AssignmentText text t entry) (rest : List Char) :
    ∃ c s, skipBlank (t ++ rest) = c :: s ∧ BeginsKey c := by
  cases h with | intro key
  rw [List.append_assoc]
  exact key.exists_head _

theorem AssignmentText.length_pos {t : List Char} {entry : KeyPath × Value}
    (h : AssignmentText text t entry) : 0 < t.length := by
  cases h with | intro
  simp only [List.length_append, List.length_cons]
  omega

/-- One item of an array, with the gaps around it. -/
def arrayItem (reader : Reader Value) : Reader Value := fun s => do
  let (v, rest) ← reader (skipGaps s)
  return (v, skipGaps rest)

theorem arrayItem_eq (reads : Reads text reader) {g t h : List Char} {v : Value}
    (before : Gap true g) (item : text t v) (after : Gap true h) {d : Char}
    (next : d = ',' ∨ d = ']') (rest : List Char) :
    arrayItem reader (g ++ (t ++ (h ++ d :: rest))) = some (v, d :: rest) := by
  have ends : Ends (h ++ d :: rest) := by
    refine after.ends (.cons ?_ rest)
    rcases next with rfl | rfl <;> decide
  have stop : gap (d :: rest) = none := by rcases next with rfl | rfl <;> rfl
  have value := reads.read item ends
  obtain ⟨c, s, rfl, begins⟩ := reads.begins item
  have start : skipGaps (g ++ (c :: s ++ (h ++ d :: rest))) = c :: s ++ (h ++ d :: rest) :=
    before.skipGaps (begins.gap _)
  rw [arrayItem, start, value]
  exact congrArg (fun r => some (v, r)) (after.skipGaps stop)

theorem arrayItem_eq_none (reads : Reads text reader) {g : List Char} (before : Gap true g)
    (rest : List Char) : arrayItem reader (g ++ ']' :: rest) = none := by
  rw [arrayItem, before.skipGaps rfl, reads.refuses]
  rfl

/-- The items one after another; what is left is the closing bracket, with a comma and a gap before
it if one is written. -/
theorem ArrayText.readsAll (reads : Reads text reader) {t : List Char} {items : List Value}
    (h : ArrayText text t items) (rest : List Char) :
    (items = [] ∧ arrayItem reader (t ++ rest) = none ∧ skipGaps (t ++ rest) = ']' :: rest) ∨
      ∃ v vs r last, items = v :: vs ∧ arrayItem reader (t ++ rest) = some (v, r) ∧
        r.length < (t ++ rest).length ∧
        ReadsAll (fun s => expect ',' s >>= arrayItem reader) r vs last ∧
        skipGaps ((expect ',' last).getD last) = ']' :: rest := by
  induction h with
  | empty gap =>
    refine .inl ⟨rfl, ?_, ?_⟩
    · rw [List.append_assoc]
      exact arrayItem_eq_none reads gap rest
    · rw [List.append_assoc]
      exact gap.skipGaps rfl
  | @last g t h v before item after =>
    refine .inr ⟨v, [], ']' :: rest, ']' :: rest, rfl, ?_, ?_, .stop rfl, Gap.nil.skipGaps rfl⟩
    · simp only [List.append_assoc]
      exact arrayItem_eq reads before item after (.inr rfl) rest
    · obtain ⟨c, s, rfl, -⟩ := reads.begins item
      simp only [List.length_append, List.length_cons, List.length_nil]
      omega
  | @more g t h u v vs before item after _ ih =>
    have first := arrayItem_eq reads before item after (.inl rfl) (u ++ rest)
    have shorter : (',' :: (u ++ rest)).length < (g ++ (t ++ (h ++ ',' :: u)) ++ rest).length := by
      obtain ⟨c, s, rfl, -⟩ := reads.begins item
      simp only [List.length_append, List.length_cons]
      omega
    refine .inr ⟨v, vs, ',' :: (u ++ rest), ?_⟩
    rcases ih with ⟨rfl, none, left⟩ | ⟨w, ws, r, last, rfl, next, less, onward, left⟩
    · refine ⟨',' :: (u ++ rest), rfl, ?_, shorter, .stop ?_, ?_⟩
      · simp only [List.append_assoc]
        exact first
      · rw [expect_self]
        exact none
      · rw [expect_self]
        exact left
    · refine ⟨last, rfl, ?_, shorter, .next ?_ ?_ onward, left⟩
      · simp only [List.append_assoc]
        exact first
      · rw [expect_self]
        exact next
      · rw [List.length_cons]
        omega

theorem arrayItems_eq (reader : Reader Value) (s : List Char) : arrayItems reader s = (do
    let (items, rest) := (separated (arrayItem reader) ',' s).getD ([], s)
    let rest := if items = [] then skipGaps rest else skipGaps ((expect ',' rest).getD rest)
    let rest ← expect ']' rest
    return (items, rest)) :=
  rfl

theorem ArrayText.read (reads : Reads text reader) {t : List Char} {items : List Value}
    (h : ArrayText text t items) (rest : List Char) :
    arrayItems reader (t ++ rest) = some (items, rest) := by
  rw [arrayItems_eq]
  rcases h.readsAll reads rest with
    ⟨rfl, none, left⟩ | ⟨v, vs, r, last, rfl, first, -, onward, left⟩
  · have nothing : separated (arrayItem reader) ',' (t ++ rest) = Option.none := by
      rw [separated, none]
      rfl
    simp [nothing, left, expect_self]
  · simp [separated_of_readsAll first onward, left, expect_self]

/-- One assignment of an inline table, with the blanks after it. -/
def tableItem (reader : Reader Value) : Reader (KeyPath × Value) := fun s => do
  let (entry, rest) ← assignment reader s
  return (entry, skipBlank rest)

theorem tableItem_eq (reads : Reads text reader) {t b : List Char} {entry : KeyPath × Value}
    (assignment : AssignmentText text t entry) (after : Blanks b) {d : Char}
    (next : d = ',' ∨ d = '\x7d') (rest : List Char) :
    tableItem reader (t ++ (b ++ d :: rest)) = some (entry, d :: rest) := by
  have ends : Ends (b ++ d :: rest) := by
    refine .blanks after (.cons ?_ rest)
    rcases next with rfl | rfl <;> decide
  have left : skipBlank (b ++ d :: rest) = d :: rest := by
    rw [skipBlank_append after]
    rcases next with rfl | rfl <;> rfl
  rw [tableItem, assignment.read reads ends]
  exact congrArg (fun r => some (entry, r)) left

theorem tableItem_eq_none {b : List Char} (blanks : Blanks b) (rest : List Char) :
    tableItem reader (b ++ '\x7d' :: rest) = none := by
  have part : keyPart (b ++ '\x7d' :: rest) = none := by
    rw [keyPart, skipBlank_append blanks]
    rfl
  rw [tableItem, assignment, keyPath_eq, separated, part]
  rfl

theorem TableText.readsAll (reads : Reads text reader) {t : List Char}
    {entries : List (KeyPath × Value)} (h : TableText text t entries) (rest : List Char) :
    (entries = [] ∧ tableItem reader (t ++ rest) = none ∧ skipBlank (t ++ rest) = '\x7d' :: rest) ∨
      ∃ entry others r, entries = entry :: others ∧ tableItem reader (t ++ rest) = some (entry, r) ∧
        r.length < (t ++ rest).length ∧
        ReadsAll (fun s => expect ',' s >>= tableItem reader) r others ('\x7d' :: rest) := by
  induction h with
  | empty blanks =>
    refine .inl ⟨rfl, ?_, ?_⟩
    · rw [List.append_assoc]
      exact tableItem_eq_none blanks rest
    · rw [List.append_assoc, skipBlank_append blanks]
      rfl
  | @last t b entry assignment after =>
    refine .inr ⟨entry, [], '\x7d' :: rest, rfl, ?_, ?_, .stop rfl⟩
    · simp only [List.append_assoc]
      exact tableItem_eq reads assignment after (.inr rfl) rest
    · have longer := assignment.length_pos
      simp only [List.length_append, List.length_cons, List.length_nil]
      omega
  | @more t b u entry next entries assignment after _ ih =>
    obtain ⟨absurd, -⟩ | ⟨first, others, r, same, read, less, onward⟩ := ih
    · cases absurd
    cases same
    refine .inr ⟨entry, next :: entries, ',' :: (u ++ rest), rfl, ?_, ?_,
      .next ?_ ?_ onward⟩
    · simp only [List.append_assoc]
      exact tableItem_eq reads assignment after (.inl rfl) (u ++ rest)
    · have longer := assignment.length_pos
      simp only [List.length_append, List.length_cons]
      omega
    · rw [expect_self]
      exact read
    · rw [List.length_cons]
      omega

theorem inlineEntries_eq (reader : Reader Value) (s : List Char) : inlineEntries reader s = (do
    let (entries, rest) := (separated (tableItem reader) ',' s).getD ([], s)
    let rest ← expect '\x7d' (skipBlank rest)
    return (entries, rest)) :=
  rfl

theorem TableText.read (reads : Reads text reader) {t : List Char}
    {entries : List (KeyPath × Value)} (h : TableText text t entries) (rest : List Char) :
    inlineEntries reader (t ++ rest) = some (entries, rest) := by
  rw [inlineEntries_eq]
  rcases h.readsAll reads rest with ⟨rfl, none, left⟩ | ⟨entry, others, r, rfl, first, -, onward⟩
  · have nothing : separated (tableItem reader) ',' (t ++ rest) = Option.none := by
      rw [separated, none]
      rfl
    simp [nothing, left, expect_self]
  · have left : skipBlank ('\x7d' :: rest) = '\x7d' :: rest := rfl
    simp [separated_of_readsAll first onward, left, expect_self]

end

/-! ## Values of any depth -/

theorem value_of_scalar {c : Char} (array : c ≠ '[') (table : c ≠ '\x7b') (depth : Nat)
    (s : List Char) : value depth (c :: s) = scalar (c :: s) := by
  cases depth <;> rw [value]
  all_goals
    intro tail same
    have first := (List.cons.inj same).1
    contradiction

theorem ScalarText.value {t rest : List Char} {v : Value} (h : ScalarText t v) (ends : Ends rest)
    (depth : Nat) : value depth (t ++ rest) = some (v, rest) := by
  have read := h.read ends
  obtain ⟨c, s, rfl, begins⟩ := h.exists_head
  have array : c ≠ '[' := begins.ne (by decide) (by decide)
  have table : c ≠ '\x7b' := begins.ne (by decide) (by decide)
  rw [List.cons_append] at read ⊢
  rw [value_of_scalar array table, read]

theorem value_of_bracket (depth : Nat) (rest : List Char) : value depth (']' :: rest) = none := by
  rw [value_of_scalar (by decide) (by decide), scalar_of_other (by decide),
    moment_of_not_isDigit (by decide)]
  rfl

/-- However a value is written, it is read as itself. -/
theorem reads_value (depth : Nat) : Reads (ValueText depth) (value depth) := by
  have scalar {t : List Char} {v : Value} (h : ScalarText t v) :
      ∃ c s, t = c :: s ∧ BeginsValue c := by
    obtain ⟨c, s, rfl, begins⟩ := h.exists_head
    exact ⟨c, s, rfl, .inl begins⟩
  induction depth with
  | zero => exact ⟨scalar, fun h _ ends => h.value ends 0, value_of_bracket 0⟩
  | succ depth ih =>
    refine ⟨fun h => ?_, fun h rest ends => ?_, value_of_bracket (depth + 1)⟩
    · cases h with
      | scalar h => exact scalar h
      | array => exact ⟨_, _, rfl, .inr (.inl rfl)⟩
      | table => exact ⟨_, _, rfl, .inr (.inr rfl)⟩
    · cases h with
      | scalar h => exact h.value ends (depth + 1)
      | array items =>
        rw [List.cons_append, Toml.value, items.read ih]
        rfl
      | table entries distinct =>
        rw [List.cons_append, Toml.value, entries.read ih]
        simp [distinct]

end Courier.Toml
