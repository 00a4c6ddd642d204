import Mathlib.Tactic.SplitIfs
import Courier.Proofs.Toml.Reader
import Courier.Toml.Text
import Courier.Toml.Writer

/-!
# Quoted texts are read

A text is quoted on one line or on several, with escapes between double quotes and without between
single ones. However it is quoted, it is read as that text, and so is what the writer makes of it.
The readers are followed piece by piece: a character stands for itself or is spelled by an escape,
and on several lines up to two quotes in a row stand for themselves, also right before the closing
ones.
-/

namespace Courier.Toml

/-! ## Characters of a text -/

theorem isPlain_of_not_isControl {c : Char} (h : isControl c = false) (inLine : c ≠ '\n') :
    isPlain c = true := by
  simp only [isControl, Bool.or_eq_false_iff, Bool.and_eq_false_iff, decide_eq_false_iff_not,
    Char.not_lt] at h
  simp only [isPlain, Bool.or_eq_true, Bool.and_eq_true, decide_eq_true_eq]
  by_cases tab : c = '\t'
  · exact .inl tab
  · exact .inr (by simp_all)

theorem ne_return_of_not_isControl {c : Char} (h : isControl c = false) : c ≠ '\r' := by
  intro hc
  subst c
  simp [isControl] at h

/-- The letters of the short escapes, with what they stand for. -/
def escapeLetters : List (Char × Char) :=
  [('b', '\x08'), ('t', '\t'), ('n', '\n'), ('f', '\x0c'), ('r', '\r'), ('"', '"'), ('\\', '\\')]

/-- An escape after its backslash: a letter, or the number of a character after a mark. -/
inductive Escape : List Char → Char → Prop where
  | letter {l c : Char} (known : (l, c) ∈ escapeLetters) : Escape [l] c
  | code {mark : Char} {ds : List Char} (kind : (mark, ds.length) ∈ [('u', 4), ('U', 8)])
      (hex : ∀ d ∈ ds, isHexDigit d = true) (scalar : (numeral 16 ds).isValidChar) :
      Escape (mark :: ds) (Char.ofNat (numeral 16 ds))

/-- How a character is spelled in a quoted text: by itself, or by an escape. -/
inductive Spells (escapes : Bool) : List Char → Char → Prop where
  | plain {c : Char} (plain : isPlain c = true) (free : escapes = true → c ≠ '\\') :
      Spells escapes [c] c
  | escaped {e : List Char} {c : Char} (allowed : escapes = true) (escape : Escape e c) :
      Spells escapes ('\\' :: e) c

theorem hexScalar_of_digits {ds : List Char} (hex : ∀ d ∈ ds, isHexDigit d = true)
    (scalar : (numeral 16 ds).isValidChar) (rest : List Char) :
    hexScalar ds.length (ds ++ rest) = some (Char.ofNat (numeral 16 ds), rest) := by
  simp only [hexScalar, List.take_left, List.drop_left]
  exact if_pos ⟨trivial, List.all_eq_true.mpr hex, scalar⟩

theorem Escape.read {e : List Char} {c : Char} (h : Escape e c) (rest : List Char) :
    escape (e ++ rest) = some (c, rest) := by
  cases h with
  | letter known =>
    simp only [escapeLetters, List.mem_cons, Prod.mk.injEq, List.not_mem_nil, or_false] at known
    rcases known with ⟨rfl, rfl⟩ | ⟨rfl, rfl⟩ | ⟨rfl, rfl⟩ | ⟨rfl, rfl⟩ | ⟨rfl, rfl⟩ |
      ⟨rfl, rfl⟩ | ⟨rfl, rfl⟩ <;> rfl
  | code kind hex scalar =>
    have read := hexScalar_of_digits hex scalar rest
    simp only [List.mem_cons, Prod.mk.injEq, List.not_mem_nil, or_false] at kind
    rcases kind with ⟨rfl, four⟩ | ⟨rfl, eight⟩
    · rw [four] at read
      exact read
    · rw [eight] at read
      exact read

theorem newline_eq_none {c : Char} (feed : c ≠ '\n') (carriage : c ≠ '\r') (rest : List Char) :
    newline (c :: rest) = none := by
  unfold newline
  split <;> simp_all

theorem foldedBreak_eq_none {c : Char} (visible : c ∉ [' ', '\t', '\n', '\r']) (rest : List Char) :
    foldedBreak (c :: rest) = none := by
  simp only [List.mem_cons, List.not_mem_nil, or_false, not_or] at visible
  obtain ⟨space, tab, feed, carriage⟩ := visible
  rw [foldedBreak, skipBlank_cons (by simp [isBlank, space, tab]), newline_eq_none feed carriage]
  rfl

theorem Escape.foldedBreak {e : List Char} {c : Char} (h : Escape e c) (rest : List Char) :
    foldedBreak (e ++ rest) = none := by
  cases h with
  | letter known =>
    have visible : ∀ entry ∈ escapeLetters, entry.1 ∉ [' ', '\t', '\n', '\r'] := by decide
    exact foldedBreak_eq_none (visible _ known) rest
  | code kind =>
    have visible : ∀ entry ∈ [('u', 4), ('U', 8)], entry.1 ∉ [' ', '\t', '\n', '\r'] := by decide
    exact foldedBreak_eq_none (visible _ kind) _

theorem Spells.lineChar {escapes : Bool} {e : List Char} {c quote : Char}
    (h : Spells escapes e c) (other : e.head? ≠ some quote) (rest : List Char) :
    lineChar quote escapes (e ++ rest) = some (c, rest) := by
  cases h with
  | plain plain free =>
    have differs : c ≠ quote := fun same => other (by rw [same]; rfl)
    have stands : ¬ (escapes = true ∧ c = '\\') := fun h => free h.1 h.2
    rw [List.singleton_append, Toml.lineChar, if_neg differs, if_neg stands, if_pos plain]
  | escaped allowed escape =>
    have differs : '\\' ≠ quote := fun same => other (by rw [same]; rfl)
    rw [List.cons_append, Toml.lineChar, if_neg differs, if_pos ⟨allowed, rfl⟩, escape.read]

theorem Spells.blockPiece {escapes : Bool} {e : List Char} {c quote : Char}
    (h : Spells escapes e c) (other : e.head? ≠ some quote) (rest : List Char) :
    blockPiece quote escapes (e ++ rest) = some ([c], rest) := by
  cases h with
  | plain plain free =>
    have differs : c ≠ quote := fun same => other (by rw [same]; rfl)
    have stands : ¬ (escapes = true ∧ c = '\\') := fun h => free h.1 h.2
    rw [List.singleton_append, Toml.blockPiece, if_neg differs, if_neg stands, if_pos plain]
  | escaped allowed escape =>
    have differs : '\\' ≠ quote := fun same => other (by rw [same]; rfl)
    rw [List.cons_append, Toml.blockPiece, if_neg differs, if_pos ⟨allowed, rfl⟩,
      escape.foldedBreak, escape.read]
    rfl

theorem Spells.ne_nil {escapes : Bool} {e : List Char} {c : Char} (h : Spells escapes e c) :
    e ≠ [] := by
  cases h <;> simp

/-! ## Escapes of the writer -/

/-- The control characters are among the first 128. -/
theorem toNat_lt_of_isControl {c : Char} (h : isControl c = true) : c.toNat < 128 := by
  simp only [isControl, Bool.or_eq_true, Bool.and_eq_true, decide_eq_true_eq] at h
  rcases h with ⟨⟨small, -⟩, -⟩ | rfl
  · have below : c.toNat < ' '.toNat := small
    exact Nat.lt_trans below (by decide)
  · decide

theorem hexFour_digits : ∀ n < 128, (hexFour (Char.ofNat n)).length = 4 ∧
    (hexFour (Char.ofNat n)).all isHexDigit = true ∧ numeral 16 (hexFour (Char.ofNat n)) = n := by
  decide +kernel

theorem escape_hexFour {c : Char} (h : isControl c = true) : Escape ('u' :: hexFour c) c := by
  obtain ⟨four, hex, value⟩ := hexFour_digits c.toNat (toNat_lt_of_isControl h)
  rw [Char.ofNat_toNat] at four hex value
  have scalar : (numeral 16 (hexFour c)).isValidChar := value ▸ c.valid
  have code : Escape ('u' :: hexFour c) (Char.ofNat (numeral 16 (hexFour c))) :=
    .code (by rw [four]; decide) (List.all_eq_true.mp hex) scalar
  rwa [value, Char.ofNat_toNat] at code

theorem spells_letter {c letter : Char} (known : (letter, c) ∈ escapeLetters) :
    Spells true ['\\', letter] c :=
  .escaped rfl (.letter known)

theorem spells_of_escape? {c : Char} {e : List Char} (h : escape? c = some e) :
    Spells true e c ∧ e.head? = some '\\' := by
  rw [escape?] at h
  split at h
  · subst c
    cases h
    exact ⟨spells_letter (by decide), rfl⟩
  split at h
  · subst c
    cases h
    exact ⟨spells_letter (by decide), rfl⟩
  split at h
  · subst c
    cases h
    exact ⟨spells_letter (by decide), rfl⟩
  split at h
  · subst c
    cases h
    exact ⟨spells_letter (by decide), rfl⟩
  split at h
  · subst c
    cases h
    exact ⟨spells_letter (by decide), rfl⟩
  split at h
  · rename_i control
    cases h
    exact ⟨.escaped rfl (escape_hexFour control), rfl⟩
  · cases h

/-- A character that has no escape stands for itself, unless it breaks the line. -/
theorem spells_of_escape?_eq_none {c : Char} (h : escape? c = none) (inLine : c ≠ '\n') :
    Spells true [c] c ∧ c ≠ '\r' := by
  have backslash : c ≠ '\\' := by
    intro same
    subst c
    cases h
  have control : isControl c = false := by
    rw [← Bool.not_eq_true]
    intro control
    rw [escape?, if_pos control] at h
    split_ifs at h
  exact ⟨.plain (isPlain_of_not_isControl control inLine) fun _ => backslash,
    ne_return_of_not_isControl control⟩

theorem spells_quote : Spells true ['\\', '"'] '"' := spells_letter (by decide)

/-! ## Text on one line -/

/-- What stands for a text on one line. -/
inductive Inline (quote : Char) (escapes : Bool) : List Char → List Char → Prop where
  | nil : Inline quote escapes [] []
  | cons {e t s : List Char} {c : Char} (head : Spells escapes e c)
      (other : e.head? ≠ some quote) (tail : Inline quote escapes t s) :
      Inline quote escapes (e ++ t) (c :: s)

theorem Inline.readsAll {quote : Char} {escapes : Bool} {t s : List Char}
    (h : Inline quote escapes t s) (rest : List Char) :
    ReadsAll (lineChar quote escapes) (t ++ quote :: rest) s (quote :: rest) := by
  induction h with
  | nil => exact .stop (if_pos rfl)
  | cons head other _ ih =>
    have longer := List.length_pos_iff.mpr head.ne_nil
    rw [List.append_assoc]
    refine .next (head.lineChar other _) ?_ ih
    simp only [List.length_append]
    omega

theorem Inline.lineText {quote : Char} {escapes : Bool} {t s : List Char}
    (h : Inline quote escapes t s) (rest : List Char) :
    lineText quote escapes (t ++ quote :: rest) = some (s, rest) := by
  simp [Toml.lineText, (h.readsAll rest).many_eq, expect_self]

/-- A text on one line is not taken for one on several. -/
theorem Inline.append_ne {quote : Char} {escapes : Bool} {t s : List Char}
    (h : Inline quote escapes t s) {rest : List Char} (ends : rest.head? ≠ some quote)
    (tail : List Char) : t ++ quote :: rest ≠ quote :: quote :: tail := by
  intro same
  cases h with
  | nil =>
    have first : rest = quote :: tail := (List.cons.inj same).2
    exact ends (by rw [first]; rfl)
  | @cons e t s c head other =>
    cases e with
    | nil => exact head.ne_nil rfl
    | cons d e => exact other (congrArg some (List.cons.inj same).1)

theorem inline_escapeAll {s : List Char} (oneLine : '\n' ∉ s) (run : Nat) :
    Inline '"' true (escapeAll 0 run s) s := by
  induction s generalizing run with
  | nil => exact .nil
  | cons c s ih =>
    have inLine : c ≠ '\n' := fun same => oneLine (same ▸ List.mem_cons_self)
    have rest := ih fun h => oneLine (List.mem_cons_of_mem c h)
    by_cases quote : c = '"'
    · subst c
      exact .cons spells_quote (by decide) (rest 0)
    · rw [escapeAll, if_neg quote]
      cases escaped : escape? c with
      | some e =>
        obtain ⟨spells, head⟩ := spells_of_escape? escaped
        exact .cons spells (by rw [head]; decide) (rest 0)
      | none =>
        obtain ⟨spells, -⟩ := spells_of_escape?_eq_none escaped inLine
        exact .cons spells (by simpa using quote) (rest 0)

theorem inline_raw {quote : Char} {s : List Char} (plain : ∀ c ∈ s, isPlain c = true)
    (other : quote ∉ s) : Inline quote false s s := by
  induction s with
  | nil => exact .nil
  | cons c s ih =>
    have differs : c ≠ quote := fun same => other (same ▸ List.mem_cons_self)
    have head : Spells false [c] c := .plain (plain c List.mem_cons_self) (by simp)
    exact .cons head (by simpa using differs)
      (ih (fun d hd => plain d (List.mem_cons_of_mem c hd))
        fun h => other (List.mem_cons_of_mem c h))

/-! ## Text on several lines -/

/-- The quotes that end a text on several lines. -/
def closing (quote : Char) : List Char := [quote, quote, quote]

/-- What stands for a piece of a text on several lines, with what is left of it: a character, a line
end, or a line end that a backslash takes out together with all that is blank after it. -/
inductive Piece (escapes : Bool) (left : List Char) : List Char → List Char → Prop where
  | char {e : List Char} {c : Char} (spells : Spells escapes e c) : Piece escapes left e [c]
  | newline {l : List Char} (ends : Newline l) : Piece escapes left l ['\n']
  | folded {b l g : List Char} (allowed : escapes = true) (blanks : Blanks b) (ends : Newline l)
      (gap : Gap false g) (visible : ∀ c, left.head? = some c → c ∉ [' ', '\t', '\n', '\r']) :
      Piece escapes left ('\\' :: (b ++ (l ++ g))) []

/-- What stands for a text on several lines, after some quotes that stand for themselves. There are
at most two of them in a row. -/
inductive Block (quote : Char) (escapes : Bool) : Nat → List Char → List Char → Prop where
  | nil {run : Nat} : Block quote escapes run [] []
  | quote {run : Nat} {t s : List Char} (few : run < 2) (tail : Block quote escapes (run + 1) t s) :
      Block quote escapes run (quote :: t) (quote :: s)
  | piece {run : Nat} {e own t s : List Char} (head : Piece escapes t e own)
      (other : e.head? ≠ some quote) (tail : Block quote escapes 0 t s) :
      Block quote escapes run (e ++ t) (own ++ s)

/-- The quotes with which a text is quoted, and whether it has escapes between them. -/
inductive Quotes : Char → Bool → Prop where
  | double : Quotes '"' true
  | single : Quotes '\'' false

theorem Quotes.visible {quote : Char} {escapes : Bool} (h : Quotes quote escapes) :
    quote ∉ [' ', '\t', '\n', '\r'] := by
  cases h <;> decide

/-- One step over what a backslash takes out after a line end. -/
def foldStep : Reader Unit := fun s =>
  match s with
  | c :: rest => if isBlank c then some ((), rest) else (newline (c :: rest)).map ((), ·)
  | [] => none

theorem foldedBreak_eq (s : List Char) :
    foldedBreak s = (newline (skipBlank s)).map fun rest => (many foldStep rest).2 := by
  rw [foldedBreak]
  cases newline (skipBlank s) <;> rfl

theorem foldStep_of_visible {s : List Char}
    (visible : ∀ c, s.head? = some c → c ∉ [' ', '\t', '\n', '\r']) : foldStep s = none := by
  cases s with
  | nil => rfl
  | cons c s =>
    have other := visible c rfl
    simp only [List.mem_cons, List.not_mem_nil, or_false, not_or] at other
    obtain ⟨space, tab, feed, carriage⟩ := other
    rw [foldStep, if_neg (by simp [isBlank, space, tab]), newline_eq_none feed carriage]
    rfl

theorem Gap.readsAll_fold {g : List Char} (h : Gap false g) {s : List Char}
    (stop : foldStep s = none) : ∃ steps, ReadsAll foldStep (g ++ s) steps s := by
  induction h with
  | nil => exact ⟨[], .stop stop⟩
  | blank blank _ ih =>
    obtain ⟨steps, onward⟩ := ih
    exact ⟨() :: steps, .next (if_pos blank) (by simp) onward⟩
  | @newline l g ends _ ih =>
    obtain ⟨steps, onward⟩ := ih
    have longer := ends.length_pos
    refine ⟨() :: steps, .next ?_ ?_ onward⟩
    · cases ends <;> rfl
    · simp only [List.length_append]
      omega
  | comment allowed => cases allowed

theorem foldedBreak_of_gap {b l g s : List Char} (blanks : Blanks b) (ends : Newline l)
    (gap : Gap false g) (stop : foldStep s = none) :
    foldedBreak (b ++ (l ++ (g ++ s))) = some s := by
  obtain ⟨steps, reads⟩ := gap.readsAll_fold stop
  have start : skipBlank (l ++ (g ++ s)) = l ++ (g ++ s) := by
    cases ends <;> exact skipBlank_cons (by decide) _
  rw [foldedBreak_eq, skipBlank_append blanks, start, ends.read, Option.map_some, reads.many_eq]

section

variable {quote : Char} {escapes : Bool} {run : Nat} {t s : List Char}

theorem Piece.exists_head {left e own : List Char} (h : Piece escapes left e own) :
    ∃ c u, e = c :: u := by
  cases h with
  | char spells => exact List.exists_cons_of_ne_nil spells.ne_nil
  | newline ends =>
    obtain ⟨c, m, rfl, -⟩ := ends.exists_head
    exact ⟨c, m, rfl⟩
  | folded => exact ⟨_, _, rfl⟩

theorem Piece.append_ne {left e own : List Char} (h : Piece escapes left e own)
    (other : e.head? ≠ some quote) (more tail : List Char) : e ++ more ≠ quote :: tail := by
  intro same
  obtain ⟨c, u, rfl⟩ := h.exists_head
  exact other (congrArg some (List.cons.inj same).1)

theorem Piece.read {left e own : List Char} (h : Piece escapes left e own)
    (quotes : Quotes quote escapes) (other : e.head? ≠ some quote) (rest : List Char) :
    blockPiece quote escapes (e ++ (left ++ (closing quote ++ rest))) =
      some (own, left ++ (closing quote ++ rest)) := by
  cases h with
  | char spells => exact spells.blockPiece other _
  | newline ends =>
    cases ends with
    | feed =>
      have differs : '\n' ≠ quote := by simpa using other
      rw [List.singleton_append, blockPiece, if_neg differs, if_neg (by simp), if_neg (by decide)]
      rfl
    | both =>
      have differs : '\r' ≠ quote := by simpa using other
      rw [List.cons_append, blockPiece, if_neg differs, if_neg (by simp), if_neg (by decide)]
      rfl
  | @folded b l g allowed blanks ends gap visible =>
    have differs : '\\' ≠ quote := by simpa using other
    have stop : foldStep (left ++ (closing quote ++ rest)) = none := by
      refine foldStep_of_visible fun c first => ?_
      cases left with
      | nil =>
        cases first
        exact quotes.visible
      | cons d left => exact visible c first
    rw [List.cons_append, blockPiece, if_neg differs, if_pos ⟨allowed, rfl⟩, List.append_assoc,
      List.append_assoc, foldedBreak_of_gap blanks ends gap stop]

theorem blockPiece_of_quotes (quote : Char) (escapes : Bool) (rest : List Char) :
    blockPiece quote escapes (quote :: quote :: quote :: rest) = none := by
  simp [blockPiece]

/-- Two quotes after another one can only be the end of the text. -/
theorem Block.refused (h : Block quote escapes run t s) (after : 0 < run)
    {rest tail : List Char} (two : t ++ (closing quote ++ rest) = quote :: quote :: tail) :
    blockPiece quote escapes (t ++ (closing quote ++ rest)) = none := by
  cases h with
  | nil => exact blockPiece_of_quotes quote escapes rest
  | piece head other =>
    rw [List.append_assoc] at two
    exact absurd two (head.append_ne other _ _)
  | quote few tail =>
    cases tail with
    | nil => exact blockPiece_of_quotes quote escapes (quote :: rest)
    | quote few => omega
    | piece head other =>
      rw [List.cons_append, List.append_assoc] at two
      exact absurd (List.cons.inj two).2 (head.append_ne other _ _)

/-- The quotes that a text ends with are left for the end, everything else is read. -/
theorem Block.readsAll (h : Block quote escapes run t s) (quotes : Quotes quote escapes)
    (few : run ≤ 2) (rest : List Char) :
    ∃ pieces own, own ≤ 2 ∧ (pieces = [] → own + run ≤ 2) ∧
      pieces.flatten ++ List.replicate own quote = s ∧
      ReadsAll (blockPiece quote escapes) (t ++ (closing quote ++ rest)) pieces
        (List.replicate own quote ++ (closing quote ++ rest)) := by
  induction h with
  | nil =>
    exact ⟨[], 0, by omega, fun _ => by omega, rfl, .stop (blockPiece_of_quotes quote escapes rest)⟩
  | @piece run e first t s head other tail ih =>
    obtain ⟨pieces, own, bound, -, text, reads⟩ := ih (by omega)
    refine ⟨first :: pieces, own, bound, by simp, ?_, ?_⟩
    · rw [List.flatten_cons, List.append_assoc, text]
    · have read := head.read quotes other rest
      obtain ⟨c, u, rfl⟩ := head.exists_head
      rw [List.append_assoc]
      refine .next read ?_ reads
      simp only [List.length_append, List.length_cons]
      omega
  | @quote run t s few tail ih =>
    obtain ⟨pieces, own, bound, atEnd, text, reads⟩ := ih (by omega)
    cases pieces with
    | nil =>
      -- nothing but quotes is left, so this one is for the end as well
      have bound := atEnd rfl
      have left := List.append_cancel_right reads.of_nil.2
      subst left
      refine ⟨[], own + 1, by omega, fun _ => by omega, ?_, .stop ?_⟩
      · rw [← text]
        rfl
      · obtain rfl | rfl : own = 0 ∨ own = 1 := by omega
        · exact blockPiece_of_quotes quote escapes (quote :: rest)
        · exact blockPiece_of_quotes quote escapes (quote :: quote :: rest)
    | cons p pieces =>
      refine ⟨[quote] :: p :: pieces, own, bound, by simp, ?_, .next ?_ ?_ reads⟩
      · rw [← text]
        rfl
      · rw [List.cons_append, blockPiece, if_pos rfl, if_neg]
        intro two
        obtain ⟨after, split⟩ : ∃ after, t ++ (closing quote ++ rest) = quote :: quote :: after :=
          ⟨_, by rw [← List.take_append_drop 2 (t ++ _), two]; rfl⟩
        exact reads.of_cons (tail.refused (by omega) split)
      · simp

theorem blockEnd_of_quotes {own : Nat} (few : own ≤ 2) {rest : List Char}
    (other : rest.head? ≠ some quote) :
    blockEnd quote (List.replicate own quote ++ (closing quote ++ rest)) =
      some (List.replicate own quote, rest) := by
  have all : List.replicate own quote ++ (closing quote ++ rest) =
      List.replicate (own + 3) quote ++ rest := by
    rw [← List.replicate_append_replicate, List.append_assoc]
    rfl
  have ends : rest.takeWhile (· = quote) = [] := by
    cases rest with
    | nil => rfl
    | cons c rest => exact List.takeWhile_cons_of_neg (by simpa using other)
  have count : ((List.replicate (own + 3) quote ++ rest).takeWhile (· = quote)).length =
      own + 3 := by
    rw [List.takeWhile_append_of_pos (by simp), ends]
    simp
  have left : (List.replicate (own + 3) quote ++ rest).drop (own + 3) = rest :=
    List.drop_left' List.length_replicate
  rw [all]
  simp only [blockEnd, count]
  rw [if_neg (by omega), Nat.add_sub_cancel, Nat.min_eq_left few, left]

/-- A line end right after the opening quotes is not part of the text. -/
theorem Block.blockText (h : Block quote escapes 0 t s) (quotes : Quotes quote escapes)
    {opening rest : List Char}
    (starts : Newline opening ∨ opening = [] ∧ newline (t ++ (closing quote ++ rest)) = none)
    (other : rest.head? ≠ some quote) :
    blockText quote escapes (opening ++ (t ++ (closing quote ++ rest))) = some (s, rest) := by
  obtain ⟨pieces, own, few, -, text, reads⟩ := h.readsAll quotes (by omega) rest
  have opened : (newline (opening ++ (t ++ (closing quote ++ rest)))).getD
      (opening ++ (t ++ (closing quote ++ rest))) = t ++ (closing quote ++ rest) := by
    rcases starts with ends | ⟨rfl, none⟩
    · rw [ends.read]
      rfl
    · rw [List.nil_append, none]
      rfl
  simp [Toml.blockText, opened, reads.many_eq, blockEnd_of_quotes few other, text]

end

/-! ## Every form -/

/-- What begins a text on several lines is a line end, unless there is none before it. -/
def Opens (opening t : List Char) : Prop :=
  Newline opening ∨ opening = [] ∧ ∀ c, t.head? = some c → c ≠ '\n' ∧ c ≠ '\r'

/-- How a text is quoted. -/
inductive QuotedText : List Char → List Char → Prop where
  | line {quote : Char} {escapes : Bool} {t s : List Char} (quotes : Quotes quote escapes)
      (text : Inline quote escapes t s) : QuotedText (quote :: (t ++ [quote])) s
  | block {quote : Char} {escapes : Bool} {opening t s : List Char}
      (quotes : Quotes quote escapes) (opens : Opens opening t)
      (text : Block quote escapes 0 t s) :
      QuotedText (closing quote ++ (opening ++ (t ++ closing quote))) s

theorem quotedText_line {quote : Char} {escapes : Bool} (quotes : Quotes quote escapes)
    {t : List Char} (h : ∀ tail, t ≠ quote :: quote :: tail) :
    quotedText (quote :: t) =
      (lineText quote escapes t).map fun (t, r) => (String.ofList t, r) := by
  cases quotes
  all_goals
    rw [quotedText.eq_def]
    split <;> simp_all

theorem quotedText_block {quote : Char} {escapes : Bool} (quotes : Quotes quote escapes)
    (t : List Char) : quotedText (closing quote ++ t) =
      (blockText quote escapes t).map fun (t, r) => (String.ofList t, r) := by
  cases quotes <;> rfl

/-- A quoted text is read whatever follows it, unless that is one more quote. -/
theorem QuotedText.read {t s rest : List Char} (h : QuotedText t s)
    (double : rest.head? ≠ some '"') (single : rest.head? ≠ some '\'') :
    quotedText (t ++ rest) = some (String.ofList s, rest) := by
  have other {quote : Char} {escapes : Bool} (quotes : Quotes quote escapes) :
      rest.head? ≠ some quote := by
    cases quotes
    · exact double
    · exact single
  cases h with
  | line quotes text =>
    rw [List.cons_append, List.append_assoc, List.singleton_append,
      quotedText_line quotes (text.append_ne (other quotes)), text.lineText]
    rfl
  | @block quote escapes opening t s quotes opens text =>
    have starts : Newline opening ∨
        opening = [] ∧ newline (t ++ (closing quote ++ rest)) = none := by
      refine opens.imp_right fun absent => ⟨absent.1, ?_⟩
      cases t with
      | nil => cases quotes <;> rfl
      | cons c t =>
        have first := absent.2 c rfl
        exact newline_eq_none first.1 first.2 _
    rw [List.append_assoc, List.append_assoc, List.append_assoc, quotedText_block quotes,
      text.blockText quotes starts (other quotes)]
    rfl

/-- A quoted text begins with a quote. -/
theorem QuotedText.exists_head {t s : List Char} (h : QuotedText t s) :
    ∃ c u, t = c :: u ∧ (c = '"' ∨ c = '\'') := by
  cases h with
  | line quotes => cases quotes <;> exact ⟨_, _, rfl, by decide⟩
  | block quotes => cases quotes <;> exact ⟨_, _, rfl, by decide⟩

/-! ## Texts as the writer quotes them -/

theorem block_escapeAll (s : List Char) {run : Nat} (few : run ≤ 2) :
    Block '"' true run (escapeAll 2 run s) s := by
  induction s generalizing run with
  | nil => exact .nil
  | cons c s ih =>
    by_cases quote : c = '"'
    · subst c
      rw [escapeAll, if_pos rfl]
      by_cases more : run < 2
      · rw [if_pos more]
        exact .quote more (ih (by omega))
      · rw [if_neg more]
        exact .piece (.char spells_quote) (by decide) (ih (by omega))
    · rw [escapeAll, if_neg quote]
      cases escaped : escape? c with
      | some e =>
        obtain ⟨spells, head⟩ := spells_of_escape? escaped
        exact .piece (.char spells) (by rw [head]; decide) (ih (by omega))
      | none =>
        by_cases inLine : c = '\n'
        · subst c
          exact .piece (.newline .feed) (by decide) (ih (by omega))
        · obtain ⟨spells, -⟩ := spells_of_escape?_eq_none escaped inLine
          exact .piece (.char spells) (by simpa using quote) (ih (by omega))

theorem le_longestRun (quote : Char) (current best : Nat) (s : List Char) :
    best ≤ longestRun.go quote current best s := by
  induction s generalizing current best with
  | nil => exact Nat.le_refl best
  | cons c s ih =>
    rw [longestRun.go]
    split
    · exact Nat.le_trans (Nat.le_max_left _ _) (ih _ _)
    · exact ih _ _

theorem notMem_of_go {quote : Char} {current best : Nat} {s : List Char}
    (h : longestRun.go quote current best s = 0) : quote ∉ s := by
  induction s generalizing current best with
  | nil => exact List.not_mem_nil
  | cons c s ih =>
    rw [longestRun.go] at h
    split at h
    · have grows := le_longestRun quote (current + 1) (max best (current + 1)) s
      omega
    · rename_i differs
      rw [List.mem_cons, not_or]
      exact ⟨fun same => differs same.symm, ih h⟩

theorem block_of_go {quote : Char} (proper : '\n' ≠ quote) {current best : Nat} {s : List Char}
    (few : longestRun.go quote current best s ≤ 2)
    (plain : ∀ c ∈ s, c ≠ '\n' → isPlain c = true) : Block quote false current s s := by
  induction s generalizing current best with
  | nil => exact .nil
  | cons c s ih =>
    have rest := fun d hd => plain d (List.mem_cons_of_mem c hd)
    rw [longestRun.go] at few
    split at few
    · subst c
      have grows := le_longestRun quote (current + 1) (max best (current + 1)) s
      exact .quote (by omega) (ih few rest)
    · rename_i differs
      by_cases inLine : c = '\n'
      · subst c
        exact .piece (.newline .feed) (by simpa using proper) (ih few rest)
      · have head : Spells false [c] c := .plain (plain c List.mem_cons_self inLine) (by simp)
        exact .piece (.char head) (by simpa using differs) (ih few rest)

theorem head_escapeAll {s : List Char} (oneLine : '\n' ∉ s) (free run : Nat) {c : Char}
    (first : (escapeAll free run s).head? = some c) : c ≠ '\n' ∧ c ≠ '\r' := by
  cases s with
  | nil => cases first
  | cons d s =>
    have inLine : d ≠ '\n' := fun same => oneLine (same ▸ List.mem_cons_self)
    by_cases quote : d = '"'
    · rw [escapeAll, if_pos quote] at first
      split at first
      · cases first
        decide
      · cases first
        decide
    · rw [escapeAll, if_neg quote] at first
      cases escaped : escape? d with
      | some e =>
        obtain ⟨e, rfl⟩ := List.head?_eq_some_iff.mp (spells_of_escape? escaped).2
        rw [escaped] at first
        cases first
        decide
      | none =>
        rw [escaped] at first
        cases first
        exact ⟨inLine, (spells_of_escape?_eq_none escaped inLine).2⟩

/-- What the choice of a form says about the text. -/
theorem quoteForm_spec (s : List Char) :
    match quoteForm s with
    | .line => '\n' ∉ s
    | .rawLine => (∀ c ∈ s, isControl c = false) ∧ longestRun '\'' s = 0 ∧ '\n' ∉ s
    | .block => True
    | .rawBlock => (∀ c ∈ s, isControl c = false) ∧ longestRun '\'' s ≤ 2 := by
  simp only [quoteForm]
  split_ifs <;> simp_all

/-- A line break that the text has is written after one that it has not. -/
def opening (s : List Char) : List Char := if s.contains '\n' then ['\n'] else []

theorem opens_opening {s t : List Char}
    (h : '\n' ∉ s → ∀ c, t.head? = some c → c ≠ '\n' ∧ c ≠ '\r') : Opens (opening s) t := by
  by_cases several : '\n' ∈ s
  · have first : opening s = ['\n'] := if_pos (by simpa using several)
    exact .inl (first ▸ .feed)
  · exact .inr ⟨if_neg (by simpa using several), h several⟩

theorem quotedText_quote (s : List Char) : QuotedText (quote s) s := by
  have spec := quoteForm_spec s
  cases form : quoteForm s with
  | line =>
    rw [form] at spec
    have text : quote s = '"' :: (escapeAll 0 0 s ++ ['"']) := by
      simp [quote, form]
    rw [text]
    exact .line .double (inline_escapeAll spec 0)
  | rawLine =>
    rw [form] at spec
    obtain ⟨quiet, free, oneLine⟩ := spec
    have plain : ∀ c ∈ s, isPlain c = true := fun c hc =>
      isPlain_of_not_isControl (quiet c hc) fun same => oneLine (same ▸ hc)
    have text : quote s = '\'' :: (s ++ ['\'']) := by
      simp [quote, form]
    rw [text]
    exact .line .single (inline_raw plain (notMem_of_go free))
  | block =>
    have text : quote s = closing '"' ++ (opening s ++ (escapeAll 2 0 s ++ closing '"')) := by
      simp [quote, form, opening, closing]
    have opens := opens_opening (t := escapeAll 2 0 s) fun oneLine _ => head_escapeAll oneLine 2 0
    rw [text]
    exact .block .double opens (block_escapeAll s (Nat.zero_le 2))
  | rawBlock =>
    rw [form] at spec
    obtain ⟨quiet, few⟩ := spec
    have text : quote s = closing '\'' ++ (opening s ++ (s ++ closing '\'')) := by
      simp [quote, form, opening, closing]
    have written : Block '\'' false 0 s s :=
      block_of_go (by decide) few fun c hc => isPlain_of_not_isControl (quiet c hc)
    have opens : Opens (opening s) s := by
      refine opens_opening fun oneLine c first => ?_
      have inside := List.mem_of_head? first
      exact ⟨fun same => oneLine (same ▸ inside), ne_return_of_not_isControl (quiet c inside)⟩
    rw [text]
    exact .block .single opens written

end Courier.Toml
