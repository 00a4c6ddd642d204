import Courier.Proofs.Toml.Reader
import Courier.Toml.Number
import Courier.Toml.Moment

/-!
# Numbers are read

An integer is written in base ten with a sign or without, or after a mark in another base, and with
underscores between its digits. A floating-point number has a fraction or an exponent after its
whole part. Before anything that can follow a value a number is read as what it is, and is taken for
no date and no time.
-/

namespace Courier.Toml

/-! ## How numbers are written -/

/-- Digits with underscores between them, and the digits without. -/
inductive Digits (isDigit : Char → Bool) : List Char → List Char → Prop where
  | last {c : Char} (digit : isDigit c = true) : Digits isDigit [c] [c]
  | next {c : Char} {t ds : List Char} (digit : isDigit c = true) (more : Digits isDigit t ds) :
      Digits isDigit (c :: t) (c :: ds)
  | underscore {c : Char} {t ds : List Char} (digit : isDigit c = true)
      (more : Digits isDigit t ds) : Digits isDigit (c :: '_' :: t) (c :: ds)

/-- Only zero begins with a zero. -/
inductive Whole : List Char → List Char → Prop where
  | zero : Whole ['0'] ['0']
  | run {t ds : List Char} (digits : Digits isDigit t ds) (first : t.head? ≠ some '0') :
      Whole t ds

inductive Sign : List Char → Bool → Prop where
  | none : Sign [] false
  | plus : Sign ['+'] false
  | minus : Sign ['-'] true

/-- The marks of the bases other than ten, with their digits. -/
inductive Base : Char → Nat → (Char → Bool) → Prop where
  | hex : Base 'x' 16 isHexDigit
  | octal : Base 'o' 8 fun c => '0' ≤ c && c ≤ '7'
  | binary : Base 'b' 2 fun c => c = '0' || c = '1'

/-- How an integer of 64 bits is written. -/
inductive IntegerText : List Char → Int → Prop where
  | decimal {s t ds : List Char} {negative : Bool} (sign : Sign s negative) (digits : Whole t ds)
      (fits : inRange (signed negative (numeral 10 ds)) = true) :
      IntegerText (s ++ t) (signed negative (numeral 10 ds))
  | based {mark : Char} {base : Nat} {p : Char → Bool} {t ds : List Char} (kind : Base mark base p)
      (digits : Digits p t ds) (fits : inRange (numeral base ds) = true) :
      IntegerText ('0' :: mark :: t) (numeral base ds)

inductive ExponentText : List Char → Int → Prop where
  | intro {mark : Char} {s t ds : List Char} {negative : Bool} (known : mark = 'e' ∨ mark = 'E')
      (sign : Sign s negative) (digits : Digits isDigit t ds) :
      ExponentText (mark :: (s ++ t)) (signed negative (numeral 10 ds))

/-- How a floating-point number is written: infinity, the number that is none, or a decimal that is
not too large. -/
inductive FloatText : List Char → Binary64 → Prop where
  | infinite {s : List Char} {negative : Bool} (sign : Sign s negative) :
      FloatText (s ++ ['i', 'n', 'f']) (.infinite negative)
  | nan {s : List Char} {negative : Bool} (sign : Sign s negative) :
      FloatText (s ++ ['n', 'a', 'n']) .nan
  | fraction {s t ds u ps a : List Char} {negative : Bool} {e : Int} {x : Binary64}
      (sign : Sign s negative) (digits : Whole t ds) (places : Digits isDigit u ps)
      (exponent : a = [] ∧ e = 0 ∨ ExponentText a e)
      (near : Binary64.nearest negative (numeral 10 (ds ++ ps)) (e - ps.length) = x)
      (small : x ≠ .infinite false) : FloatText (s ++ (t ++ ('.' :: (u ++ a)))) x
  | exponent {s t ds a : List Char} {negative : Bool} {e : Int} {x : Binary64}
      (sign : Sign s negative) (digits : Whole t ds) (exponent : ExponentText a e)
      (near : Binary64.nearest negative (numeral 10 ds) e = x) (small : x ≠ .infinite false) :
      FloatText (s ++ (t ++ a)) x

/-! ## Digits -/

/-- What cannot go on with digits. -/
def NoDigit (p : Char → Bool) (rest : List Char) : Prop :=
  ∀ c, rest.head? = some c → p c = false ∧ c ≠ '_'

theorem Ends.noDigit {rest : List Char} (h : Ends rest) {p : Char → Bool}
    (clear : delimiters.any p = false) : NoDigit p rest := by
  intro c first
  refine ⟨h.other clear first, ?_⟩
  rintro rfl
  exact h.ne (by decide) first

theorem NoDigit.cons {p : Char → Bool} {c : Char} (other : p c = false) (line : c ≠ '_')
    (rest : List Char) : NoDigit p (c :: rest) := by
  intro d first
  cases first
  exact ⟨other, line⟩

theorem ne_of_isDigit {c d : Char} (digit : isDigit c = true) (other : isDigit d = false) :
    c ≠ d := by
  intro same
  rw [same, other] at digit
  cases digit

section

variable {p : Char → Bool} {t ds : List Char}

/-- The digit after another one, and after an underscore if there is one. -/
def nextDigit (p : Char → Bool) : Reader Char
  | '_' :: d :: rest => if p d then some (d, rest) else none
  | d :: rest => if p d then some (d, rest) else none
  | [] => none

theorem nextDigit_cons (plain : p '_' = false) {c : Char} (digit : p c = true) (s : List Char) :
    nextDigit p (c :: s) = some (c, s) := by
  have other : c ≠ '_' := by
    rintro rfl
    rw [plain] at digit
    cases digit
  rw [nextDigit.eq_def]
  split
  · simp_all
  · simp_all
  · simp_all

theorem nextDigit_of_noDigit {s : List Char} (stop : NoDigit p s) : nextDigit p s = none := by
  rw [nextDigit.eq_def]
  split
  · exact absurd rfl (stop '_' rfl).2
  · rename_i d rest _
    exact if_neg (by simp [(stop d rfl).1])
  · rfl

/-- Digits go on as they began, also after an underscore. -/
theorem Digits.readsAll (h : Digits p t ds) (plain : p '_' = false) {rest : List Char}
    (stop : NoDigit p rest) :
    ReadsAll (nextDigit p) (t ++ rest) ds rest ∧
      ReadsAll (nextDigit p) ('_' :: (t ++ rest)) ds rest := by
  have skipped {c : Char} (digit : p c = true) (s : List Char) :
      nextDigit p ('_' :: c :: s) = some (c, s) := by
    rw [nextDigit, if_pos digit]
  have shorter (c d : Char) (s : List Char) : s.length < (c :: d :: s).length :=
    Nat.lt_add_of_pos_right Nat.two_pos
  induction h with
  | last digit =>
    have ends : ReadsAll (nextDigit p) rest [] rest := .stop (nextDigit_of_noDigit stop)
    exact ⟨.next (nextDigit_cons plain digit rest) (by simp) ends,
      .next (skipped digit rest) (shorter _ _ _) ends⟩
  | next digit _ ih =>
    exact ⟨.next (nextDigit_cons plain digit _) (by simp) ih.1,
      .next (skipped digit _) (shorter _ _ _) ih.1⟩
  | underscore digit _ ih =>
    exact ⟨.next (nextDigit_cons plain digit _) (by simp) ih.2,
      .next (skipped digit _) (shorter _ _ _) ih.2⟩

theorem digitRun_cons {c : Char} (digit : p c = true) (s : List Char) :
    digitRun p (c :: s) = some (c :: (many (nextDigit p) s).1, (many (nextDigit p) s).2) :=
  if_pos digit

theorem Digits.digitRun (h : Digits p t ds) (plain : p '_' = false) {rest : List Char}
    (stop : NoDigit p rest) : digitRun p (t ++ rest) = some (ds, rest) := by
  cases h with
  | last digit =>
    have ends : ReadsAll (nextDigit p) rest [] rest := .stop (nextDigit_of_noDigit stop)
    rw [List.singleton_append, digitRun_cons digit, ends.many_eq]
  | next digit more =>
    rw [List.cons_append, digitRun_cons digit, (more.readsAll plain stop).1.many_eq]
  | underscore digit more =>
    rw [List.cons_append, digitRun_cons digit, List.cons_append,
      (more.readsAll plain stop).2.many_eq]

theorem Digits.exists_head (h : Digits p t ds) : ∃ c s, t = c :: s ∧ p c = true := by
  cases h with
  | last digit => exact ⟨_, _, rfl, digit⟩
  | next digit => exact ⟨_, _, rfl, digit⟩
  | underscore digit => exact ⟨_, _, rfl, digit⟩

theorem Digits.mem (h : Digits p t ds) : ∀ c ∈ t, p c = true ∨ c = '_' := by
  induction h with
  | last digit =>
    intro c hc
    exact .inl (List.mem_singleton.mp hc ▸ digit)
  | next digit _ ih =>
    intro c hc
    rcases List.mem_cons.mp hc with rfl | hc
    · exact .inl digit
    · exact ih c hc
  | underscore digit _ ih =>
    intro c hc
    rcases List.mem_cons.mp hc with rfl | hc
    · exact .inl digit
    rcases List.mem_cons.mp hc with rfl | hc
    · exact .inr rfl
    · exact ih c hc

end

/-! ## No date and no time -/

section

variable {t rest : List Char}

/-- What is not in a text does not come up in it, nor right after it unless it follows. -/
theorem expect_drop {c : Char} (other : c ∉ t) (after : rest.head? ≠ some c) {k : Nat}
    (within : k ≤ t.length) : expect c ((t ++ rest).drop k) = none := by
  apply expect_of_ne
  rw [List.drop_append_of_le_length within]
  cases left : t.drop k with
  | nil => exact after
  | cons d more =>
    have inside : d ∈ t.drop k := by
      rw [left]
      exact List.mem_cons_self
    intro same
    rw [List.cons_append, List.head?_cons, Option.some_inj] at same
    exact other (same ▸ List.mem_of_mem_drop inside)

theorem fixedNumber_eq_some (stop : NoDigit isDigit rest) {width low high n : Nat} {s : List Char}
    (read : fixedNumber width low high (t ++ rest) = some (n, s)) :
    s = (t ++ rest).drop width ∧ width ≤ t.length := by
  simp only [fixedNumber] at read
  split at read
  · rename_i fits
    cases read
    refine ⟨rfl, Nat.le_of_not_lt fun short => ?_⟩
    -- what ends the text would be among the digits
    obtain ⟨k, hk⟩ : ∃ k, width - t.length = k + 1 := ⟨width - t.length - 1, by omega⟩
    cases rest with
    | nil =>
      have full := fits.1
      rw [List.append_nil, List.length_take] at full
      omega
    | cons c rest =>
      have inside : c ∈ (t ++ c :: rest).take width := by
        rw [List.take_append, hk, List.take_succ_cons]
        exact List.mem_append_right _ List.mem_cons_self
      have digit := List.all_eq_true.mp fits.2.1 c inside
      rw [(stop c rfl).1] at digit
      cases digit
  · cases read

/-- Dates are known by their hyphens, and times by their colons. -/
theorem moment_eq_none (hyphen : '-' ∉ t) (colon : ':' ∉ t) (stop : NoDigit isDigit rest)
    (noHyphen : rest.head? ≠ some '-') (noColon : rest.head? ≠ some ':') :
    moment (t ++ rest) = none := by
  have date : date (t ++ rest) = none := by
    rw [Toml.date]
    cases read : fixedNumber 4 0 9999 (t ++ rest) with
    | none => rfl
    | some year =>
      obtain ⟨left, within⟩ := fixedNumber_eq_some stop read
      have no := expect_drop hyphen noHyphen within
      simp [left, no]
  have time : timeOfDay (t ++ rest) = none := by
    rw [timeOfDay]
    cases read : fixedNumber 2 0 23 (t ++ rest) with
    | none => rfl
    | some hour =>
      obtain ⟨left, within⟩ := fixedNumber_eq_some stop read
      have no := expect_drop colon noColon within
      simp [left, no]
  rw [moment, date, time]

theorem moment_of_not_isDigit {c : Char} (other : isDigit c = false) (s : List Char) :
    moment (c :: s) = none := by
  have none (width low high : Nat) (positive : 0 < width) :
      fixedNumber width low high (c :: s) = none := by
    obtain ⟨k, rfl⟩ : ∃ k, width = k + 1 := ⟨width - 1, by omega⟩
    simp [fixedNumber, other]
  have date : date (c :: s) = Option.none := by
    rw [Toml.date, none _ _ _ (by decide)]
    rfl
  have time : timeOfDay (c :: s) = Option.none := by
    rw [timeOfDay, none _ _ _ (by decide)]
    rfl
  rw [moment, date, time]

end

/-! ## What all numbers in base ten begin with -/

theorem Whole.exists_head {t ds : List Char} (h : Whole t ds) :
    ∃ c s, t = c :: s ∧ isDigit c = true := by
  cases h with
  | zero => exact ⟨_, _, rfl, by decide⟩
  | run digits => exact digits.exists_head

theorem Whole.mem {t ds : List Char} (h : Whole t ds) : ∀ c ∈ t, isDigit c = true ∨ c = '_' := by
  cases h with
  | zero => exact List.forall_mem_singleton.mpr (by decide)
  | run digits => exact digits.mem

theorem Whole.read {t ds : List Char} (h : Whole t ds) {rest : List Char}
    (stop : NoDigit isDigit rest) : whole (t ++ rest) = some (ds, rest) := by
  cases h with
  | zero => rfl
  | run digits first =>
    have run := digits.digitRun (by decide) stop
    obtain ⟨c, s, rfl, -⟩ := digits.exists_head
    rw [List.cons_append, whole]
    · exact run
    · intro more same
      exact first (congrArg some (List.cons.inj same).1)

theorem sign_of_isDigit {c : Char} (digit : isDigit c = true) (s : List Char) :
    sign (c :: s) = (false, c :: s) := by
  have plus : c ≠ '+' := ne_of_isDigit digit (by decide)
  have minus : c ≠ '-' := ne_of_isDigit digit (by decide)
  rw [sign.eq_def]
  split <;> simp_all

theorem Sign.read {s : List Char} {negative : Bool} (h : Sign s negative) {c : Char}
    (digit : isDigit c = true) (rest : List Char) :
    sign (s ++ c :: rest) = (negative, c :: rest) := by
  cases h with
  | none => exact sign_of_isDigit digit rest
  | plus => rfl
  | minus => rfl

section

variable {s t ds rest : List Char} {negative : Bool}

theorem specialNumber_eq_none (sign : Sign s negative) {c : Char} (digit : isDigit c = true)
    (rest : List Char) : specialNumber (s ++ c :: rest) = none := by
  have infinity : c ≠ 'i' := ne_of_isDigit digit (by decide)
  have nan : c ≠ 'n' := ne_of_isDigit digit (by decide)
  rw [specialNumber, sign.read digit]
  split <;> simp_all

/-- No mark of a base stands before the digits. -/
theorem number_of_whole (sign : Sign s negative) (digits : Whole t ds)
    (unmarked : ∀ c, rest.head? = some c → c ∉ ['x', 'o', 'b']) :
    number (s ++ (t ++ rest)) = decimalNumber (s ++ (t ++ rest)) := by
  have special : specialNumber (s ++ (t ++ rest)) = none := by
    obtain ⟨c, u, rfl, digit⟩ := digits.exists_head
    exact specialNumber_eq_none sign digit _
  have other : ∀ mark ∈ ['x', 'o', 'b'], ∀ more, s ++ (t ++ rest) ≠ '0' :: mark :: more := by
    intro mark known more same
    cases sign with
    | plus => cases (List.cons.inj same).1
    | minus => cases (List.cons.inj same).1
    | none =>
      cases digits with
      | zero =>
        have next : rest = mark :: more := (List.cons.inj same).2
        exact unmarked mark (by rw [next, List.head?_cons]) known
      | run digits first =>
        obtain ⟨c, u, rfl, -⟩ := digits.exists_head
        exact first (congrArg some (List.cons.inj same).1)
  rw [number, special]
  · rfl
  · exact other 'x' (by decide)
  · exact other 'o' (by decide)
  · exact other 'b' (by decide)

theorem moment_of_whole (sign : Sign s negative) (digits : Whole t ds)
    (stop : NoDigit isDigit rest) (noHyphen : rest.head? ≠ some '-')
    (noColon : rest.head? ≠ some ':') : moment (s ++ (t ++ rest)) = none := by
  have clear (c : Char) (other : isDigit c = false) (line : c ≠ '_') : c ∉ t := by
    intro inside
    rcases digits.mem c inside with digit | same
    · rw [other] at digit
      cases digit
    · exact line same
  cases sign with
  | plus => exact moment_of_not_isDigit (by decide) _
  | minus => exact moment_of_not_isDigit (by decide) _
  | none =>
    rw [List.nil_append]
    exact moment_eq_none (clear '-' (by decide) (by decide)) (clear ':' (by decide) (by decide))
      stop noHyphen noColon

theorem exponent_eq_none (ends : Ends rest) : exponent rest = none := by
  cases rest with
  | nil => rfl
  | cons c rest =>
    rw [exponent, if_neg]
    rintro (rfl | rfl)
    · exact ends.ne (by decide) rfl
    · exact ends.ne (by decide) rfl

end

/-! ## Integers -/

section

variable {t rest : List Char} {n : Int}

/-- An integer is read whatever follows it, if that can follow a value. -/
theorem IntegerText.number (h : IntegerText t n) (ends : Ends rest) :
    number (t ++ rest) = some (.integer n, rest) := by
  cases h with
  | @decimal s t ds negative sign digits fits =>
    have unmarked : ∀ c, rest.head? = some c → c ∉ ['x', 'o', 'b'] := by
      have clear : ∀ c ∈ delimiters, c ∉ ['x', 'o', 'b'] :=
        List.forall_iff_forall_mem.mp (by decide)
      exact fun c first => clear c (ends.mem_delimiters first)
    have read := digits.read (ends.noDigit (by decide))
    rw [List.append_assoc, number_of_whole sign digits unmarked]
    obtain ⟨c, u, rfl, digit⟩ := digits.exists_head
    have first := sign.read digit (u ++ rest)
    rw [List.cons_append] at read ⊢
    have plain := exponent_eq_none ends
    simp only [decimalNumber, first, read, Option.bind_eq_bind, Option.bind_some]
    split
    · exact absurd rfl (ends.ne (by decide))
    · rw [plain]
      exact if_pos fits
  | @based mark base p t ds kind digits fits =>
    have plain : p '_' = false := by cases kind <;> decide
    have clear : delimiters.any p = false := by cases kind <;> decide
    have read := digits.digitRun plain (ends.noDigit clear)
    have based : basedInteger base p (t ++ rest) = some (.integer (numeral base ds), rest) := by
      simp only [basedInteger, read, Option.bind_eq_bind, Option.bind_some]
      exact if_pos fits
    cases kind <;> exact based

theorem IntegerText.moment (h : IntegerText t n) (ends : Ends rest) :
    moment (t ++ rest) = none := by
  have stop := ends.noDigit (p := isDigit) (by decide)
  cases h with
  | decimal sign digits =>
    rw [List.append_assoc]
    exact moment_of_whole sign digits stop (ends.ne (by decide)) (ends.ne (by decide))
  | @based mark base p t ds kind digits =>
    have clear (c : Char) (other : p c = false) (known : c ∉ ['0', mark, '_']) :
        c ∉ '0' :: mark :: t := by
      simp only [List.mem_cons, List.not_mem_nil, or_false, not_or] at known ⊢
      refine ⟨known.1, known.2.1, fun inside => ?_⟩
      rcases digits.mem c inside with digit | same
      · rw [other] at digit
        cases digit
      · exact known.2.2 same
    cases kind
    all_goals
      exact moment_eq_none (clear '-' (by decide) (by decide))
        (clear ':' (by decide) (by decide)) stop (ends.ne (by decide)) (ends.ne (by decide))

/-- An integer begins with a digit or a sign. -/
theorem IntegerText.exists_head (h : IntegerText t n) :
    ∃ c s, t = c :: s ∧ (isDigit c = true ∨ c = '+' ∨ c = '-') := by
  cases h with
  | decimal sign digits =>
    obtain ⟨c, s, rfl, digit⟩ := digits.exists_head
    cases sign with
    | none => exact ⟨c, s, rfl, .inl digit⟩
    | plus => exact ⟨_, _, rfl, .inr (.inl rfl)⟩
    | minus => exact ⟨_, _, rfl, .inr (.inr rfl)⟩
  | based => exact ⟨_, _, rfl, .inl (by decide)⟩

end

/-! ## Floating-point numbers -/

section

variable {t rest : List Char}

theorem ExponentText.read {e : Int} (h : ExponentText t e) (ends : Ends rest) :
    exponent (t ++ rest) = some (e, rest) := by
  cases h with | @intro mark s t ds negative known sign digits
  have read := digits.digitRun (by decide) (ends.noDigit (p := isDigit) (by decide))
  obtain ⟨c, u, rfl, digit⟩ := digits.exists_head
  have first := sign.read digit (u ++ rest)
  rw [List.cons_append] at read
  rw [List.cons_append, List.append_assoc, List.cons_append, exponent, if_pos known, first]
  simp only [read]
  rfl

theorem ExponentText.exists_head {e : Int} (h : ExponentText t e) :
    ∃ c s, t = c :: s ∧ (c = 'e' ∨ c = 'E') := by
  cases h with | intro known
  exact ⟨_, _, rfl, known⟩

theorem floatOf_eq {negative : Bool} {digits : List Char} {e : Int} {x : Binary64}
    (near : Binary64.nearest negative (numeral 10 digits) e = x) (small : x ≠ .infinite false)
    (rest : List Char) : floatOf negative digits e rest = some (.float x, rest) := by
  rw [floatOf, near]
  split
  · contradiction
  · rfl

theorem decimalNumber_fraction {s t ds u ps a : List Char} {negative : Bool} {e : Int}
    (sign : Sign s negative) (digits : Whole t ds) (places : Digits isDigit u ps)
    (exponent : a = [] ∧ e = 0 ∨ ExponentText a e) (ends : Ends rest) :
    decimalNumber (s ++ (t ++ ('.' :: (u ++ (a ++ rest))))) =
      floatOf negative (ds ++ ps) (e - ps.length) rest := by
  have stop : NoDigit isDigit ('.' :: (u ++ (a ++ rest))) := .cons (by decide) (by decide) _
  have read := digits.read stop
  obtain ⟨c, v, rfl, digit⟩ := digits.exists_head
  have first := sign.read digit (v ++ '.' :: (u ++ (a ++ rest)))
  have last : NoDigit isDigit (a ++ rest) ∧
      (Toml.exponent (a ++ rest)).getD (0, a ++ rest) = (e, rest) := by
    rcases exponent with ⟨rfl, rfl⟩ | text
    · rw [List.nil_append, exponent_eq_none ends]
      exact ⟨ends.noDigit (by decide), rfl⟩
    · rw [text.read ends]
      obtain ⟨d, w, rfl, known⟩ := text.exists_head
      refine ⟨?_, rfl⟩
      rcases known with rfl | rfl <;> exact .cons (by decide) (by decide) _
  have after := places.digitRun (by decide) last.1
  rw [List.cons_append] at read ⊢
  simp only [decimalNumber, first, read, after, last.2, Option.bind_eq_bind, Option.bind_some]

theorem decimalNumber_exponent {s t ds a : List Char} {negative : Bool} {e : Int}
    (sign : Sign s negative) (digits : Whole t ds) (exponent : ExponentText a e)
    (ends : Ends rest) :
    decimalNumber (s ++ (t ++ (a ++ rest))) = floatOf negative ds e rest := by
  have last := exponent.read ends
  obtain ⟨m, w, rfl, known⟩ := exponent.exists_head
  have stop : NoDigit isDigit (m :: w ++ rest) := by
    rcases known with rfl | rfl <;> exact .cons (by decide) (by decide) _
  have point : m ≠ '.' := by rcases known with rfl | rfl <;> decide
  have read := digits.read stop
  obtain ⟨c, v, rfl, digit⟩ := digits.exists_head
  have first := sign.read digit (v ++ (m :: w ++ rest))
  rw [List.cons_append] at read ⊢
  simp only [decimalNumber, first, read, Option.bind_eq_bind, Option.bind_some]
  split
  · rename_i more same
    exact absurd (List.cons.inj same).1 point
  · rw [last]

theorem FloatText.number {x : Binary64} (h : FloatText t x) (ends : Ends rest) :
    number (t ++ rest) = some (.float x, rest) := by
  cases h with
  | infinite sign => cases sign <;> rfl
  | nan sign => cases sign <;> rfl
  | fraction sign digits places exponent near small =>
    simp only [List.append_assoc, List.cons_append]
    rw [number_of_whole sign digits, decimalNumber_fraction sign digits places exponent ends]
    · exact floatOf_eq near small rest
    · intro c first
      cases first
      decide
  | @exponent s t ds a negative e x sign digits exponent near small =>
    simp only [List.append_assoc]
    rw [number_of_whole sign digits, decimalNumber_exponent sign digits exponent ends]
    · exact floatOf_eq near small rest
    · intro c first
      obtain ⟨m, w, rfl, known⟩ := exponent.exists_head
      cases first
      rcases known with rfl | rfl <;> decide

theorem FloatText.moment {x : Binary64} (h : FloatText t x) (rest : List Char) :
    moment (t ++ rest) = none := by
  cases h with
  | infinite sign => cases sign <;> exact moment_of_not_isDigit (by decide) _
  | nan sign => cases sign <;> exact moment_of_not_isDigit (by decide) _
  | fraction sign digits =>
    simp only [List.append_assoc, List.cons_append]
    exact moment_of_whole sign digits (.cons (by decide) (by decide) _) (by simp) (by simp)
  | @exponent s t ds a negative e x sign digits exponent =>
    obtain ⟨m, w, rfl, known⟩ := exponent.exists_head
    simp only [List.append_assoc]
    rcases known with rfl | rfl
    all_goals
      exact moment_of_whole sign digits (.cons (by decide) (by decide) _) (by simp) (by simp)

/-- What a floating-point number begins with. -/
theorem FloatText.exists_head {x : Binary64} (h : FloatText t x) :
    ∃ c s, t = c :: s ∧ (isDigit c = true ∨ c ∈ ['+', '-', 'i', 'n']) := by
  have signed {s t ds : List Char} {negative : Bool} (sign : Sign s negative) (digits : Whole t ds)
      (more : List Char) :
      ∃ c u, s ++ (t ++ more) = c :: u ∧ (isDigit c = true ∨ c ∈ ['+', '-', 'i', 'n']) := by
    obtain ⟨c, u, rfl, digit⟩ := digits.exists_head
    cases sign with
    | none => exact ⟨_, _, rfl, .inl digit⟩
    | plus => exact ⟨_, _, rfl, .inr (by decide)⟩
    | minus => exact ⟨_, _, rfl, .inr (by decide)⟩
  cases h with
  | infinite sign => cases sign <;> exact ⟨_, _, rfl, .inr (by decide)⟩
  | nan sign => cases sign <;> exact ⟨_, _, rfl, .inr (by decide)⟩
  | fraction sign digits => exact signed sign digits _
  | exponent sign digits => exact signed sign digits _

end

/-! ## Numbers as they are printed -/

theorem isDigit_of_mem_toDigits {n : Nat} {c : Char} (h : c ∈ Nat.toDigits 10 n) :
    isDigit c = true := by
  have digit := Nat.isDigit_of_mem_toDigits (by decide) (by decide) h
  simpa [Char.isDigit, isDigit, Char.le_def] using digit

theorem numeral_eq_ofDigitChars {s : List Char} (digits : ∀ c ∈ s, isDigit c = true) (n : Nat) :
    s.foldl (fun n c => n * 10 + digitValue c) n = Nat.ofDigitChars 10 s n := by
  induction s generalizing n with
  | nil => rfl
  | cons c s ih =>
    have first := digits c List.mem_cons_self
    rw [List.foldl_cons, Nat.ofDigitChars_cons, ih fun d hd => digits d (List.mem_cons_of_mem c hd),
      digitValue, if_pos first, Nat.mul_comm]

theorem numeral_toDigits (n : Nat) : numeral 10 (Nat.toDigits 10 n) = n := by
  rw [numeral, numeral_eq_ofDigitChars fun c => isDigit_of_mem_toDigits]
  exact Nat.ofDigitChars_toDigits (by decide) (by decide)

/-- Only zero is printed with a leading zero. -/
theorem head?_toDigits_ne {n : Nat} (positive : 0 < n) : (Nat.toDigits 10 n).head? ≠ some '0' := by
  induction n using Nat.strongRecOn with
  | ind n ih =>
    rw [Nat.toDigits_eq_if (by decide)]
    split
    · rw [List.head?_singleton, ne_eq, Option.some_inj, Nat.digitChar_eq_zero]
      omega
    · have smaller := ih (n / 10) (by omega) (by omega)
      obtain ⟨c, s, first⟩ :=
        List.exists_cons_of_ne_nil (Nat.toDigits_ne_nil (n := n / 10) (b := 10))
      rw [first] at smaller ⊢
      exact smaller

theorem digits_of_all {p : Char → Bool} {ds : List Char} (nonempty : ds ≠ [])
    (digits : ∀ c ∈ ds, p c = true) : Digits p ds ds := by
  induction ds with
  | nil => exact absurd rfl nonempty
  | cons d ds ih =>
    have digit := digits d List.mem_cons_self
    cases ds with
    | nil => exact .last digit
    | cons e ds =>
      exact .next digit (ih (by simp) fun c hc => digits c (List.mem_cons_of_mem d hc))

theorem integerText_toDigits {n : Nat} (small : n ≤ 9223372036854775807) :
    IntegerText (Nat.toDigits 10 n) n := by
  have whole : Whole (Nat.toDigits 10 n) (Nat.toDigits 10 n) := by
    by_cases zero : n = 0
    · subst n
      exact .zero
    · exact .run (digits_of_all Nat.toDigits_ne_nil fun _ => isDigit_of_mem_toDigits)
        (head?_toDigits_ne (Nat.pos_of_ne_zero zero))
  have fits : inRange (n : Int) = true := by
    simp only [inRange, Bool.and_eq_true, decide_eq_true_eq]
    omega
  have text := IntegerText.decimal .none whole (by simpa [signed, numeral_toDigits] using fits)
  simpa [signed, numeral_toDigits] using text

end Courier.Toml
