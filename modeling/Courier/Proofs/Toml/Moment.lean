import Courier.Proofs.Toml.Reader
import Courier.Toml.Number
import Courier.Toml.Moment

/-!
# Dates and times are read

A date, a time of day, or both with an offset after them, before anything that can follow a value.
-/

namespace Courier.Toml

/-- A number of exactly `width` digits between two bounds. -/
structure Fixed (width low high : Nat) (t : List Char) (n : Nat) : Prop where
  width : t.length = width
  digits : ∀ c ∈ t, isDigit c = true
  value : numeral 10 t = n
  low : low ≤ n
  high : n ≤ high

inductive DateText : List Char → Prop where
  | intro {y m d : List Char} {i j k : Nat} (year : Fixed 4 0 9999 y i)
      (month : Fixed 2 1 12 m j) (day : Fixed 2 1 (daysInMonth i j) d k) :
      DateText (y ++ '-' :: (m ++ '-' :: d))

/-- Decimal places of seconds, or none. -/
inductive Places : List Char → Prop where
  | none : Places []
  | some {c : Char} {ds : List Char} (first : isDigit c = true)
      (digits : ∀ d ∈ ds, isDigit d = true) : Places ('.' :: c :: ds)

inductive TimeText : List Char → Prop where
  | intro {h m s p : List Char} {i j k : Nat} (hour : Fixed 2 0 23 h i)
      (minute : Fixed 2 0 59 m j) (second : Fixed 2 0 60 s k) (places : Places p) :
      TimeText (h ++ ':' :: (m ++ ':' :: (s ++ p)))

/-- The offset of a local time, or none. -/
inductive OffsetText : List Char → Prop where
  | none : OffsetText []
  | utc {c : Char} (known : c = 'Z' ∨ c = 'z') : OffsetText [c]
  | shift {c : Char} {h m : List Char} {i j : Nat} (sign : c = '+' ∨ c = '-')
      (hour : Fixed 2 0 23 h i) (minute : Fixed 2 0 59 m j) :
      OffsetText (c :: (h ++ ':' :: m))

inductive MomentText : List Char → Prop where
  | date {t : List Char} (date : DateText t) : MomentText t
  | time {t : List Char} (time : TimeText t) : MomentText t
  | both {t u o : List Char} {c : Char} (date : DateText t) (joint : c = 'T' ∨ c = 't' ∨ c = ' ')
      (time : TimeText u) (offset : OffsetText o) : MomentText (t ++ c :: (u ++ o))

theorem Fixed.read {width low high n : Nat} {t : List Char} (h : Fixed width low high t n)
    (rest : List Char) : fixedNumber width low high (t ++ rest) = some (n, rest) := by
  have taken : (t ++ rest).take width = t := List.take_left' h.width
  have left : (t ++ rest).drop width = rest := List.drop_left' h.width
  simp only [fixedNumber, taken, left, h.value]
  exact if_pos ⟨h.width, List.all_eq_true.mpr h.digits, h.low, h.high⟩

/-- Too few characters before one that is no digit. -/
theorem fixedNumber_eq_none {width low high : Nat} {t rest : List Char} {c : Char}
    (short : t.length < width) (other : isDigit c = false) :
    fixedNumber width low high (t ++ c :: rest) = none := by
  obtain ⟨k, hk⟩ : ∃ k, width - t.length = k + 1 := ⟨width - t.length - 1, by omega⟩
  have inside : c ∈ (t ++ c :: rest).take width := by
    rw [List.take_append, hk, List.take_succ_cons]
    exact List.mem_append_right _ List.mem_cons_self
  refine if_neg fun fits => ?_
  have digit := List.all_eq_true.mp fits.2.1 c inside
  rw [other] at digit
  cases digit

theorem DateText.read {t : List Char} (h : DateText t) (rest : List Char) :
    date (t ++ rest) = some rest := by
  cases h with | intro year month day
  simp [date, year.read, month.read, day.read, expect_self]

theorem TimeText.read {t : List Char} (h : TimeText t) {rest : List Char}
    (stop : ∀ c, rest.head? = some c → isDigit c = false ∧ c ≠ '.') :
    timeOfDay (t ++ rest) = some rest := by
  cases h with | intro hour minute second places
  cases places with
  | none =>
    simp only [timeOfDay, List.append_assoc, List.cons_append, hour.read, minute.read, second.read,
      expect_self, Option.bind_eq_bind, Option.bind_some, List.nil_append]
    split
    · exact absurd rfl (stop '.' rfl).2
    · rfl
  | @some c ds first digits =>
    have dropped : (ds ++ rest).dropWhile isDigit = rest :=
      dropWhile_eq_right digits fun c first => (stop c first).1
    simp only [timeOfDay, List.append_assoc, List.cons_append, hour.read, minute.read, second.read,
      expect_self, Option.bind_eq_bind, Option.bind_some, if_pos first, dropped]
    rfl

theorem OffsetText.read {o rest : List Char} (h : OffsetText o) (ends : Ends rest) :
    (offset (o ++ rest)).getD (o ++ rest) = rest := by
  cases h with
  | none =>
    cases rest with
    | nil => rfl
    | cons c rest =>
      have clear : ∀ c ∈ delimiters, ¬ (c = 'Z' ∨ c = 'z') ∧ ¬ (c = '+' ∨ c = '-') :=
        List.forall_iff_forall_mem.mp (by decide)
      have other := clear c (ends.mem_delimiters rfl)
      rw [List.nil_append, offset, if_neg other.1, if_neg other.2]
      rfl
  | utc known =>
    rw [List.singleton_append, offset, if_pos known]
    rfl
  | @shift c h m i j sign hour minute =>
    have other : ¬ (c = 'Z' ∨ c = 'z') := by rcases sign with rfl | rfl <;> decide
    rw [List.cons_append, offset, if_neg other, if_pos sign]
    simp [hour.read, minute.read, expect_self]

/-- What follows an offset is no part of a time. -/
theorem OffsetText.stop {o rest : List Char} (h : OffsetText o) (ends : Ends rest) {c : Char}
    (first : (o ++ rest).head? = some c) : isDigit c = false ∧ c ≠ '.' := by
  cases h with
  | none =>
    have clear : ∀ c ∈ delimiters, isDigit c = false ∧ c ≠ '.' :=
      List.forall_iff_forall_mem.mp (by decide)
    exact clear c (ends.mem_delimiters first)
  | utc known =>
    cases first
    rcases known with rfl | rfl <;> decide
  | shift sign =>
    cases first
    rcases sign with rfl | rfl <;> decide

/-- No time follows the blank after a date that stands alone. -/
theorem timeOfDay_of_ends {rest : List Char} (ends : Ends rest) : timeOfDay rest = none := by
  have none : fixedNumber 2 0 23 rest = none := by
    cases rest with
    | nil => rfl
    | cons c rest =>
      exact fixedNumber_eq_none (t := []) (by decide) (ends.other (p := isDigit) (by decide) rfl)
  rw [timeOfDay, none]
  rfl

theorem TimeText.date_eq_none {t : List Char} (h : TimeText t) (rest : List Char) :
    date (t ++ rest) = none := by
  cases h with | @intro h m s p i j k hour minute second places
  have none : fixedNumber 4 0 9999 (h ++ ':' :: (m ++ ':' :: (s ++ p)) ++ rest) = none := by
    rw [List.append_assoc, List.cons_append]
    exact fixedNumber_eq_none (by rw [hour.width]; decide) (by decide)
  rw [date, none]
  rfl

theorem MomentText.read {t rest : List Char} (h : MomentText t) (ends : Ends rest) :
    moment (t ++ rest) = some rest := by
  cases h with
  | date date =>
    rw [moment, date.read]
    cases rest with
    | nil => rfl
    | cons c rest =>
      have clear : ∀ c ∈ delimiters, (c = 'T' ∨ c = 't' ∨ c = ' ') → isBlank c = true :=
        List.forall_iff_forall_mem.mp (by decide)
      have alone : (if c = 'T' ∨ c = 't' ∨ c = ' ' then timeOfDay rest else none) = none := by
        split
        · rename_i joint
          have blank := clear c (ends.mem_delimiters rfl) joint
          have after : Ends rest := by
            rwa [Ends, skipBlank, List.dropWhile_cons_of_pos blank] at ends
          exact timeOfDay_of_ends after
        · rfl
      simp only [alone]
  | time time =>
    have clear : ∀ c ∈ delimiters, isDigit c = false ∧ c ≠ '.' :=
      List.forall_iff_forall_mem.mp (by decide)
    rw [moment, time.date_eq_none, time.read fun c first => clear c (ends.mem_delimiters first)]
  | both date joint time offset =>
    rw [List.append_assoc, List.cons_append, List.append_assoc, moment, date.read]
    simp only [if_pos joint, time.read fun c first => offset.stop ends first, offset.read ends]

/-- A date or a time begins with a digit. -/
theorem MomentText.exists_head {t : List Char} (h : MomentText t) :
    ∃ c s, t = c :: s ∧ isDigit c = true := by
  have fixed {width low high n : Nat} {t : List Char} (h : Fixed width low high t n)
      (positive : 0 < width) (more : List Char) : ∃ c s, t ++ more = c :: s ∧ isDigit c = true := by
    cases t with
    | nil => exact absurd h.width (Nat.ne_of_lt positive)
    | cons c t => exact ⟨c, t ++ more, rfl, h.digits c List.mem_cons_self⟩
  have dated {t : List Char} (h : DateText t) (more : List Char) :
      ∃ c s, t ++ more = c :: s ∧ isDigit c = true := by
    cases h with | intro year
    rw [List.append_assoc]
    exact fixed year (by decide) _
  cases h with
  | date date => simpa using dated date []
  | time time =>
    cases time with | intro hour
    exact fixed hour (by decide) _
  | both date => exact dated date _

end Courier.Toml
