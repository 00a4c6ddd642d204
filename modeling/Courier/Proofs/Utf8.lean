import Courier.Utf8

/-!
# What is encoded is decoded

The byte machine reads back every text from its encoding, character by character. Nothing is said
here about broken input.
-/

namespace Courier.Utf8

theorem run_cons (s : State) (b : UInt8) (rest : List UInt8) :
    run s (b :: rest) = (step s b.toNat).1 ++ run (step s b.toNat).2 rest := by
  cases s <;> rfl

/-! ## The first byte of a character -/

theorem start_ascii {b : Nat} (h : b < 0x80) : start b = ([some (Char.ofNat b)], .between) := by
  rw [start, if_pos h]

theorem start_two {b : Nat} (low : 0xC2 ≤ b) (high : b < 0xE0) :
    start b = ([], .within 1 0x80 0xBF (b - 0xC0)) := by
  rw [start, if_neg (by omega), if_neg (by omega), if_pos high]

/-- No other form is shorter, and none of the code points is a surrogate. -/
theorem start_three {b : Nat} (low : 0xE0 ≤ b) (high : b < 0xF0) :
    start b = ([], .within 2 (if b = 0xE0 then 0xA0 else 0x80) (if b = 0xED then 0x9F else 0xBF)
      (b - 0xE0)) := by
  rw [start, if_neg (by omega), if_neg (by omega), if_neg (by omega)]
  by_cases first : b = 0xE0
  · subst b
    rfl
  by_cases surrogates : b = 0xED
  · subst b
    rfl
  rw [if_neg first, if_neg surrogates, if_pos high, if_neg first, if_neg surrogates]

theorem start_four {b : Nat} (low : 0xF0 ≤ b) (high : b ≤ 0xF4) :
    start b = ([], .within 3 (if b = 0xF0 then 0x90 else 0x80) (if b = 0xF4 then 0x8F else 0xBF)
      (b - 0xF0)) := by
  rw [start, if_neg (by omega), if_neg (by omega), if_neg (by omega), if_neg (by omega),
    if_neg (by omega), if_neg (by omega)]
  by_cases first : b = 0xF0
  · subst b
    rfl
  by_cases last : b = 0xF4
  · subst b
    rfl
  rw [if_neg first, if_pos (by omega), if_neg first, if_neg last]

/-! ## The bytes after it -/

theorem run_last {low high value : Nat} {b : UInt8} (rest : List UInt8) (lower : low ≤ b.toNat)
    (upper : b.toNat ≤ high) :
    run (.within 1 low high value) (b :: rest) =
      some (Char.ofNat (value * 64 + (b.toNat - 0x80))) :: run .between rest := by
  rw [run_cons, step, if_pos ⟨lower, upper⟩]
  rfl

theorem run_next {need low high value : Nat} {b : UInt8} (rest : List UInt8)
    (lower : low ≤ b.toNat) (upper : b.toNat ≤ high) :
    run (.within (need + 2) low high value) (b :: rest) =
      run (.within (need + 1) 0x80 0xBF (value * 64 + (b.toNat - 0x80))) rest := by
  rw [run_cons, step, if_pos ⟨lower, upper⟩]
  rfl

theorem run_encodeChar (c : Char) (rest : List UInt8) :
    run .between (String.utf8EncodeChar c ++ rest) = some c :: run .between rest := by
  have scalar : c.toNat < 0xD800 ∨ 0xDFFF < c.toNat ∧ c.toNat < 0x110000 := c.valid
  have whole : ∀ n, n = c.toNat → some (Char.ofNat n) = some c := by
    intro n h
    rw [h, Char.ofNat_toNat]
  have byte : ∀ n, n < 256 → (UInt8.ofNat n).toNat = n := fun n h => UInt8.toNat_ofNat_of_lt h
  rw [String.utf8EncodeChar, show c.val.toNat = c.toNat from rfl]
  by_cases one : c.toNat ≤ 0x7F
  · rw [if_pos one, List.singleton_append, run_cons, step, byte _ (by omega),
      start_ascii (by omega), whole _ rfl]
    rfl
  by_cases two : c.toNat ≤ 0x7FF
  · have lead := byte (c.toNat / 64 % 32 + 192) (by omega)
    have last := byte (c.toNat % 64 + 128) (by omega)
    rw [if_neg one, if_pos two, List.cons_append, List.singleton_append, run_cons, step, lead,
      start_two (by omega) (by omega), List.nil_append, run_last _ (by omega) (by omega), last]
    rw [whole _ (by omega)]
  by_cases three : c.toNat ≤ 0xFFFF
  · have lead := byte (c.toNat / 4096 % 16 + 224) (by omega)
    have second := byte (c.toNat / 64 % 64 + 128) (by omega)
    have last := byte (c.toNat % 64 + 128) (by omega)
    rw [if_neg one, if_neg two, if_pos three, List.cons_append, List.cons_append,
      List.singleton_append, run_cons, step, lead, start_three (by omega) (by omega),
      List.nil_append, run_next _ (by split <;> omega) (by split <;> omega), second,
      run_last _ (by omega) (by omega), last]
    rw [whole _ (by omega)]
  · have lead := byte (c.toNat / 262144 % 8 + 240) (by omega)
    have second := byte (c.toNat / 4096 % 64 + 128) (by omega)
    have third := byte (c.toNat / 64 % 64 + 128) (by omega)
    have last := byte (c.toNat % 64 + 128) (by omega)
    rw [if_neg one, if_neg two, if_neg three, List.cons_append, List.cons_append,
      List.cons_append, List.singleton_append, run_cons, step, lead,
      start_four (by omega) (by omega), List.nil_append,
      run_next _ (by split <;> omega) (by split <;> omega), second,
      run_next _ (by omega) (by omega), third, run_last _ (by omega) (by omega), last]
    rw [whole _ (by omega)]

theorem run_encoded (s : List Char) (rest : List UInt8) :
    run .between (s.flatMap String.utf8EncodeChar ++ rest) =
      s.map some ++ run .between rest := by
  induction s with
  | nil => rfl
  | cons c s ih =>
    rw [List.flatMap_cons, List.append_assoc, run_encodeChar, ih]
    rfl

theorem pieces_encode (text : String) : pieces (encode text) = text.toList.map some := by
  have whole := run_encoded text.toList []
  rw [List.append_nil] at whole
  rw [pieces, encode, whole]
  exact List.append_nil _

theorem strict?_encode (text : String) : strict? (encode text) = some text := by
  have all : (text.toList.map some).mapM id = some text.toList := by
    induction text.toList with
    | nil => rfl
    | cons c s ih => simp [List.mapM_cons, ih]
  rw [strict?, pieces_encode, all]
  simp

end Courier.Utf8
