import Mathlib.Tactic.SplitIfs
import Courier.Proofs.Utf8

/-!
# What becomes of broken text

Bytes are cut into encoded characters and maximal broken subparts, and the text has the characters
and one U+FFFD for each subpart. Both are told here by what characters begin with, and the cut is
the only one of its kind; the byte machine finds it.
-/

namespace Courier.Utf8

/-- Whether some character begins with the bytes. -/
def Begins (bytes : List UInt8) : Prop := ∃ c, bytes <+: String.utf8EncodeChar c

/-- A broken piece at the front of some bytes: the longest one that a character begins with, or a
single byte that begins none. -/
structure IsMaximalSubpart (piece rest : List UInt8) : Prop where
  nonempty : piece ≠ []
  broken : ∀ c, ¬ String.utf8EncodeChar c <+: piece ++ rest
  start : Begins piece ∨ piece.length = 1
  longest : ∀ bytes, bytes <+: piece ++ rest → Begins bytes → bytes.length ≤ piece.length

/-- The text of some bytes. -/
inductive Decodes : List UInt8 → List Char → Prop where
  | nil : Decodes [] []
  | char (c : Char) {rest : List UInt8} {s : List Char} (onward : Decodes rest s) :
      Decodes (String.utf8EncodeChar c ++ rest) (c :: s)
  | broken {piece rest : List UInt8} {s : List Char} (maximal : IsMaximalSubpart piece rest)
      (onward : Decodes rest s) : Decodes (piece ++ rest) ('\uFFFD' :: s)

/-! ## There is one text at most -/

theorem IsMaximalSubpart.length_le {piece other rest rest' : List UInt8}
    (h : IsMaximalSubpart piece rest) (h' : IsMaximalSubpart other rest')
    (same : piece ++ rest = other ++ rest') : piece.length ≤ other.length := by
  rcases h.start with begins | single
  · exact h'.longest piece (same ▸ List.prefix_append piece rest) begins
  · rw [single]
    exact List.length_pos_iff.mpr h'.nonempty

theorem IsMaximalSubpart.unique {piece other rest rest' : List UInt8}
    (h : IsMaximalSubpart piece rest) (h' : IsMaximalSubpart other rest')
    (same : piece ++ rest = other ++ rest') : rest = rest' := by
  have length := Nat.le_antisymm (h.length_le h' same) (h'.length_le h same.symm)
  exact (List.append_inj same length).2

theorem encodeChar_unique {c d : Char} {rest rest' : List UInt8}
    (same : String.utf8EncodeChar c ++ rest = String.utf8EncodeChar d ++ rest') :
    c = d ∧ rest = rest' := by
  have read := run_encodeChar c rest
  rw [same, run_encodeChar] at read
  obtain rfl := Option.some.inj (List.cons.inj read).1
  exact ⟨rfl, List.append_cancel_left same⟩

theorem encodeChar_ne_nil (c : Char) : String.utf8EncodeChar c ≠ [] := by
  intro nil
  have read := run_encodeChar c []
  rw [nil] at read
  cases read

theorem Decodes.unique {bytes : List UInt8} {s t : List Char} (hs : Decodes bytes s)
    (ht : Decodes bytes t) : s = t := by
  induction hs generalizing t with
  | nil =>
    generalize same : ([] : List UInt8) = bytes at ht
    cases ht with
    | nil => rfl
    | char c => exact absurd (List.append_eq_nil_iff.mp same.symm).1 (encodeChar_ne_nil c)
    | broken maximal => exact absurd (List.append_eq_nil_iff.mp same.symm).1 maximal.nonempty
  | @char c rest s onward ih =>
    generalize same : String.utf8EncodeChar c ++ rest = bytes at ht
    cases ht with
    | nil => exact absurd (List.append_eq_nil_iff.mp same).1 (encodeChar_ne_nil c)
    | char d onward =>
      obtain ⟨rfl, rfl⟩ := encodeChar_unique same
      rw [ih onward]
    | broken maximal => exact absurd (same ▸ List.prefix_append _ rest) (maximal.broken c)
  | @broken piece rest s maximal onward ih =>
    generalize same : piece ++ rest = bytes at ht
    cases ht with
    | nil => exact absurd (List.append_eq_nil_iff.mp same).1 maximal.nonempty
    | char d => exact absurd (same ▸ List.prefix_append _ _) (maximal.broken d)
    | broken other onward =>
      obtain rfl := maximal.unique other same
      rw [ih onward]

/-! ## Characters from their bytes -/

theorem exists_char {n : Nat} (scalar : n.isValidChar) : ∃ c : Char, c.val.toNat = n := by
  refine ⟨Char.ofNat n, ?_⟩
  rw [Char.ofNat, dif_pos scalar]
  rfl

theorem ofNat_eq {n : Nat} {b : UInt8} (same : n = b.toNat) : UInt8.ofNat n = b := by
  rw [same, UInt8.ofNat_toNat]

theorem exists_encode_one {b : UInt8} (low : b.toNat < 0x80) :
    ∃ c, String.utf8EncodeChar c = [b] := by
  obtain ⟨c, value⟩ := exists_char (n := b.toNat) (.inl (by omega))
  refine ⟨c, ?_⟩
  rw [String.utf8EncodeChar, value, if_pos (by omega), UInt8.ofNat_toNat]

theorem exists_encode_two {b x : UInt8} (low : 0xC2 ≤ b.toNat) (high : b.toNat < 0xE0)
    (tail : 0x80 ≤ x.toNat ∧ x.toNat ≤ 0xBF) : ∃ c, String.utf8EncodeChar c = [b, x] := by
  obtain ⟨c, value⟩ := exists_char (n := (b.toNat - 0xC0) * 64 + (x.toNat - 0x80))
    (.inl (by omega))
  refine ⟨c, ?_⟩
  rw [String.utf8EncodeChar, value, if_neg (by omega), if_pos (by omega), ofNat_eq (b := b),
    ofNat_eq (b := x)] <;> omega

theorem exists_encode_three {b x y : UInt8} (low : 0xE0 ≤ b.toNat) (high : b.toNat < 0xF0)
    (second : (if b.toNat = 0xE0 then 0xA0 else 0x80) ≤ x.toNat ∧
      x.toNat ≤ if b.toNat = 0xED then 0x9F else 0xBF)
    (tail : 0x80 ≤ y.toNat ∧ y.toNat ≤ 0xBF) : ∃ c, String.utf8EncodeChar c = [b, x, y] := by
  have bounds : 0x80 ≤ x.toNat ∧ x.toNat ≤ 0xBF ∧ (b.toNat = 0xE0 → 0xA0 ≤ x.toNat) ∧
      (b.toNat = 0xED → x.toNat ≤ 0x9F) := by
    split at second <;> split at second <;> omega
  have scalar :
      ((b.toNat - 0xE0) * 4096 + (x.toNat - 0x80) * 64 + (y.toNat - 0x80)).isValidChar := by
    unfold Nat.isValidChar
    omega
  obtain ⟨c, value⟩ := exists_char scalar
  refine ⟨c, ?_⟩
  rw [String.utf8EncodeChar, value, if_neg (by omega), if_neg (by omega), if_pos (by omega),
    ofNat_eq (b := b), ofNat_eq (b := x), ofNat_eq (b := y)] <;> omega

theorem exists_encode_four {b x y z : UInt8} (low : 0xF0 ≤ b.toNat) (high : b.toNat ≤ 0xF4)
    (second : (if b.toNat = 0xF0 then 0x90 else 0x80) ≤ x.toNat ∧
      x.toNat ≤ if b.toNat = 0xF4 then 0x8F else 0xBF)
    (third : 0x80 ≤ y.toNat ∧ y.toNat ≤ 0xBF) (tail : 0x80 ≤ z.toNat ∧ z.toNat ≤ 0xBF) :
    ∃ c, String.utf8EncodeChar c = [b, x, y, z] := by
  have bounds : 0x80 ≤ x.toNat ∧ x.toNat ≤ 0xBF ∧ (b.toNat = 0xF0 → 0x90 ≤ x.toNat) ∧
      (b.toNat = 0xF4 → x.toNat ≤ 0x8F) := by
    split at second <;> split at second <;> omega
  have scalar : ((b.toNat - 0xF0) * 262144 + (x.toNat - 0x80) * 4096 + (y.toNat - 0x80) * 64 +
      (z.toNat - 0x80)).isValidChar := by
    unfold Nat.isValidChar
    omega
  obtain ⟨c, value⟩ := exists_char scalar
  refine ⟨c, ?_⟩
  rw [String.utf8EncodeChar, value, if_neg (by omega), if_neg (by omega), if_neg (by omega),
    ofNat_eq (b := b), ofNat_eq (b := x), ofNat_eq (b := y), ofNat_eq (b := z)] <;> omega

/-- What brings a character to its end of which `need` bytes are missing. -/
inductive Ends : Nat → Nat → Nat → List UInt8 → Prop where
  | last {low high : Nat} {b : UInt8} (lower : low ≤ b.toNat) (upper : b.toNat ≤ high) :
      Ends 1 low high [b]
  | next {need low high : Nat} {b : UInt8} {t : List UInt8} (lower : low ≤ b.toNat)
      (upper : b.toNat ≤ high) (onward : Ends (need + 1) 0x80 0xBF t) :
      Ends (need + 2) low high (b :: t)

theorem Ends.exists (need : Nat) {low high : Nat} (lower : low ≤ high) (byte : high < 256) :
    ∃ t, Ends (need + 1) low high t := by
  have first : (UInt8.ofNat low).toNat = low := UInt8.toNat_ofNat_of_lt (show low < 256 by omega)
  induction need generalizing low high with
  | zero => exact ⟨_, .last (b := .ofNat low) (by omega) (by omega)⟩
  | succ need ih =>
    obtain ⟨t, onward⟩ : ∃ t, Ends (need + 1) 0x80 0xBF t := ih (by decide) (by decide) rfl
    exact ⟨_, .next (b := .ofNat low) (by omega) (by omega) onward⟩

/-- The bytes of a character under way, with the state that the machine is in after them. -/
structure Pending (p : List UInt8) (need low high value : Nat) : Prop where
  nonempty : p ≠ []
  read : ∀ rest, run .between (p ++ rest) = run (.within need low high value) rest
  needs : 0 < need
  lower : 0x80 ≤ low
  upper : high ≤ 0xBF
  order : low ≤ high
  ends : ∀ t, Ends need low high t → ∃ c, String.utf8EncodeChar c = p ++ t

/-- A byte between characters is one, or begins none, or begins a longer one. -/
theorem start_cases (b : UInt8) :
    (∃ c, String.utf8EncodeChar c = [b]) ∨ start b.toNat = ([none], .between) ∨
      ∃ need low high value, Pending [b] need low high value := by
  have read {s : State} (first : start b.toNat = ([], s)) (rest : List UInt8) :
      run .between ([b] ++ rest) = run s rest := by
    rw [List.singleton_append, run_cons, step, first]
    rfl
  by_cases one : b.toNat < 0x80
  · exact .inl (exists_encode_one one)
  by_cases two : 0xC2 ≤ b.toNat ∧ b.toNat < 0xE0
  · refine .inr (.inr ⟨_, _, _, _, by simp, read (start_two two.1 two.2), ?_, ?_, ?_, ?_, ?_⟩)
    all_goals try decide
    rintro t ⟨lower, upper⟩
    exact exists_encode_two two.1 two.2 ⟨lower, upper⟩
  by_cases three : 0xE0 ≤ b.toNat ∧ b.toNat < 0xF0
  · refine .inr (.inr ⟨_, _, _, _, by simp, read (start_three three.1 three.2), ?_, ?_, ?_, ?_, ?_⟩)
    · decide
    · split <;> omega
    · split <;> omega
    · split <;> split <;> omega
    rintro t (_ | ⟨lower, upper, ⟨lower', upper'⟩⟩)
    exact exists_encode_three three.1 three.2 ⟨lower, upper⟩ ⟨lower', upper'⟩
  by_cases four : 0xF0 ≤ b.toNat ∧ b.toNat ≤ 0xF4
  · refine .inr (.inr ⟨_, _, _, _, by simp, read (start_four four.1 four.2), ?_, ?_, ?_, ?_, ?_⟩)
    · decide
    · split <;> omega
    · split <;> omega
    · split <;> split <;> omega
    rintro t (_ | ⟨lower, upper, _ | ⟨lower', upper', ⟨lower'', upper''⟩⟩⟩)
    exact exists_encode_four four.1 four.2 ⟨lower, upper⟩ ⟨lower', upper'⟩ ⟨lower'', upper''⟩
  · refine .inr (.inl ?_)
    unfold start
    split_ifs <;> first | rfl | omega

namespace Pending

variable {p : List UInt8} {need low high value : Nat} {b : UInt8}

/-- A character goes on with a byte that the machine waits for. -/
theorem inRange (h : Pending p need low high value) {c : Char} {t : List UInt8}
    (whole : String.utf8EncodeChar c = p ++ b :: t) : low ≤ b.toNat ∧ b.toNat ≤ high := by
  have read := run_encodeChar c []
  rw [List.append_nil, whole, h.read] at read
  refine Decidable.byContradiction fun outside => ?_
  rw [run_cons, step, if_neg outside] at read
  cases (List.cons.inj read).1

theorem begins (h : Pending p need low high value) : Begins p := by
  obtain ⟨n, rfl⟩ := Nat.exists_eq_add_one.mpr h.needs
  obtain ⟨t, ends⟩ := Ends.exists n h.order (by have := h.upper; omega)
  obtain ⟨c, whole⟩ := h.ends t ends
  exact ⟨c, whole ▸ List.prefix_append p t⟩

theorem next (h : Pending p (need + 2) low high value) (lower : low ≤ b.toNat)
    (upper : b.toNat ≤ high) :
    Pending (p ++ [b]) (need + 1) 0x80 0xBF (value * 64 + (b.toNat - 0x80)) where
  nonempty := by simp
  read rest := by
    rw [List.append_assoc, h.read, List.singleton_append, run_next rest lower upper]
  needs := Nat.succ_pos need
  lower := Nat.le_refl _
  upper := Nat.le_refl _
  order := by decide
  ends t onward := by
    obtain ⟨c, whole⟩ := h.ends (b :: t) (.next lower upper onward)
    exact ⟨c, by rw [whole, List.append_assoc, List.singleton_append]⟩

/-- With its last byte a character is there. -/
theorem last (h : Pending p 1 low high value) (lower : low ≤ b.toNat) (upper : b.toNat ≤ high) :
    ∃ c, String.utf8EncodeChar c = p ++ [b] ∧ ∀ rest,
      run (.within 1 low high value) (b :: rest) = some c :: run .between rest := by
  obtain ⟨c, whole⟩ := h.ends [b] (.last lower upper)
  refine ⟨c, whole, fun rest => ?_⟩
  rw [← h.read, ← List.singleton_append, ← List.append_assoc, ← whole, run_encodeChar]

/-- Where the machine does not go on, the bytes under way are a maximal broken subpart. -/
theorem isMaximalSubpart (h : Pending p need low high value) {rest : List UInt8}
    (stops : ∀ b t, rest = b :: t → ¬ (low ≤ b.toNat ∧ b.toNat ≤ high)) :
    IsMaximalSubpart p rest := by
  -- No character begins with these bytes and one more.
  have apart {bytes : List UInt8} {c : Char} (front : bytes <+: p ++ rest)
      (begins : bytes <+: String.utf8EncodeChar c) : bytes <+: p := by
    rcases List.prefix_or_prefix_of_prefix front (List.prefix_append p rest) with
      inside | ⟨more, rfl⟩
    · exact inside
    cases more with
    | nil => simp
    | cons b t =>
      obtain ⟨after, onward⟩ := (List.prefix_append_right_inj p).mp front
      obtain ⟨t', whole⟩ := begins
      rw [List.append_assoc, List.cons_append] at whole
      exact absurd (h.inRange whole.symm) (stops b _ onward.symm)
  refine ⟨h.nonempty, fun c front => ?_, .inl h.begins, fun bytes front begins => ?_⟩
  · obtain ⟨t, same⟩ := apart front List.prefix_rfl
    have read := h.read []
    rw [List.append_nil, ← same, run_encodeChar] at read
    cases read
  · obtain ⟨c, begins⟩ := begins
    exact (apart front begins).length_le

end Pending

theorem encodeChar_ne_cons {b : UInt8} (stray : start b.toNat = ([none], .between)) {c : Char}
    {t : List UInt8} : String.utf8EncodeChar c ≠ b :: t := by
  intro whole
  have read := run_encodeChar c []
  rw [List.append_nil, whole, run_cons, step, stray] at read
  cases read

/-- A byte that begins no character is broken by itself. -/
theorem isMaximalSubpart_of_start {b : UInt8} (stray : start b.toNat = ([none], .between))
    (rest : List UInt8) : IsMaximalSubpart [b] rest := by
  refine ⟨by simp, fun c front => ?_, .inr rfl, fun bytes front begins => ?_⟩
  · cases whole : String.utf8EncodeChar c with
    | nil => exact encodeChar_ne_nil c whole
    | cons d t =>
      rw [whole] at front
      obtain ⟨rfl, -⟩ := List.cons_prefix_cons.mp front
      exact encodeChar_ne_cons stray whole
  · cases bytes with
    | nil => simp
    | cons d t =>
      obtain ⟨rfl, -⟩ := List.cons_prefix_cons.mp front
      obtain ⟨c, after, whole⟩ := begins
      exact absurd whole.symm (encodeChar_ne_cons stray)

/-! ## The machine finds the text -/

/-- The text of what the machine finds. -/
def textOf (pieces : List Piece) : List Char := pieces.map (·.getD '\uFFFD')

theorem textOf_append (a b : List Piece) : textOf (a ++ b) = textOf a ++ textOf b :=
  List.map_append

theorem textOf_some (s : List Char) : textOf (s.map some) = s := by
  rw [textOf, List.map_map]
  exact List.map_id s

theorem lossy_eq (bytes : List UInt8) : lossy bytes = String.ofList (textOf (pieces bytes)) := rfl

theorem run_of_pending_broken {need low high value : Nat} {rest : List UInt8}
    (stops : ∀ b t, rest = b :: t → ¬ (low ≤ b.toNat ∧ b.toNat ≤ high)) :
    run (.within need low high value) rest = none :: run .between rest := by
  cases rest with
  | nil => rfl
  | cons b t =>
    have stop : step (.within need low high value) b.toNat =
        (none :: (start b.toNat).1, (start b.toNat).2) := by
      rw [step, if_neg (stops b t rfl)]
    rw [run_cons, run_cons, stop]
    rfl

/-- By induction on the bytes still to come, for a character under way and between two of them. -/
theorem decodes_run (rest : List UInt8) :
    Decodes rest (textOf (run .between rest)) ∧
    ∀ p need low high value, Pending p need low high value →
      Decodes (p ++ rest) (textOf (run (.within need low high value) rest)) := by
  have breaks {rest : List UInt8} (here : Decodes rest (textOf (run .between rest)))
      {p : List UInt8} {need low high value : Nat} (pending : Pending p need low high value)
      (stops : ∀ b t, rest = b :: t → ¬ (low ≤ b.toNat ∧ b.toNat ≤ high)) :
      Decodes (p ++ rest) (textOf (run (.within need low high value) rest)) := by
    rw [run_of_pending_broken stops]
    exact .broken (pending.isMaximalSubpart stops) here
  induction rest with
  | nil => exact ⟨.nil, fun p need low high value pending => breaks .nil pending nofun⟩
  | cons b rest ih =>
    obtain ⟨between, within⟩ := ih
    have here : Decodes (b :: rest) (textOf (run .between (b :: rest))) := by
      rcases start_cases b with ⟨c, whole⟩ | stray | ⟨need, low, high, value, pending⟩
      · have read := run_encodeChar c rest
        rw [whole, List.singleton_append] at read
        rw [read, ← List.singleton_append, ← whole]
        exact .char c between
      · rw [run_cons, step, stray, ← List.singleton_append]
        exact .broken (isMaximalSubpart_of_start stray rest) between
      · have read := pending.read rest
        rw [List.singleton_append] at read
        rw [read]
        exact within [b] need low high value pending
    refine ⟨here, fun p need low high value pending => ?_⟩
    by_cases range : low ≤ b.toNat ∧ b.toNat ≤ high
    · obtain ⟨lower, upper⟩ := range
      rw [← List.singleton_append, ← List.append_assoc, List.singleton_append]
      cases need with
      | zero => exact absurd pending.needs (Nat.lt_irrefl 0)
      | succ need =>
        cases need with
        | zero =>
          obtain ⟨c, whole, read⟩ := pending.last lower upper
          rw [read, ← whole]
          exact .char c between
        | succ need =>
          rw [run_next rest lower upper]
          exact within _ _ _ _ _ (pending.next lower upper)
    · refine breaks here pending fun d t same => ?_
      rwa [← (List.cons.inj same).1]

theorem lossy_eq_iff (bytes : List UInt8) (s : List Char) :
    lossy bytes = String.ofList s ↔ Decodes bytes s := by
  have found : Decodes bytes (textOf (pieces bytes)) := (decodes_run bytes).1
  rw [lossy_eq, String.ofList_inj]
  constructor
  · rintro rfl
    exact found
  · exact found.unique

/-! ## Whole texts beside broken bytes -/

theorem lossy_encode_append (text : String) (bytes : List UInt8) :
    lossy (encode text ++ bytes) = text ++ lossy bytes := by
  rw [lossy_eq, encode, pieces, run_encoded, textOf_append, textOf_some, String.ofList_append,
    String.ofList_toList]
  rfl

theorem lossy_encode (text : String) : lossy (encode text) = text := by
  have alone := lossy_encode_append text []
  rwa [List.append_nil, show lossy [] = "" from rfl, String.append_empty] at alone

/-- The first byte of a character goes on with no other. -/
theorem not_inRange_of_encodeChar {c : Char} {b : UInt8} {t : List UInt8}
    (whole : String.utf8EncodeChar c = b :: t) : ¬ (0x80 ≤ b.toNat ∧ b.toNat ≤ 0xBF) := by
  rintro ⟨lower, upper⟩
  have stray : start b.toNat = ([none], .between) := by
    rw [start, if_neg (by omega), if_pos (by omega)]
  exact encodeChar_ne_cons stray whole

/-- A state that waits for bytes that continue a character. -/
def State.Waits : State → Prop
  | .between => True
  | .within _ low high _ => 0x80 ≤ low ∧ high ≤ 0xBF

theorem State.waits_start (b : Nat) : (start b).2.Waits := by
  unfold start
  split_ifs <;> simp [State.Waits]

theorem State.Waits.step {s : State} (waits : s.Waits) (b : Nat) : (step s b).2.Waits := by
  cases s with
  | between => exact State.waits_start b
  | within need low high value =>
    rw [Utf8.step]
    split
    · dsimp only
      split
      · trivial
      · exact ⟨Nat.le_refl _, Nat.le_refl _⟩
    · exact State.waits_start b

/-- A whole text is read from where the bytes before it end, broken or not. -/
theorem run_append_encoded {s : State} (waits : s.Waits) (bytes : List UInt8) (text : List Char) :
    textOf (run s (bytes ++ text.flatMap String.utf8EncodeChar)) =
      textOf (run s bytes) ++ text := by
  induction bytes generalizing s with
  | nil =>
    have whole := run_encoded text []
    rw [List.append_nil] at whole
    have read : textOf (run .between (text.flatMap String.utf8EncodeChar)) = text := by
      rw [whole, textOf_append, textOf_some]
      exact List.append_nil text
    cases s with
    | between => exact read
    | within need low high value =>
      rw [List.nil_append, run_of_pending_broken]
      · exact congrArg ('\uFFFD' :: ·) read
      · intro b t first
        cases text with
        | nil => cases first
        | cons c text =>
          rw [List.flatMap_cons] at first
          cases char : String.utf8EncodeChar c with
          | nil => exact absurd char (encodeChar_ne_nil c)
          | cons d t =>
            rw [char] at first
            obtain ⟨rfl, -⟩ := List.cons.inj first
            have apart := not_inRange_of_encodeChar char
            obtain ⟨lower, upper⟩ := waits
            omega
  | cons b bytes ih =>
    rw [List.cons_append, run_cons, run_cons, textOf_append, textOf_append,
      ih (waits.step b.toNat), List.append_assoc]

theorem lossy_append_encode (bytes : List UInt8) (text : String) :
    lossy (bytes ++ encode text) = lossy bytes ++ text := by
  have read := run_append_encoded (s := .between) trivial bytes text.toList
  rw [lossy_eq, pieces, encode, read, String.ofList_append, String.ofList_toList]
  rfl

end Courier.Utf8
