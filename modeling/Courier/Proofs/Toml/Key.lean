import Courier.Proofs.Toml.Text
import Courier.Toml.Statement

/-!
# Keys are read

A key is bare or quoted on one line, and a path of keys has dots between them and blanks around
each. Before an equals sign or a closing bracket it is read as that path.
-/

namespace Courier.Toml

/-- A key that needs no quotes. -/
structure BareKey (key : String) : Prop where
  nonempty : key.toList ≠ []
  bare : ∀ c ∈ key.toList, isBareKey c = true

instance (key : String) : Decidable (BareKey key) :=
  decidable_of_iff (key.toList ≠ [] ∧ key.toList.all isBareKey = true)
    ⟨fun h => ⟨h.1, List.all_eq_true.mp h.2⟩, fun h => ⟨h.nonempty, List.all_eq_true.mpr h.bare⟩⟩

inductive SimpleKey : List Char → String → Prop where
  | bare {key : String} (bare : BareKey key) : SimpleKey key.toList key
  | quoted {quote : Char} {escapes : Bool} {t s : List Char} (quotes : Quotes quote escapes)
      (text : Inline quote escapes t s) : SimpleKey (quote :: (t ++ [quote])) (String.ofList s)

/-- A key with blanks around it. -/
inductive KeyPart : List Char → String → Prop where
  | intro {b t a : List Char} {key : String} (before : Blanks b) (simple : SimpleKey t key)
      (after : Blanks a) : KeyPart (b ++ (t ++ a)) key

/-- Keys with dots between them. -/
inductive Dotted : List Char → List String → Prop where
  | last {t : List Char} {key : String} (part : KeyPart t key) : Dotted t [key]
  | more {t u : List Char} {key : String} {keys : List String} (part : KeyPart t key)
      (others : Dotted u keys) : Dotted (t ++ '.' :: u) (key :: keys)

/-- How a path of keys is written. -/
structure KeyText (t : List Char) (path : KeyPath) : Prop where
  dotted : Dotted t path.keys
  few : path.keys.length < keyPathLimit

/-- What a key begins with. -/
def BeginsKey (c : Char) : Prop := isBareKey c = true ∨ c = '"' ∨ c = '\''

theorem BeginsKey.ne {c d : Char} (h : BeginsKey c) (bare : isBareKey d = false)
    (quotes : d ∉ ['"', '\'']) : c ≠ d := by
  rintro rfl
  rcases h with yes | rfl | rfl
  · rw [bare] at yes
    cases yes
  · exact quotes (by decide)
  · exact quotes (by decide)

theorem BeginsKey.not_blank {c : Char} (h : BeginsKey c) : isBlank c = false := by
  have space : c ≠ ' ' := h.ne (by decide) (by decide)
  have tab : c ≠ '\t' := h.ne (by decide) (by decide)
  simp [isBlank, space, tab]

/-! ## One key -/

theorem BareKey.exists_head {key : String} (h : BareKey key) :
    ∃ c s, key.toList = c :: s ∧ isBareKey c = true := by
  obtain ⟨c, s, first⟩ := List.exists_cons_of_ne_nil h.nonempty
  exact ⟨c, s, first, h.bare c (first ▸ List.mem_cons_self)⟩

theorem SimpleKey.exists_head {t : List Char} {key : String} (h : SimpleKey t key) :
    ∃ c s, t = c :: s ∧ BeginsKey c := by
  cases h with
  | bare bare =>
    obtain ⟨c, s, first, head⟩ := bare.exists_head
    exact ⟨c, s, first, .inl head⟩
  | quoted quotes =>
    refine ⟨_, _, rfl, .inr ?_⟩
    cases quotes
    · exact .inl rfl
    · exact .inr rfl

/-- A bare key ends where something follows that it cannot hold. -/
theorem BareKey.simpleKey {key : String} (h : BareKey key) {rest : List Char}
    (stop : ∀ c, rest.head? = some c → isBareKey c = false) :
    simpleKey (key.toList ++ rest) = some (key, rest) := by
  obtain ⟨c, s, first, bare⟩ := h.exists_head
  have begins : BeginsKey c := .inl bare
  have differs (d : Char) (other : isBareKey d = false) : c ≠ d := by
    rintro rfl
    rw [bare] at other
    cases other
  have quote : c ≠ '"' := differs _ (by decide)
  have apostrophe : c ≠ '\'' := differs _ (by decide)
  have left : (key.toList ++ rest).dropWhile isBareKey = rest := dropWhile_eq_right h.bare stop
  have taken : (key.toList ++ rest).takeWhile isBareKey = key.toList := by
    have whole := List.takeWhile_append_dropWhile (p := isBareKey) (l := key.toList ++ rest)
    rw [left] at whole
    exact List.append_cancel_right whole
  rw [Toml.simpleKey.eq_def]
  split
  · simp_all
  · simp_all
  · rw [taken, left, if_neg h.nonempty, String.ofList_toList]

theorem SimpleKey.read {t : List Char} {key : String} (h : SimpleKey t key) {rest : List Char}
    (stop : ∀ c, rest.head? = some c → isBareKey c = false) :
    simpleKey (t ++ rest) = some (key, rest) := by
  cases h with
  | bare bare => exact bare.simpleKey stop
  | @quoted quote escapes t s quotes text =>
    have read := text.lineText rest
    rw [List.cons_append, List.append_assoc, List.singleton_append]
    cases quotes
    all_goals
      rw [simpleKey, read]
      rfl

theorem BareKey.keyPart {key : String} (h : BareKey key) {b : List Char} (blanks : Blanks b) :
    KeyPart (key.toList ++ b) key :=
  .intro (b := []) .nil (.bare h) blanks

theorem BareKey.keyText {key : String} (h : BareKey key) {b : List Char} (blanks : Blanks b) :
    KeyText (key.toList ++ b) ⟨[], key⟩ :=
  ⟨.last (h.keyPart blanks), by simp [KeyPath.keys, keyPathLimit]⟩

/-! ## Paths of keys -/

/-- One part of a path, with the blanks around it. -/
def keyPart : Reader String := fun s => do
  let (key, rest) ← simpleKey (skipBlank s)
  return (key, skipBlank rest)

theorem keyPath_eq (s : List Char) : keyPath s = (do
    let (keys, rest) ← separated keyPart '.' s
    if keys.length < keyPathLimit then
      let last ← keys.getLast?
      return (⟨keys.dropLast, last⟩, rest)
    else none) :=
  rfl

theorem KeyPart.read {t : List Char} {key : String} (h : KeyPart t key) {d : Char}
    (stop : d ∈ ['.', '=', ']']) (rest : List Char) :
    keyPart (t ++ d :: rest) = some (key, d :: rest) := by
  cases h with | @intro b t a key before simple after
  have closed : ∀ d ∈ ['.', '=', ']'], isBareKey d = false ∧ isBlank d = false :=
    List.forall_iff_forall_mem.mp (by decide)
  have bare : ∀ c, isBlank c = true → isBareKey c = false := by
    intro c blank
    simp only [isBlank, Bool.or_eq_true, decide_eq_true_eq] at blank
    rcases blank with rfl | rfl <;> decide
  have ends : ∀ c, (a ++ d :: rest).head? = some c → isBareKey c = false := by
    intro c first
    cases a with
    | nil =>
      cases first
      exact (closed _ stop).1
    | cons e a =>
      cases first
      exact bare _ (after _ List.mem_cons_self)
  have read := simple.read ends
  obtain ⟨c, s, rfl, begins⟩ := simple.exists_head
  have start : skipBlank (b ++ (c :: s ++ (a ++ d :: rest))) = c :: s ++ (a ++ d :: rest) := by
    rw [skipBlank_append before]
    exact skipBlank_cons begins.not_blank _
  have left : skipBlank (a ++ d :: rest) = d :: rest := by
    rw [skipBlank_append after]
    exact skipBlank_cons (closed d stop).2 rest
  rw [List.append_assoc, List.append_assoc, keyPart, start, read]
  exact congrArg (fun r => some (key, r)) left

theorem KeyPart.length_pos {t : List Char} {key : String} (h : KeyPart t key) : 0 < t.length := by
  cases h with | intro before simple after
  obtain ⟨c, s, rfl, -⟩ := simple.exists_head
  simp only [List.length_append, List.length_cons]
  omega

theorem Dotted.readsAll {t : List Char} {keys : List String} (h : Dotted t keys) {d : Char}
    (stop : d ∈ ['=', ']']) (rest : List Char) :
    ∃ key others r, keys = key :: others ∧ keyPart (t ++ d :: rest) = some (key, r) ∧
      r.length < (t ++ d :: rest).length ∧
      ReadsAll (fun s => expect '.' s >>= keyPart) r others (d :: rest) := by
  have known : ∀ d ∈ ['=', ']'], d ∈ ['.', '=', ']'] ∧ d ≠ '.' :=
    List.forall_iff_forall_mem.mp (by decide)
  induction h with
  | last part =>
    refine ⟨_, [], d :: rest, rfl, part.read (known d stop).1 rest, ?_, .stop ?_⟩
    · have longer := part.length_pos
      simp only [List.length_append]
      omega
    · rw [expect_of_ne (by simpa using (known d stop).2)]
      rfl
  | @more t u key keys part _ ih =>
    obtain ⟨next, others, r, rfl, read, shorter, onward⟩ := ih
    refine ⟨key, next :: others, '.' :: (u ++ d :: rest), rfl, ?_, ?_, .next ?_ ?_ onward⟩
    · rw [List.append_assoc, List.cons_append]
      exact part.read (by decide) _
    · have longer := part.length_pos
      simp only [List.length_append, List.length_cons]
      omega
    · rw [expect_self]
      exact read
    · rw [List.length_cons]
      omega

theorem KeyText.read {t : List Char} {path : KeyPath} (h : KeyText t path) {d : Char}
    (stop : d ∈ ['=', ']']) (rest : List Char) :
    keyPath (t ++ d :: rest) = some (path, d :: rest) := by
  obtain ⟨key, others, r, all, first, -, onward⟩ := h.dotted.readsAll stop rest
  have last : path.keys.getLast? = some path.last := by simp [KeyPath.keys]
  have above : path.keys.dropLast = path.above := by simp [KeyPath.keys]
  rw [keyPath_eq, separated_of_readsAll first onward, ← all]
  simp only [Option.bind_eq_bind, Option.bind_some, if_pos h.few, last, above]
  rfl

/-- A path is read from its first key on. -/
theorem keyPath_skipBlank (s : List Char) : keyPath (skipBlank s) = keyPath s := by
  have part : keyPart (skipBlank s) = keyPart s := by
    rw [keyPart, keyPart, skipBlank_skipBlank]
  rw [keyPath_eq, keyPath_eq, separated, separated, part]

theorem KeyText.exists_head {t : List Char} {path : KeyPath} (h : KeyText t path)
    (rest : List Char) : ∃ c s, skipBlank (t ++ rest) = c :: s ∧ BeginsKey c := by
  have part {t : List Char} {key : String} (h : KeyPart t key) (rest : List Char) :
      ∃ c s, skipBlank (t ++ rest) = c :: s ∧ BeginsKey c := by
    cases h with | intro before simple after
    obtain ⟨c, s, rfl, begins⟩ := simple.exists_head
    rw [List.append_assoc, skipBlank_append before, List.cons_append, List.cons_append,
      skipBlank_cons begins.not_blank]
    exact ⟨c, _, rfl, begins⟩
  have dotted := h.dotted
  generalize path.keys = keys at dotted
  cases dotted with
  | last first => exact part first rest
  | more first =>
    rw [List.append_assoc]
    exact part first _

end Courier.Toml
