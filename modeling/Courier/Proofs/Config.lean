import Courier.Config.File
import Courier.Proofs.Toml.Document
import Courier.Proofs.Toml.Statement
import Courier.Proofs.Utf8

/-!
# Settings survive the way through a file

Settings that can be written are read back from the file as they were, whatever their texts hold and
whichever of their fields are set, and then stand or fall with their own validation.
-/

namespace Courier

open Toml (Value Table Statement Part LineText BareKey)

/-! ## Fields and their lines -/

/-- A field as a file gives it. -/
inductive Field where
  | text (key : String) (s : String)
  | count (key : String) (n : Nat)

namespace Field

def key : Field → String
  | .text key _ => key
  | .count key _ => key

def value : Field → Value
  | .text _ s => .string s
  | .count _ n => .integer n

def line : Field → List Char
  | .text key s => Config.textLine key s
  | .count key n => Config.countLine key n

def entry (f : Field) : String × Value := (f.key, f.value)

/-- Whether a file can give the field. -/
def Fits : Field → Prop
  | .text _ _ => True
  | .count _ n => n ≤ Config.largestInteger

theorem lineText {f : Field} (bare : BareKey f.key) (fits : f.Fits) :
    LineText f.line (some (.assign ⟨[], f.key⟩ f.value)) := by
  cases f with
  | text key s =>
    have text := Toml.ScalarText.text (Toml.quotedText_quote s.toList)
    rw [String.ofList_toList] at text
    exact Toml.lineText_assign bare (.scalar text)
  | count key n =>
    exact Toml.lineText_assign bare (.scalar (.integer (Toml.integerText_toDigits fits)))

end Field

def ClientSettings.fields (c : ClientSettings) : List Field :=
  [.text "id" c.id, .text "subscribe_topic" c.subscribeTopic, .text "publish_topic" c.publishTopic]

def BrokerSettings.fields (b : BrokerSettings) : List Field :=
  [.text "host" b.host, .count "port" b.port.toNat,
    .count "keepalive_secs" b.keepaliveSecs.toNat]
  ++ (b.connectTimeoutMs.map fun n => Field.count "connect_timeout_ms" n.toNat).toList
  ++ [.count "retry_interval_ms" b.retryIntervalMs.toNat]
  ++ (b.usernameEnv.map (Field.text "username_env")).toList
  ++ (b.passwordEnv.map (Field.text "password_env")).toList

/-- Fields that a file can give under one header. -/
structure Field.Proper (fields : List Field) : Prop where
  each : ∀ f ∈ fields, BareKey f.key ∧ f.Fits
  distinct : (fields.map (·.key)).Nodup

theorem ClientSettings.proper_fields (c : ClientSettings) : Field.Proper c.fields := by
  constructor
  · intro f hf
    simp only [fields, List.mem_cons, List.not_mem_nil, or_false] at hf
    rcases hf with rfl | rfl | rfl <;> exact ⟨by rw [Field.key]; decide, trivial⟩
  · simp [fields, Field.key]

namespace Config

theorem render?_eq_none_iff (c : Config) :
    c.render? = none ↔ largestInteger < c.broker.keepaliveSecs.toNat ∨
      largestInteger < c.broker.retryIntervalMs.toNat ∨
      ∃ n, c.broker.connectTimeoutMs = some n ∧ largestInteger < n.toNat := by
  rw [render?, ite_eq_right_iff]
  simp only [reduceCtorEq, imp_false, isWritable]
  cases c.broker.connectTimeoutMs <;> simp <;> omega

/-- The limits of what a document can hold, one by one. -/
structure Writable (c : Config) : Prop where
  keepalive : c.broker.keepaliveSecs.toNat ≤ largestInteger
  retry : c.broker.retryIntervalMs.toNat ≤ largestInteger
  timeout : ∀ n, c.broker.connectTimeoutMs = some n → n.toNat ≤ largestInteger

theorem writable_of_isWritable {c : Config} (h : c.isWritable = true) : c.Writable := by
  simp only [isWritable, Bool.and_eq_true, decide_eq_true_eq] at h
  refine ⟨h.1.1, h.1.2, fun n set => ?_⟩
  simpa [set] using h.2

theorem Writable.proper_fields {c : Config} (h : c.Writable) : Field.Proper c.broker.fields := by
  have port : c.broker.port.toNat ≤ largestInteger := by
    have := c.broker.port.toNat_lt
    rw [largestInteger]
    omega
  constructor
  · intro f hf
    simp only [BrokerSettings.fields, List.mem_append, List.mem_cons, List.not_mem_nil, or_false,
      Option.mem_toList, Option.map_eq_some_iff] at hf
    rcases hf with ((((rfl | rfl | rfl) | ⟨n, set, rfl⟩) | rfl) | ⟨s, -, rfl⟩) | ⟨s, -, rfl⟩
    · exact ⟨by rw [Field.key]; decide, trivial⟩
    · exact ⟨by rw [Field.key]; decide, port⟩
    · exact ⟨by rw [Field.key]; decide, h.keepalive⟩
    · exact ⟨by rw [Field.key]; decide, h.timeout n set⟩
    · exact ⟨by rw [Field.key]; decide, h.retry⟩
    · exact ⟨by rw [Field.key]; decide, trivial⟩
    · exact ⟨by rw [Field.key]; decide, trivial⟩
  · rw [BrokerSettings.fields]
    cases c.broker.connectTimeoutMs <;> cases c.broker.usernameEnv <;>
      cases c.broker.passwordEnv <;> simp [Field.key]

/-! ## The document -/

/-- The lines of a section with what they say. -/
def sectionLines (name : String) (fields : List Field) : List (List Char × Option Statement) :=
  ('[' :: name.toList ++ [']', '\n'], some (.table ⟨[], name⟩)) ::
    fields.map fun f => (f.line, some (.assign ⟨[], f.key⟩ f.value))

def lines (c : Config) : List (List Char × Option Statement) :=
  sectionLines "communicator" c.client.fields ++ (['\n'], none) ::
    sectionLines "broker" c.broker.fields

/-- The sections of the document, each with its table. -/
def parts (c : Config) : List Part :=
  [⟨"communicator", c.client.fields.map (·.entry)⟩, ⟨"broker", c.broker.fields.map (·.entry)⟩]

theorem flatMap_sectionLines (name : String) (fields : List Field) :
    (sectionLines name fields).flatMap (·.1) =
      '[' :: name.toList ++ [']', '\n'] ++ fields.flatMap (·.line) := by
  rw [sectionLines, List.flatMap_cons, List.flatMap_map]

theorem filterMap_sectionLines (name : String) (fields : List Field) :
    (sectionLines name fields).filterMap (·.2) =
      Part.statements ⟨name, fields.map (·.entry)⟩ := by
  simp [sectionLines, Part.statements, Field.entry, List.filterMap_map, Function.comp_def]

theorem elim_line {α : Type} (field : α → Field) (o : Option α) :
    (o.map field).toList.flatMap (·.line) = o.elim [] fun a => (field a).line := by
  cases o <;> simp

theorem render?_eq_some {c : Config} {text : String} (h : c.render? = some text) :
    c.Writable ∧ text.toList = c.lines.flatMap (·.1) := by
  rw [render?] at h
  split at h
  · rename_i writable
    refine ⟨writable_of_isWritable writable, ?_⟩
    rw [← Option.some.inj h, String.toList_ofList, lines, List.flatMap_append,
      List.flatMap_cons, flatMap_sectionLines, flatMap_sectionLines]
    simp only [ClientSettings.fields, BrokerSettings.fields, List.flatMap_append,
      List.flatMap_cons, List.flatMap_nil, elim_line]
    simp [Field.line]
  · cases h

theorem lineText_sectionLines {name : String} (bare : BareKey name) {fields : List Field}
    (proper : Field.Proper fields) : ∀ l ∈ sectionLines name fields, LineText l.1 l.2 := by
  intro l hl
  rcases List.mem_cons.mp hl with rfl | hl
  · exact Toml.lineText_header bare
  · obtain ⟨f, hf, rfl⟩ := List.mem_map.mp hl
    exact Field.lineText (proper.each f hf).1 (proper.each f hf).2

theorem lineText_lines {c : Config} (h : c.Writable) : ∀ l ∈ c.lines, LineText l.1 l.2 := by
  intro l hl
  rcases List.mem_append.mp hl with hl | hl
  · exact lineText_sectionLines (by decide) c.client.proper_fields l hl
  rcases List.mem_cons.mp hl with rfl | hl
  · exact Toml.lineText_empty
  · exact lineText_sectionLines (by decide) h.proper_fields l hl

theorem filterMap_lines (c : Config) :
    c.lines.filterMap (·.2) = c.parts.flatMap Part.statements := by
  rw [lines, List.filterMap_append, List.filterMap_cons_none rfl, filterMap_sectionLines,
    filterMap_sectionLines]
  simp [parts]

theorem distinct_parts {c : Config} (h : c.Writable) : Toml.Distinct c.parts := by
  constructor
  · simp [parts]
  · intro p hp
    simp only [parts, List.mem_cons, List.not_mem_nil, or_false] at hp
    rcases hp with rfl | rfl
    · rw [List.map_map]
      exact c.client.proper_fields.distinct
    · rw [List.map_map]
      exact h.proper_fields.distinct

/-- The document, and the document with lines that say nothing after it, is read as its sections. -/
theorem parse?_lines {c : Config} (h : c.Writable) {text : String}
    {b : List (List Char × Option Statement)} (silent : ∀ l ∈ b, l = (['\n'], none))
    (whole : text.toList = (c.lines ++ b).flatMap (·.1)) :
    Toml.parse? text = some (c.parts.map Part.entry) := by
  have each : ∀ l ∈ c.lines ++ b, LineText l.1 l.2 := by
    intro l hl
    rcases List.mem_append.mp hl with hl | hl
    · exact lineText_lines h l hl
    · rw [silent l hl]
      exact Toml.lineText_empty
  have said : (c.lines ++ b).filterMap (·.2) = c.parts.flatMap Part.statements := by
    have nothing : b.filterMap (·.2) = [] :=
      List.filterMap_eq_nil_iff.mpr fun l hl => by rw [silent l hl]
    rw [List.filterMap_append, nothing, List.append_nil, filterMap_lines]
  have read := (Toml.DocumentText.plain (Toml.lines_flatMap each)).statements?
  rw [Toml.parse?, whole, read, said]
  exact Toml.table?_parts (distinct_parts h)

/-! ## The fields out of their tables -/

theorem asPort_toNat (n : UInt16) : asPort (.integer n.toNat) = .ok n := by
  have small : n.toNat < UInt16.size := n.toNat_lt
  simp [asPort, small]

theorem asCount_toNat (n : UInt64) : asCount (.integer n.toNat) = .ok n := by
  have small : n.toNat < UInt64.size := n.toNat_lt
  simp [asCount, small]

theorem ofTable_client (c : ClientSettings) :
    ClientSettings.ofTable (c.fields.map (·.entry)) = .ok c := by
  simp [ClientSettings.ofTable, ClientSettings.fields, ClientSettings.checkEntry, Field.entry,
    Field.key, Field.value, fieldOr, field, asText, List.lookup_cons]
  rfl

theorem ofTable_broker (b : BrokerSettings) :
    BrokerSettings.ofTable (b.fields.map (·.entry)) = .ok b := by
  obtain ⟨host, port, keepalive, timeout, retry, user, password⟩ := b
  cases timeout <;> cases user <;> cases password
  all_goals
    simp [BrokerSettings.ofTable, BrokerSettings.fields, BrokerSettings.checkEntry, Field.entry,
      Field.key, Field.value, fieldOr, asOptional, asText, asPort_toNat, asCount_toNat,
      List.lookup_cons, List.lookup_nil]
    rfl

theorem ofTable_parts (c : Config) : ofTable (c.parts.map Part.entry) = .ok c := by
  have client := ofTable_client c.client
  have broker := ofTable_broker c.broker
  simp [ofTable, parts, Part.entry, checkSection, field, ClientSettings.ofValue,
    BrokerSettings.ofValue, client, broker, List.lookup_cons]
  rfl

theorem load_of_ofTable {c : Config} {text : String} {t : Table} (h : Toml.parse? text = some t)
    (table : ofTable t = .ok c) : load (.ok (Utf8.encode text)) = c.validate.map fun _ => c := by
  have read : ofText text = .ok c := by
    rw [ofText, h]
    exact table
  simp only [load, Utf8.strict?_encode, read, validate]
  cases c.fault? <;> rfl

theorem load_encode {c : Config} {text : String}
    (h : Toml.parse? text = some (c.parts.map Part.entry)) :
    load (.ok (Utf8.encode text)) = c.validate.map fun _ => c :=
  load_of_ofTable h (ofTable_parts c)

/-- Only a number that is too large keeps settings from being written, and what is written is read
as if it had only been validated, with one more line end after it or without. -/
theorem load_render? (c : Config) :
    (c.render? = none ↔ largestInteger < c.broker.keepaliveSecs.toNat ∨
      largestInteger < c.broker.retryIntervalMs.toNat ∨
      ∃ n, c.broker.connectTimeoutMs = some n ∧ largestInteger < n.toNat) ∧
    ∀ text, c.render? = some text →
      load (.ok (Utf8.encode text)) = (c.validate.map fun _ => c) ∧
      load (.ok (Utf8.encode (text ++ "\n"))) = (c.validate.map fun _ => c) := by
  refine ⟨render?_eq_none_iff c, fun text rendered => ?_⟩
  obtain ⟨writable, whole⟩ := render?_eq_some rendered
  constructor
  · refine load_encode (parse?_lines writable (b := []) (by simp) ?_)
    rw [whole, List.append_nil]
  · refine load_encode (parse?_lines writable (b := [(['\n'], none)]) (by simp) ?_)
    rw [String.toList_append, whole, List.flatMap_append]
    rfl

/-- Quotes of both kinds in runs, backslashes, and all sorts of line ends. -/
def thorny : Config where
  client :=
    { id := "\"\"\"'''\r\n\\", subscribeTopic := "\n\"a\"\"/#", publishTopic := "it's \"\t\"" }
  broker :=
    { host := "\x7f''", connectTimeoutMs := some 0, usernameEnv := some "'\"" }

theorem load_render?_thorny : ∃ text, thorny.render? = some text ∧
    load (.ok (Utf8.encode text)) = .ok thorny ∧
    load (.ok (Utf8.encode (text ++ "\n"))) = .ok thorny :=
  ⟨_, rfl, (load_render? thorny).2 _ rfl⟩

end Config

end Courier
