import Courier.Proofs.Config
import Courier.Proofs.Toml.Tree

/-!
# Settings do not depend on how the file is laid out

A document gives settings if each of its two sections gives every field with its value, or leaves
it out where the value is the default. Which order it follows, what else it holds and how its keys,
texts and numbers are written makes no difference: what is loaded is the settings.
-/

namespace Courier

open Toml

/-- A field with its value, or left out where the value is the default. -/
def Gives (holds : String → Option Value → Prop) (key : String) (v : Value) (byDefault : Prop) :
    Prop :=
  holds key (some v) ∨ holds key none ∧ byDefault

/-- A section that holds the settings of the client. -/
structure ClientSettings.GivenBy (c : ClientSettings) (holds : String → Option Value → Prop) :
    Prop where
  id : Gives holds "id" (.string c.id) (c.id = "")
  subscribeTopic : holds "subscribe_topic" (some (.string c.subscribeTopic))
  publishTopic : holds "publish_topic" (some (.string c.publishTopic))

/-- A section that holds the settings of the broker. -/
structure BrokerSettings.GivenBy (b : BrokerSettings) (holds : String → Option Value → Prop) :
    Prop where
  host : Gives holds "host" (.string b.host) (b.host = "localhost")
  port : Gives holds "port" (.integer b.port.toNat) (b.port = 1883)
  keepalive : Gives holds "keepalive_secs" (.integer b.keepaliveSecs.toNat) (b.keepaliveSecs = 60)
  timeout : holds "connect_timeout_ms" (b.connectTimeoutMs.map fun n => .integer n.toNat)
  retry : Gives holds "retry_interval_ms" (.integer b.retryIntervalMs.toNat)
    (b.retryIntervalMs = 1000)
  username : holds "username_env" (b.usernameEnv.map .string)
  password : holds "password_env" (b.passwordEnv.map .string)

/-- A table that holds the settings. -/
structure Config.GivenBy (c : Config) (t : Table) : Prop where
  client : ∃ u, Holds t "communicator" (some (.table u)) ∧ c.client.GivenBy (Holds u)
  broker : ∃ u, Holds t "broker" (some (.table u)) ∧ c.broker.GivenBy (Holds u)

/-- Statements that put the settings into a document. -/
structure Config.StatedBy (c : Config) (statements : List Statement) : Prop where
  client : States (deeds [] statements) "communicator" c.client.GivenBy
  broker : States (deeds [] statements) "broker" c.broker.GivenBy

section

variable {holds holds' : String → Option Value → Prop}

theorem Gives.imp {key : String} {v : Value} {p : Prop} (h : Gives holds key v p)
    (sub : ∀ key v, holds key v → holds' key v) : Gives holds' key v p :=
  Or.imp (sub _ _) (fun unset => ⟨sub _ _ unset.1, unset.2⟩) h

theorem ClientSettings.GivenBy.imp {c : ClientSettings} (sub : ∀ key v, holds key v → holds' key v)
    (h : c.GivenBy holds) : c.GivenBy holds' :=
  ⟨h.id.imp sub, sub _ _ h.subscribeTopic, sub _ _ h.publishTopic⟩

theorem BrokerSettings.GivenBy.imp {b : BrokerSettings} (sub : ∀ key v, holds key v → holds' key v)
    (h : b.GivenBy holds) : b.GivenBy holds' :=
  ⟨h.host.imp sub, h.port.imp sub, h.keepalive.imp sub, sub _ _ h.timeout, h.retry.imp sub,
    sub _ _ h.username, sub _ _ h.password⟩

end

theorem Config.StatedBy.givenBy {c : Config} {statements : List Statement}
    (h : c.StatedBy statements) {t : Table} (table : Toml.table? statements = some t) :
    c.GivenBy t :=
  ⟨Toml.holds_of_states table ClientSettings.GivenBy.imp h.client,
    Toml.holds_of_states table BrokerSettings.GivenBy.imp h.broker⟩

/-! ## Fields out of tables -/

namespace Config

section

variable {α : Type} {read : Value → Except TomlFault α} {t : Table} {key : String} {a : α}

theorem asText_string (s : String) : asText (.string s) = .ok s := rfl

theorem field_of_holds {v : Value} (h : Holds t key (some v)) (value : read v = .ok a) :
    field read t key = .ok a := by
  rw [field, h.lookup]
  exact value

theorem fieldOr_of_gives {v : Value} {default : α} (h : Gives (Holds t) key v (a = default))
    (value : read v = .ok a) : fieldOr read default t key = .ok a := by
  rw [fieldOr]
  rcases h with set | ⟨unset, same⟩
  · rw [set.lookup]
    exact value
  · rw [unset.lookup, same]

/-- An optional field has no other default than being unset. -/
theorem fieldOr_of_holds {write : α → Value} {o : Option α} (h : Holds t key (o.map write))
    (value : ∀ a, read (write a) = .ok a) : fieldOr (asOptional read) none t key = .ok o := by
  rw [fieldOr, h.lookup]
  cases o with
  | none => rfl
  | some a =>
    rw [Option.map_some]
    simp only [asOptional, value]
    rfl

/-- Every entry under the key of a field passes the field's own check. -/
theorem ok_of_holds {v w : Value} (h : Holds t key (some v)) (inside : (key, w) ∈ t)
    (value : read v = .ok a) : ((read w).map fun _ => ()) = .ok () := by
  cases (h w).mp inside
  rw [value]
  rfl

theorem ok_of_gives {v w : Value} {p : Prop} (h : Gives (Holds t) key v p)
    (inside : (key, w) ∈ t) (value : read v = .ok a) : ((read w).map fun _ => ()) = .ok () := by
  rcases h with set | ⟨unset, -⟩
  · exact ok_of_holds set inside value
  · cases (unset w).mp inside

theorem ok_of_optional {write : α → Value} {o : Option α} {w : Value}
    (h : Holds t key (o.map write)) (inside : (key, w) ∈ t) (value : ∀ a, read (write a) = .ok a) :
    ((read w).map fun _ => ()) = .ok () := by
  obtain ⟨a, -, rfl⟩ := Option.map_eq_some_iff.mp ((h w).mp inside)
  rw [value]
  rfl

end

theorem forM_eq_ok {ε α : Type} {check : α → Except ε Unit} {l : List α}
    (each : ∀ a ∈ l, check a = .ok ()) : l.forM check = .ok () := by
  induction l with
  | nil => rfl
  | cons a l ih =>
    rw [List.forM, each a List.mem_cons_self]
    exact ih fun b hb => each b (List.mem_cons_of_mem a hb)

end Config

open Config

theorem ClientSettings.GivenBy.ofTable {c : ClientSettings} {t : Table} (h : c.GivenBy (Holds t)) :
    ofTable t = .ok c := by
  have each : ∀ entry ∈ t, checkEntry entry = .ok () := by
    rintro ⟨key, v⟩ inside
    rw [checkEntry]
    split
    · rename_i known
      simp only [List.mem_cons, List.not_mem_nil, or_false] at known
      rcases known with rfl | rfl | rfl
      · exact ok_of_gives h.id inside (asText_string _)
      · exact ok_of_holds h.subscribeTopic inside (asText_string _)
      · exact ok_of_holds h.publishTopic inside (asText_string _)
    · rfl
  rw [ClientSettings.ofTable, forM_eq_ok each, fieldOr_of_gives h.id (asText_string _),
    field_of_holds h.subscribeTopic (asText_string _),
    field_of_holds h.publishTopic (asText_string _)]
  rfl

theorem BrokerSettings.GivenBy.ofTable {b : BrokerSettings} {t : Table} (h : b.GivenBy (Holds t)) :
    ofTable t = .ok b := by
  have each : ∀ entry ∈ t, checkEntry entry = .ok () := by
    rintro ⟨key, v⟩ inside
    rw [checkEntry]
    split
    · rename_i known
      simp only [List.mem_cons, List.not_mem_nil, or_false] at known
      rcases known with rfl | rfl | rfl
      · exact ok_of_gives h.host inside (asText_string _)
      · exact ok_of_optional h.username inside asText_string
      · exact ok_of_optional h.password inside asText_string
    split
    · rename_i known
      subst known
      exact ok_of_gives h.port inside (asPort_toNat _)
    split
    · rename_i known
      simp only [List.mem_cons, List.not_mem_nil, or_false] at known
      rcases known with rfl | rfl | rfl
      · exact ok_of_gives h.keepalive inside (asCount_toNat _)
      · exact ok_of_optional h.timeout inside asCount_toNat
      · exact ok_of_gives h.retry inside (asCount_toNat _)
    · rfl
  rw [BrokerSettings.ofTable, forM_eq_ok each, fieldOr_of_gives h.host (asText_string _),
    fieldOr_of_gives h.port (asPort_toNat _), fieldOr_of_gives h.keepalive (asCount_toNat _),
    fieldOr_of_holds h.timeout asCount_toNat, fieldOr_of_gives h.retry (asCount_toNat _),
    fieldOr_of_holds h.username asText_string, fieldOr_of_holds h.password asText_string]
  rfl

namespace Config

theorem GivenBy.ofTable {c : Config} {t : Table} (h : c.GivenBy t) : ofTable t = .ok c := by
  obtain ⟨u, atClient, client⟩ := h.client
  obtain ⟨w, atBroker, broker⟩ := h.broker
  have clientRead : ClientSettings.ofValue (.table u) = .ok c.client := client.ofTable
  have brokerRead : BrokerSettings.ofValue (.table w) = .ok c.broker := broker.ofTable
  have each : ∀ entry ∈ t, checkSection entry = .ok () := by
    rintro ⟨key, v⟩ inside
    rw [checkSection]
    split
    · rename_i known
      subst known
      exact ok_of_holds atClient inside clientRead
    split
    · rename_i known
      subst known
      exact ok_of_holds atBroker inside brokerRead
    · rfl
  rw [Config.ofTable, forM_eq_ok each, field_of_holds atClient clientRead,
    field_of_holds atBroker brokerRead]
  rfl

/-- However a document gives settings that are accepted, they are what is loaded: from any text that
is read as a table which holds them, and from any way of writing statements that state them, unless
the statements repeat a key or a table. -/
theorem load_layout {c : Config} (accepted : c.validate = .ok ()) (text : String) :
    (∀ t, Toml.parse? text = some t → c.GivenBy t → load (.ok (Utf8.encode text)) = .ok c) ∧
    ∀ statements, DocumentText text.toList statements → (Toml.table? statements).isSome = true →
      c.StatedBy statements → load (.ok (Utf8.encode text)) = .ok c := by
  have loaded {t : Table} (read : Toml.parse? text = some t) (given : c.GivenBy t) :
      load (.ok (Utf8.encode text)) = .ok c := by
    rw [load_of_ofTable read given.ofTable, accepted]
    rfl
  refine ⟨fun t => loaded, fun statements document wellFormed stated => ?_⟩
  obtain ⟨t, table⟩ := Option.isSome_iff_exists.mp wellFormed
  refine loaded (t := t) ?_ (stated.givenBy table)
  rw [Toml.parse?, document.statements?]
  exact table

/-- Settings with all but one field of the broker at their defaults. -/
def scattered : Config where
  client := { subscribeTopic := "lab/#", publishTopic := "lab/é" }
  broker := { retryIntervalMs := 2000 }

/-- Lines of a document that begins with the broker, writes a number in base sixteen, a letter by
its code and a topic without escapes, and holds more than settings. -/
def scatteredLines : List (List Char × Option Statement) :=
  [("[broker]\n".toList, some (.table ⟨[], "broker"⟩)),
    ("retry_interval_ms = 0x7_d0\n".toList,
      some (.assign ⟨[], "retry_interval_ms"⟩ (.integer 2000))),
    ("extra.on = [1979-05-27,true]\n".toList,
      some (.assign ⟨["extra"], "on"⟩ (.array [.moment, .boolean true]))),
    ("[[a.b]]\n".toList, some (.tableItem ⟨["a"], "b"⟩)),
    ("[communicator]\n".toList, some (.table ⟨[], "communicator"⟩)),
    ("publish_topic = \"lab/\\u00e9\"\n".toList,
      some (.assign ⟨[], "publish_topic"⟩ (.string "lab/é"))),
    ("subscribe_topic = '''\nlab/#'''\n".toList,
      some (.assign ⟨[], "subscribe_topic"⟩ (.string "lab/#")))]

theorem lineText_scattered : ∀ l ∈ scatteredLines, LineText l.1 l.2 := by
  have moment : MomentText "1979-05-27".toList :=
    .date (.intro (y := "1979".toList) (m := "05".toList) (d := "27".toList)
      ⟨rfl, List.all_eq_true.mp rfl, rfl, by decide, by decide⟩
      ⟨rfl, List.all_eq_true.mp rfl, rfl, by decide, by decide⟩
      ⟨rfl, List.all_eq_true.mp rfl, rfl, by decide, by decide⟩)
  have list : NestedText (ValueText 78) "[1979-05-27,true]".toList
      (.array [.moment, .boolean true]) :=
    .array (.more (g := []) (h := []) .nil (ScalarText.moment moment |>.valueText 78) .nil
      (.last (g := []) (h := []) .nil (ScalarText.yes.valueText 78) .nil))
  have code : Escape "u00e9".toList 'é' := by
    have hex : Escape ('u' :: "00e9".toList) (Char.ofNat (numeral 16 "00e9".toList)) :=
      .code (by decide) (List.all_eq_true.mp rfl) (by decide)
    exact hex
  have publish : QuotedText "\"lab/\\u00e9\"".toList "lab/é".toList := by
    refine .line .double (t := "lab/\\u00e9".toList) ?_
    refine .cons (.plain (by decide) (by decide)) (by decide) ?_
    refine .cons (.plain (by decide) (by decide)) (by decide) ?_
    refine .cons (.plain (by decide) (by decide)) (by decide) ?_
    refine .cons (.plain (by decide) (by decide)) (by decide) ?_
    exact .cons (t := []) (.escaped rfl code) (by decide) .nil
  have topic : Block '\'' false 0 "lab/#".toList "lab/#".toList :=
    block_of_go (by decide) (show longestRun '\'' "lab/#".toList ≤ 2 by decide)
      (List.forall_iff_forall_mem.mp (by decide))
  have subscribe : QuotedText "'''\nlab/#'''".toList "lab/#".toList :=
    .block .single (.inl .feed) topic
  simp only [scatteredLines, List.forall_mem_cons]
  refine ⟨?_, ?_, ?_, ?_, ?_, ?_, ?_, ?_⟩
  · exact lineText_header (by decide : BareKey "broker")
  · have digits : Digits isHexDigit "7_d0".toList "7d0".toList :=
      .underscore (by decide) (.next (by decide) (.last (by decide)))
    exact lineText_assign (by decide : BareKey "retry_interval_ms")
      (.scalar (.integer (.based .hex digits (by decide))))
  · have blank : Blanks [' '] := .single (by decide)
    have key : KeyText "extra.on ".toList ⟨["extra"], "on"⟩ :=
      ⟨.more ((by decide : BareKey "extra").keyPart .nil)
        (.last ((by decide : BareKey "on").keyPart blank)), by decide⟩
    exact .intro (.assign (.intro key blank list))
  · have key : KeyText "a.b".toList ⟨["a"], "b"⟩ :=
      ⟨.more ((by decide : BareKey "a").keyPart .nil)
        (.last ((by decide : BareKey "b").keyPart .nil)), by decide⟩
    exact .intro (.tableItem .nil key)
  · exact lineText_header (by decide : BareKey "communicator")
  · exact lineText_assign (by decide : BareKey "publish_topic") (.scalar (.text publish))
  · exact lineText_assign (by decide : BareKey "subscribe_topic") (.scalar (.text subscribe))
  · simp

theorem statedBy_scattered : scattered.StatedBy (scatteredLines.filterMap (·.2)) := by
  constructor
  · refine .inl ⟨⟨?_, ?_⟩, ⟨?_, ?_, ?_⟩⟩
    all_goals
      simp [scatteredLines, scattered, deeds, Statement.deed, Statement.next, Says, Gives,
        KeyPath.keys]
  · refine .inl ⟨⟨?_, ?_⟩, ⟨?_, ?_, ?_, ?_, ?_, ?_, ?_⟩⟩
    all_goals
      simp [scatteredLines, scattered, deeds, Statement.deed, Statement.next, Says, Gives,
        KeyPath.keys]

theorem load_layout_scattered :
    load (.ok (Utf8.encode (String.ofList (scatteredLines.flatMap (·.1))))) = .ok scattered := by
  refine (load_layout (rfl : scattered.validate = .ok ()) _).2
    (scatteredLines.filterMap (·.2)) ?_ (by decide +kernel) statedBy_scattered
  rw [String.toList_ofList]
  exact .plain (lines_flatMap lineText_scattered)

end Config

end Courier
