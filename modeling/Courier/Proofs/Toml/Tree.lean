import Courier.Proofs.Toml.Document

/-!
# What a document holds

What a document holds at a path is what its statements put there. A statement puts a value, a table
or an array of tables at its path and tables on the way to it, and what was there before stays what
it is. Paths are followed through tables only, not into the items of an array.
-/

namespace Courier.Toml

/-- What can be at a path. -/
inductive Kind where
  | value (v : Value)
  | table
  | array

namespace Node

def kind : Node → Kind
  | .value v => .value v
  | .table _ _ => .table
  | .tables _ => .array

/-- The node to which keys lead from table to table. -/
def at? : Node → List String → Option Node
  | n, [] => some n
  | .table _ t, key :: path => (t.lookup key).bind (at? · path)
  | _, _ :: _ => none

def kind? (n : Node) (path : List String) : Option Kind := (n.at? path).map kind

/-- No table on any path has two entries under one key. -/
def Tidy (n : Node) : Prop :=
  ∀ path origin t, n.at? path = some (.table origin t) → (t.map (·.1)).Nodup

theorem kind?_nil (n : Node) : n.kind? [] = some n.kind := by
  cases n <;> rfl

theorem kind?_cons (origin : Origin) (t : Entries) (key : String) (path : List String) :
    (Node.table origin t).kind? (key :: path) = (t.find? key).bind (·.kind? path) := by
  rw [kind?, at?, Entries.find?]
  cases t.lookup key <;> rfl

theorem tidy_table {origin : Origin} {t : Entries} : (Node.table origin t).Tidy ↔
    (t.map (·.1)).Nodup ∧ ∀ key n, t.find? key = some n → n.Tidy := by
  constructor
  · intro h
    refine ⟨h [] origin t rfl, fun key n found path o u there => ?_⟩
    refine h (key :: path) o u ?_
    rw [at?, ← Entries.find?, found]
    exact there
  · rintro ⟨nodup, below⟩ path o u there
    cases path with
    | nil =>
      cases there
      exact nodup
    | cons key path =>
      rw [at?, ← Entries.find?] at there
      obtain ⟨n, found, there⟩ := Option.bind_eq_some_iff.mp there
      exact below key n found path o u there

end Node

/-! ## Entries put into a table -/

/-- One table is another with a node put under a key. -/
structure Puts (t : Entries) (key : String) (n : Node) (t' : Entries) : Prop where
  same : t'.find? key = some n
  others : ∀ k, k ≠ key → t'.find? k = t.find? k
  nodup : (t.map (·.1)).Nodup → (t'.map (·.1)).Nodup

namespace Entries

theorem find?_cons (k : String) (n : Node) (t : Entries) (key : String) :
    Entries.find? ((k, n) :: t) key = if key = k then some n else t.find? key := by
  rw [find?, List.lookup_cons]
  by_cases same : key = k
  · simp [same]
  · have other : (key == k) = false := by simpa using same
    rw [other, if_neg same]
    rfl

theorem find?_append (t u : Entries) (key : String) :
    Entries.find? (t ++ u) key = (t.find? key).or (u.find? key) := List.lookup_append

theorem replace_cons (k : String) (m : Node) (t : Entries) (key : String) (n : Node) :
    Entries.replace ((k, m) :: t) key n = (k, if k = key then n else m) :: t.replace key n := by
  rw [replace, List.map_cons]
  by_cases here : k = key
  · subst here
    rw [if_pos rfl]
    exact congrArg (· :: _) (if_pos rfl)
  · rw [if_neg here]
    exact congrArg (· :: _) (if_neg here)

theorem notMem_of_find? {t : Entries} {key : String} (fresh : t.find? key = none) :
    key ∉ t.map (·.1) := by
  intro inside
  obtain ⟨⟨k, n⟩, entry, rfl⟩ := List.mem_map.mp inside
  have other := List.lookup_eq_none_iff.mp fresh (k, n) entry
  simp at other

theorem find?_replace (t : Entries) (key : String) (n : Node) (k : String) :
    (t.replace key n).find? k = (t.find? k).map fun m => if k = key then n else m := by
  induction t with
  | nil => rfl
  | cons entry t ih =>
    obtain ⟨k', m⟩ := entry
    rw [replace_cons, find?_cons, find?_cons]
    by_cases same : k = k'
    · rw [if_pos same, if_pos same, same]
      rfl
    · rw [if_neg same, if_neg same, ih]

theorem keys_replace (t : Entries) (key : String) (n : Node) :
    (t.replace key n).map (·.1) = t.map (·.1) := by
  induction t with
  | nil => rfl
  | cons entry t ih =>
    obtain ⟨k, m⟩ := entry
    rw [replace_cons, List.map_cons, List.map_cons, ih]

theorem find?_erase (t : Entries) (key k : String) :
    (t.erase key).find? k = if k = key then none else t.find? k := by
  induction t with
  | nil => exact (ite_self none).symm
  | cons entry t ih =>
    obtain ⟨k', m⟩ := entry
    rw [erase] at ih ⊢
    by_cases here : k' = key
    · subst here
      rw [List.filter_cons_of_neg (by simp), ih, find?_cons]
      by_cases same : k = k'
      · rw [if_pos same, if_pos same]
      · rw [if_neg same, if_neg same, if_neg same]
    · rw [List.filter_cons_of_pos (by simpa using here), find?_cons, find?_cons, ih]
      by_cases same : k = k'
      · subst same
        rw [if_pos rfl, if_neg here, if_pos rfl]
      · rw [if_neg same, if_neg same]

end Entries

section

variable {t : Entries} {key : String}

theorem puts_append (fresh : t.find? key = none) (n : Node) : Puts t key n (t ++ [(key, n)]) := by
  refine ⟨?_, fun k other => ?_, fun nodup => ?_⟩
  · rw [Entries.find?_append, fresh, Entries.find?_cons, if_pos rfl]
    rfl
  · have last : Entries.find? [(key, n)] k = none := by
      rw [Entries.find?_cons, if_neg other]
      rfl
    rw [Entries.find?_append, last, Option.or_none]
  · rw [List.map_append, List.map_singleton]
    refine List.nodup_append.mpr ⟨nodup, by simp, fun k inside k' last same => ?_⟩
    have added : k' = key := List.mem_singleton.mp last
    exact Entries.notMem_of_find? fresh (same.trans added ▸ inside)

theorem puts_replace {before : Node} (found : t.find? key = some before) (n : Node) :
    Puts t key n (t.replace key n) := by
  refine ⟨?_, fun k other => ?_, fun nodup => ?_⟩
  · rw [Entries.find?_replace, found, Option.map_some, if_pos rfl]
  · rw [Entries.find?_replace]
    simp [other]
  · rwa [Entries.keys_replace]

theorem puts_last (t : Entries) (key : String) (n : Node) :
    Puts t key n (t.erase key ++ [(key, n)]) := by
  have put := puts_append ((Entries.find?_erase t key key).trans (if_pos rfl)) n
  refine ⟨put.same, fun k other => ?_, fun nodup => ?_⟩
  · rw [put.others k other, Entries.find?_erase, if_neg other]
  · exact put.nodup (nodup.sublist (List.filter_sublist.map _))

end

/-! ## What a statement puts at a path -/

/-- A node grows by what is put at a path below it, out of nothing if it was not there. -/
structure Grows (n : Option Node) (n' : Node) (path : List String) (kind : Kind) : Prop where
  kept : ∀ q k, n.bind (·.kind? q) = some k → n'.kind? q = some k
  new : ∀ q k, n'.kind? q = some k → n.bind (·.kind? q) = some k ∨
    q <+: path ∧ (q = path ∧ k = kind ∨ q ≠ path ∧ k = .table)
  done : n'.kind? path = some kind ∨
    ∃ q, q <+: path ∧ q ≠ path ∧ n'.kind? q = some .array
  tidy : (∀ m, n = some m → m.Tidy) → n'.Tidy

namespace Grows

theorem value (v : Value) : Grows none (.value v) [] (.value v) := by
  refine ⟨fun q k same => (by cases same), fun q k there => ?_, .inl rfl, fun _ q o t there => ?_⟩
  · cases q with
    | nil =>
      cases there
      exact .inr ⟨List.nil_prefix, .inl ⟨rfl, rfl⟩⟩
    | cons => cases there
  · cases q <;> cases there

theorem table (origin : Origin) : Grows none (.table origin []) [] .table := by
  refine ⟨fun q k same => (by cases same), fun q k there => ?_, .inl rfl, fun _ => ?_⟩
  · cases q with
    | nil =>
      cases there
      exact .inr ⟨List.nil_prefix, .inl ⟨rfl, rfl⟩⟩
    | cons => cases there
  · exact Node.tidy_table.mpr ⟨List.nodup_nil, fun key n found => by cases found⟩

theorem items (l : List Entries) : Grows none (.tables l) [] .array := by
  refine ⟨fun q k same => (by cases same), fun q k there => ?_, .inl rfl, fun _ q o t there => ?_⟩
  · cases q with
    | nil =>
      cases there
      exact .inr ⟨List.nil_prefix, .inl ⟨rfl, rfl⟩⟩
    | cons => cases there
  · cases q <;> cases there

/-- Whatever is put into the items of an array, it stays an array. -/
theorem array (l l' : List Entries) {path : List String} {kind : Kind}
    (last : path = [] → kind = .array) : Grows (some (.tables l)) (.tables l') path kind := by
  refine ⟨fun q k there => ?_, fun q k there => ?_, ?_, fun _ q o t there => ?_⟩
  · cases q with
    | nil => exact there
    | cons => cases there
  · cases q with
    | nil => exact .inl there
    | cons => cases there
  · cases path with
    | nil =>
      rw [last rfl]
      exact .inl rfl
    | cons key path => exact .inr ⟨[], List.nil_prefix, by simp, rfl⟩
  · cases q <;> cases there

/-- A header opens a table that other headers passed. -/
theorem reopened (origin origin' : Origin) (t : Entries) :
    Grows (some (.table origin t)) (.table origin' t) [] .table := by
  have same (q : List String) : (Node.table origin' t).kind? q = (Node.table origin t).kind? q := by
    cases q <;> rfl
  refine ⟨fun q k there => (same q).trans there, fun q k there => .inl ?_, .inl rfl, fun tidy => ?_⟩
  · rwa [same] at there
  · exact Node.tidy_table.mpr (Node.tidy_table.mp (tidy _ rfl))

/-- What is put into an empty table makes the table. -/
theorem fresh {origin : Origin} {n' : Node} {path : List String} {kind : Kind}
    (h : Grows (some (.table origin [])) n' path kind) (below : path ≠ []) :
    Grows none n' path kind := by
  refine ⟨fun q k same => (by cases same), fun q k there => .inr ?_, h.done, fun _ => h.tidy ?_⟩
  · rcases h.new q k there with before | put
    · cases q with
      | nil =>
        cases before
        exact ⟨List.nil_prefix, .inr ⟨below.symm, rfl⟩⟩
      | cons => cases before
    · exact put
  · intro m same
    cases same
    exact Node.tidy_table.mpr ⟨List.nodup_nil, fun key n found => by cases found⟩

/-- What grows under a key grows in the table. -/
theorem step {t t' : Entries} {key : String} {n' : Node} {path : List String} {kind : Kind}
    (h : Grows (t.find? key) n' path kind) (puts : Puts t key n' t') (origin origin' : Origin) :
    Grows (some (.table origin t)) (.table origin' t') (key :: path) kind := by
  have here (q : List String) : (Node.table origin' t').kind? (key :: q) = n'.kind? q := by
    rw [Node.kind?_cons, puts.same, Option.bind_some]
  have there {x : String} (other : x ≠ key) (q : List String) :
      (Node.table origin' t').kind? (x :: q) = (Node.table origin t).kind? (x :: q) := by
    rw [Node.kind?_cons, Node.kind?_cons, puts.others x other]
  refine ⟨fun q k before => ?_, fun q k after => ?_, ?_, fun tidy => ?_⟩
  · cases q with
    | nil => exact before
    | cons x q =>
      rw [Option.bind_some] at before
      by_cases same : x = key
      · subst same
        rw [Node.kind?_cons] at before
        rw [here]
        exact h.kept q k before
      · rw [there same]
        exact before
  · cases q with
    | nil => exact .inl after
    | cons x q =>
      rw [Option.bind_some]
      by_cases same : x = key
      · subst same
        rw [here] at after
        rw [Node.kind?_cons, List.cons_prefix_cons]
        exact (h.new q k after).imp_right fun put => by simpa using put
      · rw [there same] at after
        exact .inl after
  · rw [here]
    refine h.done.imp_right ?_
    rintro ⟨q, before, other, array⟩
    exact ⟨key :: q, List.cons_prefix_cons.mpr ⟨rfl, before⟩, by simpa using other,
      (here q).trans array⟩
  · obtain ⟨nodup, below⟩ := Node.tidy_table.mp (tidy _ rfl)
    refine Node.tidy_table.mpr ⟨puts.nodup nodup, fun k n found => ?_⟩
    by_cases same : k = key
    · subst same
      rw [puts.same] at found
      cases found
      exact h.tidy (below k)
    · rw [puts.others k same] at found
      exact below k n found

end Grows

/-! ## Statements -/

theorem assign?_grows {path : List String} {key : String} {v : Value} {origin : Origin}
    {t t' : Entries} (h : Entries.assign? origin path key v t = some t') (o o' : Origin) :
    Grows (some (.table o t)) (.table o' t') (path ++ [key]) (.value v) := by
  induction path generalizing origin t t' o o' with
  | nil =>
    rw [Entries.assign?] at h
    split at h
    · cases h
    rw [Entries.add?] at h
    cases found : t.find? key with
    | some n =>
      rw [found] at h
      cases h
    | none =>
      rw [found] at h
      cases h
      exact .step (found ▸ .value v) (puts_append found _) o o'
  | cons first path ih =>
    rw [Entries.assign?] at h
    cases found : t.find? first with
    | none =>
      rw [found] at h
      obtain ⟨inner, assigned, rfl⟩ := Option.map_eq_some_iff.mp h
      have below := (ih assigned .dotted .dotted).fresh (by simp)
      exact .step (found ▸ below) (puts_append found _) o o'
    | some n =>
      rw [found] at h
      cases n with
      | value => cases h
      | table origin inner =>
        dsimp only at h
        split at h
        · cases h
        obtain ⟨inner', assigned, rfl⟩ := Option.map_eq_some_iff.mp h
        exact .step (found ▸ ih assigned origin origin) (puts_replace found _) o o'
      | tables items =>
        obtain ⟨last, -, h⟩ := Option.bind_eq_some_iff.mp h
        obtain ⟨last', -, h⟩ := Option.bind_eq_some_iff.mp h
        cases h
        exact .step (found ▸ .array items _ (by simp)) (puts_replace found _) o o'

theorem openTable?_grows {key : String} {t t' : Entries} (h : Entries.openTable? key t = some t')
    (o o' : Origin) : Grows (some (.table o t)) (.table o' t') [key] .table := by
  rw [Entries.openTable?] at h
  cases found : t.find? key with
  | none =>
    rw [found] at h
    cases h
    exact .step (found ▸ .table .opened) (puts_append found _) o o'
  | some n =>
    rw [found] at h
    cases n with
    | value => cases h
    | tables => cases h
    | table origin inner =>
      cases origin with
      | opened => cases h
      | dotted => cases h
      | passed =>
        cases h
        exact .step (found ▸ .reopened .passed .opened inner) (puts_last t key _) o o'

theorem openItem?_grows {key : String} {t t' : Entries} (h : Entries.openItem? key t = some t')
    (o o' : Origin) : Grows (some (.table o t)) (.table o' t') [key] .array := by
  rw [Entries.openItem?] at h
  cases found : t.find? key with
  | none =>
    rw [found] at h
    cases h
    exact .step (found ▸ .items [[]]) (puts_append found _) o o'
  | some n =>
    rw [found] at h
    cases n with
    | value => cases h
    | table => cases h
    | tables items =>
      cases h
      exact .step (found ▸ .array items _ fun _ => rfl) (puts_replace found _) o o'

/-- A header leads to where something is put. -/
theorem within?_grows {change : Entries → Option Entries} {p : List String} {kind : Kind}
    (changed : ∀ {t t'}, change t = some t' → ∀ o o',
      Grows (some (.table o t)) (.table o' t') p kind) (below : p ≠ [])
    {path : List String} {t t' : Entries} (h : Entries.within? change path t = some t')
    (o o' : Origin) : Grows (some (.table o t)) (.table o' t') (path ++ p) kind := by
  induction path generalizing t t' o o' with
  | nil => exact changed h o o'
  | cons key path ih =>
    rw [Entries.within?] at h
    cases found : t.find? key with
    | none =>
      rw [found] at h
      obtain ⟨inner, inside, rfl⟩ := Option.map_eq_some_iff.mp h
      have grown := (ih inside .passed .passed).fresh (by simp [below])
      exact .step (found ▸ grown) (puts_append found _) o o'
    | some n =>
      rw [found] at h
      cases n with
      | value => cases h
      | table origin inner =>
        obtain ⟨inner', inside, rfl⟩ := Option.map_eq_some_iff.mp h
        exact .step (found ▸ ih inside origin origin) (puts_replace found _) o o'
      | tables items =>
        obtain ⟨last, -, h⟩ := Option.bind_eq_some_iff.mp h
        obtain ⟨last', -, h⟩ := Option.bind_eq_some_iff.mp h
        cases h
        exact .step (found ▸ .array items _ (by simp [below])) (puts_replace found _) o o'

/-- Where a statement puts something, from the current table, and what it puts there. -/
def Statement.deed (current : List String) : Statement → List String × Kind
  | .assign path v => (current ++ path.keys, .value v)
  | .table path => (path.keys, .table)
  | .tableItem path => (path.keys, .array)

/-- The current table after a statement. -/
def Statement.next (current : List String) : Statement → List String
  | .assign _ _ => current
  | .table path => path.keys
  | .tableItem path => path.keys

/-- What statements put where, one after another. -/
def deeds : List String → List Statement → List (List String × Kind)
  | _, [] => []
  | current, s :: rest => s.deed current :: deeds (s.next current) rest

def Draft.node (d : Draft) : Node := .table .opened d.root

theorem extend?_grows {d d' : Draft} {s : Statement} (h : d.extend? s = some d') :
    Grows (some d.node) d'.node (s.deed d.current).1 (s.deed d.current).2 ∧
      d'.current = s.next d.current := by
  cases s with
  | assign path v =>
    obtain ⟨root, assigned, same⟩ := Option.bind_eq_some_iff.mp h
    cases same
    exact ⟨within?_grows assign?_grows (by simp) assigned _ _, rfl⟩
  | table path =>
    obtain ⟨root, opened, same⟩ := Option.bind_eq_some_iff.mp h
    cases same
    exact ⟨within?_grows openTable?_grows (by simp) opened _ _, rfl⟩
  | tableItem path =>
    obtain ⟨root, opened, same⟩ := Option.bind_eq_some_iff.mp h
    cases same
    exact ⟨within?_grows openItem?_grows (by simp) opened _ _, rfl⟩

/-! ## Whole documents -/

/-- What many deeds make of a node: whatever is there was there or was put there, and all that was
put is there, if no array is on the way. -/
structure Made (n : Node) (ds : List (List String × Kind)) (n' : Node) : Prop where
  kept : ∀ q k, n.kind? q = some k → n'.kind? q = some k
  new : ∀ q k, n'.kind? q = some k → n.kind? q = some k ∨
    ∃ d ∈ ds, q <+: d.1 ∧ (q = d.1 ∧ k = d.2 ∨ q ≠ d.1 ∧ k = .table)
  done : ∀ d ∈ ds, n'.kind? d.1 = some d.2 ∨
    ∃ q, q <+: d.1 ∧ q ≠ d.1 ∧ n'.kind? q = some .array
  tidy : n.Tidy → n'.Tidy

theorem Made.nil (n : Node) : Made n [] n :=
  ⟨fun _ _ h => h, fun _ _ h => .inl h, fun _ h => absurd h List.not_mem_nil, fun h => h⟩

theorem Made.cons {n m n' : Node} {d : List String × Kind} {ds : List (List String × Kind)}
    (first : Grows (some n) m d.1 d.2) (others : Made m ds n') : Made n (d :: ds) n' := by
  refine ⟨fun q k h => others.kept q k (first.kept q k h), fun q k h => ?_, fun e he => ?_, ?_⟩
  · rcases others.new q k h with before | ⟨e, he, put⟩
    · exact (first.new q k before).imp_right fun put => ⟨d, List.mem_cons_self, put⟩
    · exact .inr ⟨e, List.mem_cons_of_mem d he, put⟩
  · rcases List.mem_cons.mp he with rfl | he
    · refine first.done.imp (others.kept _ _) ?_
      rintro ⟨q, before, other, array⟩
      exact ⟨q, before, other, others.kept _ _ array⟩
    · exact others.done e he
  · intro tidy
    refine others.tidy (first.tidy fun l same => ?_)
    cases same
    exact tidy

theorem made_of_foldlM {statements : List Statement} {d d' : Draft}
    (h : statements.foldlM Draft.extend? d = some d') :
    Made d.node (deeds d.current statements) d'.node := by
  induction statements generalizing d with
  | nil =>
    cases h
    exact .nil _
  | cons s statements ih =>
    rw [List.foldlM_cons] at h
    obtain ⟨m, first, rest⟩ := Option.bind_eq_some_iff.mp h
    obtain ⟨grows, current⟩ := extend?_grows first
    have others := ih rest
    rw [current] at others
    exact .cons grows others

/-- The table of a document holds what its statements put into it. -/
theorem table?_made {statements : List Statement} {t : Table} (h : table? statements = some t) :
    ∃ root, t = entriesToTable root ∧
      Made (.table .opened []) (deeds [] statements) (.table .opened root) := by
  obtain ⟨d, run, rfl⟩ := Option.map_eq_some_iff.mp h
  exact ⟨d.root, rfl, made_of_foldlM run⟩

/-! ## Sections and their fields -/

/-- What a table has under a key, and nothing else under it. -/
def Holds (t : Table) (key : String) (v : Option Value) : Prop :=
  ∀ w, (key, w) ∈ t ↔ v = some w

theorem Holds.lookup {t : Table} {key : String} {v : Option Value} (h : Holds t key v) :
    t.lookup key = v := by
  induction t with
  | nil =>
    cases v with
    | none => rfl
    | some v => exact absurd ((h v).mpr rfl) List.not_mem_nil
  | cons entry t ih =>
    obtain ⟨k, w⟩ := entry
    by_cases same : key = k
    · subst same
      rw [List.lookup_cons_self]
      exact ((h w).mp List.mem_cons_self).symm
    · have other : (key == k) = false := by simpa using same
      have rest : Holds t key v := by
        intro x
        rw [← h x, List.mem_cons]
        simp [same]
      rw [List.lookup_cons, other]
      exact ih rest

theorem holds_entriesToTable {t : Entries} (nodup : (t.map (·.1)).Nodup) (key : String) :
    Holds (entriesToTable t) key ((t.find? key).map Node.toValue) := by
  induction t with
  | nil => exact fun w => ⟨fun h => absurd h List.not_mem_nil, fun h => by cases h⟩
  | cons entry t ih =>
    obtain ⟨k, n⟩ := entry
    rw [List.map_cons, List.nodup_cons] at nodup
    have rest := ih nodup.2
    intro w
    rw [entriesToTable, Entries.find?_cons, List.mem_cons, rest w]
    by_cases same : key = k
    · subst same
      rw [if_pos rfl, find?_eq_none nodup.1]
      simp [eq_comm]
    · rw [if_neg same]
      simp [same]

/-- What a document says about a path: it puts a value there, or it puts nothing there or below. -/
def Says (ds : List (List String × Kind)) (path : List String) : Option Value → Prop
  | some v => (path, .value v) ∈ ds
  | none => ∀ d ∈ ds, ¬ path <+: d.1

/-- A path is that of a table if something is put there or below, and if nothing but a table is put
right there. -/
structure IsSection (ds : List (List String × Kind)) (path : List String) : Prop where
  used : ∃ d ∈ ds, path <+: d.1
  table : ∀ d ∈ ds, d.1 = path → d.2 = .table

section

variable {root : Entries} {ds : List (List String × Kind)} {name : String}

theorem find?_of_kind? {origin : Origin} {k : Kind}
    (h : (Node.table origin root).kind? [name] = some k) :
    ∃ n, root.find? name = some n ∧ n.kind = k := by
  rw [Node.kind?_cons] at h
  obtain ⟨n, found, kind⟩ := Option.bind_eq_some_iff.mp h
  rw [Node.kind?_nil] at kind
  exact ⟨n, found, Option.some.inj kind⟩

theorem find?_of_kind?_below {origin : Origin} {key : String} {path : List String} {k : Kind}
    (h : (Node.table origin root).kind? (name :: key :: path) = some k) :
    ∃ o u, root.find? name = some (.table o u) := by
  rw [Node.kind?_cons] at h
  obtain ⟨n, found, kind⟩ := Option.bind_eq_some_iff.mp h
  cases n with
  | table o u => exact ⟨o, u, found⟩
  | value => cases kind
  | tables => cases kind

/-- Nothing is in a document but what was put into it. -/
theorem Made.mem {n : Node} (h : Made (.table .opened []) ds n) {key : String} {path : List String}
    {k : Kind} (there : n.kind? (key :: path) = some k) :
    ∃ d ∈ ds, (key :: path) <+: d.1 ∧
      (key :: path = d.1 ∧ k = d.2 ∨ key :: path ≠ d.1 ∧ k = .table) := by
  rcases h.new _ k there with before | put
  · cases before
  · exact put

theorem Made.section (h : Made (.table .opened []) ds (.table .opened root))
    (known : IsSection ds [name]) : ∃ o u, root.find? name = some (.table o u) := by
  have here {k : Kind} (there : (Node.table .opened root).kind? [name] = some k) :
      ∃ o u, root.find? name = some (.table o u) := by
    have table : k = .table := by
      obtain ⟨e, he, -, ⟨same, kind⟩ | ⟨-, kind⟩⟩ := h.mem there
      · rw [kind, known.table e he same.symm]
      · exact kind
    obtain ⟨n, found, kind⟩ := find?_of_kind? there
    rw [table] at kind
    cases n with
    | table o u => exact ⟨o, u, found⟩
    | value => cases kind
    | tables => cases kind
  obtain ⟨⟨p, k⟩, hd, below⟩ := known.used
  obtain ⟨rest, rfl⟩ := below
  rcases h.done _ hd with there | ⟨q, before, -, there⟩
  · cases rest with
    | nil => exact here there
    | cons key rest => exact find?_of_kind?_below there
  · cases q with
    | nil => cases there
    | cons x q =>
      obtain ⟨rfl, -⟩ := List.cons_prefix_cons.mp before
      cases q with
      | nil => exact here there
      | cons key q => exact find?_of_kind?_below there

theorem Made.says (h : Made (.table .opened []) ds (.table .opened root)) {o : Origin} {u : Entries}
    (found : root.find? name = some (.table o u)) {key : String} {v : Option Value}
    (said : Says ds [name, key] v) : (u.find? key).map Node.toValue = v := by
  have inside (path : List String) :
      (Node.table .opened root).kind? (name :: path) = (Node.table o u).kind? path := by
    rw [Node.kind?_cons, found, Option.bind_some]
  cases v with
  | none =>
    cases gone : u.find? key with
    | none => rfl
    | some n =>
      have there : (Node.table .opened root).kind? [name, key] = some n.kind := by
        rw [inside, Node.kind?_cons, gone, Option.bind_some, Node.kind?_nil]
      obtain ⟨d, hd, below, -⟩ := h.mem there
      exact absurd below (said d hd)
  | some v =>
    have there : (Node.table .opened root).kind? [name, key] = some (.value v) := by
      obtain there | ⟨q, (before : q <+: [name, key]), other, there⟩ := h.done _ said
      · exact there
      -- the only places on the way are the document and the section, and both are tables
      cases q with
      | nil => cases there
      | cons x q =>
        obtain ⟨rfl, after⟩ := List.cons_prefix_cons.mp before
        rw [inside] at there
        cases q with
        | nil => cases there
        | cons y q =>
          obtain ⟨rfl, last⟩ := List.cons_prefix_cons.mp after
          exact absurd (by rw [List.prefix_nil.mp last]) other
    rw [inside] at there
    obtain ⟨n, same, kind⟩ := find?_of_kind? there
    cases n with
    | value w =>
      cases kind
      rw [same]
      rfl
    | table => cases kind
    | tables => cases kind

/-- A section that is written as a value is that value. -/
theorem Made.value (h : Made (.table .opened []) ds (.table .opened root)) {v : Value}
    (put : ([name], .value v) ∈ ds) : root.find? name = some (.value v) := by
  obtain there | ⟨q, (before : q <+: [name]), other, there⟩ := h.done _ put
  · obtain ⟨n, found, kind⟩ := find?_of_kind? there
    cases n with
    | value w =>
      cases kind
      exact found
    | table => cases kind
    | tables => cases kind
  · cases q with
    | nil => cases there
    | cons x q =>
      obtain ⟨rfl, last⟩ := List.cons_prefix_cons.mp before
      exact absurd (by rw [List.prefix_nil.mp last]) other

theorem Made.nodup (h : Made (.table .opened []) ds (.table .opened root)) :
    (root.map (·.1)).Nodup ∧
      ∀ name o u, root.find? name = some (.table o u) → (u.map (·.1)).Nodup := by
  have empty : (Node.table .opened []).Tidy :=
    Node.tidy_table.mpr ⟨List.nodup_nil, fun key n found => by cases found⟩
  obtain ⟨nodup, below⟩ := Node.tidy_table.mp (h.tidy empty)
  exact ⟨nodup, fun name o u found => (Node.tidy_table.mp (below name _ found)).1⟩

end

/-- A document states a section if it says its fields one by one, or puts a table that holds
them. -/
def States (ds : List (List String × Kind)) (name : String)
    (given : (String → Option Value → Prop) → Prop) : Prop :=
  IsSection ds [name] ∧ given (fun key => Says ds [name, key]) ∨
    ∃ u, ([name], .value (.table u)) ∈ ds ∧ given (Holds u)

/-- What a document states is what its table holds. -/
theorem holds_of_states {statements : List Statement} {t : Table}
    (table : table? statements = some t) {name : String}
    {given : (String → Option Value → Prop) → Prop}
    (mono : ∀ {holds holds' : String → Option Value → Prop},
      (∀ key v, holds key v → holds' key v) → given holds → given holds')
    (states : States (deeds [] statements) name given) :
    ∃ u, Holds t name (some (.table u)) ∧ given (Holds u) := by
  obtain ⟨root, rfl, made⟩ := table?_made table
  obtain ⟨nodup, below⟩ := made.nodup
  have held := holds_entriesToTable nodup name
  rcases states with ⟨known, fields⟩ | ⟨u, put, fields⟩
  · obtain ⟨o, u, found⟩ := made.section known
    rw [found] at held
    refine ⟨entriesToTable u, held, mono (fun key v said => ?_) fields⟩
    rw [← made.says found said]
    exact holds_entriesToTable (below name o u found) key
  · rw [made.value put] at held
    exact ⟨u, held, fields⟩

end Courier.Toml
