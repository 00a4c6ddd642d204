import Courier.Toml.Document

/-!
# Documents of sections

A document whose statements are headers of one key, each with assignments of single keys under it,
stands for the table of its sections, in the order written, unless a name or a key is repeated.
-/

namespace Courier.Toml

/-- A header with the assignments under it. -/
structure Part where
  name : String
  fields : Table

namespace Part

def statements (p : Part) : List Statement :=
  .table ⟨[], p.name⟩ :: p.fields.map fun (key, v) => .assign ⟨[], key⟩ v

def entries (fields : Table) : Entries := fields.map fun (key, v) => (key, .value v)

def node (p : Part) : String × Node := (p.name, .table .opened (entries p.fields))

def entry (p : Part) : String × Value := (p.name, .table p.fields)

end Part

/-! ## The last table of a draft -/

section

variable {t : Entries} {key : String}

theorem find?_eq_none (fresh : key ∉ t.map (·.1)) : t.find? key = none := by
  refine List.lookup_eq_none_iff.mpr fun entry inside => ?_
  have other : key ≠ entry.1 := fun same => fresh (same ▸ List.mem_map_of_mem inside)
  simpa using other

theorem find?_last (fresh : key ∉ t.map (·.1)) (node : Node) :
    Entries.find? (t ++ [(key, node)]) key = some node := by
  have before : t.lookup key = none := find?_eq_none fresh
  rw [Entries.find?, List.lookup_append, before]
  simp

theorem replace_eq_self (fresh : key ∉ t.map (·.1)) (node : Node) :
    Entries.replace t key node = t := by
  refine (List.map_congr_left fun entry inside => ?_).trans (List.map_id t)
  have other : entry.1 ≠ key := fun same => fresh (same ▸ List.mem_map_of_mem inside)
  exact if_neg other

theorem replace_last (fresh : key ∉ t.map (·.1)) (before after : Node) :
    Entries.replace (t ++ [(key, before)]) key after = t ++ [(key, after)] := by
  have others := replace_eq_self fresh after
  rw [Entries.replace] at others ⊢
  rw [List.map_append, others]
  simp

theorem extend?_header {d : Draft} (fresh : key ∉ d.root.map (·.1)) :
    d.extend? (.table ⟨[], key⟩) = some ⟨d.root ++ [(key, .table .opened [])], [key]⟩ := by
  have none := find?_eq_none fresh
  simp [Draft.extend?, Entries.within?, Entries.openTable?, none, KeyPath.keys]

theorem extend?_assign {inner : Entries} {field : String} (fresh : key ∉ t.map (·.1))
    (unset : field ∉ inner.map (·.1)) (v : Value) :
    Draft.extend? ⟨t ++ [(key, .table .opened inner)], [key]⟩ (.assign ⟨[], field⟩ v) =
      some ⟨t ++ [(key, .table .opened (inner ++ [(field, .value v)]))], [key]⟩ := by
  have here := find?_last fresh (.table .opened inner)
  have added : Entries.add? inner field (.value v) = some (inner ++ [(field, .value v)]) := by
    rw [Entries.add?, find?_eq_none unset]
  simp [Draft.extend?, Entries.within?, Entries.assign?, here, added, replace_last fresh]

theorem foldlM_assigns (fresh : key ∉ t.map (·.1)) {fields : Table} {inner : Entries}
    (distinct : (inner.map (·.1) ++ fields.map (·.1)).Nodup) :
    (fields.map fun (k, v) => Statement.assign ⟨[], k⟩ v).foldlM Draft.extend?
        ⟨t ++ [(key, .table .opened inner)], [key]⟩ =
      some ⟨t ++ [(key, .table .opened (inner ++ Part.entries fields))], [key]⟩ := by
  induction fields generalizing inner with
  | nil => simp [Part.entries]
  | cons field fields ih =>
    obtain ⟨k, v⟩ := field
    have unset : k ∉ inner.map (·.1) := by
      intro inside
      exact (List.nodup_append.mp distinct).2.2 k inside k List.mem_cons_self rfl
    have rest : ((inner ++ [(k, Node.value v)]).map (·.1) ++ fields.map (·.1)).Nodup := by
      simpa using distinct
    rw [List.map_cons, List.foldlM_cons, extend?_assign fresh unset]
    exact (ih rest).trans (by simp [Part.entries])

end

/-! ## All of a document -/

/-- No name is given twice, and no key within one part. -/
structure Distinct (parts : List Part) : Prop where
  names : (parts.map (·.name)).Nodup
  fields : ∀ p ∈ parts, (p.fields.map (·.1)).Nodup

theorem foldlM_part {d : Draft} {p : Part} (fresh : p.name ∉ d.root.map (·.1))
    (distinct : (p.fields.map (·.1)).Nodup) :
    p.statements.foldlM Draft.extend? d = some ⟨d.root ++ [p.node], [p.name]⟩ := by
  rw [Part.statements, List.foldlM_cons, extend?_header fresh]
  exact foldlM_assigns fresh (by simpa using distinct)

theorem foldlM_parts {parts : List Part} {d : Draft}
    (names : (d.root.map (·.1) ++ parts.map (·.name)).Nodup)
    (fields : ∀ p ∈ parts, (p.fields.map (·.1)).Nodup) :
    ∃ current, (parts.flatMap Part.statements).foldlM Draft.extend? d =
      some ⟨d.root ++ parts.map Part.node, current⟩ := by
  induction parts generalizing d with
  | nil => exact ⟨d.current, by simp⟩
  | cons p parts ih =>
    have fresh : p.name ∉ d.root.map (·.1) := by
      intro inside
      exact (List.nodup_append.mp names).2.2 p.name inside p.name List.mem_cons_self rfl
    have first := foldlM_part fresh (fields p List.mem_cons_self)
    obtain ⟨current, rest⟩ := ih (d := ⟨d.root ++ [p.node], [p.name]⟩)
      (by simpa [Part.node] using names) fun q hq => fields q (List.mem_cons_of_mem p hq)
    refine ⟨current, ?_⟩
    rw [List.flatMap_cons, List.foldlM_append, first]
    exact rest.trans (by simp)

theorem entriesToTable_entries (fields : Table) :
    entriesToTable (Part.entries fields) = fields := by
  induction fields with
  | nil => rfl
  | cons field fields ih =>
    rw [Part.entries] at ih
    rw [Part.entries, List.map_cons, entriesToTable, ih, Node.toValue]

theorem entriesToTable_nodes (parts : List Part) :
    entriesToTable (parts.map Part.node) = parts.map Part.entry := by
  induction parts with
  | nil => rfl
  | cons p parts ih =>
    rw [List.map_cons, List.map_cons, Part.node, entriesToTable, ih, Node.toValue,
      entriesToTable_entries]
    rfl

theorem table?_parts {parts : List Part} (distinct : Distinct parts) :
    table? (parts.flatMap Part.statements) = some (parts.map Part.entry) := by
  obtain ⟨current, all⟩ := foldlM_parts (d := .empty) distinct.names distinct.fields
  rw [table?, all, Option.map_some]
  exact congrArg some (entriesToTable_nodes parts)

end Courier.Toml
