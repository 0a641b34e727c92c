import Mathlib.Data.List.Basic
import SqlCompose.Proofs.Failure

/-!
# SqlCompose — other values in the place of fragments

What is written of a statement may be replaced, value by value, by something
else that is there whenever the value is there (`KeepsPresence`): an alias by an
alias, a condition by a condition. Then writing the new statement is writing the
old one with other plain forms. The items of lists stay as they are; they are
not written but have to be texts.

* `Statement.result_render_mapParts` — writing a statement with other parts.
* `Statement.result_render_congr` — writing a statement depends on nothing but
  the plain forms of what is written.
-/

namespace SqlCompose

open Value Clause

/-! ## Other parts

A part is every fragment that is written, which the items of lists are not.
-/

def Join.mapParts (f : Value → Value) (join : Join) : Join :=
  { join with
    table := f join.table
    condition := f join.condition
    tableAlias := f join.tableAlias }

def OrderTerm.mapParts (f : Value → Value) (term : OrderTerm) : OrderTerm :=
  { term with column := f term.column }

def Select.mapParts (f : Value → Value) (s : Select) : Select :=
  { s with
    table := f s.table
    tableAlias := f s.tableAlias
    joins := s.joins.map (Join.mapParts f)
    condition := f s.condition
    groupCondition := f s.groupCondition
    orderTerms := s.orderTerms.map (OrderTerm.mapParts f) }

def Update.mapParts (f : Value → Value) (s : Update) : Update :=
  { table := f s.table
    assignments := s.assignments.map fun entry => (f entry.1, f entry.2)
    condition := f s.condition }

/-- A statement with other parts; the items of its lists are the same. -/
def Statement.mapParts (f : Value → Value) : Statement → Statement
  | select s => select (s.mapParts f)
  | insert s => insert { s with table := f s.table }
  | update s => update (s.mapParts f)
  | delete s => delete { table := f s.table, condition := f s.condition }

/-- What is put in the place of a value is there whenever the value is. -/
structure KeepsPresence (f : Value → Value) : Prop where
  isTrue   : ∀ v, (f v).isTrue = v.isTrue
  isAbsent : ∀ v, isAbsent (f v) = isAbsent v

namespace KeepsPresence

variable {f : Value → Value} (h : KeepsPresence f)

include h

/-- A name is there whatever was put in its place. -/
theorem named (name : Value) : named (f name) = (named name).map f := by
  unfold Clause.named
  rw [h.isTrue]
  split <;> rfl

/-- So is the body of a clause. -/
theorem present (body : Value) : present (f body) = (present body).map f := by
  unfold Clause.present
  rw [h.isAbsent]
  split <;> rfl

/-- The alias has the same layout, with other plain forms. -/
theorem aliasLayout (write : Value → String) (name : Value) :
    aliasLayout write (f name) = aliasLayout (fun v => write (f v)) name := by
  rw [Clause.aliasLayout, h.isTrue, Clause.aliasLayout]

/-- So has a clause with a condition. -/
theorem conditionLayout (write : Value → String) (keyword : String) (body : Value) :
    conditionLayout write keyword (f body) =
      conditionLayout (fun v => write (f v)) keyword body := by
  rw [Clause.conditionLayout, h.isAbsent, Clause.conditionLayout]

end KeepsPresence

/-! ## Writing a statement with other parts -/

section Parts

variable {f : Value → Value} (h : KeepsPresence f)

include h

/-- A join with other parts writes what was put in their place. -/
theorem Join.written_mapParts (join : Join) :
    (join.mapParts f).written = join.written.map f := by
  simp [mapParts, written, h.named]

/-- It has the layout of the join, with other plain forms. -/
theorem Join.layout_mapParts (write : Value → String) (join : Join) :
    (join.mapParts f).layout write = join.layout fun v => write (f v) := by
  simp only [layout, mapParts, h.aliasLayout]

/-- What stands before the grouping is replaced in its place. -/
theorem Select.before_mapParts (s : Select) : (s.mapParts f).before = s.before.map f := by
  simp [mapParts, before, Join.written_mapParts h, h.named, h.present, List.map_flatMap,
    List.flatMap_map]

theorem Select.behind_mapParts (s : Select) : (s.mapParts f).behind = s.behind.map f := by
  simp [mapParts, behind, OrderTerm.mapParts, h.present]

/-- A SELECT statement with other parts has its own layout, with other plain forms. -/
theorem Select.layout_mapParts (write : Value → String) (s : Select) :
    (s.mapParts f).layout write = s.layout fun v => write (f v) := by
  have hJoins : (s.joins.map (Join.mapParts f)).map (Join.layout write) =
      s.joins.map (Join.layout fun v => write (f v)) := by
    simp [Join.layout_mapParts h]
  have hTerms : (s.orderTerms.map (OrderTerm.mapParts f)).map (OrderTerm.layout write) =
      s.orderTerms.map (OrderTerm.layout fun v => write (f v)) := by
    simp [OrderTerm.mapParts, OrderTerm.layout]
  unfold layout
  rw [hTerms.symm, hJoins.symm, ← h.aliasLayout, ← h.conditionLayout, ← h.conditionLayout]
  rfl

/-- An UPDATE statement with other parts writes what was put in their place. -/
theorem Update.written_mapParts (s : Update) : (s.mapParts f).written = s.written.map f := by
  simp [mapParts, written, h.present, List.map_flatMap, List.flatMap_map]

/-- It has its own layout, with other plain forms. -/
theorem Update.layout_mapParts (write : Value → String) (s : Update) :
    (s.mapParts f).layout write = s.layout fun v => write (f v) := by
  have hEntries : (s.assignments.map fun entry => (f entry.1, f entry.2)).map (entryLayout write) =
      s.assignments.map (entryLayout fun v => write (f v)) := by
    simp [entryLayout]
  simp only [layout, mapParts, h.conditionLayout, hEntries]

namespace Statement

/-- **A statement with other parts writes what was put in their place**, in the same order. -/
theorem written_mapParts (s : Statement) : (s.mapParts f).written = s.written.map f := by
  cases s with
  | select s => simp [mapParts, written, Select.before_mapParts h, Select.behind_mapParts h]
  | insert s => rfl
  | update s => exact s.written_mapParts h
  | delete s => simp [mapParts, written, Delete.written, h.present]

/-- It fails for the same reasons, with other plain forms. -/
theorem faults_mapParts (text : Rendering) (s : Statement) :
    (s.mapParts f).faults text = s.faults fun v => text (f v) := by
  cases s with
  | select s =>
    simp only [mapParts, faults, Select.faults, Select.before_mapParts h, Select.behind_mapParts h,
      List.flatMap_map]
    rfl
  | insert s => rfl
  | update s =>
    simp only [mapParts, faults, Update.faults, Update.written_mapParts h, List.flatMap_map]
    simp only [Update.mapParts, List.isEmpty_map]
    rfl
  | delete s =>
    simp only [mapParts, faults, Delete.faults, Delete.written, h.present, ← List.map_singleton,
      ← List.map_append, List.flatMap_map]
    rfl

/-- It has its own layout, with other plain forms. -/
theorem layout_mapParts (write : Value → String) (s : Statement) :
    (s.mapParts f).layout write = s.layout fun v => write (f v) := by
  cases s with
  | select s => exact s.layout_mapParts h write
  | insert s => rfl
  | update s => exact s.layout_mapParts h write
  | delete s => simp only [mapParts, layout, Delete.layout, h.conditionLayout]

/-- Writing a statement with other parts is writing the statement with other plain forms. -/
theorem result_render_mapParts (text : Rendering) (s : Statement) :
    ((s.mapParts f).render text).result = (s.render fun v => text (f v)).result := by
  rw [result_render, result_render, faults_mapParts h, layout_mapParts h]
  rfl

end Statement

end Parts

/-! ## What writing a statement depends on -/

section Congruence

variable {write write' : Value → String}

/-- The layout of an alias depends on the plain form of the name alone. -/
theorem Clause.aliasLayout_congr {name : Value} (h : ∀ v ∈ named name, write v = write' v) :
    aliasLayout write name = aliasLayout write' name := by
  unfold named at h
  unfold aliasLayout
  split
  · rename_i hTrue
    rw [h name (by simp [hTrue])]
  · rfl

theorem Clause.conditionLayout_congr {keyword : String} {body : Value}
    (h : ∀ v ∈ present body, write v = write' v) :
    conditionLayout write keyword body = conditionLayout write' keyword body := by
  unfold present at h
  unfold conditionLayout
  split
  · rfl
  · rename_i hPresent
    rw [h body (by simp [hPresent])]

/-- The layout of a join depends on the plain forms of what is written of it. -/
theorem Join.layout_congr {join : Join} (h : ∀ v ∈ join.written, write v = write' v) :
    join.layout write = join.layout write' := by
  simp only [written, List.forall_mem_append, List.forall_mem_singleton] at h
  obtain ⟨⟨hTable, hAlias⟩, hCondition⟩ := h
  unfold layout
  rw [hTable, aliasLayout_congr hAlias, hCondition]

/-- The same for a SELECT statement. -/
theorem Select.layout_congr {s : Select} (h : ∀ v ∈ s.before ++ s.behind, write v = write' v) :
    s.layout write = s.layout write' := by
  -- what is written, clause by clause
  simp only [before, behind, List.forall_mem_append, List.forall_mem_singleton,
    List.forall_mem_map] at h
  obtain ⟨⟨⟨⟨hTable, hAlias⟩, hJoins⟩, hCondition⟩, hGroupCondition, hTerms⟩ := h
  have hJoinLayouts : s.joins.map (Join.layout write) = s.joins.map (Join.layout write') :=
    List.map_congr_left fun join hJoin =>
      Join.layout_congr fun v hv => hJoins v (List.mem_flatMap.mpr ⟨join, hJoin, hv⟩)
  have hTermLayouts : s.orderTerms.map (OrderTerm.layout write) =
      s.orderTerms.map (OrderTerm.layout write') :=
    List.map_congr_left fun term hTerm => by rw [OrderTerm.layout, hTerms term hTerm,
      OrderTerm.layout]
  unfold layout
  rw [hTable, aliasLayout_congr hAlias, hJoinLayouts, conditionLayout_congr hCondition,
    conditionLayout_congr hGroupCondition, hTermLayouts]

/-- The same for an UPDATE statement. -/
theorem Update.layout_congr {s : Update} (h : ∀ v ∈ s.written, write v = write' v) :
    s.layout write = s.layout write' := by
  simp only [written, List.forall_mem_append, List.forall_mem_singleton] at h
  obtain ⟨⟨hEntries, hTable⟩, hCondition⟩ := h
  have hEntryLayouts : s.assignments.map (entryLayout write) =
      s.assignments.map (entryLayout write') :=
    List.map_congr_left fun entry hEntry => by
      have hBoth := fun v hv => hEntries v (List.mem_flatMap.mpr ⟨entry, hEntry, hv⟩)
      rw [entryLayout, hBoth entry.1 (by simp), hBoth entry.2 (by simp), entryLayout]
  unfold layout
  rw [hTable, hEntryLayouts, conditionLayout_congr hCondition]

/-- An INSERT statement writes no plain form but that of its table. -/
theorem Insert.layout_congr {s : Insert} (h : write s.table = write' s.table) :
    s.layout write = s.layout write' := by
  unfold layout
  rw [h]

theorem Delete.layout_congr {s : Delete} (h : ∀ v ∈ s.written, write v = write' v) :
    s.layout write = s.layout write' := by
  simp only [written, List.forall_mem_append, List.forall_mem_singleton] at h
  unfold layout
  rw [h.1, conditionLayout_congr h.2]

namespace Statement

/-- **The layout of a statement depends on the plain forms of what is written of it.** -/
theorem layout_congr {s : Statement} (h : ∀ v ∈ s.written, write v = write' v) :
    s.layout write = s.layout write' := by
  cases s with
  | select s => exact Select.layout_congr h
  | insert s => exact Insert.layout_congr (h s.table (List.mem_singleton_self _))
  | update s => exact Update.layout_congr h
  | delete s => exact Delete.layout_congr h

variable {text text' : Rendering}

/-- So do the reasons for which it fails, as far as they are results. -/
theorem faults_congr {s : Statement} (h : ∀ v ∈ s.written, (text v).result = (text' v).result) :
    s.faults text = s.faults text' := by
  have hFaults : ∀ v ∈ s.written, text.faults v = text'.faults v := fun v hv => by
    rw [Rendering.faults, h v hv, Rendering.faults]
  have hWrite : ∀ v ∈ s.written, text.write v = text'.write v := fun v hv => by
    rw [Rendering.write, h v hv, Rendering.write]
  cases s with
  | select s =>
    rw [written, List.forall_mem_append] at hFaults
    simp only [faults, Select.faults, List.flatMap_congr hFaults.1, List.flatMap_congr hFaults.2]
  | insert s =>
    have hTable : s.table ∈ (insert s).written := List.mem_singleton_self _
    simp only [faults, Insert.faults, hFaults s.table hTable, hWrite s.table hTable]
  | update s =>
    have hTable : s.table ∈ s.written := by simp [Update.written]
    have hAll : s.written.flatMap text.faults = s.written.flatMap text'.faults :=
      List.flatMap_congr hFaults
    simp only [faults, Update.faults, hFaults s.table hTable, hWrite s.table hTable, hAll]
  | delete s => exact List.flatMap_congr hFaults

/-- Writing a statement depends on nothing but the plain forms of what is written. -/
theorem result_render_congr {s : Statement}
    (h : ∀ v ∈ s.written, (text v).result = (text' v).result) :
    (s.render text).result = (s.render text').result := by
  have hWrite : ∀ v ∈ s.written, text.write v = text'.write v := fun v hv => by
    rw [Rendering.write, h v hv, Rendering.write]
  rw [result_render, result_render, layout_congr hWrite, faults_congr h]

end Statement

end Congruence

end SqlCompose
