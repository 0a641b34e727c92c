import Mathlib.Data.List.Perm.Subperm
import Mathlib.Logic.Relation
import SqlCompose.Proofs.Refusal
import SqlCompose.Proofs.Replacement

/-!
# SqlCompose — statements in statements

A statement that is handed over as a fragment is kept as a reference and is
written out whenever the text around it is. The rendering follows references
only as deep as there are statements. This is no restriction as long as the
references do not run in a circle: on the way down no statement occurs twice, so
the way is never longer than the collection.

So building is a function of the contents: the text of a statement is the text
of its own clauses with the texts of the others in their places, as the others
are when it is built. If another one cannot be built, nor can this one, and the
reason is that of the first that is written.

* `Store.result_build_eq` — a statement is built from what the statements in it
  are built to.
* `Store.composes` — building in a collection without circles.
-/

namespace SqlCompose

open Value

namespace Store

/-! ## References -/

/-- A statement has another one among its fragments. -/
def RefersTo (store : Store) (a b : StatementRef) : Prop :=
  ∃ entry, store.entry? a = some entry ∧ b ∈ entry.content.references

/-- No statement comes back to itself. -/
def Acyclic (store : Store) : Prop := ∀ a, ¬ Relation.TransGen store.RefersTo a a

/-- Every statement that is referred to is there. -/
def Closed (store : Store) : Prop :=
  ∀ a b, store.RefersTo a b → ∃ entry, store.entry? b = some entry

/-- Statements refer to nothing but statements that were created before them. -/
def refersBack (store : Store) : Bool :=
  store.entries.zipIdx.all fun entry => entry.1.content.references.all (· < entry.2)

variable {store : Store}

theorem lt_size {ref : StatementRef} {entry : Entry} (h : store.entry? ref = some entry) :
    ref < store.size :=
  (List.getElem?_eq_some_iff.mp h).1

/-- If every statement refers back, a reference goes to an earlier place. -/
theorem RefersTo.lt (hBack : store.refersBack = true) {a b : StatementRef}
    (h : store.RefersTo a b) : b < a := by
  obtain ⟨entry, hEntry, hb⟩ := h
  rw [refersBack, List.all_eq_true] at hBack
  have hMem : (entry, a) ∈ store.entries.zipIdx := List.mem_zipIdx_iff_getElem?.mpr hEntry
  exact of_decide_eq_true (List.all_eq_true.mp (hBack _ hMem) b hb)

/-- References to earlier statements never run in a circle. -/
theorem acyclic_of_refersBack (hBack : store.refersBack = true) : store.Acyclic := by
  have hLt : ∀ a b, Relation.TransGen store.RefersTo a b → b < a := fun a b h => by
    induction h with
    | single hab => exact hab.lt hBack
    | tail _ hbc ih => exact Nat.lt_trans (hbc.lt hBack) ih
  exact fun a h => Nat.lt_irrefl a (hLt a a h)

/-- Then every reference is to a statement of the collection. -/
theorem closed_of_refersBack (hBack : store.refersBack = true) : store.Closed := by
  intro a b h
  have hLt := h.lt hBack
  obtain ⟨entry, hEntry, -⟩ := h
  exact ⟨_, List.getElem?_eq_getElem (Nat.lt_trans hLt (lt_size hEntry))⟩

/-! ## The way down -/

/-- Statements on the way to another one. None occurs twice, and all of them come to it. -/
structure Way (store : Store) (way : List StatementRef) (ref : StatementRef) : Prop where
  nodup  : way.Nodup
  within : ∀ a ∈ way, a < store.size
  comes  : ∀ a ∈ way, Relation.TransGen store.RefersTo a ref

theorem Way.nil (ref : StatementRef) : store.Way [] ref := by
  constructor <;> simp

section

variable {way : List StatementRef} {ref : StatementRef} (hWay : store.Way way ref)

include hWay

/-- A statement that the way comes to is not on it. -/
theorem Way.nodup_cons (hAcyclic : store.Acyclic) : (ref :: way).Nodup :=
  List.nodup_cons.mpr ⟨fun hMem => hAcyclic ref (hWay.comes ref hMem), hWay.nodup⟩

variable {entry : Entry} (hEntry : store.entry? ref = some entry)

include hEntry

/-- The way is shorter than the collection. -/
theorem Way.length_lt (hAcyclic : store.Acyclic) : way.length < store.size := by
  have hRange : (ref :: way) ⊆ List.range store.size := fun a ha => by
    rw [List.mem_range]
    rcases List.mem_cons.mp ha with rfl | hMem
    · exact lt_size hEntry
    · exact hWay.within a hMem
  -- no place occurs twice, so there are no more of them than places
  have hLength := ((hWay.nodup_cons hAcyclic).subperm hRange).length_le
  rwa [List.length_range] at hLength

/-- The way goes on to what the statement refers to. -/
theorem Way.cons (hAcyclic : store.Acyclic) {next : StatementRef}
    (hNext : next ∈ entry.content.references) : store.Way (ref :: way) next where
  nodup := hWay.nodup_cons hAcyclic
  within := List.forall_mem_cons.mpr ⟨lt_size hEntry, hWay.within⟩
  comes := List.forall_mem_cons.mpr ⟨.single ⟨entry, hEntry, hNext⟩, fun a ha =>
    (hWay.comes a ha).tail ⟨entry, hEntry, hNext⟩⟩

end

/-! ## Deep enough -/

/-- The text of a reference is that of the statement there, one level deeper. -/
theorem textWithin_statement (depth : Nat) {ref : StatementRef} {entry : Entry}
    (h : store.entry? ref = some entry) :
    store.textWithin (depth + 1) (.statement ref) =
      entry.content.render (store.textWithin depth) := by
  rw [textWithin, h]

end Store

/-- A statement by itself does not run in a circle. -/
theorem Statement.circular_mem_faults {text : Rendering} {s : Statement}
    (h : .circular ∈ s.faults text) : ∃ v ∈ s.written, .circular ∈ text.faults v := by
  have hRow : ∀ row, ¬ Fault.circular ∈ rowFaults 0 row := fun row hMem => by
    cases errorClass_of_mem_rowFaults hMem
  cases s with
  | select s =>
    simp only [faults, Select.faults, List.mem_append, List.mem_flatMap, hRow, false_or,
      or_false] at h
    rcases h with ⟨v, hv, hFault⟩ | ⟨v, hv, hFault⟩
    · exact ⟨v, List.mem_append_left _ hv, hFault⟩
    · exact ⟨v, List.mem_append_right _ hv, hFault⟩
  | insert s =>
    refine ⟨s.table, List.mem_singleton_self _, ?_⟩
    simp only [faults, Insert.faults] at h
    split at h
    · split at h <;> simpa [hRow] using h
    · simpa using h
  | update s =>
    simp only [faults, Update.faults] at h
    split at h
    · exact ⟨s.table, by simp [written, Update.written], by simpa using h⟩
    · exact List.mem_flatMap.mp h
  | delete s => exact List.mem_flatMap.mp h

namespace Store

variable {store : Store} (hAcyclic : store.Acyclic) (hClosed : store.Closed)

include hAcyclic hClosed

/-- Behind a way, as many steps as are left suffice: one more changes nothing. -/
theorem textWithin_succ {depth : Nat} {way : List StatementRef} {ref : StatementRef} {entry : Entry}
    (hWay : store.Way way ref) (hEntry : store.entry? ref = some entry)
    (hDepth : store.size ≤ depth + way.length) :
    (store.textWithin depth (.statement ref)).result =
        (store.textWithin (depth + 1) (.statement ref)).result ∧
      (store.textWithin depth (.statement ref)).result ≠ .error .circular := by
  induction depth generalizing way ref entry with
  | zero =>
    -- the way would have come to every statement already
    have hLength := hWay.length_lt hEntry hAcyclic
    omega
  | succ depth ih =>
    have hWritten : ∀ v ∈ entry.content.written,
        (store.textWithin depth v).result = (store.textWithin (depth + 1) v).result ∧
          (store.textWithin depth v).result ≠ .error .circular := by
      intro v hv
      cases hRef : v.reference? with
      | none =>
        rw [store.result_textWithin depth hRef, store.result_textWithin (depth + 1) hRef]
        exact ⟨rfl, nofun⟩
      | some next =>
        have hNext : next ∈ entry.content.references := by
          rw [← Statement.filterMap_written]
          exact List.mem_filterMap.mpr ⟨v, hv, hRef⟩
        obtain ⟨inner, hInner⟩ := hClosed ref next ⟨entry, hEntry, hNext⟩
        -- a value with a reference is that statement
        cases v with
        | statement other =>
          cases hRef
          refine ih (hWay.cons hEntry hAcyclic hNext) hInner ?_
          rw [List.length_cons]
          omega
        | _ => cases hRef
    rw [textWithin_statement depth hEntry, textWithin_statement (depth + 1) hEntry]
    refine ⟨Statement.result_render_congr fun v hv => (hWritten v hv).1, fun hCircular => ?_⟩
    rw [Statement.result_render, outcomeOf_eq_error] at hCircular
    -- a circle would have to come from further down
    obtain ⟨v, hv, hFault⟩ := Statement.circular_mem_faults (List.mem_of_head? hCircular)
    refine (hWritten v hv).2 ?_
    unfold Rendering.faults at hFault
    split at hFault
    · cases hFault
    · rename_i hResult
      rw [hResult, List.mem_singleton.mp hFault]

variable {ref : StatementRef} {entry : Entry} (hEntry : store.entry? ref = some entry)

include hEntry

/-- No statement is built in a circle. -/
theorem result_build_ne_circular : (store.build ref).result ≠ .error .circular :=
  (textWithin_succ hAcyclic hClosed (.nil ref) hEntry (Nat.le_add_right ..)).2

/-- From the size of the collection on the depth does not matter. -/
theorem result_textWithin_statement {depth : Nat} (hDepth : store.size ≤ depth) :
    (store.textWithin depth (.statement ref)).result = (store.build ref).result := by
  obtain ⟨more, rfl⟩ := Nat.exists_eq_add_of_le hDepth
  induction more with
  | zero => rfl
  | succ more ih =>
    rw [← ih (Nat.le_add_right ..)]
    exact (textWithin_succ hAcyclic hClosed (.nil ref) hEntry (by simp)).1.symm

/-- A statement is built from what the statements in it are built to. -/
theorem result_build_eq :
    (store.build ref).result = (entry.content.render store.text).result := by
  rw [← result_textWithin_statement hAcyclic hClosed hEntry (Nat.le_succ store.size),
    textWithin_statement store.size hEntry]
  rfl

end Store

/-! ## Texts in the place of statements -/

namespace Store

/-- What stands for a value in a text, with no statement written out. -/
def plainly (store : Store) : Rendering := fun v => pure (v.formatted store.nameplate)

/-- A statement that can be built, as the text that it is built to now. -/
def settle (store : Store) : Value → Value
  | .statement ref =>
    match (store.build ref).result with
    | .ok sql => .text sql
    | .error _ => .statement ref
  | v => v

variable (store : Store)

/-- What is built is never empty. -/
theorem ne_empty_of_build {ref : StatementRef} {sql : String}
    (h : (store.build ref).result = .ok sql) : sql ≠ "" := by
  rw [build, text] at h
  cases hSize : store.size with
  | zero =>
    rw [hSize] at h
    cases h
  | succ depth =>
    rw [hSize, textWithin] at h
    cases hEntry : store.entry? ref with
    | none =>
      rw [hEntry] at h
      cases h
    | some entry =>
      rw [hEntry] at h
      obtain ⟨front, rfl⟩ := Statement.eq_append_of_render h
      exact fun hEmpty => by simp [Clause.terminator] at hEmpty

/-- Only a statement is replaced, and only by a text that is not empty. -/
theorem settle_cases (v : Value) :
    store.settle v = v ∨ ∃ ref sql, v = .statement ref ∧ store.settle v = .text sql ∧ sql ≠ "" := by
  cases v with
  | statement ref =>
    cases hBuild : (store.build ref).result with
    | ok sql =>
      exact Or.inr ⟨ref, sql, rfl, by rw [settle, hBuild], store.ne_empty_of_build hBuild⟩
    | error fault => exact Or.inl (by rw [settle, hBuild])
  | _ => exact Or.inl rfl

/-- What a reference stands for is there whenever the reference is. -/
theorem keepsPresence_settle : KeepsPresence store.settle where
  isTrue v := by
    rcases store.settle_cases v with hSame | ⟨ref, sql, rfl, hText, hNonempty⟩
    · rw [hSame]
    · rw [hText]
      simpa [Value.isTrue] using hNonempty
  isAbsent v := by
    rcases store.settle_cases v with hSame | ⟨ref, sql, rfl, hText, hNonempty⟩
    · rw [hSame]
    · rw [hText]
      simpa [Clause.isAbsent] using hNonempty

/-- A statement that can be built is written like its text. -/
theorem result_plainly_settle {v : Value}
    (h : ∀ ref, v.reference? = some ref → ∃ sql, (store.build ref).result = .ok sql) :
    (store.plainly (store.settle v)).result = (store.text v).result := by
  cases v with
  | statement ref =>
    obtain ⟨sql, hBuild⟩ := h ref rfl
    rw [settle, hBuild]
    exact hBuild.symm
  | _ => exact (store.result_textWithin store.size rfl).symm

end Store

namespace Statement

/-- Nothing about the statement itself keeps it from being built. -/
def Faultless : Statement → Prop
  | select s => ∀ v ∈ s.columns ++ s.groupColumns, v.isText = true
  | insert s => ¬ s.HasNoRow ∧ ∀ v ∈ s.columns ++ s.values, v.isText = true
  | update s => s.assignments ≠ []
  | delete _ => True

/-- Then all that can be wrong is what is written of it. -/
theorem Faultless.faults_eq {s : Statement} (h : s.Faultless) (text : Rendering) :
    s.faults text = s.written.flatMap text.faults := by
  cases s with
  | select s =>
    obtain ⟨hColumns, hGroup⟩ := List.append_eq_nil_iff.mp (append_rowFaults_eq_nil.mpr h)
    simp [faults, Select.faults, written, hColumns, hGroup]
  | insert s =>
    obtain ⟨hColumns, hValues⟩ := List.append_eq_nil_iff.mp (append_rowFaults_eq_nil.mpr h.2)
    simp [faults, Insert.faults_of_not_hasNoRow text h.1, written, hColumns, hValues]
  | update s => exact if_neg (List.isEmpty_iff.not.mpr h)
  | delete s => rfl

end Statement

namespace Store

/-! ## Building -/

/-- How a statement is built that has other statements among its fragments. -/
structure Composes (store : Store) (ref : StatementRef) (entry : Entry) : Prop where
  /-- Following references comes to an end. -/
  ends : (store.build ref).result ≠ .error .circular ∧ ∀ depth, store.size ≤ depth →
    (store.textWithin depth (.statement ref)).result = (store.build ref).result
  /-- No statement is changed by it. -/
  unchanged : (store.call ref entry .build).state = store ∧
    (store.call ref entry .build).reply.result = (store.build ref).result.map .built
  /-- Here and all the way down, a text is that of the statement with texts in the place of the
  statements in it. -/
  substituted : (∀ below, Relation.TransGen store.RefersTo ref below →
      ∃ sql, (store.build below).result = .ok sql) →
    ∀ here inner, Relation.ReflTransGen store.RefersTo ref here →
      store.entry? here = some inner →
      (store.build here).result =
        ((inner.content.mapParts store.settle).render store.plainly).result
  /-- The first statement in it that cannot be built decides. -/
  first : entry.content.Faultless → ∀ front failing behind fault,
    entry.content.references = front ++ failing :: behind →
    (∀ earlier ∈ front, ∃ sql, (store.build earlier).result = .ok sql) →
    (store.build failing).result = .error fault → (store.build ref).result = .error fault

variable {store : Store}

/-- The call that builds a statement returns what the statement is built to, and changes nothing. -/
theorem call_build {ref : StatementRef} {entry : Entry} (hEntry : store.entry? ref = some entry) :
    (store.call ref entry .build).state = store ∧
      (store.call ref entry .build).reply.result =
        (entry.content.render store.text).result.map .built := by
  have hKnown : ∀ kind : StatementKind, kind.operations.contains Call.build.name = true :=
    fun kind => by cases kind <;> decide
  rw [call, if_pos (hKnown _)]
  constructor
  · show store.update ref (entry.content.apply store.text .build).state = store
    have hSame : (entry.content.apply store.text .build).state = entry.content := by
      cases entry.content <;> rfl
    rw [hSame, update_self hEntry]
  · show (entry.content.apply store.text .build).reply.result = _
    rw [Statement.result_build_eq_map]

section

variable (hAcyclic : store.Acyclic) (hClosed : store.Closed) {ref : StatementRef} {entry : Entry}
  (hEntry : store.entry? ref = some entry)

include hAcyclic hClosed hEntry

/-- **A statement whose references can be built is built from their texts.** -/
theorem result_build_settled
    (hBuilt : ∀ next ∈ entry.content.references, ∃ sql, (store.build next).result = .ok sql) :
    (store.build ref).result =
      ((entry.content.mapParts store.settle).render store.plainly).result := by
  rw [result_build_eq hAcyclic hClosed hEntry,
    Statement.result_render_mapParts store.keepsPresence_settle]
  refine Statement.result_render_congr fun v hv => (store.result_plainly_settle ?_).symm
  intro next hNext
  refine hBuilt next ?_
  rw [← Statement.filterMap_written]
  exact List.mem_filterMap.mpr ⟨v, hv, hNext⟩

/-- **A statement fails as the first of its references does**, if it has no faults of its own. -/
theorem result_build_first (hFaultless : entry.content.Faultless)
    {front behind : List StatementRef} {failing : StatementRef} {fault : Fault}
    (hReferences : entry.content.references = front ++ failing :: behind)
    (hFront : ∀ earlier ∈ front, ∃ sql, (store.build earlier).result = .ok sql)
    (hFailing : (store.build failing).result = .error fault) :
    (store.build ref).result = .error fault := by
  have hNone : (front.flatMap fun next => store.text.faults (.statement next)) = [] := by
    rw [List.flatMap_eq_nil_iff]
    intro next hNext
    obtain ⟨sql, hBuilt⟩ := hFront next hNext
    exact Rendering.faults_eq_nil hBuilt
  -- those in front of it have no faults, so its own is the first
  have hOne : store.text.faults (.statement failing) = [fault] := by
    rw [Rendering.faults, show (store.text (.statement failing)).result = _ from hFailing]
  rw [result_build_eq hAcyclic hClosed hEntry, Statement.result_render, outcomeOf_eq_error,
    hFaultless.faults_eq, store.flatMap_faults, Statement.filterMap_written, hReferences,
    List.flatMap_append, List.flatMap_cons, hNone, hOne]
  rfl

end

/-- **Statements in statements.** In a collection without circles every statement is built, without
a change to any, to its text with the texts of the others in their places; or, if it is faultless
itself, it fails like the first of them that fails. -/
theorem composes (hAcyclic : store.Acyclic) (hClosed : store.Closed) {ref : StatementRef}
    {entry : Entry} (hEntry : store.entry? ref = some entry) : store.Composes ref entry where
  ends := ⟨result_build_ne_circular hAcyclic hClosed hEntry,
    fun _ => result_textWithin_statement hAcyclic hClosed hEntry⟩
  unchanged := by
    rw [result_build_eq hAcyclic hClosed hEntry]
    exact call_build hEntry
  substituted hBuilt here inner hHere hInner := by
    refine result_build_settled hAcyclic hClosed hInner fun next hNext => hBuilt next ?_
    exact Relation.TransGen.tail' hHere ⟨inner, hInner, hNext⟩
  first hFaultless front failing behind fault hReferences hFront hFailing :=
    result_build_first hAcyclic hClosed hEntry hFaultless hReferences hFront hFailing

/-- A statement that is in two others, one of which is in the other one. -/
def paidEntry : Entry where
  label := "paid"
  className := "SelectBuilder"
  isOpen := false
  content := .select { table := .text "orders", condition := .text "paid" }

def totalsEntry : Entry where
  label := "totals"
  className := "UpdateBuilder"
  isOpen := false
  content := .update
    { table := .text "totals"
      assignments := [(.text "n", .statement 1)]
      condition := .statement 0 }

def totalsStore : Store where
  entries :=
    [paidEntry,
      { paidEntry with
        label := "named"
        content := .select
          { table := .text "users"
            joins := [⟨.left, .statement 0, .text "p.id = users.id", .text "p"⟩] } },
      totalsEntry]

/-- The text of the third one with the text of the first one in two places, before and after a call
on the first one. -/
theorem totalsStore_composes :
    totalsStore.refersBack = true ∧ totalsStore.Composes 2 totalsEntry ∧
      (totalsStore.build 2).result = .ok ("UPDATE totals SET n = SELECT * FROM users LEFT JOIN " ++
        "SELECT * FROM orders WHERE paid; AS p ON p.id = users.id; WHERE " ++
        "SELECT * FROM orders WHERE paid;;") ∧
      ((totalsStore.call 0 paidEntry (.limit (.int 1))).state.build 2).result =
        .ok ("UPDATE totals SET n = SELECT * FROM users LEFT JOIN " ++
          "SELECT * FROM orders WHERE paid LIMIT 1; AS p ON p.id = users.id; WHERE " ++
          "SELECT * FROM orders WHERE paid LIMIT 1;;") := by
  have hBack : totalsStore.refersBack = true := by decide
  refine ⟨hBack, composes (acyclic_of_refersBack hBack) (closed_of_refersBack hBack) rfl, ?_, ?_⟩
  · rfl
  · rfl

end Store

end SqlCompose
