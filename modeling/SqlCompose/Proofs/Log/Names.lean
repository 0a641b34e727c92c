import Mathlib.Data.List.Chain
import SqlCompose.Log.Name

/-!
# SqlCompose — which names are above a name

Every name is brought into the namespace, but that does not yet put its logger
below the root there. Above a name are the parts of it that end before a dot, as
far as they are names of loggers; and the way there is not the same for all sets
of loggers, since a part that is no logger may take a dot with it. That is so
only where two dots stand side by side. So it depends on the name what is known:

* `LoggerName.above_eq_filter`: if no two dots stand side by side, the loggers
  above a name are its parts, without those that are no loggers;
* `LoggerName.mem_above_of_isInside`: if no dot follows the one behind the
  namespace, the root of the namespace is above a name or has this name itself,
  whatever other loggers there are.
-/

namespace SqlCompose

namespace LoggerName

/-- A name below the namespace begins with the name of the namespace and a dot. -/
theorem toList_loggerBelow (name : String) :
    (loggerBelow name).toList = (loggerBelow "").toList ++ name.toList := by
  simp [loggerBelow]

/-- Different names are different below the namespace. -/
theorem loggerBelow_inj {a b : String} : loggerBelow a = loggerBelow b ↔ a = b := by
  rw [← String.toList_inj, toList_loggerBelow a, toList_loggerBelow b, List.append_cancel_left_eq,
    String.toList_inj]

/-- A name continues that of the namespace exactly if it is one below the namespace. -/
theorem isBelow_iff {name : String} : isBelow name = true ↔ ∃ rest, name = loggerBelow rest := by
  rw [isBelow, List.isPrefixOf_iff_prefix]
  constructor
  · rintro ⟨rest, hRest⟩
    refine ⟨String.ofList rest, ?_⟩
    rw [← String.toList_inj, toList_loggerBelow, String.toList_ofList, hRest]
  · rintro ⟨rest, rfl⟩
    exact ⟨rest.toList, (toList_loggerBelow rest).symm⟩

/-! ## Inside the namespace -/

variable {name : String}

/-- A name is in the namespace: it is the name of the namespace, or continues it behind a dot. -/
def IsInside (name : String) : Prop := name = namespaceName ∨ ∃ rest, name = loggerBelow rest

/-- Which names are kept is which names are in the namespace. -/
theorem isInside_iff : IsInside name ↔ name = namespaceName ∨ isBelow name = true := by
  rw [IsInside, isBelow_iff]

instance (name : String) : Decidable (IsInside name) := decidable_of_iff _ isInside_iff.symm

theorem isInside_loggerBelow (name : String) : IsInside (loggerBelow name) := .inr ⟨name, rfl⟩

/-- A name in the namespace is kept. -/
theorem qualify_of_isInside (h : IsInside name) : qualify name = name := by
  rw [qualify, if_pos (isInside_iff.mp h)]

/-- Every other name is put below the namespace. -/
theorem qualify_of_not_isInside (h : ¬ IsInside name) : qualify name = loggerBelow name := by
  rw [qualify, if_neg fun hInside => h (isInside_iff.mpr hInside)]

/-- Every name is brought into the namespace. -/
theorem isInside_qualify (name : String) : IsInside (qualify name) := by
  by_cases h : IsInside name
  · rw [qualify_of_isInside h]
    exact h
  · rw [qualify_of_not_isInside h]
    exact isInside_loggerBelow name

/-- A full name is its own full name. -/
theorem qualify_qualify (name : String) : qualify (qualify name) = qualify name :=
  qualify_of_isInside (isInside_qualify name)

/-! ## Parts of a name -/

variable {known : String → Bool}

/-- No part ends before a character that is no dot. -/
theorem above_plain {c : Char} (h : c ≠ '.') (cs : List Char) :
    above known (c :: cs) = above known cs := by
  rw [above]
  intro _ _ hDot
  exact absurd hDot h

/-- One of two characters is no dot. -/
def Apart (a b : Char) : Prop := a ≠ '.' ∨ b ≠ '.'

instance : DecidableRel Apart := fun a b => inferInstanceAs (Decidable (a ≠ '.' ∨ b ≠ '.'))

/-- No two dots stand side by side in a name. -/
def DotsApart (full : String) : Prop := full.toList.IsChain Apart

instance (full : String) : Decidable (DotsApart full) :=
  inferInstanceAs (Decidable (full.toList.IsChain Apart))

theorem DotsApart.reverse {full : String} (h : DotsApart full) :
    full.toList.reverse.IsChain Apart :=
  List.isChain_reverse.mpr (List.IsChain.imp (fun _ _ => Or.symm) h)

/-- **Where no two dots stand side by side, the loggers above a name are its parts**, without those
that are no loggers. -/
theorem above_eq_filter (known : String → Bool) :
    ∀ {cs : List Char}, cs.IsChain Apart →
      above known cs = (above (fun _ => true) cs).filter known
  | [], _ => rfl
  | c :: cs, h => by
    have ih := above_eq_filter known h.of_cons
    by_cases hDot : c = '.'
    · subst hDot
      cases cs with
      | nil => rfl
      | cons d rest =>
        have hPlain : d ≠ '.' := h.rel.resolve_left (not_not_intro rfl)
        rw [above, above, if_pos rfl, List.filter_cons, ← ih]
        -- no dot is lost behind a part that is no logger
        rw [above_plain hPlain rest]
    · rw [above_plain hDot, above_plain hDot, ih]

/-! ## The root of the namespace -/

/-- A dot follows the dot behind the namespace. -/
def hasDotInFront (full : String) : Bool := (loggerBelow ".").toList.isPrefixOf full.toList

/-- Below the namespace it is the first character that counts. -/
theorem hasDotInFront_loggerBelow (name : String) :
    hasDotInFront (loggerBelow name) = true ↔ name.toList.head? = some '.' := by
  rw [hasDotInFront, List.isPrefixOf_iff_prefix, toList_loggerBelow, toList_loggerBelow name,
    List.prefix_append_right_inj]
  cases name.toList with
  | nil => simp
  | cons c cs => simp [eq_comm]

/-- The library's own loggers are in the namespace, and have no dot in front. -/
theorem own_isInside : ∀ name ∈ own, IsInside name ∧ hasDotInFront name = false := by decide

/-- The root is found behind any characters that do not end in a dot of their own. -/
theorem mem_above (hKnown : known namespaceName = true) :
    ∀ last : List Char, last.getLast? ≠ some '.' →
      namespaceName ∈ above known (last ++ '.' :: namespaceName.toList.reverse)
  | [], _ => by
    show namespaceName ∈ if known namespaceName = true then namespaceName :: _ else _
    rw [if_pos hKnown]
    exact List.mem_cons_self ..
  | [c], h => by
    have hPlain : c ≠ '.' := fun hDot => h (congrArg some hDot)
    rw [List.cons_append, above_plain hPlain]
    exact mem_above hKnown [] (by simp)
  | c :: d :: rest, h => by
    have hLonger : (d :: rest).getLast? ≠ some '.' := by rwa [List.getLast?_cons_cons] at h
    have hRest : rest.getLast? ≠ some '.' := by
      cases rest with
      | nil => simp
      | cons e rest => rwa [List.getLast?_cons_cons] at hLonger
    have hInLonger := mem_above hKnown (d :: rest) hLonger
    by_cases hDot : c = '.'
    · -- after a logger its own name is searched, after another part what is left of it
      subst hDot
      rw [List.cons_append, List.cons_append, above]
      split
      · exact List.mem_cons_of_mem _ hInLonger
      · exact mem_above hKnown rest hRest
    · rw [List.cons_append, above_plain hDot]
      exact hInLonger

/-- The root is above what is below the namespace, unless that begins with a dot. -/
theorem mem_above_loggerBelow (hKnown : known namespaceName = true) {name : String}
    (h : hasDotInFront (loggerBelow name) = false) :
    namespaceName ∈ above known (loggerBelow name).toList.reverse := by
  have hHead : name.toList.reverse.getLast? ≠ some '.' := by
    rw [List.getLast?_reverse]
    intro hDot
    rw [(hasDotInFront_loggerBelow name).mpr hDot] at h
    exact Bool.noConfusion h
  have hReversed : (loggerBelow name).toList.reverse =
      name.toList.reverse ++ '.' :: namespaceName.toList.reverse := by
    rw [toList_loggerBelow, List.reverse_append]
    rfl
  rw [hReversed]
  exact mem_above hKnown _ hHead

/-- What is below the namespace does not have its name. -/
theorem loggerBelow_ne_namespaceName (name : String) : loggerBelow name ≠ namespaceName := by
  intro hSame
  have hLength := congrArg String.length hSame
  rw [loggerBelow, String.length_append, String.length_append] at hLength
  have hDot : ".".length = 1 := rfl
  omega

/-- **The root of the namespace is above every full name in which no dot follows the one behind the
namespace**, or it is the root's own name. -/
theorem mem_above_of_isInside (hKnown : known namespaceName = true) {full : String}
    (hInside : IsInside full) (h : hasDotInFront full = false) :
    namespaceName ∈ full :: above known full.toList.reverse := by
  rcases hInside with rfl | ⟨name, rfl⟩
  · exact List.mem_cons_self ..
  · exact List.mem_cons_of_mem _ (mem_above_loggerBelow hKnown h)

end LoggerName

end SqlCompose
