import SqlCompose.Proofs.Log.Names
import SqlCompose.Proofs.Log.Unfinished

/-!
# SqlCompose — which names stand for one logger

A logger is found by its full name, but asked for by any name. Names that are
brought to the same full name stand for one logger: what is set through one of
them is in force for the others. How many of them there are is not plain from the
rule, which keeps a name in the namespace and puts every other one below it: what
is put below may meet what is kept. It does so in one way only. A name outside of
the namespace meets the name that it becomes, and nothing else. Nothing but the
name of the namespace is brought to it, so that no other name gets at the level
that a configuration sets.

Main results:

* `LoggerName.qualify_eq_qualify_iff` — the names that are brought to one full
  name.
* `Session.rankUnder_performAll` — the level of the logger under a name, after
  any calls.
* `Session.loggers_kept_apart` — every name is brought into the namespace, and
  names stand for one logger only where they have to.
-/

namespace SqlCompose

namespace LoggerName

variable {name : String}

/-! ## Names that meet -/

/-- The second name is outside of the namespace, and becomes the first one there. -/
def IsFullFor (full name : String) : Prop := ¬ IsInside name ∧ full = loggerBelow name

/-- What a name becomes is in the namespace. -/
theorem IsFullFor.isInside {full : String} (h : IsFullFor full name) : IsInside full :=
  .inr ⟨name, h.2⟩

/-- A name in the namespace meets itself, and what becomes it. -/
theorem qualify_eq_qualify_iff_of_isInside {a : String} (ha : IsInside a) (b : String) :
    qualify a = qualify b ↔ a = b ∨ IsFullFor a b := by
  rw [qualify_of_isInside ha]
  by_cases hb : IsInside b
  · rw [qualify_of_isInside hb, or_iff_left fun h : IsFullFor a b => h.1 hb]
  · have hOther : a ≠ b := by
      rintro rfl
      exact hb ha
    rw [qualify_of_not_isInside hb, or_iff_right hOther]
    exact ⟨fun h => ⟨hb, h⟩, fun h => h.2⟩

/-- **The names that are brought to one full name**: a name outside of the namespace and the one
that it becomes, and no others. -/
theorem qualify_eq_qualify_iff (a b : String) :
    qualify a = qualify b ↔ a = b ∨ IsFullFor a b ∨ IsFullFor b a := by
  by_cases ha : IsInside a
  · rw [qualify_eq_qualify_iff_of_isInside ha, or_iff_left fun h : IsFullFor b a => h.1 ha]
  · rw [or_iff_right fun h : IsFullFor a b => ha h.isInside]
    by_cases hb : IsInside b
    · rw [eq_comm, qualify_eq_qualify_iff_of_isInside hb, @eq_comm _ b a]
    · -- both are put below the namespace, behind the same characters
      rw [qualify_of_not_isInside ha, qualify_of_not_isInside hb, loggerBelow_inj,
        or_iff_left fun h : IsFullFor b a => hb h.isInside]

/-- Nothing but the name of the namespace is brought to it. -/
theorem qualify_eq_namespaceName_iff : qualify name = namespaceName ↔ name = namespaceName := by
  by_cases h : IsInside name
  · rw [qualify_of_isInside h]
  · rw [qualify_of_not_isInside h]
    refine iff_of_false (loggerBelow_ne_namespaceName name) ?_
    rintro rfl
    exact h (.inl rfl)

/-- The empty name, and one that merely begins with the letters of the namespace, are outside. -/
example : ¬ IsInside "" ∧ ¬ IsInside "fluentsqlx" ∧ qualify "" = qualify "fluentsql." := by decide

/-- Of all values that may be handed in as a name, nothing and the name of the namespace alone stand
for the root. -/
theorem ofValue_eq_root_iff (v : Value) :
    ofValue v = ofValue .null ↔ v = .null ∨ v = .text namespaceName := by
  cases v with
  | null => exact iff_of_true rfl (.inl rfl)
  | text name => simp [ofValue, qualify_eq_namespaceName_iff]
  | join kind => simp [ofValue, loggerBelow_ne_namespaceName]
  | order direction => simp [ofValue, loggerBelow_ne_namespaceName]
  | _ => simp [ofValue]

end LoggerName

/-! ## Levels under names -/

namespace Hub

/-- A configuration gives a level to the root of the namespace and to no other logger, also where it
breaks off behind that. -/
theorem rankOf_configure (hub : Hub) (settings : Configuration) (name : String) :
    (hub.configure settings).1.rankOf name =
      if name = namespaceName then (configuredRank settings.level).toOption.getD (hub.rankOf name)
      else hub.rankOf name := by
  rw [configure, configureWith]
  cases configuredRank settings.level with
  | error fault => exact (ite_self _).symm
  | ok rank =>
    cases fileOf settings.file with
    | error fault => exact hub.rankOf_setRank namespaceName name rank
    | ok file =>
      simp only [addAllSinks_eq]
      exact hub.rankOf_setRank namespaceName name rank

end Hub

/-- The level that a call gives to the logger under a name, if it gives it one. -/
def LogCall.rankUnder? (name : String) : LogCall → Option Int
  | .configure settings =>
    if name = namespaceName then (Hub.configuredRank settings.level).toOption else none
  | .setLevel given level =>
    if (LoggerName.ofValue given).toOption = some (LoggerName.qualify name) then
      (Hub.rankOfValue level).toOption
    else none
  | .log .. => none

namespace Session

/-- The level that the logger under a name has itself; zero stands for none. -/
def rankUnder (session : Session) (name : String) : Int :=
  session.hub.rankOf (LoggerName.qualify name)

/-- Asking for a logger gives no level to any. -/
@[simp] theorem rankUnder_register (session : Session) (full name : String) :
    (session.register full).rankUnder name = session.rankUnder name :=
  session.hub.rankOf_register full (LoggerName.qualify name)

/-- A logger has the level that it is given, under whichever of its names, and no other logger gets
it. -/
theorem rankUnder_setLevel (session : Session) (given level : Value) (name : String) :
    (session.setLevel given level).1.rankUnder name =
      ((LogCall.setLevel given level).rankUnder? name).getD (session.rankUnder name) := by
  rw [setLevel, LogCall.rankUnder?]
  cases LoggerName.ofValue given with
  | error fault => rfl
  | ok full =>
    cases Hub.rankOfValue level with
    | error fault => simp [Except.toOption]
    | ok rank =>
      refine ((session.register full).hub.rankOf_setRank full (LoggerName.qualify name) rank).trans
        ?_
      by_cases hFull : full = LoggerName.qualify name
      · rw [if_pos hFull.symm, hFull]
        simp [Except.toOption]
      · rw [if_neg fun h => hFull h.symm]
        refine (session.rankUnder_register full name).trans ?_
        simp [Except.toOption, hFull]

/-- Nor does reporting a message, whatever a logger decides on its level. -/
theorem rankUnder_log (session : Session) (given level message : Value)
    (fields : List (Value × Value)) (name : String) :
    (session.log given level message fields).1.rankUnder name = session.rankUnder name := by
  rw [log]
  split
  · rfl
  · rename_i full _
    obtain ⟨verdicts, hDecide⟩ := (session.register full).hub.exists_decideOn full level
    refine Eq.trans ?_ (session.rankUnder_register full name)
    dsimp only
    rw [hDecide]
    rfl

/-- After one more call the logger under a name has the level that the call has given to it, or the
level that it had. -/
theorem rankUnder_perform (session : Session) (call : LogCall) (name : String) :
    (session.perform call).1.rankUnder name =
      (call.rankUnder? name).getD (session.rankUnder name) := by
  cases call with
  | configure settings =>
    refine (session.hub.rankOf_configure settings (LoggerName.qualify name)).trans ?_
    -- the root is found under its own name only
    rw [LogCall.rankUnder?]
    simp only [LoggerName.qualify_eq_namespaceName_iff]
    split <;> rfl
  | setLevel given level => exact session.rankUnder_setLevel given level name
  | log given level message fields =>
    exact session.rankUnder_log (.text given) level message fields name

/-- After calls the logger under a name has the level that the latest of them has given to it. -/
theorem rankUnder_performAll (session : Session) (calls : List LogCall) (name : String) :
    (session.performAll calls).rankUnder name =
      (calls.reverse.findSome? (LogCall.rankUnder? name)).getD (session.rankUnder name) := by
  induction calls using List.reverseRecOn with
  | nil => rfl
  | append_singleton calls call ih =>
    rw [performAll_concat, rankUnder_perform, ih, LogCall.findSome?_reverse_concat]
    cases call.rankUnder? name <;> rfl

/-- **Loggers are kept apart.** Every name is brought into the namespace, and what it is brought to
stands for the same logger. Two names stand for one logger exactly if they are equal, or one of them
is outside of the namespace and the other is what it becomes. Nothing but the name of the namespace
stands for the root. So after any calls a logger has the level that was given to it last, under
whichever of its names, and the level of a configuration is given to the root alone. -/
theorem loggers_kept_apart :
    (∀ name, ∃ full, LoggerName.ofValue (.text name) = .ok full ∧ LoggerName.IsInside full ∧
      LoggerName.ofValue (.text full) = .ok full) ∧
    (∀ a b, LoggerName.ofValue (.text a) = LoggerName.ofValue (.text b) ↔
      a = b ∨ LoggerName.IsFullFor a b ∨ LoggerName.IsFullFor b a) ∧
    (∀ v, LoggerName.ofValue v = LoggerName.ofValue .null ↔
      v = .null ∨ v = .text namespaceName) ∧
    ∀ (session : Session) calls name, (session.performAll calls).rankUnder name =
      (calls.reverse.findSome? (LogCall.rankUnder? name)).getD (session.rankUnder name) := by
  refine ⟨fun name => ?_, fun a b => ?_, LoggerName.ofValue_eq_root_iff, rankUnder_performAll⟩
  · exact ⟨LoggerName.qualify name, rfl, LoggerName.isInside_qualify name,
      congrArg Except.ok (LoggerName.qualify_qualify name)⟩
  · rw [← LoggerName.qualify_eq_qualify_iff]
    exact ⟨Except.ok.inj, congrArg Except.ok⟩

end Session

end SqlCompose
