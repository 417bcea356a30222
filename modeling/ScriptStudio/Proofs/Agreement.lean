import ScriptStudio.Proofs.Simulation

/-!
# Machines that agree on names

A program sees of the variables only those that it or its functions name. Two machines that agree on
these, and in all but the variables, run it alike and agree again afterwards.

* `Bindings.get?_set_self`, `Bindings.get?_set_of_ne`: what a binding changes.
* `Agree`, `respects_agree`: agreement on the names that are seen is kept by every run.
-/

namespace ScriptStudio

namespace Bindings

variable {α : Type}

@[simp]
theorem get?_set_self (bindings : Bindings α) (name : String) (value : α) :
    (bindings.set name value).get? name = some value := by
  show (setEntry name value bindings.entries).lookup name = some value
  induction bindings.entries with
  | nil => simp [setEntry]
  | cons entry rest ih =>
    obtain ⟨key, bound⟩ := entry
    rw [setEntry]
    split
    · simp
    · rename_i hother
      have hkey : (name == key) = false := beq_eq_false_iff_ne.mpr (Ne.symm hother)
      rw [List.lookup_cons, hkey]
      exact ih

theorem get?_set_of_ne {name other : String} (h : other ≠ name) (bindings : Bindings α)
    (value : α) : (bindings.set name value).get? other = bindings.get? other := by
  show (setEntry name value bindings.entries).lookup other = bindings.entries.lookup other
  have hname : (other == name) = false := beq_eq_false_iff_ne.mpr h
  induction bindings.entries with
  | nil =>
    rw [setEntry, List.lookup_cons, hname]
  | cons entry rest ih =>
    obtain ⟨key, bound⟩ := entry
    rw [setEntry]
    split
    · rename_i hsame
      obtain rfl : key = name := hsame
      rw [List.lookup_cons, List.lookup_cons, hname]
    · rw [List.lookup_cons, List.lookup_cons, ih]

/-- Binding the same name keeps an agreement on names. -/
theorem get?_set_congr {bindings others : Bindings α} {name : String}
    (h : others.get? name = bindings.get? name) (bound : String) (value : α) :
    (others.set bound value).get? name = (bindings.set bound value).get? name := by
  by_cases hbound : name = bound
  · subst hbound
    rw [get?_set_self, get?_set_self]
  · rw [get?_set_of_ne hbound, get?_set_of_ne hbound, h]

end Bindings

namespace Machine

/-- The functions that may be called keep to the vocabulary. -/
def Knows (vocabulary : Vocabulary) (machine : Machine) : Prop :=
  ∀ name function, vocabulary.mayCall name → machine.functions.get? name = some function →
    function.Within vocabulary

theorem Knows.define {machine : Machine} (hknows : machine.Knows vocabulary) {function : Function}
    (hfunction : function.Within vocabulary) :
    { machine with functions := machine.functions.set function.name function }.Knows
      vocabulary := by
  intro name found hname hfound
  by_cases hself : name = function.name
  · subst hself
    rw [Bindings.get?_set_self] at hfound
    cases hfound
    exact hfunction
  · rw [Bindings.get?_set_of_ne hself] at hfound
    exact hknows name found hname hfound

/-- Two machines differ in variables only, and in none that is seen. -/
def Agree (vocabulary : Vocabulary) (seen : String → Prop) (machine other : Machine) : Prop :=
  machine.Knows vocabulary ∧ ∃ store : Bindings Value, other = { machine with store := store } ∧
    ∀ name, seen name → store.get? name = machine.store.get? name

variable {vocabulary : Vocabulary} {seen : String → Prop}

theorem Agree.modify {change : Machine → Machine}
    (hstore : ∀ machine, (change machine).store = machine.store)
    (hfunctions : ∀ machine, (change machine).functions = machine.functions)
    (hchange : ∀ machine store, change { machine with store := store } =
      { change machine with store := store }) :
    Keeps (Agree vocabulary seen) (modify change) := by
  refine Matches.modify ?_
  rintro machine _ ⟨hknows, store, rfl, hsame⟩
  refine ⟨?_, store, hchange machine store, ?_⟩
  · intro name function hname hfound
    rw [hfunctions] at hfound
    exact hknows name function hname hfound
  · intro name hname
    rw [hstore]
    exact hsame name hname

theorem Agree.print (text : String) : Keeps (Agree vocabulary seen) (print text) :=
  Agree.modify (fun _ => rfl) (fun _ => rfl) fun _ _ => rfl

theorem Agree.ask (prompt : String) : Keeps (Agree vocabulary seen) (ask prompt) := by
  refine Keeps.ask ?_ Agree.print (fun _ => ?_) (fun _ _ => ?_) prompt
  · rintro machine _ ⟨-, store, rfl, -⟩
    rfl
  · exact Agree.modify (fun _ => rfl) (fun _ => rfl) fun _ _ => rfl
  · exact Agree.modify (fun _ => rfl) (fun _ => rfl) fun _ _ => rfl

theorem Agree.lookup {name : String} (hname : seen name) :
    Keeps (Agree vocabulary seen) (lookup name) := by
  refine Keeps.lookup ?_
  rintro machine _ ⟨-, store, rfl, hsame⟩
  exact hsame name hname

/-- Agreement is kept by all that a program can do whose names are seen. -/
theorem respects_agree (hseen : ∀ name, vocabulary.mayName name → seen name) :
    Respects vocabulary (Agree vocabulary seen) where
  keeps_lookup name hname := Agree.lookup (hseen name hname)
  keeps_assign name value _ := by
    refine Matches.modify ?_
    rintro machine _ ⟨hknows, store, rfl, hsame⟩
    exact ⟨hknows, store.set name value, rfl, fun other hother =>
      Bindings.get?_set_congr (hsame other hother) name value⟩
  same_function name hname := by
    rintro machine _ ⟨hknows, store, rfl, -⟩
    exact ⟨rfl, fun function hfound => hknows name function hname hfound⟩
  keeps_define function hfunction := by
    refine Matches.modify ?_
    rintro machine _ ⟨hknows, store, rfl, hsame⟩
    exact ⟨hknows.define hfunction, store, rfl, hsame⟩
  keeps_say line := ((Agree.print line).bind fun _ => Agree.print "\n").bind fun _ =>
    Agree.modify (fun _ => rfl) (fun _ => rfl) fun _ _ => rfl
  keeps_ask _ := Agree.ask
  same_marks := by
    rintro machine _ ⟨-, store, rfl, -⟩
    exact ⟨rfl, rfl⟩
  keeps_mark returning returned := by
    rintro machine _ ⟨hknows, store, rfl, hsame⟩
    exact ⟨hknows, store, rfl, hsame⟩
  keeps_restore := by
    rintro machine _ before _ ⟨-, saved, rfl, hsaved⟩ ⟨hknows, store, rfl, -⟩
    exact ⟨hknows, saved, rfl, hsaved⟩

end Machine

end ScriptStudio
