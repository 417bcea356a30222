import ScriptStudio.Proofs.Agreement
import ScriptStudio.Proofs.RunInPieces

/-!
# Variables that nobody names

Variables live in one list, which a call copies and puts back. A variable that neither the program
nor a stored function names passes through all of this untouched and unseen: two machines that
differ in its binding run the program alike, differ in nothing else afterwards, and each of them
still has the binding it had.

* `Vocabulary.without`: programs that do not name a variable.
* `Bindings.others`: the bindings of all other names, in their order.
* `DifferAt`: machines that differ at most in the binding of one name.
* `ApartAt`, `respects_apartAt`: the relation that a run keeps.
-/

namespace ScriptStudio

/-- Everything may be named but one variable. -/
def Vocabulary.without (name : String) : Vocabulary := ⟨(· ≠ name), fun _ => True, True⟩

namespace Bindings

variable {α : Type}

/-- The bindings of all names but one, in their order. -/
def others (name : String) (bindings : Bindings α) : List (String × α) :=
  bindings.entries.filter (·.1 ≠ name)

variable {name : String}

theorem filter_setEntry_of_ne {bound : String} (h : bound ≠ name) (value : α)
    (entries : List (String × α)) :
    (setEntry bound value entries).filter (·.1 ≠ name) =
      setEntry bound value (entries.filter (·.1 ≠ name)) := by
  induction entries with
  | nil => simp [setEntry, h]
  | cons entry rest ih =>
    by_cases hbound : entry.1 = bound
    · simp [setEntry, hbound, h]
    · by_cases hentry : entry.1 = name
      · simpa [setEntry, hbound, hentry, Ne.symm h] using ih
      · simpa [setEntry, hbound, hentry] using ih

/-- A binding of some other name takes place among the others. -/
theorem others_set_of_ne {bound : String} (h : bound ≠ name) (bindings : Bindings α) (value : α) :
    (bindings.set bound value).others name = setEntry bound value (bindings.others name) :=
  filter_setEntry_of_ne h value bindings.entries

theorem get?_eq_lookup_others {other : String} (h : other ≠ name) (bindings : Bindings α) :
    bindings.get? other = (bindings.others name).lookup other := by
  show bindings.entries.lookup other = (bindings.entries.filter (·.1 ≠ name)).lookup other
  induction bindings.entries with
  | nil => rfl
  | cons entry rest ih =>
    obtain ⟨key, bound⟩ := entry
    by_cases hkey : key = name
    · have hother : (other == key) = false := beq_eq_false_iff_ne.mpr (hkey ▸ h)
      rw [List.filter_cons_of_neg (by simpa using hkey), List.lookup_cons, hother]
      exact ih
    · rw [List.filter_cons_of_pos (by simpa using hkey), List.lookup_cons, List.lookup_cons, ih]

end Bindings

namespace Machine

/-- The machines differ at most in whether a name is bound, to what, and where in the order. -/
def DifferAt (name : String) (machine other : Machine) : Prop :=
  ∃ store : Bindings Value, other = { machine with store := store } ∧
    store.others name = machine.store.others name

/-- The machines differ at most in the binding of a name, which each of them has as given, and no
function names it. -/
structure ApartAt (name : String) (bound bound' : Option Value) (machine other : Machine) :
    Prop where
  knows : machine.Knows (.without name)
  differ : DifferAt name machine other
  first : machine.store.get? name = bound
  second : other.store.get? name = bound'

namespace ApartAt

variable {name : String} {bound bound' : Option Value}

theorem modify {change : Machine → Machine}
    (hstore : ∀ machine, (change machine).store = machine.store)
    (hfunctions : ∀ machine, (change machine).functions = machine.functions)
    (hchange : ∀ machine store, change { machine with store := store } =
      { change machine with store := store }) :
    Keeps (ApartAt name bound bound') (modify change) := by
  refine Matches.modify ?_
  rintro machine _ ⟨hknows, ⟨store, rfl, hothers⟩, hfirst, hsecond⟩
  refine ⟨?_, ⟨store, hchange machine store, ?_⟩, ?_, ?_⟩
  · intro called function hcalled hfound
    rw [hfunctions] at hfound
    exact hknows called function hcalled hfound
  · rw [hstore]
    exact hothers
  · rw [hstore]
    exact hfirst
  · rw [hstore]
    exact hsecond

theorem print (text : String) : Keeps (ApartAt name bound bound') (print text) :=
  modify (fun _ => rfl) (fun _ => rfl) fun _ _ => rfl

theorem ask (prompt : String) : Keeps (ApartAt name bound bound') (ask prompt) := by
  refine Keeps.ask ?_ print (fun _ => ?_) (fun _ _ => ?_) prompt
  · rintro machine _ ⟨-, ⟨store, rfl, -⟩, -, -⟩
    rfl
  · exact modify (fun _ => rfl) (fun _ => rfl) fun _ _ => rfl
  · exact modify (fun _ => rfl) (fun _ => rfl) fun _ _ => rfl

end ApartAt

/-- The relation is kept by all that a program can do which does not name the variable. -/
theorem respects_apartAt (name : String) (bound bound' : Option Value) :
    Respects (.without name) (ApartAt name bound bound') where
  keeps_lookup seen hseen := by
    refine Keeps.lookup ?_
    rintro machine _ ⟨-, ⟨store, rfl, hothers⟩, -, -⟩
    show store.get? seen = machine.store.get? seen
    rw [Bindings.get?_eq_lookup_others hseen, Bindings.get?_eq_lookup_others hseen, hothers]
  keeps_assign assigned value hassigned := by
    refine Matches.modify ?_
    rintro machine _ ⟨hknows, ⟨store, rfl, hothers⟩, hfirst, hsecond⟩
    refine ⟨hknows, ⟨store.set assigned value, rfl, ?_⟩, ?_, ?_⟩
    · show (store.set assigned value).others name = (machine.store.set assigned value).others name
      rw [Bindings.others_set_of_ne hassigned, Bindings.others_set_of_ne hassigned, hothers]
    · exact (Bindings.get?_set_of_ne (Ne.symm hassigned) _ _).trans hfirst
    · exact (Bindings.get?_set_of_ne (Ne.symm hassigned) _ _).trans hsecond
  same_function called hcalled := by
    rintro machine _ ⟨hknows, ⟨store, rfl, -⟩, -, -⟩
    exact ⟨rfl, fun function hfound => hknows called function hcalled hfound⟩
  keeps_define function hfunction := by
    refine Matches.modify ?_
    rintro machine _ ⟨hknows, ⟨store, rfl, hothers⟩, hfirst, hsecond⟩
    exact ⟨hknows.define hfunction, ⟨store, rfl, hothers⟩, hfirst, hsecond⟩
  keeps_say line := ((ApartAt.print line).bind fun _ => ApartAt.print "\n").bind fun _ =>
    ApartAt.modify (fun _ => rfl) (fun _ => rfl) fun _ _ => rfl
  keeps_ask _ := ApartAt.ask
  same_marks := by
    rintro machine _ ⟨-, ⟨store, rfl, -⟩, -, -⟩
    exact ⟨rfl, rfl⟩
  keeps_mark returning returned := by
    rintro machine _ ⟨hknows, ⟨store, rfl, hothers⟩, hfirst, hsecond⟩
    exact ⟨hknows, ⟨store, rfl, hothers⟩, hfirst, hsecond⟩
  keeps_restore := by
    -- The copy that is put back was taken from machines that were related in their turn.
    rintro machine _ before _ ⟨-, ⟨saved, rfl, hsaved⟩, hfirst, hsecond⟩
      ⟨hknows, ⟨store, rfl, -⟩, -, -⟩
    exact ⟨hknows, ⟨saved, rfl, hsaved⟩, hfirst, hsecond⟩

/-- A variable that neither the program nor a stored function names has no influence on a run and
is not influenced by it. From machines that differ in its binding only, the run says, prints, asks
and reads the same and ends in the same way; the machines it leaves differ in that binding only, and
each has it as it was. -/
theorem interpret_alike_of_unnamed {name : String} {program : Program} {machine other : Machine}
    (hprogram : Stmt.AllWithin (.without name) program.statements)
    (hknows : machine.Knows (.without name)) (hdiffer : DifferAt name machine other) (fuel : Nat) :
    Alike (fun after after' => DifferAt name after after' ∧
        after.store.get? name = machine.store.get? name ∧
        after'.store.get? name = other.store.get? name)
      (interpret fuel program machine) (interpret fuel program other) := by
  have hapart : ApartAt name (machine.store.get? name) (other.store.get? name)
      { machine with record := #[] } { other with record := #[] } := by
    obtain ⟨store, rfl, hothers⟩ := hdiffer
    exact ⟨hknows, ⟨store, rfl, hothers⟩, rfl, rfl⟩
  have hruns := (respects_apartAt name _ _).keeps_execReported fuel hprogram hapart
  refine (Alike.interpret ?_ hruns).mono ?_
  · rintro after _ ⟨-, ⟨store, rfl, -⟩, -, -⟩
    rfl
  · intro after after' h
    exact ⟨h.differ, h.first, h.second⟩

/-- A function with a parameter, a counter and a loop, which rebinds a variable of its caller. -/
def looping : Machine :=
  { store := ⟨[("a", .text "one"), ("b", .text "two")]⟩
    functions := ⟨[("f", ⟨"f", ["p"], .block
      [.count "i" (.literal .number (.int 0)) (.literal .number (.int 1)) none
          (.block [.assign "b" (.reference "p")]),
        .say (.reference "b"), .give (some (.reference "p"))]⟩)]⟩ }

/-- The machine with one more variable between the two that it has. -/
def loopingBeside : Machine :=
  { looping with store := ⟨[("a", .text "one"), ("x", .bool true), ("b", .text "two")]⟩ }

/-- Calls the function and names a variable that is not there. -/
def callingLoop : Program :=
  ⟨[.assign "c" (.call "f" [.reference "a"]), .say (.reference "missing")]⟩

/-- The variable is bound on one side only. The runs say the same and end with the same fault, and
it is bound on that side only afterwards. -/
theorem interpret_looping_beside :
    ∃ after after',
      interpret 20 callingLoop looping =
        .ok ["one", faultLine (.undefinedVariable "missing")] after ∧
      interpret 20 callingLoop loopingBeside =
        .ok ["one", faultLine (.undefinedVariable "missing")] after' ∧
      DifferAt "x" after after' ∧ after.store.get? "x" = none ∧
      after'.store.get? "x" = some (.bool true) := by
  have hprogram : Stmt.AllWithin (.without "x") callingLoop.statements := by
    simp [callingLoop, Stmt.AllWithin, Stmt.Within, Expr.Within, Expr.AllWithin,
      Vocabulary.without]
  have hknows : looping.Knows (.without "x") := by
    intro name function _ hfound
    obtain ⟨before, later, hentries, -⟩ := List.lookup_eq_some_iff.mp hfound
    have hmem : (name, function) ∈ looping.functions.entries := by simp [hentries]
    obtain ⟨-, rfl⟩ := Prod.mk.inj (List.mem_singleton.mp hmem)
    simp [Function.Within, Stmt.AllWithin, Stmt.Within, Expr.Within, Expr.OptionWithin,
      Vocabulary.without]
  have hdiffer : DifferAt "x" looping loopingBeside := ⟨_, rfl, rfl⟩
  have hrun : ∃ after, interpret 20 callingLoop looping =
      .ok ["one", faultLine (.undefinedVariable "missing")] after := ⟨_, rfl⟩
  obtain ⟨after, hrun⟩ := hrun
  have halike := interpret_alike_of_unnamed hprogram hknows hdiffer 20
  rw [hrun] at halike
  generalize hended : interpret 20 callingLoop loopingBeside = ended at halike
  cases halike with
  | ok _ hafter => exact ⟨after, _, hrun, rfl, hafter⟩

end Machine

end ScriptStudio
