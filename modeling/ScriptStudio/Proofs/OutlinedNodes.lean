import Mathlib
import ScriptStudio.Program.Printer
import ScriptStudio.Proofs.GrammarSound
import ScriptStudio.Proofs.ScanLines

/-!
# Nodes without a line

The outline of a program is printed by one case for each kind of node. Four kinds have no case:
definitions, returns, calls and questions. They print nothing, and what lies below them is not
visited. So the outline has a line for every node of a program exactly if the program has no node of
the four kinds, and a line for every other node that does not lie below such a node.

* `Node.sections`, `Node.at?`, `Node.chain`: the nodes directly below a node, the node at a place of
  a tree, and the nodes on the way to it.
* `Node.traced`: the lines of the outline, each with the place of the node whose first line it is.
* `Node.mem_traced_iff`: the line of a place.
* `Node.Legible.outline_eq`: the traced lines are the outline.
* `Program.showsEveryNode_iff`: when the outline hides nothing.
-/

namespace ScriptStudio

namespace Node

/-! ## Places in a tree -/

/-- A node that may be left out, with the label in front of it. -/
def present (label : Option String) (node : Node) : List (Option String × Node) :=
  if node.isAbsent then [] else [(label, node)]

/-- The nodes directly below a node, each with the label that the outline has in front of it, if it
has one. -/
def sections : Node → List (Option String × Node)
  | literal _ _ | reference _ | absent | other _ => []
  | binary left _ right => [(some "Left:", left), (some "Right:", right)]
  | unary _ e | group e | input e | say e | assign _ e | define _ _ e => [(none, e)]
  | call _ nodes | block nodes | program nodes => nodes.map (none, ·)
  | give e => present none e
  | branch condition thenBranch elseBranch =>
    [(some "Condition:", condition), (some "Then:", thenBranch)] ++
      present (some "Else:") elseBranch
  | loop condition body => [(some "Condition:", condition), (some "Body:", body)]
  | count _ start stop step body =>
    [(some "Start:", start), (some "End:", stop)] ++ present (some "Step:") step ++
      [(some "Body:", body)]

variable {node : Node}

theorem mem_present {label : Option String} {entry : Option String × Node} :
    entry ∈ present label node ↔ node.isAbsent = false ∧ entry = (label, node) := by
  unfold present
  split <;> simp_all

theorem sizeOf_lt_of_mem_sections {entry : Option String × Node} (h : entry ∈ node.sections) :
    sizeOf entry.2 < sizeOf node := by
  cases node with
  | literal | reference | absent | other => cases h
  | call name nodes | block nodes | program nodes =>
    obtain ⟨child, hchild, rfl⟩ := List.mem_map.mp h
    have hlt := List.sizeOf_lt_of_mem hchild
    simp only [call.sizeOf_spec, block.sizeOf_spec, program.sizeOf_spec]
    omega
  | _ =>
    simp only [sections, mem_present, List.mem_append, List.mem_cons, List.not_mem_nil,
      or_false] at h
    grind

/-- The node at a place of a tree. A place says which way to go at every node. -/
def at? (node : Node) : List Nat → Option Node
  | [] => some node
  | step :: path => (node.sections[step]?).bind fun entry => entry.2.at? path

/-- The nodes on the way to a place, the node there included. -/
def chain (node : Node) : List Nat → List Node
  | [] => [node]
  | step :: path => node :: (node.sections[step]?).elim [] fun entry => entry.2.chain path

/-! ## The lines of every node -/

/-- The kinds of nodes for which the outline has no case. -/
def isUnlisted : Node → Bool
  | input _ | call _ _ | define _ _ _ | give _ => true
  | _ => false

/-- The first line that a node prints, without its indentation. -/
def heading? : Node → Option String
  | literal .number value => value.said.toOption.map ("Number: " ++ ·)
  | literal .string value => value.said.toOption.map ("String: \"" ++ · ++ "\"")
  | literal .boolean value => value.said.toOption.map ("Boolean: " ++ ·)
  | reference name => some ("Variable: " ++ name)
  | binary _ op _ => some ("BinaryOp: '" ++ op.symbol ++ "'")
  | unary op _ => some ("UnaryOp: '" ++ op.symbol ++ "'")
  | group _ => some "Parentheses:"
  | say _ => some "SayStatement:"
  | assign name _ => some ("Assignment: " ++ name ++ " =")
  | block _ => some "Block:"
  | branch _ _ _ => some "IfStatement:"
  | loop _ _ => some "WhileStatement:"
  | count name _ _ _ _ => some ("ForStatement: " ++ name)
  | program _ => some "Program:"
  | input _ | call _ _ | define _ _ _ | give _ | absent | other _ => none

/-- How much deeper a section stands than its node. A label stands between them. -/
def sectionDepth (label : Option String) : Int := if label.isSome then 2 else 1

/-- The line of a label. -/
def labelLine (indent : Int) (label : Option String) : List String :=
  label.toList.map fun text => outlineLine indent ("  " ++ text)

/-- The lines of the outline. The first line of a node has the place of the node, and the lines of
labels have none. -/
def traced (indent : Int) (node : Node) : List (Option (List Nat) × String) :=
  match node.heading? with
  | none => []
  | some heading =>
    (some [], outlineLine indent heading) ::
      node.sections.attach.zipIdx.flatMap fun (⟨entry, _⟩, step) =>
        (labelLine indent entry.1).map (none, ·) ++
          (traced (indent + sectionDepth entry.1) entry.2).map fun line =>
            (line.1.map (step :: ·), line.2)
termination_by sizeOf node
decreasing_by exact sizeOf_lt_of_mem_sections (by assumption)

/-- The lines that a section adds. -/
def tracedSection (indent : Int) (entry : Option String × Node) (step : Nat) :
    List (Option (List Nat) × String) :=
  (labelLine indent entry.1).map (none, ·) ++
    (traced (indent + sectionDepth entry.1) entry.2).map fun line =>
      (line.1.map (step :: ·), line.2)

/-- How much deeper the node at a place stands than the whole tree. -/
def depthAt (node : Node) : List Nat → Int
  | [] => 0
  | step :: path =>
    (node.sections[step]?).elim 0 fun entry => sectionDepth entry.1 + entry.2.depthAt path

section

variable {node parent : Node} {path front : List Nat} {indent : Int} {text : String}

theorem traced_of_none (h : node.heading? = none) (indent : Int) : node.traced indent = [] := by
  rw [traced, h]

theorem traced_of_some {heading : String} (h : node.heading? = some heading) (indent : Int) :
    node.traced indent = (some [], outlineLine indent heading) ::
      node.sections.zipIdx.flatMap fun (entry, step) => tracedSection indent entry step := by
  have hsections : node.sections.zipIdx =
      node.sections.attach.zipIdx.map (Prod.map Subtype.val id) := by
    rw [← List.zipIdx_map, List.attach_map_subtype_val]
  rw [traced, h, hsections, List.flatMap_map]
  rfl

theorem mem_traced_nil :
    (some [], text) ∈ node.traced indent ↔
      ∃ heading, node.heading? = some heading ∧ text = outlineLine indent heading := by
  cases h : node.heading? with
  | none => simp [traced_of_none h]
  | some heading => simp [traced_of_some h, tracedSection]

theorem mem_traced_cons {step : Nat} :
    (some (step :: path), text) ∈ node.traced indent ↔
      node.heading?.isSome = true ∧ ∃ entry, node.sections[step]? = some entry ∧
        (some path, text) ∈ entry.2.traced (indent + sectionDepth entry.1) := by
  have hsection : ∀ entry other, (some (step :: path), text) ∈ tracedSection indent entry other ↔
      other = step ∧ (some path, text) ∈ entry.2.traced (indent + sectionDepth entry.1) := by
    intro entry other
    simp [tracedSection, and_comm]
  cases h : node.heading? with
  | none => simp [traced_of_none h]
  | some heading =>
    simp only [traced_of_some h, List.mem_cons, Prod.mk.injEq, Option.some.injEq, reduceCtorEq,
      false_and, false_or, List.mem_flatMap, Prod.exists, hsection, List.mk_mem_zipIdx_iff_getElem?,
      Option.isSome_some, true_and]
    constructor
    · rintro ⟨label, child, index, hentry, rfl, htext⟩
      exact ⟨label, child, hentry, htext⟩
    · rintro ⟨label, child, hentry, htext⟩
      exact ⟨label, child, step, hentry, rfl, htext⟩

/-- The line of a place is the first line of its node, if all nodes on the way have one. Otherwise
there is none. -/
theorem mem_traced_iff :
    (some path, text) ∈ node.traced indent ↔
      ∃ child heading, node.at? path = some child ∧
        (∀ ancestor ∈ node.chain path, ancestor.heading?.isSome = true) ∧
        child.heading? = some heading ∧
        text = outlineLine (indent + node.depthAt path) heading := by
  induction path generalizing node indent with
  | nil =>
    rw [mem_traced_nil]
    simp only [at?, chain, depthAt, Option.some.injEq, List.mem_singleton, forall_eq, Int.add_zero,
      exists_and_left, exists_eq_left']
    exact ⟨fun ⟨heading, h, htext⟩ => ⟨by simp [h], heading, h, htext⟩, fun h => h.2⟩
  | cons step path ih =>
    rw [mem_traced_cons]
    simp only [ih, at?, chain, depthAt, List.forall_mem_cons]
    constructor
    · rintro ⟨hheaded, entry, hentry, child, heading, hat, hchain, hheading, rfl⟩
      simp only [hentry, Option.bind_some, Option.elim_some, Int.add_assoc]
      exact ⟨child, heading, hat, ⟨hheaded, hchain⟩, hheading, rfl⟩
    · rintro ⟨child, heading, hat, ⟨hheaded, hchain⟩, hheading, rfl⟩
      obtain ⟨entry, hentry, hat⟩ := Option.bind_eq_some_iff.mp hat
      simp only [hentry, Option.elim_some] at hchain ⊢
      exact ⟨hheaded, entry, rfl, child, heading, hat, hchain, hheading, by rw [Int.add_assoc]⟩

theorem mem_chain_of_at? {child : Node} (h : node.at? path = some child) :
    child ∈ node.chain path := by
  induction path generalizing node with
  | nil =>
    obtain rfl := Option.some.inj h
    exact List.mem_singleton_self _
  | cons step path ih =>
    obtain ⟨entry, hentry, hat⟩ := Option.bind_eq_some_iff.mp h
    rw [chain, hentry]
    exact List.mem_cons_of_mem _ (ih hat)

theorem exists_at?_of_mem_chain {ancestor : Node} (h : ancestor ∈ node.chain path) :
    ∃ front, node.at? front = some ancestor := by
  induction path generalizing node with
  | nil => exact ⟨[], congrArg some (List.mem_singleton.mp h).symm⟩
  | cons step path ih =>
    rcases List.mem_cons.mp h with rfl | h
    · exact ⟨[], rfl⟩
    · cases hentry : node.sections[step]? with
      | none =>
        rw [hentry] at h
        cases h
      | some entry =>
        rw [hentry] at h
        obtain ⟨front, hfront⟩ := ih h
        exact ⟨step :: front, by rw [at?, hentry, Option.bind_some, hfront]⟩

theorem at?_append (h : node.at? front = some parent) :
    node.at? (front ++ path) = parent.at? path ∧
      node.depthAt (front ++ path) = node.depthAt front + parent.depthAt path := by
  induction front generalizing node with
  | nil =>
    obtain rfl := Option.some.inj h
    simp [depthAt]
  | cons step front ih =>
    obtain ⟨entry, hentry, hat⟩ := Option.bind_eq_some_iff.mp h
    obtain ⟨hpath, hdepth⟩ := ih hat
    simp only [List.cons_append, at?, depthAt, hentry, Option.bind_some, Option.elim_some, hpath,
      hdepth, Int.add_assoc, and_self]

theorem sectionDepth_pos (label : Option String) : 0 < sectionDepth label := by
  unfold sectionDepth
  split <;> decide

theorem depthAt_nonneg (node : Node) (path : List Nat) : 0 ≤ node.depthAt path := by
  induction path generalizing node with
  | nil => exact le_rfl
  | cons step path ih =>
    rw [depthAt]
    cases node.sections[step]? with
    | none => exact le_rfl
    | some entry => exact Int.add_nonneg (sectionDepth_pos _).le (ih _)

end

/-! ## Indentation -/

/-- How many blanks stand at the front of a line. -/
def indentation (line : String) : Nat := (line.toList.takeWhile (· == ' ')).length

theorem indentation_outlineLine (indent : Int) (text : String) :
    indentation (outlineLine indent text) = (2 * indent).toNat + indentation text := by
  have hblanks : ∀ c ∈ List.replicate (2 * indent).toNat ' ', (c == ' ') = true := by
    intro c hc
    rw [List.eq_of_mem_replicate hc]
    rfl
  rw [indentation, outlineLine, String.toList_append, String.toList_ofList,
    List.takeWhile_append_of_pos hblanks, List.length_append, List.length_replicate]
  rfl

theorem indentation_append {first : String} (h : first.toList.head?.any (· != ' ') = true)
    (second : String) : indentation (first ++ second) = 0 := by
  rw [indentation, String.toList_append]
  cases hfirst : first.toList with
  | nil => simp [hfirst] at h
  | cons c rest =>
    have hc : c ≠ ' ' := by simpa [hfirst] using h
    simp [hc]

theorem indentation_heading {heading : String} (h : node.heading? = some heading) :
    indentation heading = 0 := by
  cases node with
  | literal kind value =>
    cases kind <;> obtain ⟨said, -, rfl⟩ := Option.map_eq_some_iff.mp h
    · exact indentation_append (by decide) _
    · rw [String.append_assoc]
      exact indentation_append (by decide) _
    · exact indentation_append (by decide) _
  | reference | count =>
    obtain rfl := Option.some.inj h
    exact indentation_append (by decide) _
  | binary | unary | assign =>
    obtain rfl := Option.some.inj h
    rw [String.append_assoc]
    exact indentation_append (by decide) _
  | group | say | block | branch | loop | program =>
    obtain rfl := Option.some.inj h
    decide
  | input | call | define | give | absent | other => cases h

theorem indentation_lt_of_mem_traced {front : List Nat} {step depth : Nat} {outer inner : String}
    (houter : (some front, outer) ∈ node.traced depth)
    (hinner : (some (front ++ [step]), inner) ∈ node.traced depth) :
    indentation outer < indentation inner := by
  obtain ⟨parent, heading, hparent, -, hheading, rfl⟩ := mem_traced_iff.mp houter
  obtain ⟨child, heading', hchild, -, hheading', rfl⟩ := mem_traced_iff.mp hinner
  obtain ⟨hat, hdepth⟩ : node.at? (front ++ [step]) = parent.at? [step] ∧ _ := at?_append hparent
  rw [hat] at hchild
  obtain ⟨entry, hentry, -⟩ := Option.bind_eq_some_iff.mp hchild
  have hstep : parent.depthAt [step] = sectionDepth entry.1 := by
    simp [depthAt, hentry]
  have hnonneg := node.depthAt_nonneg front
  have hpos := sectionDepth_pos entry.1
  rw [indentation_outlineLine, indentation_outlineLine, indentation_heading hheading,
    indentation_heading hheading', hdepth, hstep]
  omega

/-! ## Legible trees -/

/-- Every node has a first line that can be written, the unlisted kinds apart. -/
inductive Legible : Node → Prop
  | intro {node : Node} (hheading : node.isUnlisted = false → node.heading?.isSome = true)
    (hbelow : ∀ entry ∈ node.sections, Legible entry.2) : Legible node

theorem Legible.heading?_isSome_iff (h : node.Legible) :
    node.heading?.isSome = true ↔ node.isUnlisted = false := by
  cases h with
  | intro hheading _ =>
    refine ⟨fun hsome => ?_, hheading⟩
    cases node <;> first | rfl | cases hsome

theorem Legible.chain (h : node.Legible) (path : List Nat) :
    ∀ ancestor ∈ node.chain path, ancestor.Legible := by
  induction path generalizing node with
  | nil => simpa [Node.chain] using h
  | cons step path ih =>
    rw [Node.chain, List.forall_mem_cons]
    refine ⟨h, ?_⟩
    cases hentry : node.sections[step]? with
    | none => simp
    | some entry =>
      cases h with
      | intro _ hbelow => exact ih (hbelow entry (List.mem_of_getElem? hentry))

/-- The texts of the traced lines. -/
def texts (indent : Int) (node : Node) : List String := (node.traced indent).map Prod.snd

/-- The texts of a section with its label. -/
def sectionTexts (indent : Int) (entry : Option String × Node) : List String :=
  labelLine indent entry.1 ++ entry.2.texts (indent + sectionDepth entry.1)

theorem texts_of_some {heading : String} (h : node.heading? = some heading) (indent : Int) :
    node.texts indent =
      outlineLine indent heading :: node.sections.flatMap (sectionTexts indent) := by
  have hsection : ∀ entry step,
      (tracedSection indent entry step).map Prod.snd = sectionTexts indent entry := by
    intro entry step
    simp [tracedSection, sectionTexts, texts, Function.comp_def]
  have hzip : node.sections.flatMap (sectionTexts indent) =
      (node.sections.zipIdx.map Prod.fst).flatMap (sectionTexts indent) := by
    rw [List.zipIdx_map_fst]
  rw [texts, traced_of_some h, List.map_cons, List.map_flatMap, hzip, List.flatMap_map]
  simp only [hsection]

theorem outlines_eq {indent : Int} {nodes : List Node}
    (h : ∀ node ∈ nodes, node.outline indent = .ok (node.texts indent)) :
    outlines indent nodes = .ok (nodes.flatMap (texts indent)) := by
  induction nodes with
  | nil => rfl
  | cons node nodes ih =>
    obtain ⟨hnode, hnodes⟩ := List.forall_mem_cons.mp h
    rw [outlines, hnode, ih hnodes]
    rfl

/-- A legible tree is printed, and its outline is the traced lines. -/
theorem Legible.outline_eq (h : node.Legible) (indent : Int) :
    node.outline indent = .ok (node.texts indent) := by
  induction h generalizing indent with
  | @intro node hheading hbelow ih =>
    have htexts : ∀ {heading}, node.heading? = some heading → node.texts indent =
        outlineLine indent heading :: node.sections.flatMap (sectionTexts indent) :=
      fun h => texts_of_some h indent
    cases node with
    | literal kind value =>
      have hsome := hheading rfl
      cases hsaid : value.said with
      | error error => cases kind <;> simp [heading?, hsaid, Except.toOption] at hsome
      | ok said =>
        cases kind <;>
          rw [htexts (by simp only [heading?, hsaid]; rfl), outline, hsaid] <;> rfl
    | reference name =>
      rw [htexts rfl]
      rfl
    | binary left op right | loop left right =>
      have hleft := ih _ (.head _) (indent + 2)
      have hright := ih _ (.tail _ (.head _)) (indent + 2)
      rw [htexts rfl]
      simp [outline, hleft, hright, sections, sectionTexts, labelLine, sectionDepth, bind,
        Except.bind, pure, Except.pure]
    | unary op operand | group inner | say e | assign name e =>
      have hbelow := ih _ (.head _) (indent + 1)
      rw [htexts rfl]
      simp [outline, hbelow, sections, sectionTexts, labelLine, sectionDepth, bind, Except.bind,
        pure, Except.pure]
    | block nodes | program nodes =>
      have hbelow : ∀ child ∈ nodes,
          child.outline (indent + 1) = .ok (child.texts (indent + 1)) :=
        fun child hchild => ih (none, child) (List.mem_map_of_mem hchild) _
      rw [htexts rfl, outline, outlines_eq hbelow, sections, List.flatMap_map]
      rfl
    | branch condition thenBranch elseBranch =>
      have hcondition := ih _ (.head _) (indent + 2)
      have hthen := ih _ (.tail _ (.head _)) (indent + 2)
      have helse : elseBranch.isAbsent = false → _ := fun habsent =>
        ih (some "Else:", elseBranch) (by simp [sections, present, habsent]) (indent + 2)
      rw [htexts rfl]
      cases habsent : elseBranch.isAbsent <;>
        simp_all [outline, sections, present, sectionTexts, labelLine, sectionDepth, bind,
          Except.bind, pure, Except.pure]
    | count name start stop step body =>
      have hstart := ih _ (.head _) (indent + 2)
      have hstop := ih _ (.tail _ (.head _)) (indent + 2)
      have hbody := ih (some "Body:", body) (by simp [sections]) (indent + 2)
      have hstep : step.isAbsent = false → _ := fun habsent =>
        ih (some "Step:", step) (by simp [sections, present, habsent]) (indent + 2)
      rw [htexts rfl]
      cases habsent : step.isAbsent <;>
        simp_all [outline, sections, present, sectionTexts, labelLine, sectionDepth, bind,
          Except.bind, pure, Except.pure]
    | input | call | define | give | absent | other =>
      rw [texts, traced_of_none rfl]
      rfl

theorem Legible.of_list {nodes : List Node}
    (hheading : node.isUnlisted = false → node.heading?.isSome = true)
    (hsections : node.sections = nodes.map (none, ·)) (hnodes : ∀ child ∈ nodes, child.Legible) :
    node.Legible := by
  refine .intro hheading fun entry hentry => ?_
  rw [hsections] at hentry
  obtain ⟨child, hchild, rfl⟩ := List.mem_map.mp hentry
  exact hnodes child hchild

end Node

/-! ## The trees of programs -/

theorem Node.legible_literal {kind : LiteralKind} {value : Value} {token : Token}
    (h : token.Denotes kind value) : (Node.literal kind value).Legible := by
  refine .intro (fun _ => ?_) (by simp [Node.sections])
  unfold Token.Denotes at h
  split at h
  · rfl
  · rfl
  · rfl
  · exact h.elim

mutual

/-- The tree of an expression that tokens spell is legible. -/
theorem Expr.Derives.legible {e : Expr} {bound : Nat} {tokens : List Token}
    (h : e.Derives bound tokens) : e.toNode.Legible := by
  cases h with
  | literal hvalue => exact Node.legible_literal hvalue
  | reference hname => exact .intro (fun _ => rfl) (by simp [Expr.toNode, Node.sections])
  | call hname hopening harguments hclosing =>
    exact .of_list (fun h => by cases h) rfl (Expr.Derives.legible_all harguments)
  | input hword hopening hprompt hclosing =>
    exact .intro (fun h => by cases h) (by simp [Expr.toNode, Node.sections, hprompt.legible])
  | inputBare hword hopening hclosing =>
    have hempty : (Node.literal .string (.text "")).Legible :=
      .intro (fun _ => rfl) (by simp [Node.sections])
    exact .intro (fun h => by cases h) (by simp [Expr.toNode, Node.sections, hempty])
  | group hopening hinner hclosing =>
    exact .intro (fun _ => rfl) (by simp [Expr.toNode, Node.sections, hinner.legible])
  | unary hbound hop hoperand =>
    exact .intro (fun _ => rfl) (by simp [Expr.toNode, Node.sections, hoperand.legible])
  | binary hbound hop hleft hright =>
    exact .intro (fun _ => rfl)
      (by simp [Expr.toNode, Node.sections, hleft.legible, hright.legible])
termination_by sizeOf e

theorem Expr.Derives.legible_all {arguments : List Expr} {tokens : List Token}
    (h : Separated (Expr.Derives loosest) arguments tokens) :
    ∀ node ∈ Expr.toNodes arguments, node.Legible := by
  cases h with
  | nil => simp [Expr.toNodes]
  | one hitem =>
    rw [Expr.toNodes, List.forall_mem_cons]
    exact ⟨hitem.legible, by simp [Expr.toNodes]⟩
  | more hitem hcomma hrest hlater =>
    rw [Expr.toNodes, List.forall_mem_cons]
    exact ⟨hitem.legible, Expr.Derives.legible_all hlater⟩
termination_by sizeOf arguments

end

mutual

/-- The tree of a statement that tokens spell is legible. -/
theorem Stmt.Derives.legible {ending : List Token → Prop} {s : Stmt} {tokens : List Token}
    (h : s.Derives ending tokens) : s.toNode.Legible := by
  cases h with
  | say hword he | assign hword hname hsign he =>
    exact .intro (fun _ => rfl) (by simp [Stmt.toNode, Node.sections, he.legible])
  | give hword =>
    exact .intro (fun h => by cases h)
      (by simp [Stmt.toNode, Expr.optionToNode, Node.sections, Node.present, Node.isAbsent])
  | giveValue hword he =>
    exact .intro (fun h => by cases h)
      (by simp [Stmt.toNode, Expr.optionToNode, Node.sections, Node.mem_present, he.legible])
  | block hopening hbody hclosing =>
    exact .of_list (fun _ => rfl) rfl (Stmt.Derives.legible_all hbody)
  | branch hword hcondition hthen =>
    exact .intro (fun _ => rfl) (by simpa [Stmt.toNode, Stmt.optionToNode, Node.sections,
      Node.present, Node.isAbsent, hcondition.legible] using hthen.legible)
  | branchElse hword hcondition hthen hother helse =>
    refine .intro (fun _ => rfl) ?_
    simp only [Stmt.toNode, Stmt.optionToNode, Node.sections, List.forall_mem_append]
    exact ⟨by simpa [hcondition.legible, Stmt.toNode] using hthen.legible,
      by simp [Node.mem_present, helse.legible]⟩
  | loop hword hcondition hbody =>
    exact .intro (fun _ => rfl)
      (by simpa [Stmt.toNode, Node.sections, hcondition.legible] using hbody.legible)
  | count hword hkas hname hsign hstart hto hstop hbody =>
    exact .intro (fun _ => rfl) (by simpa [Stmt.toNode, Expr.optionToNode, Node.sections,
      Node.present, Node.isAbsent, hstart.legible, hstop.legible] using hbody.legible)
  | countStep hword hkas hname hsign hstart hto hstop hby hstep hbody =>
    refine .intro (fun _ => rfl) ?_
    simp only [Stmt.toNode, Expr.optionToNode, Node.sections, List.forall_mem_append]
    exact ⟨⟨by simp [hstart.legible, hstop.legible], by simp [Node.mem_present, hstep.legible]⟩,
      by simpa [Stmt.toNode] using hbody.legible⟩
  | define hword hname hopening hparameters hclosing hbody =>
    exact .intro (fun h => by cases h)
      (by simpa [Stmt.toNode, Node.sections] using hbody.legible)
termination_by sizeOf s

theorem Stmt.Derives.legible_all {ending : List Token → Prop} {body : List Stmt}
    {tokens : List Token} (h : Items (Stmt.Derives ending) ending body tokens) :
    ∀ node ∈ Stmt.toNodes body, node.Legible := by
  cases h with
  | nil => simp [Stmt.toNodes]
  | cons hitem hends hrest =>
    rw [Stmt.toNodes, List.forall_mem_cons]
    exact ⟨hitem.legible, Stmt.Derives.legible_all hrest⟩
termination_by sizeOf body

end

/-- The tree of a program that is read from a source is legible. -/
theorem Program.legible_of_ofTokens {code : String} {tokens : List Token} {program : Program}
    (htokens : tokenize code = .ok tokens) (hprogram : Program.ofTokens tokens = .ok program) :
    program.toNode.Legible := by
  obtain ⟨-, hbody⟩ := Scan.result_eq_ok_iff.mp htokens
  have hended : Grammar.Ended tokens := hbody ▸ (Grammar.closed_append_singleton _ rfl).ended
  obtain ⟨rest, hitems⟩ := (Program.ofTokens_eq_ok_iff hended.ne_nil).mp hprogram
  obtain ⟨-, taken, -, hderives⟩ := Grammar.derives_of_programItems hended hitems
  exact .of_list (fun _ => rfl) rfl (Stmt.Derives.legible_all hderives)

/-! ## What the outline shows -/

/-- Every node of a tree has a line, deeper than the line of the node around it. -/
def Node.ShowsEveryNode (node : Node) (lines : List (Option (List Nat) × String)) : Prop :=
  ∀ path child, node.at? path = some child → ∃ text, (some path, text) ∈ lines ∧
    ∀ front step other, path = front ++ [step] → (some front, other) ∈ lines →
      indentation other < indentation text

theorem Node.Legible.exists_mem_traced_iff {node child : Node} (h : node.Legible) {path : List Nat}
    (hat : node.at? path = some child) (indent : Int) :
    (∃ text, (some path, text) ∈ node.traced indent) ↔
      ∀ ancestor ∈ node.chain path, ancestor.isUnlisted = false := by
  have hlisted : (∀ ancestor ∈ node.chain path, ancestor.heading?.isSome = true) ↔
      ∀ ancestor ∈ node.chain path, ancestor.isUnlisted = false :=
    forall₂_congr fun ancestor hmem => (h.chain path ancestor hmem).heading?_isSome_iff
  simp only [mem_traced_iff, ← hlisted]
  constructor
  · rintro ⟨_, _, _, _, hchain, _⟩
    exact hchain
  · intro hchain
    obtain ⟨heading, hheading⟩ :=
      Option.isSome_iff_exists.mp (hchain child (mem_chain_of_at? hat))
    exact ⟨_, child, heading, hat, hchain, hheading, rfl⟩

/-- What the outline of a program hides. A program that is read from a source is printed at every
depth. Every node has a line, deeper than the line of the node around it, exactly if the program has
no definition, return, call or question. In general the nodes without a line are those of the four
kinds and all that lies below them. -/
theorem Program.showsEveryNode_iff {code : String} {tokens : List Token} {program : Program}
    (htokens : tokenize code = .ok tokens) (hprogram : Program.ofTokens tokens = .ok program)
    (depth : Nat) :
    program.outline depth = .ok ((program.toNode.traced depth).map Prod.snd) ∧
      (program.toNode.ShowsEveryNode (program.toNode.traced depth) ↔
        ∀ path node, program.toNode.at? path = some node → node.isUnlisted = false) ∧
      ∀ path node, program.toNode.at? path = some node →
        ((∃ text, (some path, text) ∈ program.toNode.traced depth) ↔
          ∀ ancestor ∈ program.toNode.chain path, ancestor.isUnlisted = false) := by
  have hlegible := Program.legible_of_ofTokens htokens hprogram
  refine ⟨hlegible.outline_eq depth,
    ⟨fun hshows path node hat => ?_, fun hlisted path node hat => ?_⟩,
    fun path node hat => hlegible.exists_mem_traced_iff hat depth⟩
  · obtain ⟨text, htext, -⟩ := hshows path node hat
    have hlisted := (hlegible.exists_mem_traced_iff hat depth).mp ⟨text, htext⟩
    exact hlisted node (Node.mem_chain_of_at? hat)
  · obtain ⟨text, htext⟩ := (hlegible.exists_mem_traced_iff hat depth).mpr fun ancestor hmem => by
      obtain ⟨front, hfront⟩ := Node.exists_at?_of_mem_chain hmem
      exact hlisted front ancestor hfront
    refine ⟨text, htext, ?_⟩
    rintro front step other rfl hother
    exact Node.indentation_lt_of_mem_traced hother htext

/-- A sum of a call and a variable. -/
def callInSum : String := "say f(x) + y"

/-- What the source reads as. -/
def callInSumRead : Program where
  statements := [.say (.binary (.call "f" [.reference "x"]) .plus (.reference "y"))]

/-- The tokens of the source. -/
def callInSumTokens : List Token :=
  [⟨.sayKw, "say", ⟨1, 1⟩⟩, ⟨.identifier, "f", ⟨1, 5⟩⟩, ⟨.leftParen, "(", ⟨1, 6⟩⟩,
    ⟨.identifier, "x", ⟨1, 7⟩⟩, ⟨.rightParen, ")", ⟨1, 8⟩⟩, ⟨.plus, "+", ⟨1, 10⟩⟩,
    ⟨.identifier, "y", ⟨1, 12⟩⟩, ⟨.endOfFile, "", ⟨1, 13⟩⟩]

set_option maxRecDepth 4000 in
theorem tokenize_callInSum : tokenize callInSum = .ok callInSumTokens := by
  cbv

theorem ofTokens_callInSum : Program.ofTokens callInSumTokens = .ok callInSumRead := rfl

/-- The call has no line, and neither has its argument. -/
theorem Program.not_showsEveryNode_callInSum :
    tokenize callInSum = .ok callInSumTokens ∧
      Program.ofTokens callInSumTokens = .ok callInSumRead ∧
      callInSumRead.outline 0 = .ok ["Program:", "  SayStatement:", "    BinaryOp: '+'",
        "      Left:", "      Right:", "        Variable: y"] ∧
      ¬callInSumRead.toNode.ShowsEveryNode (callInSumRead.toNode.traced 0) := by
  refine ⟨tokenize_callInSum, ofTokens_callInSum, rfl, fun hshows => ?_⟩
  obtain ⟨text, htext, -⟩ := hshows [0, 0, 0] (.call "f" [.reference "x"]) rfl
  obtain ⟨_, _, -, hchain, -⟩ := Node.mem_traced_iff.mp htext
  exact absurd (hchain _ (Node.mem_chain_of_at? rfl)) (by decide)

/-- The variable behind the call has a line, and the argument of the call has none. -/
theorem Program.showsEveryNode_iff_callInSum :
    (∃ text, (some [0, 0, 1], text) ∈ callInSumRead.toNode.traced (0 : Nat)) ∧
      ¬∃ text, (some [0, 0, 0, 0], text) ∈ callInSumRead.toNode.traced (0 : Nat) := by
  obtain ⟨-, -, hshown⟩ := Program.showsEveryNode_iff tokenize_callInSum ofTokens_callInSum 0
  constructor
  · refine (hshown [0, 0, 1] (.reference "y") rfl).mpr ?_
    simp [Program.toNode, callInSumRead, Stmt.toNodes, Stmt.toNode, Expr.toNode, Node.chain,
      Node.sections, Node.isUnlisted]
  · intro hline
    have hlisted := (hshown [0, 0, 0, 0] (.reference "x") rfl).mp hline
    exact absurd (hlisted (.call "f" [.reference "x"]) (.tail _ (.tail _ (.tail _ (.head _)))))
      (by decide)

end ScriptStudio
