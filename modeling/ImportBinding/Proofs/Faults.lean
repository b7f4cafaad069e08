/-
This file says which of the faults in a tree is told.

The walk for a fault goes down to the first child with a mark and never turns back. When the marks
are right, that is when a node has one exactly if it is a fault or has a child with one, there is a
fault below every mark and none below the children that the walk leaves out. So the walk arrives,
and it arrives at the first fault in the order of the tree.
-/

import ImportBinding.Proofs.Offsets

namespace ImportBinding

/-! ### Marks -/

/-- A node that is a fault: a stretch that fits nowhere, or something that the text lacks. -/
def Label.IsFault (label : Label) : Prop := label.kind = text "ERROR" ∨ label.isMissing = true

instance : DecidablePred Label.IsFault := fun _ => inferInstanceAs (Decidable (_ ∨ _))

namespace Tree

/-- The marks in a tree are right: a node has one exactly when it is a fault or has a child with
one. -/
def MarksFaults (tree : Tree) : Prop :=
  ∀ sub ∈ tree.subtrees, sub.label.hasFault = true ↔
    sub.label.IsFault ∨ ∃ child ∈ sub.children, child.label.hasFault = true

instance : DecidablePred MarksFaults := fun _ => List.decidableBAll _ _

theorem MarksFaults.of_mem_children {tree child : Tree} (marks : tree.MarksFaults)
    (member : child ∈ tree.children) : child.MarksFaults :=
  fun _ below => marks _ (mem_subtrees_of_mem_children member below)

/-- The first fault of a tree in its order. -/
def leading? (tree : Tree) : Option Tree := tree.subtrees.find? fun sub => sub.label.IsFault

theorem leading?_node_of_isFault {label : Label} (children : List Tree) (fault : label.IsFault) :
    (node label children).leading? = some (node label children) := by
  rw [leading?, subtrees_node]
  exact List.find?_cons_of_pos (decide_eq_true fault)

theorem leading?_node_of_not_isFault {label : Label} (children : List Tree)
    (sound : ¬ label.IsFault) : (node label children).leading? = children.findSome? leading? := by
  rw [leading?, subtrees_node, List.find?_cons_of_neg, List.find?_flatMap]
  · rfl
  · exact fun fault => sound (of_decide_eq_true fault)

/-- A tree has a mark exactly when there is a fault in it. -/
theorem MarksFaults.hasFault_iff {tree : Tree} (marks : tree.MarksFaults) :
    tree.label.hasFault = true ↔ tree.leading?.isSome = true := by
  induction tree using inductionOn with
  | node label children inductionHypothesis =>
    have below (child : Tree) (member : child ∈ children) :
        child.label.hasFault = true ↔ child.leading?.isSome = true :=
      inductionHypothesis child member (marks.of_mem_children member)
    rw [marks _ (mem_subtrees_self _)]
    by_cases fault : label.IsFault
    · rw [leading?_node_of_isFault children fault]
      exact iff_of_true (Or.inl fault) rfl
    · rw [leading?_node_of_not_isFault children fault, List.findSome?_isSome_iff]
      constructor
      · intro found
        obtain ⟨child, member, marked⟩ := found.resolve_left fault
        exact ⟨child, member, (below child member).mp marked⟩
      · rintro ⟨child, member, found⟩
        exact Or.inr ⟨child, member, (below child member).mpr found⟩

/-! ### The walk -/

/-- Among trees with right marks, those without a mark may as well be asked. -/
theorem firstFaultAmong?_eq {children : List Tree}
    (arrives : ∀ child ∈ children, child.firstFault? = child.leading?.map label)
    (marked : ∀ child ∈ children, child.label.hasFault = true ↔ child.leading?.isSome = true) :
    firstFaultAmong? children = (children.findSome? leading?).map label := by
  induction children with
  | nil => rfl
  | cons child later inductionHypothesis =>
    obtain ⟨arrives, arrivesLater⟩ := List.forall_mem_cons.mp arrives
    obtain ⟨marked, markedLater⟩ := List.forall_mem_cons.mp marked
    rw [firstFaultAmong?, List.findSome?_cons]
    cases found : child.leading? with
    | none =>
      -- The search finds nothing in the child, and the walk does not ask it.
      rw [found] at marked
      rw [if_neg (fun mark => Bool.false_ne_true (marked.mp mark))]
      exact inductionHypothesis arrivesLater markedLater
    | some first =>
      rw [found] at marked arrives
      rw [if_pos (marked.mpr rfl), arrives]

/-- With right marks the walk arrives at the first fault of a tree, if there is one. -/
theorem MarksFaults.firstFault?_eq {tree : Tree} (marks : tree.MarksFaults) :
    tree.firstFault? = tree.leading?.map label := by
  induction tree using inductionOn with
  | node label children inductionHypothesis =>
    rw [firstFault?]
    by_cases fault : label.IsFault
    · rw [leading?_node_of_isFault children fault]
      exact if_pos fault
    · rw [leading?_node_of_not_isFault children fault]
      refine (if_neg fault).trans
        (firstFaultAmong?_eq (fun child member => ?_) fun child member => ?_)
      · exact inductionHypothesis child member (marks.of_mem_children member)
      · exact (marks.of_mem_children member).hasFault_iff

/-! ### What is told of a fault -/

/-- What a fault tells of a node: its position is the number of code points in front of the node,
and the message says that the node is missing, or what stands there instead. -/
structure Tells (content : Text) (label : Label) (fault : SyntaxFault) : Prop where
  inside : fault.position ≤ content.length
  front : (Text.utf8 (content.take fault.position)).length = label.startByte
  missing : label.isMissing = true →
    fault.message = text "Missing " ++ label.kind.quoted ++
      SyntaxFault.place (label.row + 1) label.column
  unexpected : label.isMissing = false → ∃ stretch : Text,
    stretch.utf8 = (content.utf8.drop label.startByte).take (label.stopByte - label.startByte) ∧
      fault.message = text "Unexpected token " ++ stretch.trim.quoted ++
        SyntaxFault.place (label.row + 1) label.column

/-- The message starts with the word for something that is missing when the node is missing. -/
theorem Tells.missing_prefix_iff {content : Text} {label : Label} {fault : SyntaxFault}
    (tells : Tells content label fault) :
    text "Missing " <+: fault.message ↔ label.isMissing = true := by
  cases missing : label.isMissing with
  | true =>
    rw [tells.missing missing, List.append_assoc]
    exact iff_of_true (List.prefix_append _ _) rfl
  | false =>
    obtain ⟨stretch, -, message⟩ := tells.unexpected missing
    refine iff_of_false ?_ Bool.false_ne_true
    rintro ⟨rest, same⟩
    rw [message] at same
    cases same

/-- What is told of a node is not that the text stops too early. -/
theorem Tells.ne_endOfInput {content : Text} {label : Label} {fault : SyntaxFault}
    (tells : Tells content label fault) (position : Nat) : fault ≠ .endOfInput position := by
  rintro rfl
  cases missing : label.isMissing with
  | true => cases tells.missing missing
  | false =>
    obtain ⟨stretch, -, message⟩ := tells.unexpected missing
    cases message

/-- A node that is a fault and covers a stretch of the text is told. -/
theorem exists_fault_of_firstFault? {content : Text} {tree : Tree} {label : Label}
    (first : tree.firstFault? = some label) (lies : label.LiesOn content) :
    ∃ fault, tree.fault content = .ok fault ∧ Tells content label fault := by
  obtain ⟨before, stretch, after, covers⟩ := lies
  have inside : before.length ≤ content.length := by
    rw [covers.whole]
    exact (List.prefix_append _ _).length_le
  have front : (Text.utf8 (content.take before.length)).length = label.startByte := by
    rw [covers.whole, List.take_left, covers.start]
  rw [fault, first]
  simp only [covers.offsetAt_start, ok_bind]
  cases missing : label.isMissing with
  | true =>
    refine ⟨.missing label.kind (label.row + 1) label.column before.length, rfl, inside, front,
      fun _ => rfl, fun present => ?_⟩
    rw [missing] at present
    cases present
  | false =>
    simp only [covers.textBetween_eq, ok_bind, Bool.false_eq_true, if_false]
    refine ⟨.unexpected stretch (label.row + 1) label.column before.length, rfl, inside, front,
      fun absent => ?_, fun _ => ⟨stretch, covers.utf8_stretch, rfl⟩⟩
    rw [missing] at absent
    cases absent

/-- When the marks of a tree are right and its nodes cover stretches of the text, a mark at its root
means that the first fault in the order of the tree is told, and nothing else. -/
theorem fault_eq_first {content : Text} {tree : Tree} (marks : tree.MarksFaults)
    (lies : ∀ sub ∈ tree.subtrees, sub.label.LiesOn content)
    (faulty : tree.label.hasFault = true) :
    ∃ earlier first later fault, tree.subtrees = earlier ++ first :: later ∧
      (∀ sub ∈ earlier, ¬ sub.label.IsFault) ∧ first.label.IsFault ∧
        tree.fault content = .ok fault ∧ tree.node? content = .error (.illFormed fault) ∧
          Tells content first.label fault ∧
            (text "Missing " <+: fault.message ↔ first.label.isMissing = true) ∧
              ∀ position, fault ≠ .endOfInput position := by
  obtain ⟨first, found⟩ := Option.isSome_iff_exists.mp (marks.hasFault_iff.mp faulty)
  obtain ⟨isFault, earlier, later, order, sound⟩ := List.find?_eq_some_iff_append.mp found
  have arrives : tree.firstFault? = some first.label := by
    rw [marks.firstFault?_eq, found]
    rfl
  have member : first ∈ tree.subtrees := by
    rw [order]
    exact List.mem_append_right earlier List.mem_cons_self
  obtain ⟨fault, made, tells⟩ := exists_fault_of_firstFault? arrives (lies first member)
  refine ⟨earlier, first, later, fault, order, fun sub before => ?_, of_decide_eq_true isFault,
    made, ?_, tells, tells.missing_prefix_iff, tells.ne_endOfInput⟩
  · simpa using sound sub before
  · rw [node?, if_pos faulty, made]
    rfl

/-- The tree of a text in which a brace is missing, with another fault behind it. -/
def unclosed : Tree :=
  .node ⟨text "program", 0, 26, 0, 0, true, true, false, none⟩
    [.node ⟨text "expression_statement", 0, 3, 0, 0, true, false, false, none⟩
      [.node ⟨text "identifier", 0, 2, 0, 0, true, false, false, none⟩ []],
      .node ⟨importKind, 4, 24, 1, 0, true, true, false, none⟩
        [.node ⟨text "import_clause", 11, 14, 1, 7, true, true, false, none⟩
          [.node ⟨text "named_imports", 11, 14, 1, 7, true, true, false, none⟩
            [.node ⟨text "import_specifier", 13, 14, 1, 9, true, false, false, none⟩
              [.node ⟨text "identifier", 13, 14, 1, 9, true, false, false, some (text "name")⟩ []],
              .node ⟨text "\x7d", 14, 14, 1, 10, false, true, true, none⟩ []]],
          .node ⟨text "string", 20, 23, 1, 16, true, false, false, some (text "source")⟩ []],
      .node ⟨text "ERROR", 25, 26, 2, 0, true, true, false, none⟩ []]

/-- Of two faults the first one is told. -/
theorem fault_eq_first_unclosed :
    ∃ fault, unclosed.node? (text "é;\nimport \x7b x from 'a';\n\x7d") =
        .error (.illFormed fault) ∧
      fault = .missing (text "\x7d") 2 10 13 ∧ fault.message = text "Missing '\x7d' (2:10)" := by
  have marks : unclosed.MarksFaults := by decide
  have lies : ∀ sub ∈ unclosed.subtrees,
      sub.label.LiesOn (text "é;\nimport \x7b x from 'a';\n\x7d") := by decide
  obtain ⟨earlier, first, later, fault, -, -, -, made, refused, -⟩ := fault_eq_first marks lies rfl
  have read : unclosed.fault (text "é;\nimport \x7b x from 'a';\n\x7d") =
      .ok (.missing (text "\x7d") 2 10 13) := by with_unfolding_all rfl
  obtain rfl := Except.ok.inj (made.symm.trans read)
  exact ⟨_, refused, rfl, by with_unfolding_all rfl⟩

end Tree

end ImportBinding
