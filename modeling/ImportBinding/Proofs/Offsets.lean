/-
This file relates the places of a text in bytes to its places in code points.

A byte lies on a boundary when some front of the text takes up the bytes before it, and its offset
is then the length of that front. No code point is without bytes, so offsets grow where bytes do. A
node of a tree that covers a stretch of the text has the extent of that stretch, and its text.
-/

import ImportBinding.Proofs.Outcomes
import ImportBinding.Tree

namespace ImportBinding

/-! ### Boundaries -/

theorem CodePoint.length_utf8_pos (point : CodePoint) : 0 < point.utf8.length := by
  simp only [utf8]
  split
  · exact Nat.zero_lt_succ _
  · split
    · exact Nat.zero_lt_succ _
    · split <;> exact Nat.zero_lt_succ _

namespace Text

theorem utf8_cons (point : CodePoint) (rest : Text) :
    utf8 (point :: rest) = point.utf8 ++ utf8 rest := List.flatMap_cons

theorem utf8_append (front back : Text) : utf8 (front ++ back) = utf8 front ++ utf8 back :=
  List.flatMap_append

/-- Only the empty text takes up no bytes. -/
theorem utf8_eq_nil_iff {content : Text} : utf8 content = [] ↔ content = [] := by
  cases content with
  | nil => exact iff_of_true rfl rfl
  | cons point rest =>
    refine iff_of_false (fun none => ?_) (List.cons_ne_nil point rest)
    rw [utf8_cons] at none
    have positive := point.length_utf8_pos
    rw [(List.append_eq_nil_iff.mp none).1] at positive
    cases positive

theorem utf8_length_le {front content : Text} (first : front <+: content) :
    (utf8 front).length ≤ (utf8 content).length := by
  obtain ⟨back, rfl⟩ := first
  rw [utf8_append, List.length_append]
  exact Nat.le_add_right _ _

/-- Of two fronts of a text the one with no more bytes is a front of the other. -/
theorem prefix_of_utf8_le {front frontToo content : Text} (first : front <+: content)
    (second : frontToo <+: content) (le : (utf8 front).length ≤ (utf8 frontToo).length) :
    front <+: frontToo := by
  rcases List.prefix_or_prefix_of_prefix first second with shorter | ⟨between, rfl⟩
  · exact shorter
  · rw [utf8_append, List.length_append] at le
    have none : (utf8 between).length = 0 := by omega
    obtain rfl := utf8_eq_nil_iff.mp (List.length_eq_zero_iff.mp none)
    exact ⟨[], by rw [List.append_nil, List.append_nil]⟩

/-- A byte of a text at which a code point starts, or at which the text ends. -/
def IsBoundary (content : Text) (byte : Nat) : Prop :=
  ∃ front back, content = front ++ back ∧ byte = (utf8 front).length

theorem isBoundary_iff {content : Text} {byte : Nat} :
    content.IsBoundary byte ↔
      ∃ count ≤ content.length, byte = (utf8 (content.take count)).length := by
  constructor
  · rintro ⟨front, back, rfl, ends⟩
    refine ⟨front.length, ?_, ?_⟩
    · rw [List.length_append]
      exact Nat.le_add_right _ _
    · rw [List.take_left, ends]
  · rintro ⟨count, -, ends⟩
    exact ⟨content.take count, content.drop count, (List.take_append_drop _ _).symm, ends⟩

instance (content : Text) : DecidablePred content.IsBoundary :=
  fun _ => decidable_of_iff _ isBoundary_iff.symm

theorem offsetOfByte?_cons {point : CodePoint} {rest : Text} {byte : Nat}
    (behind : point.utf8.length ≤ byte) :
    offsetOfByte? (point :: rest) byte =
      (offsetOfByte? rest (byte - point.utf8.length)).map (· + 1) := by
  have positive := point.length_utf8_pos
  cases byte with
  | zero => omega
  | succ byte =>
    rw [offsetOfByte?, if_pos behind]
    exact Nat.succ_ne_zero byte

/-- The offset of a boundary is the number of code points in front of it. -/
theorem offsetOfByte?_append (front back : Text) :
    offsetOfByte? (front ++ back) (utf8 front).length = some front.length := by
  induction front with
  | nil => cases back <;> rfl
  | cons point front inductionHypothesis =>
    rw [List.cons_append, utf8_cons, List.length_append,
      offsetOfByte?_cons (Nat.le_add_right _ _), Nat.add_sub_cancel_left, inductionHypothesis]
    rfl

end Text

theorem offsetAt_append (front back : Text) :
    offsetAt (front ++ back) front.utf8.length = .ok front.length := by
  rw [offsetAt, Text.offsetOfByte?_append]

/-- Of two fronts of a text the one with fewer bytes has fewer code points. -/
theorem length_lt_of_utf8_lt {front frontToo content : Text} (first : front <+: content)
    (second : frontToo <+: content) (less : front.utf8.length < frontToo.utf8.length) :
    front.length < frontToo.length := by
  refine Nat.lt_of_not_le fun long => absurd less (Nat.not_lt.mpr ?_)
  exact Text.utf8_length_le (List.prefix_of_prefix_length_le second first long)

/-- On boundaries the offset in code points grows with the offset in bytes. -/
theorem offsetAt_lt_offsetAt {content : Text} {byte byteToo : Nat}
    (boundary : content.IsBoundary byte) (boundaryToo : content.IsBoundary byteToo)
    (less : byte < byteToo) : ∃ offset offsetToo,
      offsetAt content byte = .ok offset ∧ offsetAt content byteToo = .ok offsetToo ∧
        offset < offsetToo := by
  obtain ⟨front, back, whole, rfl⟩ := boundary
  obtain ⟨frontToo, backToo, wholeToo, rfl⟩ := boundaryToo
  refine ⟨front.length, frontToo.length, ?_, ?_,
    length_lt_of_utf8_lt ⟨back, whole.symm⟩ ⟨backToo, wholeToo.symm⟩ less⟩
  · rw [whole, offsetAt_append]
  · rw [wholeToo, offsetAt_append]

/-! ### Stretches -/

/-- A node covers a stretch of a text when it starts behind the bytes in front of the stretch and
stops behind the bytes of the stretch. -/
structure Label.Covers (content before stretch after : Text) (label : Label) : Prop where
  whole : content = before ++ (stretch ++ after)
  start : label.startByte = before.utf8.length
  stop : label.stopByte = (before ++ stretch).utf8.length

/-- The bytes of a node are those of a stretch of a text. -/
def Label.LiesOn (content : Text) (label : Label) : Prop :=
  ∃ before stretch after, label.Covers content before stretch after

namespace Label.Covers

variable {content before stretch after : Text} {label : Label}
  (covers : label.Covers content before stretch after)

include covers

theorem offsetAt_start : offsetAt content label.startByte = .ok before.length := by
  rw [covers.start, covers.whole, offsetAt_append]

theorem offsetAt_stop : offsetAt content label.stopByte = .ok (before ++ stretch).length := by
  rw [covers.stop, covers.whole, ← List.append_assoc, offsetAt_append]

/-- The bytes of a node are the bytes of the code points that it covers. -/
theorem utf8_stretch :
    stretch.utf8 = (content.utf8.drop label.startByte).take (label.stopByte - label.startByte) := by
  rw [covers.start, covers.stop, covers.whole, Text.utf8_append, Text.utf8_append,
    Text.utf8_append, List.length_append, Nat.add_sub_cancel_left, List.drop_left, List.take_left]

theorem slice_eq : content.slice before.length (before ++ stretch).length = stretch := by
  rw [Text.slice, covers.whole, ← List.append_assoc, List.take_left, List.drop_left]

theorem startByte_le : label.startByte ≤ label.stopByte := by
  rw [covers.start, covers.stop]
  exact Text.utf8_length_le (List.prefix_append before stretch)

theorem length_le : (before ++ stretch).length ≤ content.length := by
  rw [covers.whole, ← List.append_assoc]
  exact (List.prefix_append _ _).length_le

theorem textBetween_eq : textBetween content label.startByte label.stopByte = .ok stretch := by
  rw [textBetween]
  split
  · rename_i empty
    have none : stretch.utf8.length = 0 := by
      rw [covers.start, covers.stop, Text.utf8_append, List.length_append] at empty
      omega
    rw [Text.utf8_eq_nil_iff.mp (List.length_eq_zero_iff.mp none)]
  · have first : content.offsetOfByte? label.startByte = some before.length := by
      rw [covers.start, covers.whole, Text.offsetOfByte?_append]
    rw [first, covers.offsetAt_stop]
    exact congrArg Except.ok covers.slice_eq

end Label.Covers

/-- The bytes of a node are those of a stretch when both ends are boundaries. -/
theorem Label.liesOn_iff {content : Text} {label : Label} :
    label.LiesOn content ↔ content.IsBoundary label.startByte ∧
      content.IsBoundary label.stopByte ∧ label.startByte ≤ label.stopByte := by
  constructor
  · rintro ⟨before, stretch, after, covers⟩
    refine ⟨⟨before, stretch ++ after, covers.whole, covers.start⟩,
      ⟨before ++ stretch, after, ?_, covers.stop⟩, covers.startByte_le⟩
    rw [covers.whole, List.append_assoc]
  · rintro ⟨⟨before, back, whole, start⟩, ⟨front, after, wholeToo, stop⟩, ordered⟩
    rw [start, stop] at ordered
    obtain ⟨stretch, rfl⟩ :=
      Text.prefix_of_utf8_le ⟨back, whole.symm⟩ ⟨after, wholeToo.symm⟩ ordered
    exact ⟨before, stretch, after, by rw [wholeToo, List.append_assoc], start, stop⟩

instance (content : Text) : DecidablePred (Label.LiesOn content) :=
  fun _ => decidable_of_iff _ Label.liesOn_iff.symm

/-! ### Trees -/

namespace Tree

/-- What holds of a tree when it holds of its children holds of every tree. -/
@[elab_as_elim]
theorem inductionOn {fits : Tree → Prop} (tree : Tree)
    (node : ∀ label children, (∀ child ∈ children, fits child) → fits (.node label children)) :
    fits tree :=
  @Tree.rec fits (fun children => ∀ child ∈ children, fits child) node (List.forall_mem_nil _)
    (fun _ _ first later => List.forall_mem_cons.mpr ⟨first, later⟩) tree

mutual

/-- A tree and all trees below it, each before those below it, and these in the order of the
children. -/
def subtrees : Tree → List Tree
  | node label children => node label children :: subtreesAmong children

/-- Trees and all trees below them. -/
def subtreesAmong : List Tree → List Tree
  | [] => []
  | child :: later => child.subtrees ++ subtreesAmong later

end

theorem subtreesAmong_eq (children : List Tree) :
    subtreesAmong children = children.flatMap subtrees := by
  induction children with
  | nil => rfl
  | cons child later inductionHypothesis =>
    rw [subtreesAmong, inductionHypothesis, List.flatMap_cons]

theorem subtrees_node (label : Label) (children : List Tree) :
    (node label children).subtrees = node label children :: children.flatMap subtrees := by
  rw [subtrees, subtreesAmong_eq]

theorem mem_subtrees_self (tree : Tree) : tree ∈ tree.subtrees := by
  cases tree with
  | node label children => exact List.mem_cons_self

/-- What is below a child is below the tree. -/
theorem mem_subtrees_of_mem_children {tree child sub : Tree} (member : child ∈ tree.children)
    (below : sub ∈ child.subtrees) : sub ∈ tree.subtrees := by
  obtain ⟨label, children⟩ := tree
  rw [subtrees_node]
  exact List.mem_cons_of_mem _ (List.mem_flatMap.mpr ⟨child, member, below⟩)

section Stretch

variable {content before stretch after : Text} {tree : Tree}
  (covers : tree.label.Covers content before stretch after)

include covers

theorem written_of_covers : tree.written content = .ok stretch := covers.textBetween_eq

theorem extent_of_covers :
    tree.extent content = .ok (before.length, (before ++ stretch).length) := by
  rw [extent, covers.offsetAt_start, covers.offsetAt_stop]
  rfl

end Stretch

end Tree

end ImportBinding
