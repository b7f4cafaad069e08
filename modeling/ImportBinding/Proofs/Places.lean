/-
This file compares the position of a fault with the line and the column in its message.

The position counts the code points in front of the fault. The message gives the line, and counts
the bytes in front of the fault on that line. So the line is right, and the column is right exactly
when the line has only code points of one byte up to there.
-/

import ImportBinding.Proofs.Faults
import Mathlib.Data.List.DropRight

namespace ImportBinding

/-! ### The last mark -/

/-- Whole lines are nothing at all, or end in the mark that ends a line. -/
def AreWhole {Entry : Type} (mark : Entry) (lines : List Entry) : Prop :=
  lines = [] ∨ ∃ front, lines = front ++ [mark]

theorem areWhole_concat {Entry : Type} (mark : Entry) (front : List Entry) :
    AreWhole mark (front ++ [mark]) := Or.inr ⟨front, rfl⟩

section Marked

variable {Entry : Type} [DecidableEq Entry] {mark : Entry}

/-- What has no mark is all there is behind the whole lines in front of it. -/
theorem AreWhole.rtakeWhile_append {lines line : List Entry} (whole : AreWhole mark lines)
    (inside : mark ∉ line) : (lines ++ line).rtakeWhile (fun entry => entry ≠ mark) = line := by
  have nothing : lines.reverse.takeWhile (fun entry => entry ≠ mark) = [] := by
    rcases whole with rfl | ⟨front, rfl⟩
    · rfl
    · rw [List.reverse_concat, List.takeWhile_cons_of_neg]
      simp
  have all : ∀ entry ∈ line.reverse, decide (entry ≠ mark) = true := fun entry member =>
    decide_eq_true fun same => inside (same ▸ List.mem_reverse.mp member)
  rw [List.rtakeWhile, List.reverse_append, List.takeWhile_append_of_pos all, nothing,
    List.append_nil, List.reverse_reverse]

/-- Everything is whole lines and behind them a line without a mark. -/
theorem exists_lines (mark : Entry) (all : List Entry) :
    ∃ lines line, all = lines ++ line ∧ AreWhole mark lines ∧ mark ∉ line := by
  refine ⟨all.rdropWhile fun entry => entry ≠ mark, all.rtakeWhile fun entry => entry ≠ mark,
    List.rdropWhile_append_rtakeWhile.symm, ?_, fun member => ?_⟩
  · by_cases none : (all.rdropWhile fun entry => entry ≠ mark) = []
    · exact Or.inl none
    · have ends := List.rdropWhile_last_not (fun entry => decide (entry ≠ mark)) all none
      refine Or.inr ⟨(all.rdropWhile fun entry => entry ≠ mark).dropLast, ?_⟩
      rw [decide_eq_true_eq, Decidable.not_not] at ends
      conv_lhs => rw [← List.dropLast_append_getLast none, ends]
  · exact absurd rfl (of_decide_eq_true
      (List.mem_rtakeWhile_imp (p := fun entry => decide (entry ≠ mark)) member))

/-- The last mark is in one place only. -/
theorem append_cons_inj_of_notMem {front back frontToo backToo : List Entry}
    (inside : mark ∉ back) (insideToo : mark ∉ backToo)
    (same : front ++ mark :: back = frontToo ++ mark :: backToo) :
    front = frontToo ∧ back = backToo := by
  rw [List.append_cons, List.append_cons frontToo] at same
  have line := (areWhole_concat mark front).rtakeWhile_append inside
  rw [same, (areWhole_concat mark frontToo).rtakeWhile_append insideToo] at line
  subst line
  exact ⟨List.append_cancel_right (List.append_cancel_right same), rfl⟩

end Marked

/-! ### Entries that are written out -/

section Expanded

variable {Entry Image : Type} {expand : Entry → List Image}

/-- A mark that stands for one entry alone is where the entry is. -/
theorem mem_flatMap_iff_of_forall {mark : Entry} {image : Image} {all : List Entry}
    (each : ∀ entry, image ∈ expand entry ↔ entry = mark) :
    image ∈ all.flatMap expand ↔ mark ∈ all := by
  rw [List.mem_flatMap]
  constructor
  · rintro ⟨entry, member, within⟩
    rwa [← (each entry).mp within]
  · exact fun member => ⟨mark, member, (each mark).mpr rfl⟩

theorem length_le_length_flatMap (each : ∀ entry, 0 < (expand entry).length)
    (all : List Entry) : all.length ≤ (all.flatMap expand).length := by
  induction all with
  | nil => exact Nat.le_refl 0
  | cons entry later inductionHypothesis =>
    have positive := each entry
    rw [List.flatMap_cons, List.length_append, List.length_cons]
    omega

/-- When no entry is without images, there are as many images as entries exactly when each entry has
one. -/
theorem length_flatMap_eq_iff {all : List Entry} (each : ∀ entry, 0 < (expand entry).length) :
    (all.flatMap expand).length = all.length ↔ ∀ entry ∈ all, (expand entry).length = 1 := by
  induction all with
  | nil => exact iff_of_true rfl (List.forall_mem_nil _)
  | cons entry later inductionHypothesis =>
    have positive := each entry
    have least := length_le_length_flatMap each later
    rw [List.forall_mem_cons, ← inductionHypothesis, List.flatMap_cons, List.length_append,
      List.length_cons]
    omega

end Expanded

/-! ### Lines and columns -/

/-- The code point that ends a line. -/
abbrev lineFeed : CodePoint := CodePoint.ofChar '\n'

namespace Text

/-- The line of a place: the number of line feeds in front of it. -/
def line (content : Text) (offset : Nat) : Nat := (content.take offset).count lineFeed

/-- The column of a place: the number of code points between the last line feed and it. -/
def column (content : Text) (offset : Nat) : Nat :=
  ((content.take offset).rtakeWhile fun point => point ≠ lineFeed).length

/-- The number of code points in front of a line. Lines count from zero. -/
def lineStart : Text → Nat → Nat
  | _, 0 => 0
  | [], _ + 1 => 0
  | point :: rest, line + 1 =>
    if point = lineFeed then lineStart rest line + 1 else lineStart rest (line + 1) + 1

/-- A line starts behind the line feed that ends the line in front of it. -/
theorem lineStart_append_cons (front back : Text) :
    lineStart (front ++ lineFeed :: back) (front.count lineFeed + 1) = front.length + 1 := by
  induction front with
  | nil => cases back <;> rfl
  | cons point front inductionHypothesis =>
    rw [List.cons_append, lineStart, List.count_cons, List.length_cons]
    split
    · rename_i same
      rw [if_pos (beq_iff_eq.mpr same), inductionHypothesis]
    · rename_i other
      rw [if_neg (fun same => other (beq_iff_eq.mp same)), Nat.add_zero, inductionHypothesis]

theorem lineStart_append {lines : Text} (whole : AreWhole lineFeed lines) (back : Text) :
    lineStart (lines ++ back) (lines.count lineFeed) = lines.length := by
  rcases whole with rfl | ⟨front, rfl⟩
  · cases back <;> rfl
  · rw [← List.append_cons, List.count_append, List.length_append]
    exact lineStart_append_cons front back

/-- A place is on a line without a line feed, behind whole lines. -/
theorem exists_line (content : Text) (offset : Nat) :
    ∃ lines line, content.take offset = lines ++ line ∧ lineFeed ∉ line ∧
      AreWhole lineFeed lines ∧ content.line offset = lines.count lineFeed ∧
        content.column offset = line.length ∧
          content.lineStart (content.line offset) = lines.length := by
  obtain ⟨lines, line, split, whole, within⟩ := exists_lines lineFeed (content.take offset)
  have row : content.line offset = lines.count lineFeed := by
    rw [Text.line, split, List.count_append, List.count_eq_zero.mpr within, Nat.add_zero]
  refine ⟨lines, line, split, within, whole, row, ?_, ?_⟩
  · rw [column, split, whole.rtakeWhile_append within]
  · rw [row, ← List.take_append_drop offset content, split, List.append_assoc,
      lineStart_append whole]

/-- A place is as far behind the start of its line as its column says. -/
theorem lineStart_add_column {content : Text} {offset : Nat} (inside : offset ≤ content.length) :
    content.lineStart (content.line offset) + content.column offset = offset := by
  obtain ⟨lines, line, split, -, -, -, column, start⟩ := exists_line content offset
  rw [column, start, ← List.length_append, ← split, List.length_take, Nat.min_eq_left inside]

/-- The stretch from the start of a line to a place on it is as long as the column of the place. -/
theorem length_slice_lineStart (content : Text) (offset : Nat) :
    (content.slice (content.lineStart (content.line offset)) offset).length =
      content.column offset := by
  obtain ⟨lines, line, split, -, -, -, column, start⟩ := exists_line content offset
  rw [slice, start, split, List.drop_left, column]

end Text

/-! ### Lines in bytes -/

theorem CodePoint.mem_utf8_iff (point : CodePoint) : 0x0A ∈ point.utf8 ↔ point = lineFeed := by
  constructor
  · intro member
    suffices point.toNat = 0x0A by
      obtain ⟨number, small⟩ := point
      subst this
      rfl
    simp only [utf8] at member
    split at member
    · exact (List.mem_singleton.mp member).symm
    -- Several bytes are all from `0x80` on.
    · split at member
      · simp only [List.mem_cons, List.not_mem_nil, or_false] at member
        omega
      · split at member <;> simp only [List.mem_cons, List.not_mem_nil, or_false] at member <;>
          omega
  · rintro rfl
    exact List.mem_singleton.mpr rfl

theorem CodePoint.length_utf8_eq_one_iff (point : CodePoint) :
    point.utf8.length = 1 ↔ point.toNat < 0x80 := by
  simp only [utf8]
  split
  · exact iff_of_true rfl ‹_›
  · refine iff_of_false ?_ ‹_›
    split
    · exact (by decide : ¬ 2 = 1)
    · split
      · exact (by decide : ¬ 3 = 1)
      · exact (by decide : ¬ 4 = 1)

namespace Text

theorem mem_utf8_iff {content : Text} : 0x0A ∈ utf8 content ↔ lineFeed ∈ content :=
  mem_flatMap_iff_of_forall CodePoint.mem_utf8_iff

/-- Whole lines are whole lines in bytes. -/
theorem areWhole_utf8 {lines : Text} (whole : AreWhole lineFeed lines) :
    AreWhole 0x0A (utf8 lines) := by
  rcases whole with rfl | ⟨front, rfl⟩
  · exact Or.inl rfl
  · exact Or.inr ⟨utf8 front, utf8_append front [lineFeed]⟩

/-- There are as many line feeds among the bytes as among the code points. -/
theorem count_utf8 (content : Text) : (utf8 content).count 0x0A = content.count lineFeed := by
  induction content with
  | nil => rfl
  | cons point rest inductionHypothesis =>
    rw [utf8_cons, List.count_append, inductionHypothesis, List.count_cons, Nat.add_comm]
    by_cases same : point = lineFeed
    · rw [same, if_pos (beq_self_eq_true lineFeed)]
      rfl
    · rw [if_neg (fun equal => same (beq_iff_eq.mp equal)),
        List.count_eq_zero.mpr fun member => same (point.mem_utf8_iff.mp member)]

/-- A text takes up one byte for each code point exactly when all its code points are small. -/
theorem length_utf8_eq_iff {content : Text} :
    (utf8 content).length = content.length ↔ ∀ point ∈ content, point.toNat < 0x80 := by
  rw [utf8, length_flatMap_eq_iff CodePoint.length_utf8_pos]
  exact forall₂_congr fun point _ => point.length_utf8_eq_one_iff

end Text

/-- A node starts in the row and in the column that its label says: the row is the number of line
feeds in front of it, and the column is the number of bytes since the last of them. -/
structure Label.StartsAt (content : Text) (label : Label) : Prop where
  row : label.row = (content.utf8.take label.startByte).count 0x0A
  column : label.column =
    ((content.utf8.take label.startByte).rtakeWhile fun byte => byte ≠ 0x0A).length

theorem Label.startsAt_iff {content : Text} {label : Label} :
    label.StartsAt content ↔
      label.row = (content.utf8.take label.startByte).count 0x0A ∧ label.column =
        ((content.utf8.take label.startByte).rtakeWhile fun byte => byte ≠ 0x0A).length :=
  ⟨fun starts => ⟨starts.row, starts.column⟩, fun ⟨row, column⟩ => ⟨row, column⟩⟩

instance (content : Text) : DecidablePred (Label.StartsAt content) :=
  fun _ => decidable_of_iff _ Label.startsAt_iff.symm

/-- The row of a node is its line, and its column is the number of bytes of the stretch from the
start of that line to the node. -/
theorem Label.StartsAt.line_and_column {content : Text} {label : Label} {position : Nat}
    (starts : label.StartsAt content)
    (front : (Text.utf8 (content.take position)).length = label.startByte) :
    label.row = content.line position ∧
      label.column = (Text.utf8 (content.slice (content.lineStart label.row) position)).length := by
  obtain ⟨lines, line, split, within, whole, row, -, start⟩ := content.exists_line position
  have bytes : content.utf8.take label.startByte = Text.utf8 (content.take position) := by
    conv_lhs => rw [← List.take_append_drop position content, Text.utf8_append, ← front]
    exact List.take_left
  have same : label.row = content.line position := by
    rw [starts.row, bytes, Text.count_utf8, Text.line]
  have inLine : 0x0A ∉ Text.utf8 line := fun member => within (Text.mem_utf8_iff.mp member)
  refine ⟨same, ?_⟩
  rw [starts.column, bytes, split, Text.utf8_append,
    (Text.areWhole_utf8 whole).rtakeWhile_append inLine, same, start, Text.slice, split,
    List.drop_left]

/-! ### Places in messages -/

theorem Text.ofNat_injective {number other : Nat} (same : Text.ofNat number = Text.ofNat other) :
    number = other := by
  have digits : Nat.toDigits 10 number = Nat.toDigits 10 other := by
    refine (List.map_inj_right fun first second equal => ?_).mp same
    exact Char.toNat_inj.mp (congrArg CodePoint.toNat equal)
  rw [← Nat.ofDigitChars_ten_toDigits (n := number), digits, Nat.ofDigitChars_ten_toDigits]

/-- What is no digit is not in a numeral. -/
theorem Text.notMem_ofNat {char : Char} (other : char.isDigit = false) (number : Nat) :
    CodePoint.ofChar char ∉ Text.ofNat number := by
  intro member
  obtain ⟨digit, listed, same⟩ := List.mem_map.mp member
  obtain rfl := Char.toNat_inj.mp (congrArg CodePoint.toNat same)
  rw [Nat.isDigit_of_mem_toDigits (by decide) (by decide) listed] at other
  cases other

/-- The place at the end of a message is in no doubt. -/
theorem SyntaxFault.place_inj {lead leadToo : Text} {line column lineToo columnToo : Nat}
    (same : lead ++ place line column = leadToo ++ place lineToo columnToo) :
    line = lineToo ∧ column = columnToo := by
  have parts (lead : Text) (line column : Nat) : lead ++ place line column =
      lead ++ text " " ++ CodePoint.ofChar '(' :: Text.ofNat line ++
        CodePoint.ofChar ':' :: (Text.ofNat column ++ text ")") := by
    simp only [place, text, List.append_assoc]
    rfl
  have colon (column : Nat) : CodePoint.ofChar ':' ∉ Text.ofNat column ++ text ")" := by
    rw [List.mem_append, not_or]
    exact ⟨Text.notMem_ofNat rfl column, by decide⟩
  rw [parts, parts leadToo] at same
  obtain ⟨lines, columns⟩ := append_cons_inj_of_notMem (colon column) (colon columnToo) same
  obtain ⟨-, lines⟩ :=
    append_cons_inj_of_notMem (Text.notMem_ofNat rfl line) (Text.notMem_ofNat rfl lineToo) lines
  exact ⟨Text.ofNat_injective lines, Text.ofNat_injective (List.append_cancel_right columns)⟩

namespace Tree

/-- The walk goes on in one of the trees that it may go on in. -/
theorem exists_mem_of_firstFaultAmong? {children : List Tree} {label : Label}
    (arrives : firstFaultAmong? children = some label) :
    ∃ child ∈ children, child.firstFault? = some label := by
  induction children with
  | nil => cases arrives
  | cons child later inductionHypothesis =>
    rw [firstFaultAmong?] at arrives
    split at arrives
    · exact ⟨child, List.mem_cons_self, arrives⟩
    · obtain ⟨other, member, arrives⟩ := inductionHypothesis arrives
      exact ⟨other, List.mem_cons_of_mem _ member, arrives⟩

/-- The walk for a fault arrives at a node of the tree. -/
theorem exists_mem_subtrees_of_firstFault? {tree : Tree} {label : Label}
    (arrives : tree.firstFault? = some label) : ∃ sub ∈ tree.subtrees, sub.label = label := by
  induction tree using inductionOn with
  | node own children inductionHypothesis =>
    rw [firstFault?] at arrives
    split at arrives
    · exact ⟨.node own children, mem_subtrees_self _, Option.some.inj arrives⟩
    · obtain ⟨child, member, arrives⟩ := exists_mem_of_firstFaultAmong? arrives
      obtain ⟨sub, below, same⟩ := inductionHypothesis child member arrives
      exact ⟨sub, mem_subtrees_of_mem_children member below, same⟩

/-- What is told of a node gives its row, counted from one, and its column at the end of the
message. -/
theorem Tells.exists_place {content : Text} {label : Label} {fault : SyntaxFault}
    (tells : Tells content label fault) :
    ∃ lead, fault.message = lead ++ SyntaxFault.place (label.row + 1) label.column := by
  cases missing : label.isMissing with
  | true => exact ⟨_, tells.missing missing⟩
  | false =>
    obtain ⟨stretch, -, message⟩ := tells.unexpected missing
    exact ⟨_, message⟩

/-- A text that stops too early has no place in its message. -/
theorem message_endOfInput_ne (position : Nat) (lead : Text) (line column : Nat) :
    (SyntaxFault.endOfInput position).message ≠ lead ++ SyntaxFault.place line column := by
  intro same
  have last := congrArg List.getLast? same
  rw [SyntaxFault.place, ← List.append_assoc] at last
  rw [show text ")" = [CodePoint.ofChar ')'] from rfl, List.getLast?_concat] at last
  cases last

/-- When the nodes of a tree cover stretches of the text and start where their labels say, and there
is a mark at the root, a fault is told. If its message gives a place, the line there is that of the
fault, and the column counts the bytes from the start of the line to the fault. So the fault is as
many code points behind the start of the line as the column says exactly when all code points on the
line in front of it take up one byte. -/
theorem position_eq_iff {content : Text} {tree : Tree}
    (lies : ∀ sub ∈ tree.subtrees, sub.label.LiesOn content)
    (starts : ∀ sub ∈ tree.subtrees, sub.label.StartsAt content)
    (faulty : tree.label.hasFault = true) :
    ∃ fault, tree.node? content = .error (.illFormed fault) ∧
      ∀ lead line column, fault.message = lead ++ SyntaxFault.place line column →
        line = content.line fault.position + 1 ∧
          column =
            (content.slice (content.lineStart (line - 1)) fault.position).utf8.length ∧
          (fault.position = content.lineStart (line - 1) + column ↔
            ∀ point ∈ content.slice (content.lineStart (line - 1)) fault.position,
              point.toNat < 0x80) := by
  cases arrives : tree.firstFault? with
  | none =>
    refine ⟨.endOfInput content.trimEnd.length, ?_, fun lead line column same => ?_⟩
    · rw [node?, if_pos faulty, Tree.fault, arrives]
      rfl
    · exact absurd same (message_endOfInput_ne _ lead line column)
  | some label =>
    obtain ⟨sub, member, rfl⟩ := exists_mem_subtrees_of_firstFault? arrives
    obtain ⟨fault, made, tells⟩ := exists_fault_of_firstFault? arrives (lies sub member)
    refine ⟨fault, ?_, fun lead line column same => ?_⟩
    · rw [node?, if_pos faulty, made]
      rfl
    -- Whatever stands in front, the place in the message is that of the node the walk arrived at.
    · obtain ⟨front, message⟩ := tells.exists_place
      obtain ⟨rfl, rfl⟩ := SyntaxFault.place_inj (same.symm.trans message)
      obtain ⟨row, bytes⟩ := (starts sub member).line_and_column tells.front
      rw [Nat.add_sub_cancel]
      refine ⟨congrArg (· + 1) row, bytes, ?_⟩
      rw [← Text.length_utf8_eq_iff, ← bytes]
      have length : content.lineStart sub.label.row + (content.slice
          (content.lineStart sub.label.row) fault.position).length = fault.position := by
        rw [row, Text.length_slice_lineStart, Text.lineStart_add_column tells.inside]
      omega

/-- Behind a code point of two bytes on the line above, the position and the place in the message
agree. -/
theorem position_eq_iff_unclosed :
    ∃ fault, unclosed.node? (text "é;\nimport \x7b x from 'a';\n\x7d") =
        .error (.illFormed fault) ∧
      fault.message = text "Missing '\x7d'" ++ SyntaxFault.place 2 10 ∧
        fault.position = Text.lineStart (text "é;\nimport \x7b x from 'a';\n\x7d") 1 + 10 := by
  have lies : ∀ sub ∈ unclosed.subtrees,
      sub.label.LiesOn (text "é;\nimport \x7b x from 'a';\n\x7d") := by decide
  have starts : ∀ sub ∈ unclosed.subtrees,
      sub.label.StartsAt (text "é;\nimport \x7b x from 'a';\n\x7d") := by decide
  obtain ⟨fault, refused, agree⟩ := position_eq_iff lies starts rfl
  have read : unclosed.node? (text "é;\nimport \x7b x from 'a';\n\x7d") =
      .error (.illFormed (.missing (text "\x7d") 2 10 13)) := by with_unfolding_all rfl
  obtain rfl := Failure.illFormed.inj (Except.error.inj (refused.symm.trans read))
  have message : (SyntaxFault.missing (text "\x7d") 2 10 13).message =
      text "Missing '\x7d'" ++ SyntaxFault.place 2 10 := by with_unfolding_all rfl
  exact ⟨_, refused, message, (agree _ 2 10 message).2.2.mpr (by decide)⟩

/-- The tree of a text in which a stray dash stands behind a name of two bytes. -/
def dashed : Tree :=
  .node ⟨text "program", 0, 22, 0, 0, true, true, false, none⟩
    [.node ⟨importKind, 0, 21, 0, 0, true, true, false, none⟩
      [.node ⟨text "import", 0, 6, 0, 0, false, false, false, none⟩ [],
        .node ⟨text "import_clause", 7, 9, 0, 7, true, false, false, none⟩
          [.node ⟨text "identifier", 7, 9, 0, 7, true, false, false, none⟩ []],
        .node ⟨text "ERROR", 9, 11, 0, 9, true, true, false, none⟩
          [.node ⟨text "-", 9, 10, 0, 9, false, false, false, none⟩ [],
            .node ⟨text "identifier", 10, 11, 0, 10, true, false, false, none⟩ []],
        .node ⟨text "from", 12, 16, 0, 12, false, false, false, none⟩ [],
        .node ⟨text "string", 17, 20, 0, 17, true, false, false, some (text "source")⟩
          [.node ⟨text "'", 17, 18, 0, 17, false, false, false, none⟩ [],
            .node ⟨text "string_fragment", 18, 19, 0, 18, true, false, false, none⟩ [],
            .node ⟨text "'", 19, 20, 0, 19, false, false, false, none⟩ []],
        .node ⟨text ";", 20, 21, 0, 20, false, false, false, none⟩ []]]

/-- Behind a code point of two bytes on the same line, the column in the message is not the one of
the position. -/
theorem position_ne_dashed :
    (∀ sub ∈ dashed.subtrees, sub.label.LiesOn (text "import é-e from 'x';\n")) ∧
      (∀ sub ∈ dashed.subtrees, sub.label.StartsAt (text "import é-e from 'x';\n")) ∧
      dashed.label.hasFault = true ∧
      dashed.node? (text "import é-e from 'x';\n") =
        .error (.illFormed (.unexpected (text "-e") 1 9 8)) ∧
      (SyntaxFault.unexpected (text "-e") 1 9 8).message =
        text "Unexpected token '-e'" ++ SyntaxFault.place (0 + 1) 9 ∧
      (SyntaxFault.unexpected (text "-e") 1 9 8).position = 8 ∧
      (text "import é-e from 'x';\n").lineStart 0 + 9 ≠ 8 :=
  ⟨by decide, by decide, rfl, by with_unfolding_all rfl, by with_unfolding_all rfl, rfl, by decide⟩

end Tree

end ImportBinding
