/-
This file says what the marker in a diagnostic points at.

The marker stands at the end of a bar on a line of its own, as many columns from the left as there
are code points in front of the place that it is for. So it is right above that place exactly when
the place is on the first line of the text below. On a terminal that cannot show glyphs each of them
is replaced on its own, in the bar and in the text. There the place may not have a glyph in front of
it either that several characters stand for.
-/

import ImportBinding.Proofs.Places
import ImportBinding.Proofs.Positions
import ImportBinding.Terminal.Glyph

namespace ImportBinding

/-! ### Marked texts -/

namespace Text

/-- A place is right above another one when it is on the line above and in the same column. -/
def IsAbove (content : Text) (upper lower : Nat) : Prop :=
  content.line lower = content.line upper + 1 ∧ content.column lower = content.column upper

instance (content : Text) (upper lower : Nat) : Decidable (content.IsAbove upper lower) :=
  inferInstanceAs (Decidable (_ ∧ _))

/-- A text below a marker, which stands at the end of a bar on a line of its own. The lines of the
bar and of the text are indented alike. -/
def marked (lead bar below : Text) : Text :=
  lead ++ text "\n\t" ++ bar ++ text "v\n\t" ++ below

theorem line_append (front back : Text) :
    (front ++ back).line front.length = front.count lineFeed := by
  rw [line, List.take_left]

theorem column_append {lines line : Text} (whole : AreWhole lineFeed lines)
    (inside : lineFeed ∉ line) (back : Text) :
    (lines ++ line ++ back).column (lines ++ line).length = line.length := by
  rw [column, List.take_left, whole.rtakeWhile_append inside]

/-- A place on a line is right above a place behind the line exactly when no line feed stands
between the line and the latter place, and as many code points as in front of the former one. -/
theorem isAbove_iff_of_split {content lines upper rest lower back : Text}
    (split : content = lines ++ upper ++ (rest ++ [lineFeed] ++ lower ++ back))
    (whole : AreWhole lineFeed lines) (level : lineFeed ∉ upper) (levelToo : lineFeed ∉ rest) :
    content.IsAbove (lines ++ upper).length
        (lines ++ upper ++ (rest ++ [lineFeed] ++ lower)).length ↔
      lineFeed ∉ lower ∧ lower.length = upper.length := by
  have regroup : lines ++ upper ++ (rest ++ [lineFeed] ++ lower) =
      lines ++ upper ++ rest ++ [lineFeed] ++ lower := by
    simp only [List.append_assoc]
  have splitToo : content = lines ++ upper ++ rest ++ [lineFeed] ++ lower ++ back := by
    rw [split, ← regroup, List.append_assoc (lines ++ upper)]
  rw [regroup]
  have above : content.line (lines ++ upper).length = lines.count lineFeed := by
    rw [split, line_append, List.count_append, List.count_eq_zero.mpr level, Nat.add_zero]
  have below : content.line (lines ++ upper ++ rest ++ [lineFeed] ++ lower).length =
      lines.count lineFeed + 1 + lower.count lineFeed := by
    rw [splitToo, line_append, List.count_append, List.count_append, List.count_append,
      List.count_append, List.count_eq_zero.mpr level, List.count_eq_zero.mpr levelToo]
    rfl
  have column : content.column (lines ++ upper).length = upper.length := by
    rw [split, column_append whole level]
  rw [IsAbove, above, below, column]
  by_cases inside : lineFeed ∈ lower
  · have more := List.count_pos_iff.mpr inside
    exact iff_of_false (fun same => by omega) fun same => same.1 inside
  · rw [splitToo, column_append (areWhole_concat lineFeed _) inside, List.count_eq_zero.mpr inside,
      Nat.add_zero]
    exact and_congr_left fun _ => iff_of_true rfl inside

/-- A marker is right above a place below exactly when no line feed stands in front of the place,
and as many code points as in the bar. -/
theorem exists_isAbove_iff (lead : Text) {bar : Text} (level : lineFeed ∉ bar)
    (front back : Text) : ∃ marker place,
    (marked lead bar (front ++ back)).drop marker = text "v\n\t" ++ (front ++ back) ∧
      (marked lead bar (front ++ back)).drop place = back ∧
        ((marked lead bar (front ++ back)).IsAbove marker place ↔
          lineFeed ∉ front ∧ front.length = bar.length) := by
  have indented {line : Text} : lineFeed ∉ text "\t" ++ line ↔ lineFeed ∉ line := by
    rw [List.mem_append, not_or]
    exact and_iff_right (by decide)
  have widths : (text "\t" ++ front).length = (text "\t" ++ bar).length ↔
      front.length = bar.length := by
    rw [List.length_append, List.length_append, Nat.add_left_cancel_iff]
  have split : marked lead bar (front ++ back) = lead ++ [lineFeed] ++ (text "\t" ++ bar) ++
      (text "v" ++ [lineFeed] ++ (text "\t" ++ front) ++ back) := by
    simp only [marked, List.append_assoc]
    rfl
  have above := isAbove_iff_of_split split (areWhole_concat lineFeed lead) (indented.mpr level)
    (by decide)
  rw [indented, widths] at above
  refine ⟨_, _, ?_, ?_, above⟩
  · rw [split, List.drop_left]
    simp only [List.append_assoc]
    rfl
  · rw [split, ← List.append_assoc (lead ++ [lineFeed] ++ (text "\t" ++ bar)) _ back,
      List.drop_left]

end Text

/-- A text is what stands in front of a place, the code point there and the rest. -/
theorem Text.exists_split {content : Text} {offset : Nat} {point : CodePoint}
    (found : content[offset]? = some point) :
    (content.take offset).length = offset ∧
      content.take offset ++ point :: content.drop (offset + 1) = content := by
  obtain ⟨inside, rfl⟩ := List.getElem?_eq_some_iff.mp found
  refine ⟨?_, ?_⟩
  · rw [List.length_take, Nat.min_eq_left (Nat.le_of_lt inside)]
  · rw [← List.drop_eq_getElem_cons inside, List.take_append_drop]

theorem lineFeed_notMem_bar (position : Nat) :
    lineFeed ∉ List.replicate position (CodePoint.ofChar '─') :=
  fun member => absurd (List.eq_of_mem_replicate member) (by decide)

/-! ### Refused statements -/

/-- When a text is refused as a statement with a position, the details have a marker above the
normal form. It is right above the code point at the position exactly when there is no line feed in
front of that code point in the normal form. -/
theorem Statement.marker_isAbove_iff {recordings : List Recording} {language given : Text}
    {configured : Except Failure Text} {dialect : Dialect} {refusal : Refusal} {position : Int}
    (chosen : language.trim.lower = dialect.name)
    (refused : ofValue recordings (.text given) (languageOf (.text language) configured) =
      .error (.refused refusal)) (placed : refusal.position = some position) :
    ∃ (offset : Nat) (details : Text), position = offset ∧ refusal.details = some details ∧
      ∀ point, (normalForm given)[offset]? = some point → ∃ marker place,
        details.drop marker = text "v\n\t" ++ normalForm given ∧
          details.drop place = point :: (normalForm given).drop (offset + 1) ∧
            (details.IsAbove marker place ↔ lineFeed ∉ (normalForm given).take offset) := by
  rw [languageOf_of_chosen chosen, ofValue_text] at refused
  obtain ⟨fault, rfl, rfl⟩ := exists_fault_of_position refused placed
  refine ⟨fault.position, _, rfl, rfl, fun point found => ?_⟩
  obtain ⟨length, whole⟩ := Text.exists_split found
  -- The details are a marked text, with the message of the fault above and the normal form below.
  obtain ⟨marker, place, atMarker, atPlace, above⟩ := Text.exists_isAbove_iff fault.message
    (lineFeed_notMem_bar fault.position) ((normalForm given).take fault.position)
    (point :: (normalForm given).drop (fault.position + 1))
  rw [whole] at atMarker atPlace above
  refine ⟨marker, place, atMarker, atPlace, above.trans (and_iff_left ?_)⟩
  rw [length, List.length_replicate]

/-- On one line the marker is right above the reserved word. -/
theorem Statement.marker_isAbove_iff_let : ∃ refusal details marker place,
    ofValue [] (.text (text "\x7b a as let \x7d from 'm'"))
        (languageOf (.text (text "javascript")) (.error .noAttribute)) =
          .error (.refused refusal) ∧
      refusal.position = some 14 ∧ refusal.details = some details ∧
        details.drop marker = text "v\n\timport \x7b a as let \x7d from 'm';\n" ∧
          details.drop place = text "let \x7d from 'm';\n" ∧ details.IsAbove marker place := by
  have chosen : (text "javascript").trim.lower = Dialect.javascript.name := by
    with_unfolding_all rfl
  have read : readStatement [] .javascript (normalForm (text "\x7b a as let \x7d from 'm'")) =
      .error (.illFormed (.reserved (text "let") 14)) := by with_unfolding_all rfl
  have refused := ofValue_of_illFormed chosen read (.error .noAttribute)
  obtain ⟨offset, details, same, detailed, points⟩ := marker_isAbove_iff chosen refused rfl
  obtain rfl := Int.ofNat.inj same
  obtain ⟨marker, place, atMarker, atPlace, above⟩ :=
    points (CodePoint.ofChar 'l') (by with_unfolding_all rfl)
  refine ⟨_, details, marker, place, refused, rfl, detailed, atMarker.trans ?_, atPlace.trans ?_,
    above.mpr ?_⟩
  · with_unfolding_all rfl
  · with_unfolding_all rfl
  · decide

/-- Behind a line feed the marker is not above the reserved word. -/
theorem Statement.exists_not_isAbove : ∃ refusal details marker place,
    ofValue [] (.text (text "\x7b a as\nlet \x7d from 'm'"))
        (languageOf (.text (text "javascript")) (.error .noAttribute)) =
          .error (.refused refusal) ∧
      refusal.position = some 14 ∧ refusal.details = some details ∧
        details.drop marker = text "v\n\timport \x7b a as\nlet \x7d from 'm';\n" ∧
          details.drop place = text "let \x7d from 'm';\n" ∧ ¬ details.IsAbove marker place := by
  have chosen : (text "javascript").trim.lower = Dialect.javascript.name := by
    with_unfolding_all rfl
  have read : readStatement [] .javascript (normalForm (text "\x7b a as\nlet \x7d from 'm'")) =
      .error (.illFormed (.reserved (text "let") 14)) := by with_unfolding_all rfl
  refine ⟨_, _, 63, 80, ofValue_of_illFormed chosen read _, rfl, rfl, ?_, ?_, ?_⟩
  · with_unfolding_all rfl
  · with_unfolding_all rfl
  · decide

/-! ### Terminals without glyphs -/

namespace CodePoint

/-- A code point that is no glyph stands for itself. -/
theorem plain_cases (point : CodePoint) :
    point.plain = [point] ∨ (point, point.plain) ∈ glyphs := by
  rw [plain]
  generalize found : glyphs.find? _ = first
  cases first with
  | none => exact Or.inl rfl
  | some pair =>
    have same := List.find?_some found
    obtain rfl : pair.1 = point := of_decide_eq_true same
    exact Or.inr (List.mem_of_find?_eq_some found)

theorem length_plain_pos (point : CodePoint) : 0 < point.plain.length := by
  have visible : ∀ pair ∈ glyphs, 0 < pair.2.length := by decide
  rcases point.plain_cases with same | glyph
  · rw [same]
    exact Nat.zero_lt_one
  · exact visible _ glyph

/-- No glyph is a line feed or is replaced by one. -/
theorem lineFeed_mem_plain_iff (point : CodePoint) : lineFeed ∈ point.plain ↔ point = lineFeed := by
  have unbroken : ∀ pair ∈ glyphs, lineFeed ∉ pair.2 ∧ pair.1 ≠ lineFeed := by decide
  rcases point.plain_cases with same | glyph
  · rw [same, List.mem_singleton, eq_comm]
  · exact iff_of_false (unbroken _ glyph).1 (unbroken _ glyph).2

end CodePoint

theorem Text.plain_append (front back : Text) :
    Text.plain (front ++ back) = Text.plain front ++ Text.plain back := List.flatMap_append

theorem Text.lineFeed_mem_plain_iff {content : Text} :
    lineFeed ∈ content.plain ↔ lineFeed ∈ content :=
  mem_flatMap_iff_of_forall CodePoint.lineFeed_mem_plain_iff

theorem Text.length_plain_eq_iff {content : Text} :
    content.plain.length = content.length ↔ ∀ point ∈ content, point.plain.length = 1 :=
  length_flatMap_eq_iff CodePoint.length_plain_pos

/-- The bar keeps its length where glyphs are replaced. -/
theorem length_plain_bar (position : Nat) :
    (Text.plain (List.replicate position (CodePoint.ofChar '─'))).length = position := by
  rw [Text.length_plain_eq_iff.mpr, List.length_replicate]
  intro point member
  rw [List.eq_of_mem_replicate member]
  rfl

theorem sanitize_diagnostic (message statement : Text) (position : Nat) :
    (diagnostic message statement position).sanitize false =
      Text.marked message.plain (Text.plain (List.replicate position (CodePoint.ofChar '─')))
        statement.plain := by
  have around : Text.plain (text "\n\t") = text "\n\t" ∧ Text.plain (text "v\n\t") = text "v\n\t" :=
    ⟨rfl, rfl⟩
  rw [diagnostic, Text.sanitize, if_neg Bool.false_ne_true]
  simp only [Text.plain_append, around, Text.marked, Int.toNat_natCast]

/-- On a terminal that cannot show glyphs the marker of a diagnostic is right above what stands for
the code point at a position exactly when there is no line feed in front of that code point, and
nothing that more than one character stands for. -/
theorem sanitize_diagnostic_isAbove_iff (message : Text) {statement : Text} {position : Nat}
    (inside : position < statement.length) : ∃ point marker place,
      statement[position]? = some point ∧
        ((diagnostic message statement position).sanitize false).drop marker =
          text "v\n\t" ++ statement.plain ∧
        ((diagnostic message statement position).sanitize false).drop place =
          point.plain ++ Text.plain (statement.drop (position + 1)) ∧
        (((diagnostic message statement position).sanitize false).IsAbove marker place ↔
          ∀ other ∈ statement.take position, other ≠ lineFeed ∧ other.plain.length = 1) := by
  obtain ⟨length, whole⟩ := Text.exists_split (List.getElem?_eq_getElem inside)
  have level : lineFeed ∉ Text.plain (List.replicate position (CodePoint.ofChar '─')) :=
    fun member => lineFeed_notMem_bar position (Text.lineFeed_mem_plain_iff.mp member)
  have below : Text.plain (statement.take position) ++
      (statement[position].plain ++ Text.plain (statement.drop (position + 1))) =
        statement.plain := by
    conv_rhs => rw [← whole, Text.plain_append]
    rfl
  obtain ⟨marker, place, atMarker, atPlace, above⟩ := Text.exists_isAbove_iff message.plain level
    (Text.plain (statement.take position))
    (statement[position].plain ++ Text.plain (statement.drop (position + 1)))
  rw [below, ← sanitize_diagnostic] at atMarker atPlace above
  refine ⟨statement[position], marker, place, List.getElem?_eq_getElem inside, atMarker, atPlace,
    above.trans ?_⟩
  have narrow : (Text.plain (statement.take position)).length = position ↔
      ∀ other ∈ statement.take position, other.plain.length = 1 := by
    rw [← Text.length_plain_eq_iff, length]
  rw [length_plain_bar, Text.lineFeed_mem_plain_iff, narrow]
  constructor
  · rintro ⟨unbroken, single⟩ other member
    exact ⟨fun same => unbroken (same ▸ member), single other member⟩
  · intro each
    exact ⟨fun member => (each lineFeed member).1 rfl, fun other member => (each other member).2⟩

/-- A glyph that one character stands for does not move what is behind it. -/
theorem sanitize_diagnostic_isAbove_iff_bar : ∃ marker place,
    ((diagnostic (text "misplaced") (text "import │;\n") 8).sanitize false).drop marker =
        text "v\n\timport |;\n" ∧
      ((diagnostic (text "misplaced") (text "import │;\n") 8).sanitize false).drop place =
          text ";\n" ∧
        ((diagnostic (text "misplaced") (text "import │;\n") 8).sanitize false).IsAbove marker
          place := by
  have inside : 8 < (text "import │;\n").length := by decide
  obtain ⟨point, marker, place, found, atMarker, atPlace, above⟩ :=
    sanitize_diagnostic_isAbove_iff (text "misplaced") inside
  obtain rfl := Option.some.inj found
  exact ⟨marker, place, atMarker.trans (by decide), atPlace.trans (by decide),
    above.mpr (by decide)⟩

/-- A glyph that several characters stand for moves what is behind it away from the marker. -/
theorem not_isAbove_sanitize_checkMark :
    text "import \x7b '✓' as let \x7d from 'm';\n" =
        text "import \x7b '✓' as let \x7d from 'm';" ++ [lineFeed] ∧
      lineFeed ∉ text "import \x7b '✓' as let \x7d from 'm';" ∧
      (text "import \x7b '✓' as let \x7d from 'm';\n")[16]? = some (CodePoint.ofChar 'l') ∧
      ((diagnostic (text "Binding 'let' is a reserved word in module code")
        (text "import \x7b '✓' as let \x7d from 'm';\n") 16).sanitize false).drop 65 =
          text "v\n\timport \x7b '[OK]' as let \x7d from 'm';\n" ∧
      ((diagnostic (text "Binding 'let' is a reserved word in module code")
        (text "import \x7b '✓' as let \x7d from 'm';\n") 16).sanitize false).drop 87 =
          text "let \x7d from 'm';\n" ∧
      ¬ ((diagnostic (text "Binding 'let' is a reserved word in module code")
        (text "import \x7b '✓' as let \x7d from 'm';\n") 16).sanitize false).IsAbove 65 87 :=
  ⟨by decide, by decide, by decide, by decide, by decide, by decide⟩

end ImportBinding
