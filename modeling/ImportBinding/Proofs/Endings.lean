/-
This file says how the layout at the end of a text goes on when more text is put behind it.

Layout is a row of blanks and comments. Only one thing in it can be left open, a comment up to the
end of the line that stands last. Layout that is not open keeps apart from whatever follows; an open
comment takes in what follows up to the next line break, and a line break closes it.
-/

import ImportBinding.Proofs.Spacing
import ImportBinding.Text.Blank

namespace ImportBinding

/-! ### Closed layout -/

theorem isGap_nil : IsGap [] := by
  rw [IsGap, List.nil_append, Text.units_of_size_eq_zero (by decide)]

theorem isGap_space : IsGap (text " ") := by
  have step : layoutSize (text " " ++ text ";") ≠ 0 := by decide
  rw [IsGap, Text.units_of_size_ne_zero step (by decide)]
  show (Text.units layoutSize (text ";")).2 = text ";"
  rw [Text.units_of_size_eq_zero (by decide)]

theorem isTail_nil : IsTail [] := by
  rw [IsTail, Text.units_of_size_eq_zero (by decide)]

namespace IsGap

variable {gap later : Text}

/-- Closed layout is taken off the front of any text, and more layout behind it after that. -/
theorem units_append_snd (closed : IsGap gap) (rest : Text) :
    ((gap ++ rest).units layoutSize).2 = (rest.units layoutSize).2 := by
  rw [Text.units_append layoutSize_le_length (fun front _ some inside =>
    layoutSize_append (by decide) (by decide) some inside rest) closed]

theorem append (closed : IsGap gap) (closedToo : IsGap later) : IsGap (gap ++ later) := by
  rw [IsGap, List.append_assoc, closed.units_append_snd]
  exact closedToo

theorem append_isTail (closed : IsGap gap) (ends : IsTail later) : IsTail (gap ++ later) := by
  rw [IsTail, closed.units_append_snd]
  exact ends

theorem isTail (closed : IsGap gap) : IsTail gap := by
  rw [← List.append_nil gap]
  exact closed.append_isTail isTail_nil

end IsGap

/-! ### The forms of layout -/

/-- A text that can stand in a comment up to the end of the line. -/
def IsLine (content : Text) : Prop := ∀ point ∈ content, point.isLineEnd = false

/-- A comment up to the end of a line is taken up to there. -/
theorem layoutSize_line {content rest : Text} (line : IsLine content)
    (ended : ∀ point ∈ rest.head?, point.isLineEnd = true) :
    layoutSize (text "//" ++ (content ++ rest)) = content.length + 2 := by
  have all : content.takeWhile (fun next => !next.isLineEnd) = content :=
    List.takeWhile_eq_self_iff.mpr fun point member => by rw [line point member]; rfl
  have none : rest.takeWhile (fun next => !next.isLineEnd) = [] := by
    cases rest with
    | nil => rfl
    | cons point rest =>
      rw [List.takeWhile_cons_of_neg]
      rw [ended point rfl]
      decide
  refine (layoutSize_slash (CodePoint.ofChar '/') (content ++ rest)).trans ?_
  rw [if_pos rfl, List.takeWhile_append, if_pos (congrArg List.length all), none, List.append_nil,
    Nat.add_comm]

/-- A block comment is taken up to its closing mark. -/
theorem layoutSize_block {content : Text} (closed : blockRest content = some content.length)
    (rest : Text) : layoutSize (text "/*" ++ (content ++ rest)) = content.length + 2 := by
  have alone : blockRest (content ++ []) = some content.length := by
    rw [List.append_nil]
    exact closed
  have whole := blockRest_append alone (Nat.le_refl content.length) rest
  refine (layoutSize_slash (CodePoint.ofChar '*') (content ++ rest)).trans ?_
  rw [if_neg (by decide), if_pos rfl, whole]
  rfl

/-- What is known of the layout at the front of a text: it is a blank, or a comment up to the end of
a line, or a block comment. -/
theorem layoutSize_cases {content : Text} (starts : layoutSize content ≠ 0) :
    (∃ point rest, content = point :: rest ∧ point.isSpace = true) ∨
    (∃ comment rest, content = text "//" ++ (comment ++ rest) ∧ IsLine comment ∧
      ∀ point ∈ rest.head?, point.isLineEnd = true) ∨
    (∃ comment rest, content = text "/*" ++ (comment ++ rest) ∧
      blockRest comment = some comment.length) := by
  cases content with
  | nil => exact absurd rfl starts
  | cons point content =>
    cases space : point.isSpace with
    | true => exact Or.inl ⟨point, content, rfl, space⟩
    | false =>
      have slash : point = CodePoint.ofChar '/' :=
        Decidable.byContradiction fun other => starts (layoutSize_eq_zero_of_head space other _)
      subst slash
      cases content with
      | nil => exact absurd rfl starts
      | cons mark content =>
        rw [layoutSize_slash] at starts
        by_cases line : mark = CodePoint.ofChar '/'
        · subst line
          have whole := List.takeWhile_append_dropWhile
            (p := fun next : CodePoint => !next.isLineEnd) (l := content)
          refine Or.inr (Or.inl ⟨_, _, congrArg (text "//" ++ ·) whole.symm, ?_, ?_⟩)
          · intro point member
            have inside : (!point.isLineEnd) = true :=
              List.mem_takeWhile_imp (p := fun next : CodePoint => !next.isLineEnd) member
            exact (Bool.not_eq_true' _).mp inside
          · intro point head
            have stops := List.head?_dropWhile_not (fun next : CodePoint => !next.isLineEnd) content
            rw [Option.mem_def.mp head] at stops
            simpa using stops
        · by_cases block : mark = CodePoint.ofChar '*'
          · subst block
            rw [if_neg line, if_pos rfl] at starts
            cases found : blockRest content with
            | none => exact absurd (by rw [found]; rfl) starts
            | some size =>
              have bounds := blockRest_bounds found
              have taken : (content.take size).length = size := List.length_take_of_le bounds.2
              have closed := found
              rw [← List.take_append_drop size content] at closed
              have alone := blockRest_append closed (Nat.le_of_eq taken.symm) []
              rw [List.append_nil] at alone
              refine Or.inr (Or.inr ⟨content.take size, content.drop size, ?_, ?_⟩)
              · rw [List.take_append_drop]
                rfl
              · rw [alone, taken]
          · rw [if_neg line, if_neg block] at starts
            exact absurd rfl starts

/-- A unit at the front of a text does not change where the run ends. -/
theorem Text.units_append_of_size_eq {size : Text → Nat} {unit rest : Text} (nonempty : unit ≠ [])
    (taken : size (unit ++ rest) = unit.length) :
    ((unit ++ rest).units size).2 = (rest.units size).2 := by
  have some : size (unit ++ rest) ≠ 0 := by
    rw [taken]
    exact (List.length_pos_of_ne_nil nonempty).ne'
  rw [Text.units_of_size_ne_zero some (List.append_ne_nil_of_left_ne_nil nonempty rest), taken,
    List.drop_left]

/-- Layout at the end of a text: blanks and comments, of which the last one may be open. -/
inductive IsLayout : Text → Prop where
  | nil : IsLayout []
  | blank {point : CodePoint} {rest : Text} (space : point.isSpace = true)
      (later : IsLayout rest) : IsLayout (point :: rest)
  | line {comment rest : Text} (inside : IsLine comment)
      (ended : ∀ point ∈ rest.head?, point.isLineEnd = true) (later : IsLayout rest) :
      IsLayout (text "//" ++ (comment ++ rest))
  | block {comment rest : Text} (closed : blockRest comment = some comment.length)
      (later : IsLayout rest) : IsLayout (text "/*" ++ (comment ++ rest))

section Units

variable {point : CodePoint} {comment rest : Text}

theorem units_blank (space : point.isSpace = true) (rest : Text) :
    (Text.units layoutSize (point :: rest)).2 = (rest.units layoutSize).2 :=
  Text.units_append_of_size_eq (List.cons_ne_nil point []) (layoutSize_of_isSpace space rest)

theorem units_line (inside : IsLine comment)
    (ended : ∀ point ∈ rest.head?, point.isLineEnd = true) :
    ((text "//" ++ (comment ++ rest)).units layoutSize).2 = (rest.units layoutSize).2 := by
  rw [← List.append_assoc]
  refine Text.units_append_of_size_eq (List.cons_ne_nil _ _) ?_
  rw [List.append_assoc, layoutSize_line inside ended, List.length_append]
  exact Nat.add_comm _ _

theorem units_block (closed : blockRest comment = some comment.length) (rest : Text) :
    ((text "/*" ++ (comment ++ rest)).units layoutSize).2 = (rest.units layoutSize).2 := by
  rw [← List.append_assoc]
  refine Text.units_append_of_size_eq (List.cons_ne_nil _ _) ?_
  rw [List.append_assoc, layoutSize_block closed, List.length_append]
  exact Nat.add_comm _ _

end Units

theorem IsTail.isLayout {tail : Text} (ends : IsTail tail) : IsLayout tail := by
  rw [IsTail] at ends
  fun_induction Text.units layoutSize tail with
  | case1 tail stop =>
    subst ends
    exact .nil
  | case2 tail going later rest split inductionHypothesis =>
    rw [split] at inductionHypothesis
    have behind := inductionHypothesis ends
    rcases layoutSize_cases fun none => going (Or.inl none) with ⟨point, rest, rfl, space⟩ |
      ⟨comment, rest, rfl, inside, ended⟩ | ⟨comment, rest, rfl, closed⟩
    · rw [layoutSize_of_isSpace space] at behind
      exact .blank space behind
    · rw [layoutSize_line inside ended] at behind
      have dropped : IsLayout ((comment ++ rest).drop comment.length) := behind
      rw [List.drop_left] at dropped
      exact .line inside ended dropped
    · rw [layoutSize_block closed] at behind
      have dropped : IsLayout ((comment ++ rest).drop comment.length) := behind
      rw [List.drop_left] at dropped
      exact .block closed dropped

theorem IsLayout.isTail {tail : Text} (layout : IsLayout tail) : IsTail tail := by
  induction layout with
  | nil => exact isTail_nil
  | blank space _ inductionHypothesis =>
    rw [IsTail, units_blank space]
    exact inductionHypothesis
  | line inside ended _ inductionHypothesis =>
    rw [IsTail, units_line inside ended]
    exact inductionHypothesis
  | block closed _ inductionHypothesis =>
    rw [IsTail, units_block closed]
    exact inductionHypothesis

/-! ### Layout that goes on -/

namespace IsGap

variable {point : CodePoint} {comment gap : Text}

theorem blank (space : point.isSpace = true) (closed : IsGap gap) : IsGap (point :: gap) := by
  rw [IsGap, List.cons_append, units_blank space]
  exact closed

theorem line (inside : IsLine comment) (ended : ∀ point ∈ gap.head?, point.isLineEnd = true)
    (nonempty : gap ≠ []) (closed : IsGap gap) : IsGap (text "//" ++ (comment ++ gap)) := by
  rw [IsGap, List.append_assoc, List.append_assoc, units_line inside]
  · exact closed
  · rw [List.head?_append_of_ne_nil _ nonempty]
    exact ended

theorem block (ended : blockRest comment = some comment.length) (closed : IsGap gap) :
    IsGap (text "/*" ++ (comment ++ gap)) := by
  rw [IsGap, List.append_assoc, List.append_assoc, units_block ended]
  exact closed

end IsGap

namespace IsLayout

variable {tail : Text}

/-- A line break closes layout. -/
theorem isGap_append_lineBreak (layout : IsLayout tail) : IsGap (tail ++ text "\n") := by
  induction layout with
  | nil => exact isGap_nil.blank (by decide)
  | blank space _ inductionHypothesis => exact inductionHypothesis.blank space
  | @line comment rest inside ended _ inductionHypothesis =>
    rw [List.append_assoc, List.append_assoc]
    refine .line inside ?_ (List.append_ne_nil_of_right_ne_nil rest (List.cons_ne_nil _ _))
      inductionHypothesis
    cases rest with
    | nil => exact fun point head => by cases head; decide
    | cons next rest => exact ended
  | block closed _ inductionHypothesis =>
    rw [List.append_assoc, List.append_assoc]
    exact inductionHypothesis.block closed

/-- Layout is closed, or takes in whatever else stands on the line. -/
theorem isGap_or_append (layout : IsLayout tail) :
    IsGap tail ∨ ∀ line, IsLine line → IsLayout (tail ++ line) := by
  induction layout with
  | nil => exact Or.inl isGap_nil
  | blank space _ inductionHypothesis =>
    exact inductionHypothesis.imp (.blank space) fun opens line same =>
      .blank space (opens line same)
  | @line comment rest inside ended _ inductionHypothesis =>
    cases rest with
    | nil =>
      refine Or.inr fun line same => ?_
      rw [List.append_nil, List.append_assoc, ← List.append_nil (comment ++ line)]
      refine .line (fun point member => ?_) nofun .nil
      exact (List.mem_append.mp member).elim (inside point) (same point)
    | cons next rest =>
      refine inductionHypothesis.imp (.line inside ended (List.cons_ne_nil next rest))
        fun opens line same => ?_
      rw [List.append_assoc, List.append_assoc]
      exact .line inside ended (opens line same)
  | block closed _ inductionHypothesis =>
    refine inductionHypothesis.imp (.block closed) fun opens line same => ?_
    rw [List.append_assoc, List.append_assoc]
    exact .block closed (opens line same)

end IsLayout

/-! ### Layout without the blanks at its ends -/

/-- A block comment ends with a slash. -/
theorem getLast?_of_blockRest {comment : Text} (closed : blockRest comment = some comment.length) :
    comment.getLast? = some (CodePoint.ofChar '/') := by
  fun_induction blockRest comment with
  | case1 star slash rest marks =>
    simp only [List.length_cons, Option.some.injEq] at closed
    obtain rfl : rest = [] := List.length_eq_zero_iff.mp (by omega)
    rw [marks.2]
    rfl
  | case2 star slash rest open_ inductionHypothesis =>
    obtain ⟨size, found, same⟩ := Option.map_eq_some_iff.mp closed
    rw [List.length_cons, Nat.add_right_cancel_iff] at same
    rw [List.getLast?_cons_cons]
    exact inductionHypothesis (by rw [found, same])
  | case3 => cases closed

/-- Layout that ends with a blank is layout without it. -/
theorem IsLayout.of_concat {front : Text} {last : CodePoint} (layout : IsLayout (front ++ [last]))
    (blank : last.isBlank = true) : IsLayout front := by
  have notSlash : last ≠ CodePoint.ofChar '/' := by
    rintro rfl
    revert blank
    decide
  generalize whole : front ++ [last] = tail at layout
  induction layout generalizing front with
  | nil => exact absurd whole (List.append_ne_nil_of_right_ne_nil front (List.cons_ne_nil _ _))
  | blank space _ inductionHypothesis =>
    cases front with
    | nil => exact .nil
    | cons point front =>
      rw [List.cons_append, List.cons.injEq] at whole
      rw [whole.1]
      exact .blank space (inductionHypothesis whole.2)
  | @line comment rest inside ended _ inductionHypothesis =>
    rcases List.eq_nil_or_concat' rest with rfl | ⟨rest, end_, rfl⟩
    · rcases List.eq_nil_or_concat' comment with rfl | ⟨comment, end_, rfl⟩
      · have slash := congrArg List.getLast? whole
        rw [List.getLast?_concat] at slash
        exact absurd (Option.some.inj slash) notSlash
      · rw [List.append_nil, ← List.append_assoc] at whole
        rw [(List.append_inj' whole rfl).1, ← List.append_nil comment]
        exact .line (fun point member => inside point (List.mem_append_left _ member)) nofun .nil
    · rw [← List.append_assoc, ← List.append_assoc] at whole
      obtain ⟨rfl, same⟩ := List.append_inj' whole rfl
      rw [List.append_assoc]
      refine .line inside (fun point head => ended point ?_) (inductionHypothesis (by rw [same]))
      rw [List.head?_append, Option.mem_def.mp head]
      rfl
  | @block comment rest closed _ inductionHypothesis =>
    rcases List.eq_nil_or_concat' rest with rfl | ⟨rest, end_, rfl⟩
    · obtain ⟨comment, rfl⟩ := List.getLast?_eq_some_iff.mp (getLast?_of_blockRest closed)
      rw [List.append_nil, ← List.append_assoc] at whole
      exact absurd (List.cons.inj (List.append_inj' whole rfl).2).1 notSlash
    · rw [← List.append_assoc, ← List.append_assoc] at whole
      obtain ⟨rfl, same⟩ := List.append_inj' whole rfl
      rw [List.append_assoc]
      exact .block closed (inductionHypothesis (by rw [same]))

theorem IsGap.of_cons {point : CodePoint} {gap : Text} (closed : IsGap (point :: gap))
    (blank : point.isBlank = true) : IsGap gap := by
  have notSlash : point ≠ CodePoint.ofChar '/' := by
    rintro rfl
    revert blank
    decide
  have starts : layoutSize (point :: (gap ++ text ";")) ≠ 0 :=
    closed.layoutSize_ne_zero (List.cons_ne_nil point gap) (by decide)
  have space : point.isSpace = true :=
    Bool.of_not_eq_false fun other => starts (layoutSize_eq_zero_of_head other notSlash _)
  rw [IsGap, List.cons_append, units_blank space] at closed
  exact closed

/-- Closed layout stays closed without the blanks in front. -/
theorem IsGap.trimStart {gap : Text} (closed : IsGap gap) : IsGap gap.trimStart := by
  induction gap with
  | nil => exact closed
  | cons point gap inductionHypothesis =>
    rw [Text.trimStart]
    by_cases blank : point.isBlank = true
    · rw [List.dropWhile_cons_of_pos blank]
      exact inductionHypothesis (closed.of_cons blank)
    · rw [List.dropWhile_cons_of_neg blank]
      exact closed

/-- Layout at the end of a text stays layout without the blanks at its end. -/
theorem IsLayout.trimEnd {tail : Text} (layout : IsLayout tail) : IsLayout tail.trimEnd := by
  induction tail using List.reverseRecOn with
  | nil => exact layout
  | append_singleton front last inductionHypothesis =>
    rw [Text.trimEnd, List.reverse_concat]
    by_cases blank : last.isBlank = true
    · rw [List.dropWhile_cons_of_pos blank]
      exact inductionHypothesis (layout.of_concat blank)
    · rw [List.dropWhile_cons_of_neg blank, ← List.reverse_concat, List.reverse_reverse]
      exact layout

namespace Text

variable {front : Text} {point : CodePoint}

/-- Trimming stops at the first code point that is no blank. -/
theorem trimStart_append (marked : front.head? = some point) (mark : point.isBlank = false)
    (gap : Text) : trimStart (gap ++ front) = gap.trimStart ++ front := by
  obtain ⟨later, rfl⟩ := List.head?_eq_some_iff.mp marked
  rw [trimStart, trimStart, List.dropWhile_append]
  split
  · rename_i empty
    rw [List.dropWhile_cons_of_neg (Bool.eq_false_iff.mp mark), List.isEmpty_iff.mp empty,
      List.nil_append]
  · rfl

theorem trimEnd_append (marked : front.getLast? = some point) (mark : point.isBlank = false)
    (tail : Text) : trimEnd (front ++ tail) = front ++ tail.trimEnd := by
  have reversed : front.reverse.head? = some point := by rw [List.head?_reverse, marked]
  have trimmed := trimStart_append reversed mark tail.reverse
  rw [trimEnd, trimEnd, List.reverse_append]
  show (trimStart (tail.reverse ++ front.reverse)).reverse = _
  rw [trimmed, List.reverse_append, List.reverse_reverse]
  rfl

end Text

/-! ### Tokens behind layout -/

/-- A mark or a literal does not end with a blank. -/
theorem Token.IsWhole.exists_last {token : Token} (whole : token.IsWhole)
    (other : token.kind ≠ .name) :
    ∃ last, token.body.getLast? = some last ∧ last.isBlank = false := by
  rw [Token.IsWhole] at whole
  rcases tokenSize?_cases whole with ⟨point, rest, spelled, marked, size⟩ |
    ⟨quote, inner, rest, marks, -, spelled, -, -, size⟩ | ⟨point, name, rest, -, -, -, named, -⟩
  · obtain rfl : rest = [] := by
      rw [spelled, List.length_cons] at size
      exact List.length_eq_zero_iff.mp (Nat.succ.inj size)
    refine ⟨point, by rw [spelled, List.getLast?_singleton], ?_⟩
    unfold TokenKind.ofMark? at marked
    split_ifs at marked with same same same same same same <;> (subst same; decide)
  · obtain rfl : rest = [] := by
      rw [spelled] at size
      simp only [List.length_cons, List.length_append] at size
      exact List.length_eq_zero_iff.mp (by omega)
    refine ⟨quote, ?_, ?_⟩
    · rw [spelled, ← List.cons_append, List.getLast?_concat]
    · rcases marks with rfl | rfl <;> decide
  · exact absurd named other

namespace Tokens

variable {token : Token} {found later : List Token} {gap : Text}

theorem WellSpaced.append (spaced : WellSpaced found) (spacedToo : WellSpaced (token :: later))
    (apart : ∀ last ∈ found.getLast?, last.IsApart token) :
    WellSpaced (found ++ token :: later) where
  gaps other member := (List.mem_append.mp member).elim (spaced.gaps other) (spacedToo.gaps other)
  whole other member :=
    (List.mem_append.mp member).elim (spaced.whole other) (spacedToo.whole other)
  apart := by
    refine List.isChain_append.mpr ⟨spaced.apart, spacedToo.apart, fun last ends next head => ?_⟩
    cases head
    exact apart last ends

/-- The layout in front of the first token can be any that is closed. -/
theorem WellSpaced.led (spaced : WellSpaced (token :: later)) (closed : IsGap gap) :
    WellSpaced ({ token with gap } :: later) where
  gaps other member := by
    rcases List.mem_cons.mp member with rfl | member
    · exact closed
    · exact spaced.gaps other (List.mem_cons_of_mem token member)
  whole other member := by
    rcases List.mem_cons.mp member with rfl | member
    · exact spaced.whole token List.mem_cons_self
    · exact spaced.whole other (List.mem_cons_of_mem token member)
  apart := by
    obtain ⟨next, rest⟩ := List.isChain_cons.mp spaced.apart
    exact List.isChain_cons.mpr ⟨next, rest⟩

end Tokens

/-- A scan finds the tokens of a text and then those of the text behind it, if the layout between
them is closed and keeps them apart. -/
theorem scan_append {first second tail end_ : Text} {found later : List Token} {token : Token}
    (scanned : scan first = .ok (found, tail)) (closed : IsGap tail)
    (scannedToo : scan second = .ok (token :: later, end_))
    (apart : ∀ last ∈ found.getLast?, last.IsApart { token with gap := tail ++ token.gap }) :
    scan (first ++ second) =
      .ok (found ++ { token with gap := tail ++ token.gap } :: later, end_) := by
  obtain ⟨clean, rfl, spaced, -⟩ := scan_eq_ok_iff.mp scanned
  obtain ⟨cleanToo, rfl, spacedToo, ends⟩ := scan_eq_ok_iff.mp scannedToo
  have gap := closed.append (spacedToo.gaps token List.mem_cons_self)
  refine scan_eq_ok_iff.mpr ⟨?_, ?_, spaced.append (spacedToo.led gap) apart, ends⟩
  · exact fun point member => (List.mem_append.mp member).elim (clean point) (cleanToo point)
  · simp only [Tokens.written_append, Tokens.written_cons, List.append_assoc]

/-- The layout at the end of a text can be any other. -/
theorem scan_of_isTail {content tail other : Text} {found : List Token}
    (scanned : scan content = .ok (found, tail)) (ends : IsTail other)
    (clean : ∀ point ∈ other, point.toNat ≠ 0) :
    scan (Tokens.written found ++ other) = .ok (found, other) := by
  obtain ⟨cleanToo, rfl, spaced, -⟩ := scan_eq_ok_iff.mp scanned
  refine scan_eq_ok_iff.mpr ⟨fun point member => ?_, rfl, spaced, ends⟩
  rcases List.mem_append.mp member with inside | behind
  · exact cleanToo point (List.mem_append_left tail inside)
  · exact clean point behind

end ImportBinding
