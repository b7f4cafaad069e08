/-
This file shows that a scan takes a stretch of text no matter what stands behind it.

Scanning goes by the longest stretch, so what follows could in principle decide how much is
taken. It hardly does. The layout in front of a token is taken the same way in front of any
other token, a mark and a literal carry their own end, and a name is taken the same way in front
of anything that does not carry it on. Every statement here says that a stretch that was taken
in front of one rest is taken in front of another.
-/

import ImportBinding.Token

namespace ImportBinding

/-! ### Runs of units -/

namespace Text

/-- Where there is no unit, a run is empty. -/
theorem units_of_size_eq_zero {size : Text → Nat} {content : Text} (none : size content = 0) :
    content.units size = ([], content) := by
  rw [units, if_pos (Or.inl none)]

/-- Where there is a unit, a run takes it and goes on behind it. -/
theorem units_of_size_ne_zero {size : Text → Nat} {content : Text} (some : size content ≠ 0)
    (nonempty : content ≠ []) :
    content.units size =
      (content.take (size content) :: (units size (content.drop (size content))).1,
        (units size (content.drop (size content))).2) := by
  rw [units, if_neg (not_or.mpr ⟨some, nonempty⟩)]

/-- A run stops where there is no unit, or at the end. -/
theorem size_units_snd (size : Text → Nat) (content : Text) :
    size (content.units size).2 = 0 ∨ (content.units size).2 = [] := by
  fun_induction units size content with
  | case1 content stop => exact stop
  | case2 content _ later rest split ih =>
    rw [split] at ih
    exact ih

/-- A run that ends at `rest` takes what stands in front of it. -/
theorem units_fst_flatten {size : Text → Nat} (front : Text) {rest : Text}
    (taken : ((front ++ rest).units size).2 = rest) :
    ((front ++ rest).units size).1.flatten = front := by
  have whole := units_flatten size (front ++ rest)
  rw [taken] at whole
  exact List.append_cancel_right whole

/-- A run that ends in front of some rest has a unit to start with, and that unit ends in front of
the rest too. -/
theorem size_le_of_units_snd {size : Text → Nat} (fits : ∀ content, size content ≤ content.length)
    {front rest : Text} (nonempty : front ≠ []) (taken : ((front ++ rest).units size).2 = rest) :
    size (front ++ rest) ≠ 0 ∧ size (front ++ rest) ≤ front.length := by
  have positive := List.length_pos_iff.mpr nonempty
  have some : size (front ++ rest) ≠ 0 := by
    intro none
    rw [units_of_size_eq_zero none] at taken
    have lengths := congrArg List.length taken
    simp only [List.length_append] at lengths
    omega
  refine ⟨some, ?_⟩
  rw [units_of_size_ne_zero some (List.append_ne_nil_of_left_ne_nil nonempty rest)] at taken
  have shorter := units_length_le size ((front ++ rest).drop (size (front ++ rest)))
  have inside := fits (front ++ rest)
  rw [List.length_append] at inside
  simp only at taken
  rw [taken, List.length_drop, List.length_append] at shorter
  omega

/-- A run that was taken in front of one rest is taken in front of another and goes on in it, if
each of its units is taken there. -/
theorem units_append {size : Text → Nat} (fits : ∀ content, size content ≤ content.length)
    {rest other : Text}
    (unit : ∀ front, front ≠ [] → size (front ++ rest) ≠ 0 →
      size (front ++ rest) ≤ front.length → size (front ++ other) = size (front ++ rest))
    {front : Text} (taken : ((front ++ rest).units size).2 = rest) :
    (front ++ other).units size =
      (((front ++ rest).units size).1 ++ (other.units size).1, (other.units size).2) := by
  induction length : front.length using Nat.strongRecOn generalizing front with
  | ind length inductionHypothesis =>
    by_cases empty : front = []
    · subst empty
      simp only [List.nil_append] at taken ⊢
      have silent : (rest.units size).1 = [] := by
        by_cases stop : size rest = 0 ∨ rest = []
        · rw [units, if_pos stop]
        · have going := not_or.mp stop
          have shorter := units_length_le size (rest.drop (size rest))
          have positive := List.length_pos_iff.mpr going.2
          rw [units_of_size_ne_zero going.1 going.2] at taken
          rw [taken, List.length_drop] at shorter
          omega
      rw [silent, List.nil_append]
    · obtain ⟨some, bounded⟩ := size_le_of_units_snd fits empty taken
      have same := unit front empty some bounded
      have nonempty (later : Text) : front ++ later ≠ [] :=
        List.append_ne_nil_of_left_ne_nil empty later
      rw [units_of_size_ne_zero some (nonempty rest)] at taken ⊢
      rw [units_of_size_ne_zero (by rw [same]; exact some) (nonempty other), same]
      simp only [List.drop_append_of_le_length bounded, List.take_append_of_le_length bounded]
        at taken ⊢
      rw [inductionHypothesis _ (by rw [List.length_drop]; omega) taken rfl, List.cons_append]

/-- A run that was taken in front of one rest is taken in front of another at which it stops, if
each of its units is. -/
theorem units_append_of_units_append {size : Text → Nat}
    (fits : ∀ content, size content ≤ content.length) {rest other : Text}
    (unit : ∀ front, front ≠ [] → size (front ++ rest) ≠ 0 →
      size (front ++ rest) ≤ front.length → size (front ++ other) = size (front ++ rest))
    (stops : size other = 0) {front : Text} (taken : ((front ++ rest).units size).2 = rest) :
    (front ++ other).units size = (((front ++ rest).units size).1, other) := by
  rw [units_append fits unit taken, units_of_size_eq_zero stops, List.append_nil]

end Text

/-! ### Layout -/

/-- A block comment takes at least its closing mark, and no more than there is. -/
theorem blockRest_bounds {content : Text} {size : Nat} (found : blockRest content = some size) :
    2 ≤ size ∧ size ≤ content.length := by
  fun_induction blockRest content generalizing size with
  | case1 star slash rest closing =>
    simp only [Option.some.injEq] at found
    subst found
    simp only [List.length_cons]
    omega
  | case2 star slash rest open_ inductionHypothesis =>
    obtain ⟨inner, taken, rfl⟩ := Option.map_eq_some_iff.mp found
    have bounds := inductionHypothesis taken
    simp only [List.length_cons] at bounds ⊢
    omega
  | case3 => cases found

/-- A block comment that is closed in front of one rest is closed in front of any other. -/
theorem blockRest_append {content rest : Text} {size : Nat}
    (found : blockRest (content ++ rest) = some size) (inside : size ≤ content.length)
    (other : Text) : blockRest (content ++ other) = some size := by
  induction content generalizing size with
  | nil =>
    have bounds := blockRest_bounds found
    simp only [List.length_nil] at inside
    omega
  | cons star content inductionHypothesis =>
    cases content with
    | nil =>
      have bounds := blockRest_bounds found
      simp only [List.length_cons, List.length_nil] at inside
      omega
    | cons slash content =>
      simp only [List.cons_append, blockRest] at found ⊢
      split at found
      · rename_i closing
        rw [if_pos closing]
        exact found
      · rename_i going
        obtain ⟨inner, taken, rfl⟩ := Option.map_eq_some_iff.mp found
        simp only [List.length_cons] at inside
        have later := inductionHypothesis taken (by simp only [List.length_cons]; omega)
        rw [List.cons_append] at later
        rw [if_neg going, later, Option.map_some]

/-- Layout is part of the text that it stands in front of. -/
theorem layoutSize_le_length (content : Text) : layoutSize content ≤ content.length := by
  fun_cases layoutSize content with
  | case1 => exact Nat.le_refl 0
  | case2 => simp
  | case3 => simp
  | case4 comment =>
    have inside := (List.takeWhile_sublist (fun next : CodePoint => !next.isLineEnd)
      (l := comment)).length_le
    simp only [List.length_cons]
    omega
  | case5 comment =>
    cases found : blockRest comment with
    | none => simp
    | some size =>
      have bounds := blockRest_bounds found
      simp only [Option.map_some, Option.getD_some, List.length_cons]
      omega
  | case6 => simp
  | case7 => simp

/-- The end of a line is white space. -/
theorem CodePoint.isSpace_of_isLineEnd {point : CodePoint} (ends : point.isLineEnd = true) :
    point.isSpace = true := by
  simp only [CodePoint.isLineEnd, CodePoint.isSpace, Bool.or_eq_true, decide_eq_true_eq,
    Bool.and_eq_true] at ends ⊢
  omega

/-- White space is layout. -/
theorem layoutSize_of_isSpace {point : CodePoint} (space : point.isSpace = true) (rest : Text) :
    layoutSize (point :: rest) = 1 := by
  simp only [layoutSize, space, if_true]

/-- Layout starts with white space or a slash. -/
theorem layoutSize_eq_zero_of_head {point : CodePoint} (notSpace : point.isSpace = false)
    (notSlash : point ≠ '/') (rest : Text) : layoutSize (point :: rest) = 0 := by
  simp only [layoutSize, notSpace, Bool.false_eq_true, if_false, if_neg notSlash]

/-- A slash starts a comment if another slash or a star follows it. -/
theorem layoutSize_slash (mark : CodePoint) (content : Text) :
    layoutSize (CodePoint.ofChar '/' :: mark :: content) =
      if mark = '/' then 2 + (content.takeWhile fun next => !next.isLineEnd).length
      else if mark = '*' then ((blockRest content).map (· + 2)).getD 0
      else 0 := by
  have notSpace : (CodePoint.ofChar '/').isSpace = false := by decide
  simp only [layoutSize, notSpace, Bool.false_eq_true, if_false, if_true]

/-- A comment is at least two code points long. -/
theorem layoutSize_slash_eq_zero_or (rest : Text) :
    layoutSize (CodePoint.ofChar '/' :: rest) = 0 ∨
      2 ≤ layoutSize (CodePoint.ofChar '/' :: rest) := by
  cases rest with
  | nil => exact Or.inl rfl
  | cons mark content =>
    rw [layoutSize_slash]
    split
    · exact Or.inr (Nat.le_add_right 2 _)
    · split
      · cases blockRest content with
        | none => exact Or.inl rfl
        | some size => exact Or.inr (Nat.le_add_left 2 size)
      · exact Or.inl rfl

/-- A comment up to the end of the line ends in front of a rest that no layout starts. -/
theorem takeWhile_lineEnd_append {comment rest : Text} (nonempty : rest ≠ [])
    (stops : layoutSize rest = 0) (other : Text)
    (inside : ((comment ++ rest).takeWhile fun next => !next.isLineEnd).length ≤ comment.length) :
    (comment ++ other).takeWhile (fun next => !next.isLineEnd) =
      (comment ++ rest).takeWhile fun next => !next.isLineEnd := by
  rw [List.takeWhile_append] at inside
  rw [List.takeWhile_append, List.takeWhile_append]
  by_cases open_ : (comment.takeWhile fun next => !next.isLineEnd).length = comment.length
  · -- an open comment would run into the rest, whose first code point ends no line
    rw [if_pos open_, List.length_append] at inside
    cases rest with
    | nil => exact absurd rfl nonempty
    | cons point rest =>
      cases ends : point.isLineEnd with
      | true =>
        rw [layoutSize_of_isSpace (CodePoint.isSpace_of_isLineEnd ends)] at stops
        omega
      | false =>
        rw [List.takeWhile_cons, ends] at inside
        simp only [Bool.not_false, if_true, List.length_cons] at inside
        omega
  · rw [if_neg open_, if_neg open_]

/-- Layout that was taken in front of a token is taken in front of any rest. -/
theorem layoutSize_append {front rest : Text} (nonempty : rest ≠ []) (stops : layoutSize rest = 0)
    (some : layoutSize (front ++ rest) ≠ 0) (inside : layoutSize (front ++ rest) ≤ front.length)
    (other : Text) : layoutSize (front ++ other) = layoutSize (front ++ rest) := by
  cases front with
  | nil => exact absurd stops some
  | cons point front =>
    simp only [List.cons_append, List.length_cons] at some inside ⊢
    cases space : point.isSpace with
    | true => rw [layoutSize_of_isSpace space, layoutSize_of_isSpace space]
    | false =>
      have slash : point = CodePoint.ofChar '/' :=
        Decidable.byContradiction fun notSlash =>
          some (layoutSize_eq_zero_of_head space notSlash _)
      subst slash
      cases front with
      | nil =>
        have least := layoutSize_slash_eq_zero_or ([] ++ rest)
        simp only [List.length_nil] at inside
        omega
      | cons mark comment =>
        simp only [List.cons_append, layoutSize_slash, List.length_cons] at some inside ⊢
        split
        · rename_i line
          rw [if_pos line] at inside
          rw [takeWhile_lineEnd_append nonempty stops other (by omega)]
        · rename_i notLine
          rw [if_neg notLine] at some inside
          split
          · rename_i block
            rw [if_pos block] at some inside
            cases found : blockRest (comment ++ rest) with
            | none => simp [found] at some
            | some size =>
              simp only [found, Option.map_some, Option.getD_some] at inside
              rw [blockRest_append found (by omega) other]
          · rfl

/-- A run of layout that ends in front of a token ends in front of any rest that starts with no
layout. -/
theorem units_layoutSize_append {gap rest other : Text} (nonempty : rest ≠ [])
    (stops : layoutSize other = 0) (taken : ((gap ++ rest).units layoutSize).2 = rest) :
    (gap ++ other).units layoutSize = (((gap ++ rest).units layoutSize).1, other) := by
  have silent : layoutSize rest = 0 := by
    have ended := Text.size_units_snd layoutSize (gap ++ rest)
    rw [taken] at ended
    exact ended.resolve_right nonempty
  refine Text.units_append_of_units_append layoutSize_le_length (fun front _ some inside => ?_)
    stops taken
  exact layoutSize_append nonempty silent some inside other

/-! ### Escape sequences -/

theorem startsWithHex_append {count : Nat} {content : Text} (inside : count ≤ content.length)
    (rest : Text) : startsWithHex count (content ++ rest) = startsWithHex count content := by
  simp only [startsWithHex, List.take_append_of_le_length inside]

/-- The two forms of an escaped code point: digits in braces, and four digits. -/
theorem unicodeEscapeSize_cons (brace : CodePoint) (rest : Text) :
    unicodeEscapeSize (CodePoint.ofChar 'u' :: brace :: rest) =
      if brace = '\x7b' then
        if rest.takeWhile CodePoint.isHexDigit ≠ [] ∧
            (rest.drop (rest.takeWhile CodePoint.isHexDigit).length).head? =
              some (CodePoint.ofChar '\x7d') then
          (rest.takeWhile CodePoint.isHexDigit).length + 3
        else 0
      else if startsWithHex 4 (brace :: rest) then 5
      else 0 := by
  simp only [unicodeEscapeSize, ne_eq, not_true_eq_false, if_false]

/-- An escaped code point starts with the letter `u` and one more code point. -/
theorem exists_of_unicodeEscapeSize_ne_zero {content : Text}
    (some : unicodeEscapeSize content ≠ 0) :
    ∃ brace rest, content = CodePoint.ofChar 'u' :: brace :: rest := by
  match content with
  | [] => exact absurd rfl some
  | [_] => exact absurd rfl some
  | mark :: brace :: rest =>
    have letter : mark = CodePoint.ofChar 'u' :=
      Decidable.byContradiction fun other => some (by simp only [unicodeEscapeSize, if_pos other])
    exact ⟨brace, rest, by rw [letter]⟩

theorem length_of_startsWithHex {count : Nat} {content : Text}
    (hex : startsWithHex count content = true) : count ≤ content.length := by
  simp only [startsWithHex, Bool.and_eq_true, decide_eq_true_eq, List.length_take] at hex
  omega

/-- A closing brace behind some digits is part of the text. -/
theorem length_lt_of_head?_drop {content : Text} {count : Nat} {point : CodePoint}
    (found : (content.drop count).head? = some point) : count < content.length := by
  rw [List.head?_drop] at found
  exact (List.getElem?_eq_some_iff.mp found).1

/-- An escaped code point is part of the text that it stands in front of. -/
theorem unicodeEscapeSize_le_length (content : Text) :
    unicodeEscapeSize content ≤ content.length := by
  by_cases none : unicodeEscapeSize content = 0
  · omega
  obtain ⟨brace, rest, rfl⟩ := exists_of_unicodeEscapeSize_ne_zero none
  rw [unicodeEscapeSize_cons]
  simp only [List.length_cons]
  split
  · split
    · rename_i closed
      have shorter := length_lt_of_head?_drop closed.2
      omega
    · omega
  · split
    · rename_i hex
      have enough := length_of_startsWithHex hex
      rw [List.length_cons] at enough
      omega
    · omega

/-- A run of code points of a class that ends inside a text does not depend on what follows. -/
theorem takeWhile_append_of_length_lt {content rest : Text} {class_ : CodePoint → Bool}
    (inside : ((content ++ rest).takeWhile class_).length < content.length) (other : Text) :
    (content ++ other).takeWhile class_ = (content ++ rest).takeWhile class_ := by
  rw [List.takeWhile_append] at inside
  rw [List.takeWhile_append, List.takeWhile_append]
  by_cases open_ : (content.takeWhile class_).length = content.length
  · rw [if_pos open_, List.length_append] at inside
    omega
  · rw [if_neg open_, if_neg open_]

/-- An escaped code point is taken the same way in front of any rest. -/
theorem unicodeEscapeSize_append (content : Text) {rest : Text}
    (some : unicodeEscapeSize (content ++ rest) ≠ 0)
    (inside : unicodeEscapeSize (content ++ rest) ≤ content.length) (other : Text) :
    unicodeEscapeSize (content ++ other) = unicodeEscapeSize (content ++ rest) := by
  obtain ⟨brace, later, split_⟩ := exists_of_unicodeEscapeSize_ne_zero some
  match content with
  | [] =>
    simp only [List.length_nil] at inside
    omega
  | [mark] =>
    rw [split_, unicodeEscapeSize_cons] at some inside
    simp only [List.length_cons, List.length_nil] at inside
    split at inside <;> split at inside <;> simp_all
  | mark :: next :: content =>
    simp only [List.cons_append, List.cons.injEq] at split_
    obtain ⟨rfl, rfl, rfl⟩ := split_
    simp only [List.cons_append, unicodeEscapeSize_cons, List.length_cons] at some inside ⊢
    split
    · rename_i opened
      rw [if_pos opened] at some inside
      by_cases closed : (content ++ rest).takeWhile CodePoint.isHexDigit ≠ [] ∧
          ((content ++ rest).drop
            ((content ++ rest).takeWhile CodePoint.isHexDigit).length).head? =
              .some (CodePoint.ofChar '\x7d')
      · rw [if_pos closed] at inside
        have shorter : ((content ++ rest).takeWhile CodePoint.isHexDigit).length <
            content.length := by omega
        have same := takeWhile_append_of_length_lt shorter other
        rw [if_pos closed, same, if_pos]
        refine ⟨closed.1, ?_⟩
        rw [← closed.2, List.head?_drop, List.head?_drop, List.getElem?_append_left shorter,
          List.getElem?_append_left shorter]
      · rw [if_neg closed] at some
        exact absurd rfl some
    · rename_i notOpened
      rw [if_neg notOpened] at some inside
      by_cases hex : startsWithHex 4 (next :: (content ++ rest)) = true
      · rw [if_pos hex] at inside
        have enough : 4 ≤ (next :: content).length := by
          rw [List.length_cons]
          omega
        simp only [← List.cons_append, startsWithHex_append enough]
      · rw [if_neg hex] at some
        exact absurd rfl some

/-! ### Names -/

/-- A part of a name is part of the text that it stands in front of. -/
theorem namePartSize_le_length (content : Text) : namePartSize content ≤ content.length := by
  cases content with
  | nil => exact Nat.le_refl 0
  | cons point rest =>
    have inside := unicodeEscapeSize_le_length rest
    simp only [namePartSize, List.length_cons]
    split
    · split <;> omega
    · split <;> omega

/-- A part of a name is taken the same way in front of any rest. -/
theorem namePartSize_append {front rest : Text} (nonempty : front ≠ [])
    (some : namePartSize (front ++ rest) ≠ 0)
    (inside : namePartSize (front ++ rest) ≤ front.length) (other : Text) :
    namePartSize (front ++ other) = namePartSize (front ++ rest) := by
  cases front with
  | nil => exact absurd rfl nonempty
  | cons point front =>
    simp only [List.cons_append, namePartSize, List.length_cons] at some inside ⊢
    split
    · rename_i backslash
      rw [if_pos backslash] at some inside
      by_cases none : unicodeEscapeSize (front ++ rest) = 0
      · rw [if_pos none] at some
        exact absurd rfl some
      · rw [if_neg none] at inside
        rw [unicodeEscapeSize_append front none (by omega) other]
    · rfl

/-- A name that ends in front of some rest ends in front of any rest that does not carry it on. -/
theorem units_namePartSize_append (name : Text) {rest other : Text} (stops : namePartSize other = 0)
    (taken : ((name ++ rest).units namePartSize).2 = rest) :
    (name ++ other).units namePartSize = (((name ++ rest).units namePartSize).1, other) :=
  Text.units_append_of_units_append namePartSize_le_length
    (fun _ nonempty some inside => namePartSize_append nonempty some inside other) stops taken

/-! ### Literals -/

/-- An escape sequence is part of the text that it stands in front of. -/
theorem escapeSize_le_length (content : Text) : escapeSize content ≤ content.length := by
  cases content with
  | nil => exact Nat.le_refl 0
  | cons point rest =>
    simp only [escapeSize, List.length_cons]
    split
    · have inside := unicodeEscapeSize_le_length (point :: rest)
      rwa [List.length_cons] at inside
    · split
      · split
        · rename_i hex
          have enough := length_of_startsWithHex hex
          omega
        · omega
      · split
        · have inside :=
            (List.takeWhile_sublist CodePoint.isOctalDigit (l := rest.take 2)).length_le
          rw [List.length_take] at inside
          omega
        · split
          · rename_i broken
            cases rest with
            | nil => simp at broken
            | cons next later =>
              simp only [List.length_cons]
              omega
          · omega

/-- What is looked at behind octal digits ends with the quote. -/
theorem takeWhile_isOctalDigit_take_append {quote : CodePoint}
    (notDigit : quote.isOctalDigit = false) (content rest other : Text) :
    ((content ++ quote :: other).take 2).takeWhile CodePoint.isOctalDigit =
      ((content ++ quote :: rest).take 2).takeWhile CodePoint.isOctalDigit := by
  match content with
  | [] => simp [notDigit]
  | [_] => rfl
  | _ :: _ :: _ => rfl

/-- An escape sequence in front of a quote is taken the same way whatever follows the quote. -/
theorem escapeSize_append {quote : CodePoint} (notDigit : quote.isOctalDigit = false)
    {content rest : Text} (some : escapeSize (content ++ quote :: rest) ≠ 0)
    (inside : escapeSize (content ++ quote :: rest) ≤ content.length) (other : Text) :
    escapeSize (content ++ quote :: other) = escapeSize (content ++ quote :: rest) := by
  cases content with
  | nil =>
    simp only [List.length_nil] at inside
    omega
  | cons point content =>
    simp only [List.cons_append, escapeSize, List.length_cons] at some inside ⊢
    split
    · rename_i letter
      rw [if_pos letter] at some inside
      exact unicodeEscapeSize_append (point :: content) some inside _
    · rename_i notLetter
      rw [if_neg notLetter] at some inside
      split
      · rename_i letter
        rw [if_pos letter] at some inside
        by_cases hex : startsWithHex 2 (content ++ quote :: rest) = true
        · rw [if_pos hex] at inside
          simp only [startsWithHex_append (show 2 ≤ content.length by omega)]
        · rw [if_neg hex] at some
          exact absurd rfl some
      · rw [takeWhile_isOctalDigit_take_append notDigit content rest other]
        cases content <;> rfl

/-- A piece of a literal is part of the text that it stands in front of. -/
theorem pieceSize_le_length (quote : CodePoint) (content : Text) :
    pieceSize quote content ≤ content.length := by
  cases content with
  | nil => exact Nat.le_refl 0
  | cons point rest =>
    have inside := escapeSize_le_length rest
    simp only [pieceSize, List.length_cons]
    split
    · split <;> omega
    · split <;> omega

/-- A piece of a literal is taken the same way whatever follows the closing quote. -/
theorem pieceSize_append {quote : CodePoint} (notDigit : quote.isOctalDigit = false)
    {front rest : Text} (nonempty : front ≠ [])
    (some : pieceSize quote (front ++ quote :: rest) ≠ 0)
    (inside : pieceSize quote (front ++ quote :: rest) ≤ front.length) (other : Text) :
    pieceSize quote (front ++ quote :: other) = pieceSize quote (front ++ quote :: rest) := by
  cases front with
  | nil => exact absurd rfl nonempty
  | cons point front =>
    simp only [List.cons_append, pieceSize, List.length_cons] at some inside ⊢
    split
    · rename_i backslash
      rw [if_pos backslash] at some inside
      by_cases none : escapeSize (front ++ quote :: rest) = 0
      · rw [if_pos none] at some
        exact absurd rfl some
      · rw [if_neg none] at inside
        rw [escapeSize_append notDigit none (by omega) other]
    · rfl

/-- The quotes around literals. -/
theorem isOctalDigit_of_isQuote {quote : CodePoint} (marks : quote = '\'' ∨ quote = '"') :
    quote.isOctalDigit = false ∧ quote ≠ '\\' := by
  rcases marks with rfl | rfl <;> decide

/-- No piece of a literal starts with the closing quote. -/
theorem pieceSize_quote {quote : CodePoint} (marks : quote = '\'' ∨ quote = '"') (rest : Text) :
    pieceSize quote (quote :: rest) = 0 := by
  simp only [pieceSize, if_neg (isOctalDigit_of_isQuote marks).2, true_or, if_true]

/-- The pieces of a literal are the same whatever follows the closing quote. -/
theorem units_pieceSize_append {quote : CodePoint} (marks : quote = '\'' ∨ quote = '"')
    {content rest : Text}
    (taken : ((content ++ quote :: rest).units (pieceSize quote)).2 = quote :: rest)
    (other : Text) :
    (content ++ quote :: other).units (pieceSize quote) =
      (((content ++ quote :: rest).units (pieceSize quote)).1, quote :: other) :=
  Text.units_append_of_units_append (pieceSize_le_length quote)
    (fun _ nonempty some inside =>
      pieceSize_append (isOctalDigit_of_isQuote marks).1 nonempty some inside other)
    (pieceSize_quote marks other) taken

/-! ### Tokens -/

/-- A code point with which a name may start: no mark, no quote and no digit. -/
def CodePoint.StartsName (point : CodePoint) : Prop :=
  TokenKind.ofMark? point = none ∧ ¬(point = '\'' ∨ point = '"') ∧ point.isDigit = false

/-- What is known of the token at the front of a text: it is a mark, or a literal between two equal
quotes, or a name up to the first place that does not carry it on. -/
theorem tokenSize?_cases {content : Text} {kind : TokenKind} {size : Nat}
    (sized : tokenSize? content = some (kind, size)) :
    (∃ point rest, content = point :: rest ∧ TokenKind.ofMark? point = some kind ∧ size = 1) ∨
    (∃ quote inner rest, (quote = CodePoint.ofChar '\'' ∨ quote = CodePoint.ofChar '"') ∧
      TokenKind.ofMark? quote = none ∧ content = quote :: (inner ++ quote :: rest) ∧
      (Text.units (pieceSize quote) (inner ++ quote :: rest)).2 = quote :: rest ∧
      kind = .literal ∧ size = inner.length + 2) ∨
    (∃ point name rest, point.StartsName ∧ content = point :: (name ++ rest) ∧
      (Text.units namePartSize (point :: (name ++ rest))).2 = rest ∧
      kind = .name ∧ size = name.length + 1) := by
  cases content with
  | nil => simp [tokenSize?] at sized
  | cons point rest =>
    rw [tokenSize?] at sized
    split at sized
    · rename_i found marked
      simp only [Option.some.injEq, Prod.mk.injEq] at sized
      obtain ⟨rfl, rfl⟩ := sized
      exact Or.inl ⟨point, rest, rfl, marked, rfl⟩
    · rename_i unmarked
      right
      split at sized
      · rename_i marks
        have whole := Text.units_flatten (pieceSize point) rest
        simp only at sized
        split at sized
        · rename_i closed
          simp only [Option.some.injEq, Prod.mk.injEq] at sized
          obtain ⟨rfl, rfl⟩ := sized
          obtain ⟨after, ends⟩ := List.head?_eq_some_iff.mp closed
          rw [ends] at whole
          refine Or.inl ⟨point, (Text.units (pieceSize point) rest).1.flatten, after, marks,
            unmarked, by rw [whole], by rw [whole, ends], rfl, rfl⟩
        · cases sized
      · rename_i unquoted
        have whole := Text.units_flatten namePartSize (point :: rest)
        simp only at sized
        split at sized
        · cases sized
        · rename_i named
          simp only [Option.some.injEq, Prod.mk.injEq] at sized
          obtain ⟨rfl, rfl⟩ := sized
          obtain ⟨nonempty, notDigit⟩ := not_or.mp named
          cases taken : (Text.units namePartSize (point :: rest)).1.flatten with
          | nil => exact absurd (congrArg List.length taken) nonempty
          | cons first name =>
            rw [taken, List.cons_append, List.cons.injEq] at whole
            obtain ⟨rfl, whole⟩ := whole
            refine Or.inr ⟨first, name, (Text.units namePartSize (first :: rest)).2,
              ⟨unmarked, unquoted, Bool.eq_false_iff.mpr notDigit⟩, by rw [whole], by rw [whole],
              rfl, rfl⟩

theorem tokenSize?_mark {point : CodePoint} {kind : TokenKind}
    (marked : TokenKind.ofMark? point = some kind) (rest : Text) :
    tokenSize? (point :: rest) = some (kind, 1) := by
  simp only [tokenSize?, marked]

theorem tokenSize?_literal {quote : CodePoint} {inner rest : Text}
    (marks : quote = '\'' ∨ quote = '"') (unmarked : TokenKind.ofMark? quote = none)
    (taken : (Text.units (pieceSize quote) (inner ++ quote :: rest)).2 = quote :: rest) :
    tokenSize? (quote :: (inner ++ quote :: rest)) = some (.literal, inner.length + 2) := by
  simp only [tokenSize?, unmarked, if_pos marks, taken, List.head?_cons, if_true,
    Text.units_fst_flatten inner taken]

theorem tokenSize?_name {point : CodePoint} {name rest : Text} (starts : point.StartsName)
    (taken : (Text.units namePartSize (point :: (name ++ rest))).2 = rest) :
    tokenSize? (point :: (name ++ rest)) = some (.name, name.length + 1) := by
  obtain ⟨unmarked, unquoted, notDigit⟩ := starts
  have flat := Text.units_fst_flatten (point :: name) taken
  rw [List.cons_append] at flat
  simp only [tokenSize?, unmarked, if_neg unquoted, flat, List.length_cons, notDigit,
    Bool.false_eq_true, or_false]
  rw [if_neg (Nat.succ_ne_zero name.length)]

/-- A token is taken the same way in front of any rest, as long as the rest does not carry on a
name. -/
theorem tokenSize?_append {body rest other : Text} {kind : TokenKind}
    (sized : tokenSize? (body ++ rest) = some (kind, body.length))
    (apart : kind = .name → namePartSize other = 0) :
    tokenSize? (body ++ other) = some (kind, body.length) := by
  rcases tokenSize?_cases sized with ⟨point, later, whole, marked, size⟩ |
    ⟨quote, inner, later, marks, unmarked, whole, taken, rfl, size⟩ |
    ⟨point, name, later, starts, whole, taken, rfl, size⟩
  · obtain ⟨rfl, rfl⟩ : body = [point] ∧ rest = later :=
      List.append_inj whole (by rw [size, List.length_singleton])
    exact tokenSize?_mark marked other
  · obtain ⟨rfl, rfl⟩ : body = quote :: (inner ++ [quote]) ∧ rest = later :=
      List.append_inj (whole.trans (by simp)) (by simp [size])
    have same := units_pieceSize_append marks taken other
    have found := tokenSize?_literal marks unmarked (congrArg Prod.snd same)
    simpa using found
  · obtain ⟨rfl, rfl⟩ : body = point :: name ∧ rest = later :=
      List.append_inj (whole.trans rfl) (by rw [size, List.length_cons])
    have same := units_namePartSize_append (point :: name) (apart rfl) taken
    exact tokenSize?_name starts (congrArg Prod.snd same)

end ImportBinding
