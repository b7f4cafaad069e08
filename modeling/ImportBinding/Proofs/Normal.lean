/-
This file shows what the normal form of a statement looks like, and that a text that looks like one
is its own normal form.

A text that is changed behind its first word and in front of its last semicolon stays normal.
-/

import ImportBinding.Statement.Normal

namespace ImportBinding

/-- A text in normal form: it starts with the word `import`, and ends with a semicolon and a line
break. -/
structure IsNormal (content : Text) : Prop where
  starts : startsWithImport content = true
  ends : text ";\n" <:+ content

/-! ### The first word -/

/-- Whether a text starts with the word `import` is seen from its first seven code points. -/
theorem startsWithImport_append {content : Text} (long : 7 ≤ content.length) (rest : Text) :
    startsWithImport (content ++ rest) = startsWithImport content := by
  obtain ⟨front, next, later, rfl, size⟩ :
      ∃ front next later, content = front ++ next :: later ∧ front.length = 6 := by
    refine ⟨content.take 6, content[6], content.drop 7, ?_, ?_⟩
    · rw [← List.drop_eq_getElem_cons, List.take_append_drop]
    · rw [List.length_take]
      omega
  have prefixes (rest : Text) :
      (text "import").isPrefixOf (front ++ rest) = (text "import").isPrefixOf front := by
    have short : (text "import").length = front.length := size.symm
    rw [Bool.eq_iff_iff, List.isPrefixOf_iff_prefix, List.isPrefixOf_iff_prefix]
    refine ⟨fun starts => ?_, fun starts => starts.trans (List.prefix_append front rest)⟩
    exact List.prefix_of_prefix_length_le starts (List.prefix_append front rest)
      (Nat.le_of_eq short)
  have drops (rest : Text) : (front ++ rest).drop 6 = rest := List.drop_left' size
  simp only [startsWithImport, List.append_assoc, List.cons_append, prefixes, drops,
    List.head?_cons]

/-- The first word does not reach beyond a semicolon. -/
theorem length_of_startsWithImport {front rest : Text}
    (starts : startsWithImport (front ++ CodePoint.ofChar ';' :: rest) = true) :
    6 ≤ front.length := by
  simp only [startsWithImport, Bool.and_eq_true] at starts
  obtain ⟨after, whole⟩ := List.isPrefixOf_iff_prefix.mp starts.1
  rcases List.append_eq_append_iff.mp whole with ⟨later, rfl, -⟩ | ⟨later, word, same⟩
  · rw [List.length_append]
    exact Nat.le_add_right 6 later.length
  · cases later with
    | nil =>
      rw [List.append_nil] at word
      exact Nat.le_of_eq (congrArg List.length word)
    | cons point later =>
      rw [List.cons_append, List.cons.injEq] at same
      have within : CodePoint.ofChar ';' ∈ text "import" := by
        rw [word, same.1]
        exact List.mem_append_right front List.mem_cons_self
      exact absurd within (by decide)

/-- A text that starts with the word `import` does not start with a blank. -/
theorem trimStart_of_startsWithImport {content : Text} (starts : startsWithImport content = true) :
    content.trimStart = content := by
  simp only [startsWithImport, Bool.and_eq_true] at starts
  obtain ⟨rest, rfl⟩ := List.isPrefixOf_iff_prefix.mp starts.1
  rfl

theorem startsWithImport_introduced (content : Text) :
    startsWithImport (introduced content) = true := by
  unfold introduced
  split
  · assumption
  · rfl

/-! ### The end -/

theorem getLast?_terminated (content : Text) :
    (terminated content).getLast? = some (CodePoint.ofChar ';') := by
  unfold terminated
  split
  · assumption
  · exact List.getLast?_concat

theorem introduced_suffix (content : Text) : content <:+ introduced content := by
  unfold introduced
  split
  · exact List.suffix_refl content
  · exact List.suffix_append _ content

/-! ### Blanks at the ends -/

/-- Blanks at the end of a text are trimmed off with the others. -/
theorem Text.trimEnd_append_blanks {blanks : Text} (blank : ∀ point ∈ blanks, point.isBlank = true)
    (content : Text) : (content ++ blanks).trimEnd = content.trimEnd := by
  rw [trimEnd, trimEnd, List.reverse_append,
    List.dropWhile_append_of_pos fun point member => blank point (List.mem_reverse.mp member)]

/-- Blanks around a text are trimmed off with the others. -/
theorem Text.trim_append_blanks {front back : Text}
    (blankFront : ∀ point ∈ front, point.isBlank = true)
    (blankBack : ∀ point ∈ back, point.isBlank = true) (content : Text) :
    (front ++ (content ++ back)).trim = content.trim := by
  rw [trim, trim, trimStart, trimStart, List.dropWhile_append_of_pos blankFront,
    List.dropWhile_append]
  split
  · -- the text is blank throughout
    rename_i empty
    have none : back.dropWhile CodePoint.isBlank = [] := by
      rw [← List.append_nil back, List.dropWhile_append_of_pos blankBack]
      rfl
    rw [none, List.isEmpty_iff.mp empty]
  · exact trimEnd_append_blanks blankBack _

/-! ### Normal texts -/

/-- The normal form is normal. -/
theorem isNormal_normalForm (content : Text) : IsNormal (normalForm content) := by
  obtain ⟨front, last⟩ := List.getLast?_eq_some_iff.mp (getLast?_terminated content.trim)
  obtain ⟨word, whole⟩ := introduced_suffix (terminated content.trim)
  have starts := startsWithImport_introduced (terminated content.trim)
  rw [normalForm]
  rw [← whole, last, ← List.append_assoc] at starts ⊢
  refine ⟨?_, word ++ front, by rw [List.append_assoc _ _ (text "\n")]; rfl⟩
  have long := length_of_startsWithImport starts
  rw [startsWithImport_append, starts]
  rw [List.length_append, List.length_singleton]
  omega

/-- A text without the word in front and without the semicolon gets both. -/
theorem normalForm_of_bare {front : Text} {last : CodePoint}
    (starts : (front ++ [last]).trimStart = front ++ [last]) (notBlank : last.isBlank = false)
    (notMark : last ≠ ';') (other : startsWithImport (front ++ [last] ++ text ";") = false) :
    normalForm (front ++ [last]) = text "import " ++ (front ++ ([last] ++ text ";\n")) := by
  have trimmed : (front ++ [last]).trim = front ++ [last] := by
    rw [Text.trim, starts, Text.trimEnd, List.reverse_concat,
      List.dropWhile_cons_of_neg (Bool.eq_false_iff.mp notBlank), ← List.reverse_concat,
      List.reverse_reverse]
  have ended : terminated (front ++ [last]) = front ++ [last] ++ text ";" := by
    rw [terminated, List.getLast?_concat, if_neg fun same => notMark (Option.some.inj same)]
  rw [normalForm, trimmed, ended, introduced, other]
  simp [text]

/-- A normal text is its own normal form. -/
theorem normalForm_of_isNormal {content : Text} (normal : IsNormal content) :
    normalForm content = content := by
  obtain ⟨starts, front, rfl⟩ := normal
  have long : 7 ≤ (front ++ text ";").length := by
    have word := length_of_startsWithImport starts
    rw [List.length_append]
    exact Nat.succ_le_succ word
  have trimmed : Text.trim (front ++ text ";\n") = front ++ text ";" := by
    rw [Text.trim, trimStart_of_startsWithImport starts, Text.trimEnd, List.reverse_append]
    show (text ";" ++ front.reverse).reverse = front ++ text ";"
    rw [List.reverse_append, List.reverse_reverse]
    rfl
  have ended : terminated (front ++ text ";") = front ++ text ";" :=
    if_pos List.getLast?_concat
  have whole : front ++ text ";\n" = (front ++ text ";") ++ text "\n" := by
    rw [List.append_assoc]
    rfl
  rw [normalForm, trimmed, ended, introduced, if_pos, whole]
  rw [whole, startsWithImport_append long] at starts
  exact starts

/-- A normal text stays normal when something behind its first word and in front of its last
semicolon is exchanged. -/
theorem IsNormal.splice {front back old : Text} (normal : IsNormal (front ++ old ++ back))
    (starts : 7 ≤ front.length) (ends : text ";\n" <:+ back) (new : Text) :
    IsNormal (front ++ new ++ back) where
  starts := by
    have first := normal.starts
    rw [List.append_assoc, startsWithImport_append starts] at first ⊢
    exact first
  ends := ends.trans (List.suffix_append _ back)

end ImportBinding
