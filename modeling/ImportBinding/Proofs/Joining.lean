/-
This file writes the texts of statements one after another.

The text of a statement ends with a line break. Whatever comment stands at its end is closed by it,
and the next declaration starts a line. So a text made of such texts is a program again, with the
declarations of all of them, and its first declaration stays where it was.
-/

import ImportBinding.Proofs.Coherence

namespace ImportBinding

/-! ### Programs that end with a line break -/

/-- A token starts a line when there is a line feed in front of it. -/
theorem Token.startsLine_of_mem {token : Token} (closed : IsGap token.gap)
    (lineFeed : CodePoint.ofChar '\n' ∈ token.gap) : token.startsLine = true := by
  have whole := Text.units_flatten layoutSize token.gap
  rw [show (token.gap.units layoutSize).2 = [] from closed.isTail, List.append_nil] at whole
  rw [← whole] at lineFeed
  obtain ⟨unit, member, within⟩ := List.mem_flatten.mp lineFeed
  refine List.any_eq_true.mpr ⟨unit, member, ?_⟩
  rw [breaksLine, Bool.or_eq_true]
  exact Or.inl (List.any_eq_true.mpr ⟨_, within, by decide⟩)

/-- The line break at the end of a program is layout behind its last token. -/
theorem IsRow.exists_tail {dialect : Dialect} {content tail : Text} {tokens : List Token}
    {items : List Item} (row : IsRow dialect tokens items)
    (scanned : scan content = .ok (tokens, tail)) (ends : text "\n" <:+ content) :
    ∃ front, tail = front ++ text "\n" := by
  obtain ⟨-, whole, spaced, -⟩ := scan_eq_ok_iff.mp scanned
  obtain ⟨before, newline⟩ := ends
  have last : content.getLast? = some (CodePoint.ofChar '\n') := by
    rw [← newline]
    exact List.getLast?_concat
  rcases List.eq_nil_or_concat' tail with rfl | ⟨front, point, rfl⟩
  · rw [List.append_nil] at whole
    have nonempty : tokens ≠ [] := by
      rintro rfl
      rw [whole] at last
      cases last
    obtain ⟨point, mark, notBlank⟩ := row.exists_last spaced nonempty
    rw [whole, mark] at last
    cases last
    exact absurd notBlank (by decide)
  · rw [whole, ← List.append_assoc, List.getLast?_concat] at last
    exact ⟨front, by rw [Option.some.inj last]; rfl⟩

/-- A program may be written behind a program that ends with a line break. -/
theorem Program.ofText_append {dialect : Dialect} {first second tail end_ : Text}
    {declaration next : Declaration} {items later : List Item}
    (parsed : Program.ofText dialect first = .ok ⟨.declaration declaration :: items, tail⟩)
    (ends : text "\n" <:+ first)
    (parsedToo : Program.ofText dialect second = .ok ⟨.declaration next :: later, end_⟩) :
    Program.ofText dialect (first ++ second) =
      .ok ⟨.declaration declaration ::
        (items ++ .declaration (next.led (tail ++ next.keyword.gap)) :: later), end_⟩ := by
  obtain ⟨tokens, scanned, row⟩ := Program.ofText_eq_ok_cons_iff_isRow.mp parsed
  obtain ⟨_, scannedToo, rowToo⟩ := Program.ofText_eq_ok_cons_iff_isRow.mp parsedToo
  obtain ⟨rest, rfl, moved⟩ := rowToo.led (tail ++ next.keyword.gap)
  obtain ⟨front, rfl⟩ := row.exists_tail scanned ends
  obtain ⟨-, -, -, layout⟩ := scan_eq_ok_iff.mp scanned
  obtain ⟨-, -, spaced, -⟩ := scan_eq_ok_iff.mp scannedToo
  have closed : IsGap (front ++ text "\n") :=
    (layout.isLayout.of_concat (by decide)).isGap_append_lineBreak
  have gap := closed.append (spaced.gaps next.keyword List.mem_cons_self)
  have lineFeed : CodePoint.ofChar '\n' ∈ front ++ text "\n" ++ next.keyword.gap :=
    List.mem_append_left _ (List.mem_append_right front (List.mem_singleton_self _))
  refine Program.ofText_eq_ok_cons_iff_isRow.mpr ⟨_, scan_append scanned closed scannedToo
    fun _ _ _ _ => List.ne_nil_of_mem lineFeed, row.append moved fun token head => ?_⟩
  cases head
  exact ⟨Token.startsLine_of_mem gap lineFeed, rowToo.framed.keyword_ne_semicolon⟩

/-! ### Statements -/

namespace Statement

/-- The texts of some statements one after another. -/
def joined (statements : List Statement) : Text := statements.flatMap content

/-- The text of some statements one after another is a program with all of their declarations, and
starts with the declaration of the first one. -/
theorem exists_program_joined {dialect : Dialect} {first : Statement} {others : List Statement}
    (built : ∀ statement ∈ first :: others, statement.IsBuilt ∧ statement.dialect = dialect) :
    ∃ declaration later tail programs,
      Program.ofText dialect (joined (first :: others)) =
          .ok ⟨.declaration declaration :: later, tail⟩ ∧
        declaration.node 0 = .ok first.node ∧
        List.Forall₂ (fun statement program =>
          Program.ofText dialect statement.content = .ok program) (first :: others) programs ∧
        (declaration :: later.filterMap Item.declaration?).map (Declaration.led []) =
          (programs.flatMap Program.declarations).map (Declaration.led []) := by
  induction others generalizing first with
  | nil =>
    obtain ⟨made, rfl⟩ := built first List.mem_cons_self
    obtain ⟨declaration, rest, later, tail, reads⟩ := made.exists_reads
    have parsed := Program.ofText_eq_ok_cons_iff.mpr ⟨rest, reads.opens⟩
    refine ⟨declaration, later, tail, [_], ?_, reads.node, .cons parsed .nil, ?_⟩
    · rw [joined, List.flatMap_singleton, parsed]
    · rw [List.flatMap_singleton]
      rfl
  | cons next others inductionHypothesis =>
    obtain ⟨made, rfl⟩ := built first List.mem_cons_self
    obtain ⟨declaration, rest, later, tail, reads⟩ := made.exists_reads
    have parsed := Program.ofText_eq_ok_cons_iff.mpr ⟨rest, reads.opens⟩
    obtain ⟨second, items, end_, programs, parsedToo, -, each, same⟩ :=
      inductionHypothesis fun statement member =>
        built statement (List.mem_cons_of_mem first member)
    have newline : text "\n" <:+ first.content :=
      (List.suffix_append (text ";") (text "\n")).trans reads.normal.ends
    refine ⟨declaration, _, end_, _ :: programs, Program.ofText_append parsed newline parsedToo,
      reads.node, .cons parsed each, ?_⟩
    rw [List.flatMap_cons, List.map_append, ← same]
    simp only [List.filterMap_append, List.map_append, List.map_cons, List.filterMap_cons,
      Item.declaration?, Program.declarations, Declaration.led]
    rfl

/-- The texts of statements in one dialect, written one after another, are a program. Its
declarations are those of the single texts in their order, but for the layout in front of each, and
its node is that of the first statement. -/
theorem readStatement_joined {dialect : Dialect} {first : Statement} {others : List Statement}
    (built : ∀ statement ∈ first :: others, statement.IsBuilt ∧ statement.dialect = dialect) :
    readStatement [] dialect (joined (first :: others)) = .ok (some first.node) ∧
      ∃ program programs,
        Program.ofText dialect (joined (first :: others)) = .ok program ∧
          List.Forall₂ (fun statement program =>
            Program.ofText dialect statement.content = .ok program) (first :: others) programs ∧
          program.declarations.map (Declaration.led []) =
            (programs.flatMap Program.declarations).map (Declaration.led []) := by
  obtain ⟨declaration, later, tail, programs, parsed, node, each, same⟩ :=
    exists_program_joined built
  have encodes : (joined (first :: others)).surrogates? (fun _ => false) = none := by
    refine surrogates?_eq_none_iff.mpr fun point member => ?_
    obtain ⟨statement, listed, inside⟩ := List.mem_flatMap.mp member
    obtain ⟨_, _, _, _, reads⟩ := (built statement listed).1.exists_reads
    exact surrogates?_eq_none_iff.mp reads.encodes point inside
  refine ⟨?_, _, programs, parsed, each, same⟩
  rw [readStatement_nil encodes, parsed]
  show (declaration.node 0).map some = _
  rw [node]
  rfl

/-- Behind an open comment, and with two declarations in the last text, four declarations are
read. -/
theorem readStatement_joined_comment :
    ∃ first second third : Statement,
      ofValue [] (.text (text "x from 'a' // first")) (.ok (text "javascript")) = .ok first ∧
        ofValue [] (.text (text "\x7b y \x7d from 'b'")) (.ok (text "javascript")) = .ok second ∧
        ofValue [] (.text (text "* as z from 'c'; import w from 'd'")) (.ok (text "javascript")) =
          .ok third ∧
        readStatement [] .javascript (joined [first, second, third]) = .ok (some first.node) ∧
        ∃ program, Program.ofText .javascript (joined [first, second, third]) = .ok program ∧
          program.declarations.length = 4 := by
  have build (given : Text) (count : Nat) (known : (ofValue [] (.text given)
      (.ok (text "javascript"))).toOption.map (fun statement => (statement.dialect,
        (Program.ofText .javascript statement.content).toOption.map
          fun program => program.declarations.length)) = some (.javascript, some count)) :
      ∃ statement, ofValue [] (.text given) (.ok (text "javascript")) = .ok statement ∧
        (statement.IsBuilt ∧ statement.dialect = .javascript) ∧
          ∀ program, Program.ofText .javascript statement.content = .ok program →
            program.declarations.length = count := by
    obtain ⟨statement, made, told⟩ := exists_ok_of_map_toOption known
    obtain ⟨dialect, counted⟩ := Prod.mk.inj told
    refine ⟨statement, made, ⟨.new made, dialect⟩, fun program parsed => ?_⟩
    rw [parsed] at counted
    exact Option.some.inj counted
  obtain ⟨first, made, built, counted⟩ :=
    build (text "x from 'a' // first") 1 (by with_unfolding_all rfl)
  obtain ⟨second, madeToo, builtToo, countedToo⟩ :=
    build (text "\x7b y \x7d from 'b'") 1 (by with_unfolding_all rfl)
  obtain ⟨third, madeThen, builtThen, countedThen⟩ :=
    build (text "* as z from 'c'; import w from 'd'") 2 (by with_unfolding_all rfl)
  obtain ⟨read, program, programs, parsed, each, same⟩ :=
    readStatement_joined (List.forall_mem_cons.mpr ⟨built,
      List.forall_mem_cons.mpr ⟨builtToo, List.forall_mem_singleton.mpr builtThen⟩⟩)
  refine ⟨first, second, third, made, madeToo, madeThen, read, program, parsed, ?_⟩
  obtain _ | ⟨parsedFirst, each⟩ := each
  obtain _ | ⟨parsedSecond, each⟩ := each
  obtain _ | ⟨parsedThird, each⟩ := each
  obtain _ | _ := each
  have lengths := congrArg List.length same
  simpa [counted _ parsedFirst, countedToo _ parsedSecond, countedThen _ parsedThird] using lengths

end Statement

end ImportBinding
