/-
This file writes the text of a statement directly behind the text of another one.

The text of a statement ends with a semicolon in front of its line break. Where that semicolon is a
token, the line break is not needed: another text may follow without it. Where it stands in a
comment up to the end of the line it is none, and the comment takes in the first line of what
follows.
-/

import ImportBinding.Proofs.Joining

namespace ImportBinding

/-! ### The semicolon at the end of a text -/

/-- In front of the line break of a normal text stands a semicolon. -/
theorem IsNormal.exists_unbroken {content : Text} (normal : IsNormal content) :
    ∃ front, content = front ++ text "\n" ∧ front.getLast? = some (CodePoint.ofChar ';') := by
  obtain ⟨front, rfl⟩ := normal.ends
  refine ⟨front ++ text ";", ?_, List.getLast?_concat⟩
  rw [List.append_assoc]
  rfl

/-- A mark or a literal that ends with a semicolon is a semicolon. -/
theorem Token.IsWhole.kind_of_getLast? {token : Token} (whole : token.IsWhole)
    (other : token.kind ≠ .name) (ends : token.body.getLast? = some (CodePoint.ofChar ';')) :
    token.kind = .semicolon := by
  rw [Token.IsWhole] at whole
  rcases tokenSize?_cases whole with ⟨point, rest, spelled, marked, size⟩ |
    ⟨quote, inner, rest, marks, -, spelled, -, -, size⟩ | ⟨point, name, rest, -, -, -, named, -⟩
  · obtain rfl : rest = [] := by
      rw [spelled, List.length_cons] at size
      exact List.length_eq_zero_iff.mp (Nat.succ.inj size)
    rw [spelled, List.getLast?_singleton] at ends
    obtain rfl := Option.some.inj ends
    exact (Option.some.inj marked).symm
  · obtain rfl : rest = [] := by
      rw [spelled] at size
      simp only [List.length_cons, List.length_append] at size
      exact List.length_eq_zero_iff.mp (by omega)
    rw [spelled, ← List.cons_append, List.getLast?_concat] at ends
    obtain rfl := Option.some.inj ends
    rcases marks with same | same <;> exact absurd same (by decide)
  · exact absurd named other

/-- A row whose text ends with a semicolon has it for its last token. -/
theorem IsRow.kind_of_suffix {dialect : Dialect} {tokens : List Token} {items : List Item}
    (row : IsRow dialect tokens items) (spaced : Tokens.WellSpaced tokens)
    (ends : (Tokens.written tokens).getLast? = some (CodePoint.ofChar ';')) :
    ∀ last ∈ tokens.getLast?, last.kind = .semicolon := by
  intro last final
  obtain ⟨front, rfl⟩ := List.getLast?_eq_some_iff.mp final
  have whole := spaced.whole last (List.mem_append_right front (List.mem_singleton_self last))
  refine whole.kind_of_getLast? (row.kind_of_getLast? last final) ?_
  have written : last.body ≠ [] := ne_nil_of_tokenSize? whole
  rw [Tokens.written_append, Tokens.written_cons, Tokens.written_nil, List.append_nil,
    List.getLast?_append_of_ne_nil _ (List.append_ne_nil_of_right_ne_nil _ written),
    List.getLast?_append_of_ne_nil _ written] at ends
  exact ends

/-- Layout that ends with neither a blank nor a slash ends in a comment up to the end of the line,
which takes in whatever else stands on the line. -/
theorem IsLayout.append_line {tail line : Text} {last : CodePoint} (layout : IsLayout tail)
    (ends : tail.getLast? = some last) (mark : last.isSpace = false)
    (notSlash : last ≠ CodePoint.ofChar '/') (inside : IsLine line) : IsLayout (tail ++ line) := by
  induction layout with
  | nil => cases ends
  | @blank point rest space _ inductionHypothesis =>
    cases rest with
    | nil =>
      rw [List.getLast?_singleton, Option.some.injEq] at ends
      rw [← ends, space] at mark
      cases mark
    | cons next rest => exact .blank space (inductionHypothesis ends)
  | @line comment rest same ended _ inductionHypothesis =>
    cases rest with
    | nil =>
      rw [List.append_nil, List.append_assoc, ← List.append_nil (comment ++ line)]
      refine .line (fun point member => ?_) nofun .nil
      exact (List.mem_append.mp member).elim (same point) (inside point)
    | cons next rest =>
      rw [← List.append_assoc, List.getLast?_append_of_ne_nil _ (List.cons_ne_nil _ _)] at ends
      rw [List.append_assoc, List.append_assoc]
      exact .line same ended (inductionHypothesis ends)
  | @block comment rest closed _ inductionHypothesis =>
    cases rest with
    | nil =>
      rw [List.append_nil, List.getLast?_append, getLast?_of_blockRest closed] at ends
      exact absurd (Option.some.inj ends).symm notSlash
    | cons next rest =>
      rw [← List.append_assoc, List.getLast?_append_of_ne_nil _ (List.cons_ne_nil _ _)] at ends
      rw [List.append_assoc, List.append_assoc]
      exact .block closed (inductionHypothesis ends)

/-! ### Programs without their last line break -/

section Programs

variable {dialect : Dialect} {first second tail end_ : Text} {declaration next : Declaration}
  {items later : List Item}

/-- What stands in front of the line break at the end of a program is its tokens and layout that the
line break closes. -/
theorem Program.exists_gap
    (parsed : Program.ofText dialect (first ++ text "\n") =
      .ok ⟨.declaration declaration :: items, tail⟩) :
    ∃ tokens gap, first = Tokens.written tokens ++ gap ∧ tail = gap ++ text "\n" ∧
      scan (first ++ text "\n") = .ok (tokens, tail) ∧
        IsRow dialect tokens (.declaration declaration :: items) := by
  obtain ⟨tokens, scanned, row⟩ := Program.ofText_eq_ok_cons_iff_isRow.mp parsed
  obtain ⟨gap, rfl⟩ := row.exists_tail scanned (List.suffix_append _ _)
  obtain ⟨-, whole, -, -⟩ := scan_eq_ok_iff.mp scanned
  rw [← List.append_assoc] at whole
  exact ⟨tokens, gap, List.append_cancel_right whole, rfl, scanned, row⟩

/-- A program may be written directly behind a program whose last token is a semicolon. -/
theorem Program.ofText_append_of_semicolon
    (parsed : Program.ofText dialect (first ++ text "\n") =
      .ok ⟨.declaration declaration :: items, text "\n"⟩)
    (ends : first.getLast? = some (CodePoint.ofChar ';'))
    (parsedToo : Program.ofText dialect second = .ok ⟨.declaration next :: later, end_⟩) :
    Program.ofText dialect (first ++ second) =
      .ok ⟨.declaration declaration :: (items ++ .declaration next :: later), end_⟩ := by
  obtain ⟨tokens, gap, rfl, line, scanned, row⟩ := Program.exists_gap parsed
  obtain rfl : gap = [] := (List.append_cancel_right (line : [] ++ text "\n" = _)).symm
  obtain ⟨_, scannedToo, rowToo⟩ := Program.ofText_eq_ok_cons_iff_isRow.mp parsedToo
  obtain ⟨rest, rfl, -⟩ := rowToo.led []
  obtain ⟨-, -, spaced, -⟩ := scan_eq_ok_iff.mp scanned
  rw [List.append_nil] at ends ⊢
  have semicolon := row.kind_of_suffix spaced ends
  have rescanned := scan_of_isTail scanned isTail_nil nofun
  rw [List.append_nil] at rescanned
  refine Program.ofText_eq_ok_cons_iff_isRow.mpr ⟨_, scan_append rescanned isGap_nil scannedToo
    fun last final named => ?_, row.append_of_apart rowToo fun last final other => ?_⟩
  · rw [semicolon last final] at named
    cases named
  · exact absurd (semicolon last final) other

/-- A line behind a program that ends in a comment is part of the comment. -/
theorem Program.ofText_append_line {line : Text}
    (parsed : Program.ofText dialect (first ++ text "\n") =
      .ok ⟨.declaration declaration :: items, tail⟩)
    (ends : first.getLast? = some (CodePoint.ofChar ';')) (open_ : tail ≠ text "\n")
    (inside : IsLine line) (clean : ∀ point ∈ line, point.toNat ≠ 0) :
    ∃ longer, Program.ofText dialect (first ++ (line ++ text "\n")) =
      .ok ⟨.declaration declaration :: items, longer⟩ := by
  obtain ⟨tokens, gap, rfl, rfl, scanned, row⟩ := Program.exists_gap parsed
  obtain ⟨cleanToo, -, -, layout⟩ := scan_eq_ok_iff.mp scanned
  have nonempty : gap ≠ [] := by
    rintro rfl
    exact open_ rfl
  rw [List.getLast?_append_of_ne_nil _ nonempty] at ends
  have taken := (layout.isLayout.of_concat (by decide)).append_line ends (by decide) (by decide)
    inside
  refine ⟨gap ++ line ++ text "\n", Program.ofText_eq_ok_cons_iff_isRow.mpr ⟨tokens, ?_, row⟩⟩
  have closed := taken.isGap_append_lineBreak.isTail
  have rescanned := scan_of_isTail scanned closed fun point member => ?_
  · simpa only [List.append_assoc] using rescanned
  · simp only [List.mem_append] at member cleanToo
    rcases member with (before | within) | newline
    · exact cleanToo point (Or.inl (Or.inr before))
    · exact clean point within
    · exact cleanToo point (Or.inr newline)

end Programs

/-! ### Statements -/

namespace Statement

/-- The text of a statement without the line break at its end. -/
def unbroken (statement : Statement) : Text := statement.content.dropLast

/-- A statement is terminated when the semicolon at the end of its text is a token. -/
def IsTerminated (statement : Statement) : Prop :=
  ∃ front semicolon, scan statement.content = .ok (front ++ [semicolon], text "\n") ∧
    semicolon.kind = .semicolon

section Reads

variable {statement : Statement} {declaration : Declaration} {rest : List Token}
  {later : List Item} {tail : Text} (reads : statement.Reads declaration rest later tail)

include reads

theorem Reads.unbroken_append : statement.unbroken ++ text "\n" = statement.content := by
  obtain ⟨front, whole, -⟩ := reads.normal.exists_unbroken
  rw [unbroken, whole, show (front ++ text "\n").dropLast = front from List.dropLast_concat]

theorem Reads.getLast?_unbroken :
    statement.unbroken.getLast? = some (CodePoint.ofChar ';') := by
  obtain ⟨front, whole, ends⟩ := reads.normal.exists_unbroken
  rw [unbroken, whole, show (front ++ text "\n").dropLast = front from List.dropLast_concat, ends]

theorem Reads.parsed : Program.ofText statement.dialect (statement.unbroken ++ text "\n") =
    .ok ⟨.declaration declaration :: later, tail⟩ := by
  rw [reads.unbroken_append]
  exact Program.ofText_eq_ok_cons_iff.mpr ⟨rest, reads.opens⟩

/-- A statement is terminated when there is nothing but the line break behind its tokens. -/
theorem Reads.isTerminated_iff : statement.IsTerminated ↔ tail = text "\n" := by
  obtain ⟨tokens, gap, whole, behind, scanned, row⟩ := Program.exists_gap reads.parsed
  rw [reads.unbroken_append] at scanned
  constructor
  · rintro ⟨front, semicolon, rescanned, -⟩
    rw [scanned] at rescanned
    cases rescanned
    rfl
  · rintro rfl
    obtain rfl : gap = [] := (List.append_cancel_right (behind : [] ++ text "\n" = _)).symm
    obtain ⟨-, -, spaced, -⟩ := scan_eq_ok_iff.mp scanned
    have ends := reads.getLast?_unbroken
    rw [whole, List.append_nil] at ends
    have semicolon := row.kind_of_suffix spaced ends
    rcases List.eq_nil_or_concat' tokens with rfl | ⟨front, last, rfl⟩
    · cases ends
    · exact ⟨front, last, scanned, semicolon last List.getLast?_concat⟩

end Reads

/-- In each dialect there is a statement on one line. -/
theorem exists_on_line (dialect : Dialect) :
    ∃ statement : Statement, statement.IsBuilt ∧ statement.dialect = dialect ∧
      statement.content = text "import y from 'b';" ++ text "\n" := by
  have known : (ofValue [] (.text (text "y from 'b'")) (.ok dialect.name)).toOption.map
      (fun statement => (statement.dialect, statement.content)) =
        some (dialect, text "import y from 'b';" ++ text "\n") := by
    cases dialect <;> with_unfolding_all rfl
  obtain ⟨statement, made, told⟩ := exists_ok_of_map_toOption known
  obtain ⟨same, content⟩ := Prod.mk.inj told
  exact ⟨statement, .new made, same, content⟩

/-- The text of a statement that is not terminated takes in a statement on one line, whose
declarations are lost. -/
theorem declarations_of_not_isTerminated {first second : Statement} (built : first.IsBuilt)
    (builtToo : second.IsBuilt) (open_ : ¬ first.IsTerminated) (inside : IsLine second.unbroken) :
    ∃ program whole, Program.ofText first.dialect first.content = .ok program ∧
      Program.ofText first.dialect (first.unbroken ++ second.content) = .ok whole ∧
        whole.declarations = program.declarations := by
  obtain ⟨declaration, rest, later, tail, reads⟩ := built.exists_reads
  obtain ⟨_, _, _, _, readsToo⟩ := builtToo.exists_reads
  obtain ⟨clean, -⟩ := scan_eq_ok_iff.mp readsToo.opens.scanned
  rw [reads.isTerminated_iff] at open_
  rw [← readsToo.unbroken_append] at clean ⊢
  obtain ⟨longer, parsed⟩ := Program.ofText_append_line reads.parsed reads.getLast?_unbroken open_
    inside fun point member => clean point (List.mem_append_left _ member)
  have alone := reads.parsed
  rw [reads.unbroken_append] at alone
  exact ⟨_, _, alone, parsed, rfl⟩

/-- The semicolon at the end of a text does without the line break exactly when it is a token: the
text of every other statement may then follow it directly, and what comes out is a program with the
declarations of the one and then those of the other. -/
theorem isTerminated_iff_forall_append {first : Statement} (built : first.IsBuilt) :
    first.IsTerminated ↔ ∀ second : Statement, second.IsBuilt → second.dialect = first.dialect →
      ∃ program programToo whole,
        Program.ofText first.dialect first.content = .ok program ∧
          Program.ofText first.dialect second.content = .ok programToo ∧
            Program.ofText first.dialect (first.unbroken ++ second.content) = .ok whole ∧
              whole.declarations = program.declarations ++ programToo.declarations := by
  constructor
  · intro terminated second builtToo same
    obtain ⟨declaration, rest, later, tail, reads⟩ := built.exists_reads
    obtain ⟨next, _, items, end_, readsToo⟩ := builtToo.exists_reads
    have parsed := reads.parsed
    have parsedToo := readsToo.parsed
    rw [reads.isTerminated_iff] at terminated
    subst terminated
    rw [readsToo.unbroken_append, same] at parsedToo
    have both := Program.ofText_append_of_semicolon parsed reads.getLast?_unbroken parsedToo
    rw [reads.unbroken_append] at parsed
    exact ⟨_, _, _, parsed, parsedToo, both, congrArg (declaration :: ·) List.filterMap_append⟩
  · intro every
    by_contra open_
    obtain ⟨second, builtToo, same, content⟩ := exists_on_line first.dialect
    have line : second.unbroken = text "import y from 'b';" := by
      rw [unbroken, content]
      rfl
    have inside : IsLine second.unbroken := by
      rw [line, IsLine]
      decide
    obtain ⟨program, whole, parsed, joined, lost⟩ :=
      declarations_of_not_isTerminated built builtToo open_ inside
    obtain ⟨program', programToo, whole', parsed', parsedToo, joined', kept⟩ :=
      every second builtToo same
    rw [parsed] at parsed'
    rw [joined] at joined'
    cases parsed'
    cases joined'
    obtain ⟨next, _, items, end_, readsToo⟩ := builtToo.exists_reads
    have known := readsToo.parsed
    rw [readsToo.unbroken_append, same, parsedToo] at known
    cases known
    rw [lost] at kept
    exact List.cons_ne_nil _ _ (List.self_eq_append_right.mp kept)

/-- Behind a block comment, and in front of a statement that breaks its line behind the first word,
the semicolon does without the line break. -/
theorem isTerminated_iff_forall_append_block :
    ∃ first second : Statement,
      ofValue [] (.text (text "x from 'a' /* first */")) (.ok (text "javascript")) = .ok first ∧
        ofValue [] (.text (text "import\ny from 'b'")) (.ok (text "javascript")) = .ok second ∧
          ∃ whole, Program.ofText .javascript (first.unbroken ++ second.content) = .ok whole ∧
            whole.declarations.length = 2 := by
  have known : (ofValue [] (.text (text "x from 'a' /* first */"))
      (.ok (text "javascript"))).toOption.map (fun statement => (statement.dialect,
        (scan statement.content).toOption.map fun found =>
          (found.1.getLast?.map Token.kind, found.2),
        (Program.ofText .javascript statement.content).toOption.map
          fun program => program.declarations.length)) =
        some (.javascript, some (some .semicolon, text "\n"), some 1) := by
    with_unfolding_all rfl
  have knownToo : (ofValue [] (.text (text "import\ny from 'b'"))
      (.ok (text "javascript"))).toOption.map (fun statement => (statement.dialect,
        (Program.ofText .javascript statement.content).toOption.map
          fun program => program.declarations.length)) = some (.javascript, some 1) := by
    with_unfolding_all rfl
  obtain ⟨first, made, told⟩ := exists_ok_of_map_toOption known
  obtain ⟨second, madeToo, toldToo⟩ := exists_ok_of_map_toOption knownToo
  obtain ⟨dialect, told⟩ := Prod.mk.inj told
  obtain ⟨scanned, counted⟩ := Prod.mk.inj told
  obtain ⟨dialectToo, countedToo⟩ := Prod.mk.inj toldToo
  obtain ⟨⟨tokens, tail⟩, scanned, ends⟩ := exists_ok_of_map_toOption scanned
  obtain ⟨final, rfl⟩ := Prod.mk.inj ends
  obtain ⟨semicolon, last, marks⟩ := Option.map_eq_some_iff.mp final
  obtain ⟨front, rfl⟩ := List.getLast?_eq_some_iff.mp last
  obtain ⟨program, programToo, whole, parsed, parsedToo, joined, same⟩ :=
    (isTerminated_iff_forall_append (.new made)).mp ⟨front, semicolon, scanned, marks⟩ second
      (.new madeToo) (dialectToo.trans dialect.symm)
  rw [dialect] at parsed parsedToo joined
  rw [parsed] at counted
  rw [parsedToo] at countedToo
  have one : program.declarations.length = 1 := Option.some.inj counted
  have oneToo : programToo.declarations.length = 1 := Option.some.inj countedToo
  refine ⟨first, second, made, madeToo, whole, joined, ?_⟩
  rw [same, List.length_append, one, oneToo]

/-- The semicolon of a text that ends in a comment up to the end of the line is no token: directly
in front of a statement that breaks its line behind the first word, what comes out is no program. -/
theorem exists_fault_append :
    ∃ first second : Statement,
      ofValue [] (.text (text "x from 'a' // first")) (.ok (text "javascript")) = .ok first ∧
        ofValue [] (.text (text "import\ny from 'b'")) (.ok (text "javascript")) = .ok second ∧
          ∃ fault, Program.ofText .javascript (first.unbroken ++ second.content) =
            .error fault := by
  have known : (ofValue [] (.text (text "x from 'a' // first"))
      (.ok (text "javascript"))).toOption.map unbroken =
        some (text "import x from 'a' // first;") := by
    with_unfolding_all rfl
  have knownToo : (ofValue [] (.text (text "import\ny from 'b'"))
      (.ok (text "javascript"))).toOption.map content = some (text "import\ny from 'b';\n") := by
    with_unfolding_all rfl
  have unread : (Program.ofText .javascript
      (text "import x from 'a' // first;" ++ text "import\ny from 'b';\n")).toOption.isNone =
        true := by
    with_unfolding_all rfl
  obtain ⟨first, made, unbroken⟩ := exists_ok_of_map_toOption known
  obtain ⟨second, madeToo, content⟩ := exists_ok_of_map_toOption knownToo
  refine ⟨first, second, made, madeToo, ?_⟩
  rw [unbroken, content]
  cases parsed : Program.ofText .javascript
      (text "import x from 'a' // first;" ++ text "import\ny from 'b';\n") with
  | error fault => exact ⟨fault, rfl⟩
  | ok program =>
    rw [parsed] at unread
    cases unread

end Statement

end ImportBinding
