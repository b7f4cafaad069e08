/-
This file says which texts are taken for complete declarations, and which for the part behind the
word `import`.

Normalizing looks for the word at the very start of a trimmed text, and a code point that words are
made of carries it on. Scanning is wider in both respects: there may be comments in front of the
word, and more code points are parts of names. So the word is put in front of a declaration that has
it behind a comment, and it is not put in front of a longer name such as `import` with an accent.
Either way a text that could be read becomes one that cannot.
-/

import ImportBinding.Proofs.Coherence
import ImportBinding.Proofs.Exports
import ImportBinding.Proofs.Renaming

namespace ImportBinding

/-! ### The word at the start -/

/-- No word is made of controls or white space. -/
theorem CodePoint.isWord_eq_false_of_ascii {point : CodePoint} (ascii : point.toNat ≤ 0x20) :
    point.isWord = false := by
  have underscore : point ≠ '_' := by
    rintro rfl
    revert ascii
    decide
  rw [isWord, if_pos (by omega), decide_eq_false underscore]
  simp only [isDigit, Bool.or_false, Bool.or_eq_false_iff, Bool.and_eq_false_iff,
    decide_eq_false_iff_not]
  omega

theorem CodePoint.isWord_of_isSpace {point : CodePoint} (space : point.isSpace = true) :
    point.isWord = false := by
  have beyond : ∀ number ∈ [0xA0, 0x1680, 0x2000, 0x2001, 0x2002, 0x2003, 0x2004, 0x2005, 0x2006,
      0x2007, 0x2008, 0x2009, 0x200A, 0x200B, 0x2028, 0x2029, 0x202F, 0x205F, 0x2060, 0x3000,
      0xFEFF], wordRanges.contains number = false := by decide +kernel
  by_cases ascii : point.toNat ≤ 0x20
  · exact isWord_eq_false_of_ascii ascii
  · simp only [isSpace, Bool.or_eq_true, Bool.and_eq_true, decide_eq_true_eq] at space
    rw [isWord, if_neg (by omega)]
    refine beyond _ ?_
    simp only [List.mem_cons, List.not_mem_nil, or_false]
    omega

/-- Whatever words are made of is part of a name. -/
theorem CodePoint.isNamePart_of_isWord {point : CodePoint} (word : point.isWord = true) :
    point.isNamePart = true := by
  have printed : 0x20 < point.toNat := by
    by_contra control
    rw [isWord_eq_false_of_ascii (Nat.le_of_not_lt control)] at word
    cases word
  have space : point.isSpace = false := by
    refine Bool.eq_false_iff.mpr fun space => ?_
    rw [isWord_of_isSpace space] at word
    cases word
  have mark : (text ":;`\"'@#.,|^&<=>+-*/\\%?!~()[]\x7b\x7d").contains point = false := by
    have each : ∀ mark ∈ text ":;`\"'@#.,|^&<=>+-*/\\%?!~()[]\x7b\x7d", mark.isWord = false := by
      decide
    refine Bool.eq_false_iff.mpr fun listed => ?_
    rw [each point (List.contains_iff_mem.mp listed)] at word
    cases word
  rw [isNamePart, space, mark, decide_eq_true printed.le]
  rfl

/-- A text starts with the word `import` when no part of a longer word follows these letters. -/
theorem startsWithImport_iff {content : Text} :
    startsWithImport content = true ↔ ∃ behind, content = text "import" ++ behind ∧
      ∀ next ∈ behind.head?, next.isWord = false ∧ next ≠ '$' := by
  have split (behind : Text) : startsWithImport (text "import" ++ behind) =
      behind.head?.elim true fun next => !(next.isWord || next = '$') := rfl
  constructor
  · intro starts
    have word := starts
    rw [startsWithImport, Bool.and_eq_true] at word
    obtain ⟨behind, rfl⟩ := List.isPrefixOf_iff_prefix.mp word.1
    refine ⟨behind, rfl, fun next head => ?_⟩
    rw [split, Option.mem_def.mp head] at starts
    simpa using starts
  · rintro ⟨behind, rfl, stops⟩
    rw [split]
    cases head : behind.head? with
    | none => rfl
    | some next =>
      obtain ⟨notWord, notDollar⟩ := stops next head
      simp [notWord, notDollar]

/-- A text that is more than the word starts with it when the code point behind the letters does
not carry it on. -/
theorem startsWithImport_iff_of_ne {content : Text} (longer : content ≠ text "import") :
    startsWithImport content = true ↔ ∃ (next : CodePoint) (rest : Text),
      content = text "import" ++ next :: rest ∧ next.isWord = false ∧ next ≠ '$' := by
  rw [startsWithImport_iff]
  constructor
  · rintro ⟨behind, rfl, stops⟩
    cases behind with
    | nil => exact absurd (List.append_nil _) longer
    | cons next rest => exact ⟨next, rest, rfl, stops next rfl⟩
  · rintro ⟨next, rest, rfl, stops⟩
    refine ⟨_, rfl, fun point head => ?_⟩
    cases head
    exact stops

/-- A mark at the end of a text does not carry the word on. -/
theorem startsWithImport_concat {mark : CodePoint} (notWord : mark.isWord = false)
    (notDollar : mark ≠ '$') (other : mark ∉ text "import") (content : Text) :
    startsWithImport (content ++ [mark]) = startsWithImport content := by
  rw [Bool.eq_iff_iff, startsWithImport_iff, startsWithImport_iff]
  constructor
  · rintro ⟨behind, whole, stops⟩
    rcases List.eq_nil_or_concat' behind with rfl | ⟨front, last, rfl⟩
    · rw [List.append_nil] at whole
      rw [← whole] at other
      exact absurd (List.mem_append_right content (List.mem_singleton_self mark)) other
    · rw [← List.append_assoc] at whole
      obtain ⟨rfl, -⟩ := List.append_inj' whole rfl
      refine ⟨front, rfl, fun next head => stops next ?_⟩
      rw [List.head?_append, Option.mem_def.mp head]
      rfl
  · rintro ⟨behind, rfl, stops⟩
    refine ⟨behind ++ [mark], List.append_assoc _ _ _, fun next head => ?_⟩
    cases behind with
    | nil =>
      cases head
      exact ⟨notWord, notDollar⟩
    | cons first behind => exact stops next head

/-- A semicolon and a line break at the end do not carry the word on. -/
theorem startsWithImport_terminated (content : Text) :
    startsWithImport (terminated content ++ text "\n") = startsWithImport content := by
  refine (startsWithImport_concat (by decide) (by decide) (by decide) _).trans ?_
  unfold terminated
  split
  · rfl
  · exact startsWithImport_concat (by decide) (by decide) (by decide) _

/-- A program text starts with the word when its first token is that word without layout in
front. -/
theorem startsWithImport_iff_of_scan {content tail : Text} {keyword : Token} {rest : List Token}
    (scanned : scan content = .ok (keyword :: rest, tail))
    (word : keyword.isWord (text "import") = true) :
    startsWithImport content = true ↔ keyword.gap = [] := by
  obtain ⟨-, rfl, spaced, ends⟩ := scan_eq_ok_iff.mp scanned
  rw [Tokens.written_cons, List.append_assoc, List.append_assoc]
  constructor
  · intro starts
    exact gap_eq_nil_of_layoutSize (spaced.gaps _ List.mem_cons_self)
      (spaced.whole _ List.mem_cons_self) (layoutSize_of_startsWithImport starts)
  · intro close
    rw [close, List.nil_append, Token.body_of_isWord word]
    refine startsWithImport_iff.mpr ⟨_, rfl, fun next head => ?_⟩
    have stops := spaced.namePartSize (Token.kind_of_isWord word) ends
    obtain ⟨later, behind⟩ := List.head?_eq_some_iff.mp head
    rw [behind, namePartSize] at stops
    have other : next.isNamePart = false := by
      refine Bool.eq_false_iff.mpr fun part => ?_
      have notBackslash : next ≠ '\\' := by
        rintro rfl
        revert part
        decide
      rw [if_neg notBackslash, if_pos part] at stops
      cases stops
    constructor
    · exact Bool.eq_false_iff.mpr fun word => by
        rw [CodePoint.isNamePart_of_isWord word] at other
        cases other
    · rintro rfl
      revert other
      decide

/-! ### The word in front of itself -/

/-- The word `import` is no local name and no modifier, so no declaration has it behind its first
word. -/
theorem Declaration.read_of_import {dialect : Dialect} {keyword second : Token}
    {later : List Token} (word : second.isWord (text "import") = true) :
    (Declaration.read dialect (keyword :: second :: later)).toOption = none := by
  have named := Token.kind_of_isWord word
  have notLiteral : second.kind ≠ .literal := by
    rw [named]
    decide
  have notIdentifier : second.isIdentifier = false := by
    rw [Token.isIdentifier, named, Token.body_of_isWord word]
    decide
  have notModifier : second.isModifier dialect = false := by
    rw [Token.isModifier, Token.isWord, Token.isWord, named, Token.body_of_isWord word]
    cases dialect <;> decide
  have plain : startsWithModifier dialect (second :: later) = false := by
    cases later with
    | nil => rfl
    | cons next later => rw [startsWithModifier, notModifier, Bool.false_and]
  rw [Declaration.read, toOption_bind]
  cases started : expect (fun token => token.isWord (text "import"))
      (keyword :: second :: later) with
  | error stuck => rfl
  | ok pair =>
    obtain ⟨first, rest⟩ := pair
    obtain ⟨same, -⟩ := expect_eq_ok_iff.mp started
    cases same
    rw [toOption_ok, Option.bind_some, toOption_bind, readClause, expect_kind_of_ne notLiteral]
    simp only [Clause.read, plain, Bindings.read, Bool.false_eq_true, if_false,
      Option.toList_none, List.length_nil, List.drop_zero, expect_kind named, toOption_bind,
      expect_identifier, notIdentifier, Option.bind_none]

/-- A name that stands alone is scanned as that name, whatever layout is behind it. -/
theorem scan_body {token : Token} (whole : token.IsWhole) {tail : Text} (closed : IsGap tail)
    (clean : ∀ point ∈ token.body ++ tail, point.toNat ≠ 0) :
    scan (token.body ++ tail) = .ok ([{ token with gap := [] }], tail) := by
  refine scan_eq_ok_iff.mpr ⟨clean, ?_, ⟨?_, ?_, List.isChain_singleton _⟩, closed.isTail⟩
  · rw [Tokens.written_cons, Tokens.written_nil, List.append_nil, List.nil_append]
  · exact List.forall_mem_singleton.mpr isGap_nil
  · exact List.forall_mem_singleton.mpr whole

/-- A text that starts with the word `import` is no program behind that word. -/
theorem Program.exists_fault_of_import {dialect : Dialect} {content tail : Text} {keyword : Token}
    {rest : List Token} (scanned : scan content = .ok (keyword :: rest, tail))
    (word : keyword.isWord (text "import") = true) :
    ∃ fault, Program.ofText dialect (text "import " ++ content) = .error fault := by
  have body := Token.body_of_isWord word
  obtain ⟨-, -, spaced, -⟩ := scan_eq_ok_iff.mp scanned
  have first := scan_body (spaced.whole _ List.mem_cons_self) isGap_space (by rw [body]; decide)
  rw [body] at first
  have both := scan_append first isGap_space scanned fun _ _ _ _ => List.cons_ne_nil _ _
  exact Program.exists_fault both (List.cons_ne_nil _ _) (Declaration.read_of_import word)

/-! ### Programs that are trimmed and ended -/

/-- Trimming a program takes blanks off the layout at both of its ends. -/
theorem scan_trim {dialect : Dialect} {content tail : Text} {declaration : Declaration}
    {rest : List Token} {items : List Item}
    (scanned : scan content = .ok (declaration.keyword :: rest, tail))
    (row : IsRow dialect (declaration.keyword :: rest) (.declaration declaration :: items)) :
    scan content.trim =
      .ok ((declaration.led declaration.keyword.gap.trimStart).keyword :: rest, tail.trimEnd) := by
  obtain ⟨clean, whole, spaced, ends⟩ := scan_eq_ok_iff.mp scanned
  obtain ⟨_, same, moved⟩ := row.led []
  cases same
  have apart := spaced.led isGap_nil
  obtain ⟨last, ending, notBlank⟩ := moved.exists_last apart (List.cons_ne_nil _ _)
  rw [Tokens.written_cons] at ending
  have final : (declaration.keyword.body ++ Tokens.written rest).getLast? = some last := ending
  have first : (declaration.keyword.body ++ (Tokens.written rest ++ tail)).head? =
      some (CodePoint.ofChar 'i') := by
    rw [Token.body_of_isWord row.framed.keyword]
    rfl
  have trimmed : content.trim = declaration.keyword.gap.trimStart ++
      (declaration.keyword.body ++ Tokens.written rest) ++ tail.trimEnd := by
    rw [whole, Tokens.written_cons, List.append_assoc, List.append_assoc, Text.trim,
      Text.trimStart_append first (by decide), ← List.append_assoc declaration.keyword.body,
      ← List.append_assoc]
    refine Text.trimEnd_append ?_ notBlank tail
    rw [List.getLast?_append, final]
    rfl
  refine scan_eq_ok_iff.mpr ⟨fun point member => clean point (mem_of_mem_trim member), ?_,
    spaced.led (spaced.gaps _ List.mem_cons_self).trimStart, ends.isLayout.trimEnd.isTail⟩
  rw [trimmed, Tokens.written_cons]
  rfl

theorem scan_semicolon : scan (text ";\n") = .ok ([⟨[], .semicolon, text ";"⟩], text "\n") := by
  refine scan_eq_ok_iff.mpr ⟨by decide, rfl, ⟨?_, ?_, List.isChain_singleton _⟩,
    (isGap_nil.blank (by decide)).isTail⟩
  · exact List.forall_mem_singleton.mpr isGap_nil
  · exact List.forall_mem_singleton.mpr (by rw [Token.IsWhole]; decide)

/-- Ending a text changes its tokens in one way only: a semicolon may come to stand behind them. -/
theorem scan_terminated {content tail : Text} {found : List Token}
    (scanned : scan content = .ok (found, tail)) :
    ∃ more end_, scan (terminated content ++ text "\n") = .ok (found ++ more, end_) ∧
      (more = [] ∨ ∃ token, more = [token] ∧ token.kind = .semicolon) := by
  obtain ⟨clean, whole, -, ends⟩ := scan_eq_ok_iff.mp scanned
  have layout := ends.isLayout
  -- layout at the end that goes on with some text of its own
  have extend (added : Text) (longer : IsLayout (tail ++ added))
      (plain : ∀ point ∈ added ++ text "\n", point.toNat ≠ 0) :
      scan (content ++ (added ++ text "\n")) = .ok (found ++ [], tail ++ added ++ text "\n") := by
    have closed := longer.isGap_append_lineBreak
    have known := scan_of_isTail scanned closed.isTail fun point member => ?_
    · rw [List.append_nil, ← known, whole]
      simp only [List.append_assoc]
    · rw [List.append_assoc] at member
      refine (List.mem_append.mp member).elim (fun inside => clean point ?_) (plain point)
      rw [whole]
      exact List.mem_append_right _ inside
  unfold terminated
  split
  · exact ⟨[], _, extend [] (by rw [List.append_nil]; exact layout) (by decide), Or.inl rfl⟩
  · rw [List.append_assoc]
    rcases layout.isGap_or_append with closed | opens
    · refine ⟨_, _, scan_append scanned closed scan_semicolon fun _ _ _ => nofun,
        Or.inr ⟨_, rfl, rfl⟩⟩
    · exact ⟨[], _, extend _ (opens (text ";") (by rw [IsLine]; decide)) (by decide), Or.inl rfl⟩

/-- A program that is trimmed and ended is a program that starts with the same declaration, but for
the blanks in front of it and for the semicolon at its end. -/
theorem exists_row_of_trim {dialect : Dialect} {content tail : Text} {tokens : List Token}
    {declaration : Declaration} {items : List Item} (scanned : scan content = .ok (tokens, tail))
    (row : IsRow dialect tokens (.declaration declaration :: items)) :
    ∃ first rest others end_,
      scan (terminated content.trim ++ text "\n") = .ok (first.keyword :: rest, end_) ∧
        IsRow dialect (first.keyword :: rest) (.declaration first :: others) ∧
          first.unended = (declaration.led declaration.keyword.gap.trimStart).unended := by
  obtain ⟨rest, rfl, moved⟩ := row.led declaration.keyword.gap.trimStart
  obtain ⟨more, end_, ended, kinds⟩ := scan_terminated (scan_trim scanned row)
  have longer : ∃ others,
      IsRow dialect ((declaration.led declaration.keyword.gap.trimStart).keyword :: rest ++ more)
        others ∧
      (others.filterMap Item.declaration?).map Declaration.unended =
        (declaration.led declaration.keyword.gap.trimStart ::
          items.filterMap Item.declaration?).map Declaration.unended := by
    rcases kinds with rfl | ⟨token, rfl, marks⟩
    · rw [List.append_nil]
      exact ⟨_, moved, rfl⟩
    · exact moved.concat_semicolon marks
  obtain ⟨others, rowToo, same⟩ := longer
  obtain ⟨first, later, rfl, keyword⟩ := rowToo.exists_declaration row.framed.keyword_ne_semicolon
  refine ⟨first, rest ++ more, later, end_, ?_, ?_, (List.cons.inj same).1⟩
  · rw [keyword]
    exact ended
  · rw [keyword]
    exact rowToo

/-- The normal form is the trimmed and ended text, with the word `import` in front if that does not
start with it. -/
theorem normalForm_eq (content : Text) :
    normalForm content =
      if startsWithImport (terminated content.trim ++ text "\n") = true then
        terminated content.trim ++ text "\n"
      else text "import " ++ (terminated content.trim ++ text "\n") := by
  have same : startsWithImport (terminated content.trim ++ text "\n") =
      startsWithImport (terminated content.trim) :=
    startsWithImport_concat (by decide) (by decide) (by decide) _
  rw [same, normalForm, introduced]
  split
  · rfl
  · rw [List.append_assoc]

theorem normalForm_eq_of_trim {content : Text} (trimmed : content.trim = content) :
    normalForm content =
      if startsWithImport content = true then terminated content ++ text "\n"
      else text "import " ++ (terminated content ++ text "\n") := by
  rw [normalForm_eq, trimmed, startsWithImport_terminated]

/-! ### What a declaration tells -/

/-- What the node of a declaration tells of its bindings and its source does not depend on the place
of the declaration, and on no more of it than the clause and the source. -/
theorem Declaration.exists_node_of_clause {dialect : Dialect} {declaration other : Declaration}
    {offset place : Nat} {node : Node} (framed : declaration.IsFramed dialect)
    (framedToo : other.IsFramed dialect) (clause : other.clause = declaration.clause)
    (source : other.source = declaration.source) (made : declaration.node offset = .ok node) :
    ∃ again, other.node place = .ok again ∧ again.kind = importKind ∧ again.source = node.source ∧
      (again.specifiers.map fun specifier => specifier.binding.name) =
        (node.specifiers.map fun specifier => specifier.binding.name) ∧
      again.specifiers.map Specifier.importedName =
        node.specifiers.map Specifier.importedName := by
  obtain ⟨specifiers, value, specified, free, valued, rfl⟩ := Declaration.node_eq_ok_iff.mp made
  have exports : other.exports = declaration.exports := by rw [exports, clause]; rfl
  have bindings : other.bindings = declaration.bindings := by rw [bindings, clause]; rfl
  have forms : other.forms = declaration.forms := by rw [forms, clause]; rfl
  have fits := (declaration.specifiers_succeedsWhen offset).fits_of_ok specified
  rw [← exports] at fits
  obtain ⟨others, specifiedToo⟩ := (other.specifiers_succeedsWhen place).succeeds fits
  have freeToo : reservedFault? others = none := by
    rw [Declaration.reservedFault?_eq_none_iff framed specified, ← bindings] at free
    exact (Declaration.reservedFault?_eq_none_iff framedToo specifiedToo).mpr free
  have names := Declaration.names_of_specifiers framedToo specifiedToo
  have told := Declaration.imported_of_specifiers specifiedToo
  rw [bindings, ← Declaration.names_of_specifiers framed specified] at names
  rw [forms, ← Declaration.imported_of_specifiers specified] at told
  rw [← source] at valued
  refine ⟨_, Declaration.node_eq_ok_iff.mpr ⟨others, value, specifiedToo, freeToo, valued, rfl⟩,
    rfl, rfl, names, ?_⟩
  have injective (first second : Text)
      (same : (Except.ok first : Except Failure Text) = .ok second) : first = second :=
    Except.ok.inj same
  refine (List.map_inj_right injective).mp ?_
  rw [List.map_map, List.map_map]
  exact told

/-! ### Complete declarations -/

namespace Statement

/-- A text whose normal form is no program is refused. -/
theorem ofText_of_exists_fault {content : Text} {dialect : Dialect}
    (encodes : (normalForm content).surrogates? (fun _ => false) = none)
    (unread : ∃ fault, Program.ofText dialect (normalForm content) = .error fault) :
    ∃ reason, ofText [] content dialect = .error (.refused ⟨.text content, reason⟩) := by
  obtain ⟨fault, unread⟩ := unread
  refine ⟨.illFormed fault (normalForm content), ofText_of_illFormed ?_⟩
  rw [readStatement_nil encodes, unread]

/-- A text is taken when its normal form starts with a declaration that has the clause and the
source of a declaration with one specifier. -/
theorem exists_ofText_of_clause {content tail : Text} {dialect : Dialect}
    {declaration other : Declaration} {items : List Item} {offset : Nat} {node : Node}
    {specifier : Specifier} (encodes : (normalForm content).surrogates? (fun _ => false) = none)
    (parsed : Program.ofText dialect (normalForm content) =
      .ok ⟨.declaration declaration :: items, tail⟩)
    (framed : declaration.IsFramed dialect) (framedToo : other.IsFramed dialect)
    (clause : declaration.clause = other.clause) (source : declaration.source = other.source)
    (made : other.node offset = .ok node) (single : node.specifiers = [specifier]) :
    ∃ statement, ofText [] content dialect = .ok statement ∧
      statement.binding = specifier.binding.name ∧ statement.source = node.source ∧
        statement.imported = specifier.importedName := by
  obtain ⟨again, madeToo, kind, sourceToo, names, told⟩ :=
    Declaration.exists_node_of_clause framedToo framed clause source made
  rw [single, List.map_singleton] at names told
  obtain ⟨only, singleToo, name⟩ := List.map_eq_singleton_iff.mp names
  rw [singleToo, List.map_singleton, List.cons.injEq] at told
  have read : readStatement [] dialect (normalForm content) = .ok (some again) := by
    rw [readStatement_nil encodes, parsed]
    show (declaration.node 0).map some = _
    rw [madeToo]
    rfl
  let statement : Statement := ⟨content, normalForm content, dialect, again, only, singleToo⟩
  refine ⟨statement, @ofText_of_node statement read kind rfl, name, sourceToo, ?_⟩
  rw [← told.1, imported]
  cases only <;> rfl

/-- When a declaration with one specifier is read off a text, the text is taken as it is as long as
there are only blanks in front of the declaration. With a comment or other layout there, it is
refused. -/
theorem ofValue_of_readStatement {language content : Text} {configured : Except Failure Text}
    {dialect : Dialect} {node : Node} {specifier : Specifier}
    (chosen : language.trim.lower = dialect.name)
    (read : readStatement [] dialect content = .ok (some node))
    (single : node.specifiers = [specifier]) :
    ((∀ point ∈ content.take node.start, point.isBlank = true) →
      ∃ statement,
        ofValue [] (.text content) (languageOf (.text language) configured) = .ok statement ∧
          statement.binding = specifier.binding.name ∧ statement.source = node.source ∧
            statement.imported = specifier.importedName) ∧
    ((∃ point ∈ content.take node.start, point.isBlank = false) →
      ∃ reason, ofValue [] (.text content) (languageOf (.text language) configured) =
        .error (.refused ⟨.text content, reason⟩)) := by
  rw [languageOf_of_chosen chosen, ofValue_text]
  obtain ⟨encodes, declaration, rest, later, tail, opens, made⟩ :=
    readStatement_eq_ok_some_iff.mp read
  obtain ⟨tokens, scanned, row⟩ := Program.ofText_eq_ok_cons_iff_isRow.mp
    (Program.ofText_eq_ok_cons_iff.mpr ⟨rest, opens⟩)
  obtain ⟨first, behind, others, end_, ended, rowToo, same⟩ := exists_row_of_trim scanned row
  have encodesToo := encodes_normalForm_of_forall (surrogates?_eq_none_iff.mp encodes)
  have front : content.take node.start = declaration.keyword.gap := by
    obtain ⟨_, _, -, -, -, rfl⟩ := Declaration.node_eq_ok_iff.mp made
    obtain ⟨-, whole, -, -⟩ := scan_eq_ok_iff.mp scanned
    obtain ⟨_, rfl, -⟩ := row.led []
    rw [whole, Tokens.written_cons, List.append_assoc, Nat.zero_add, List.take_left]
  have gap : first.keyword.gap = declaration.keyword.gap.trimStart :=
    congrArg (fun declaration : Declaration => declaration.keyword.gap) same
  have starts := startsWithImport_iff_of_scan ended rowToo.framed.keyword
  rw [front]
  constructor
  · intro blank
    have close : first.keyword.gap = [] := by
      rw [gap]
      exact List.dropWhile_eq_nil_iff.mpr blank
    have normal := normalForm_eq content
    rw [if_pos (starts.mpr close)] at normal
    have parsed := Program.ofText_eq_ok_cons_iff_isRow.mpr ⟨_, ended, rowToo⟩
    rw [← normal] at parsed
    exact exists_ofText_of_clause encodesToo parsed rowToo.framed row.framed
      (congrArg Declaration.clause same :) (congrArg Declaration.source same :) made single
  · rintro ⟨point, member, notBlank⟩
    refine ofText_of_exists_fault encodesToo ?_
    have open_ : ¬ first.keyword.gap = [] := by
      rw [gap]
      intro empty
      rw [List.dropWhile_eq_nil_iff.mp empty point member] at notBlank
      cases notBlank
    rw [normalForm_eq, if_neg (mt starts.mp open_)]
    exact Program.exists_fault_of_import ended rowToo.framed.keyword

/-- Blanks in front and a comment behind do not matter. -/
theorem ofValue_of_readStatement_blanks :
    ∃ statement, ofValue [] (.text (text "\n import A from 'a' // a"))
        (languageOf (.text (text " JavaScript")) (.error .noAttribute)) = .ok statement ∧
      statement.binding = text "A" ∧ statement.source = some (text "a") ∧
        statement.imported = text "default" := by
  have chosen : (text " JavaScript").trim.lower = Dialect.javascript.name := by
    with_unfolding_all rfl
  have known : (readStatement [] .javascript (text "\n import A from 'a' // a")).toOption =
      some (some ⟨importKind, 2, 19, [.default ⟨text "A", 9, 10⟩], some (text "a")⟩) := by
    with_unfolding_all rfl
  exact (ofValue_of_readStatement chosen (toOption_eq_some_iff.mp known) rfl).1 (by decide)

/-- A declaration behind a comment is read, and the text is refused. -/
theorem exists_refused_of_readStatement :
    ∃ node specifier,
      readStatement [] .javascript (text "/* header */ import A from 'a';\n") = .ok (some node) ∧
        node.specifiers = [specifier] ∧
          ¬ ∃ statement, ofValue [] (.text (text "/* header */ import A from 'a';\n"))
            (.ok (text "javascript")) = .ok statement := by
  have known : (readStatement [] .javascript
      (text "/* header */ import A from 'a';\n")).toOption =
        some (some ⟨importKind, 13, 31, [.default ⟨text "A", 20, 21⟩], some (text "a")⟩) := by
    with_unfolding_all rfl
  have refused : (ofValue [] (.text (text "/* header */ import A from 'a';\n"))
      (.ok (text "javascript"))).toOption.map binding = none := by
    with_unfolding_all rfl
  refine ⟨_, _, toOption_eq_some_iff.mp known, rfl, ?_⟩
  rintro ⟨statement, made⟩
  rw [made] at refused
  cases refused

end Statement

/-! ### The part behind the word -/

/-- A trimmed text does not end with a blank. -/
theorem Text.exists_last_of_trim {content : Text} (trimmed : content.trim = content)
    (nonempty : content ≠ []) : ∃ last, content.getLast? = some last ∧ last.isBlank = false := by
  have stops := List.head?_dropWhile_not CodePoint.isBlank content.trimStart.reverse
  have last : content.getLast? =
      (content.trimStart.reverse.dropWhile CodePoint.isBlank).head? := by
    rw [← List.getLast?_reverse]
    exact congrArg List.getLast? trimmed.symm
  rw [← last] at stops
  cases ends : content.getLast? with
  | none => exact absurd (List.getLast?_eq_none_iff.mp ends) nonempty
  | some point =>
    rw [ends] at stops
    exact ⟨point, rfl, stops⟩

/-- The word in front of a trimmed text stays there. -/
theorem normalForm_import {short : Text} (trimmed : short.trim = short) (nonempty : short ≠ []) :
    normalForm (text "import " ++ short) = text "import " ++ (terminated short ++ text "\n") := by
  obtain ⟨last, ends, notBlank⟩ := Text.exists_last_of_trim trimmed nonempty
  have behind : (text "import " ++ short).getLast? = some last := by
    rw [List.getLast?_append, ends]
    rfl
  have kept : (text "import " ++ short).trim = text "import " ++ short := by
    have same := Text.trimEnd_append behind notBlank []
    rw [List.append_nil] at same
    exact same.trans (List.append_nil _)
  have ended : terminated (text "import " ++ short) = text "import " ++ terminated short := by
    rw [terminated, terminated, behind, ends]
    split
    · rfl
    · rw [List.append_assoc]
  rw [normalForm_eq, kept, ended, List.append_assoc]
  exact if_pos rfl

/-- A program that starts with the word is none behind that word. -/
theorem Program.exists_fault_of_startsWithImport {dialect : Dialect} {content : Text}
    {program : Program} (starts : startsWithImport content = true)
    (parsed : Program.ofText dialect content = .ok program) :
    ∃ fault, Program.ofText dialect (text "import " ++ content) = .error fault := by
  obtain ⟨tokens, scanned, read⟩ := Program.ofText_eq_ok_iff.mp parsed
  obtain ⟨items, tail⟩ := program
  rcases readProgram_eq_ok_cases read with ⟨rfl, -⟩ | ⟨declaration, later, rfl⟩
  · obtain ⟨-, rfl, -, ends⟩ := scan_eq_ok_iff.mp scanned
    refine absurd (layoutSize_of_startsWithImport starts) (ends.layoutSize_ne_zero ?_)
    rintro rfl
    cases starts
  · obtain ⟨rest, first, -⟩ := readProgram_eq_ok_cons_iff.mp read
    obtain ⟨rfl, framed, -⟩ := Declaration.read_eq_ok_iff.mp first
    rw [Declaration.tokens_eq_cons, List.cons_append] at scanned
    exact Program.exists_fault_of_import scanned framed.keyword

namespace Statement

/-- Behind the word `import` a statement has more than that word once again. -/
theorem Reads.longer_of_import {statement : Statement} {declaration : Declaration}
    {rest : List Token} {later : List Item} {tail short : Text}
    (reads : statement.Reads declaration rest later tail)
    (content : statement.content = normalForm (text "import " ++ short)) :
    short ≠ [] ∧ short ≠ text "import" := by
  constructor
  · -- there is no room for a name in front of the semicolon
    rintro rfl
    have length : statement.content.length = 8 := by
      rw [content]
      decide
    obtain ⟨behind, room, inside, -⟩ := reads.binding_within
    have ends := reads.stop_lt
    omega
  · rintro rfl
    obtain ⟨-, -, spaced, -⟩ := scan_eq_ok_iff.mp reads.opens.scanned
    have word := reads.opens.framed.keyword
    have first := scan_body (spaced.whole _ List.mem_cons_self) isGap_nil
      (by rw [Token.body_of_isWord word]; decide)
    have bare := scan_append first isGap_nil scan_semicolon fun _ _ _ => nofun
    obtain ⟨fault, unread⟩ := Program.exists_fault_of_import bare word
    rw [List.append_nil, Token.body_of_isWord word] at unread
    have same : text "import " ++ (text "import" ++ text ";\n") = statement.content :=
      content.symm
    rw [same, Program.ofText_eq_ok_cons_iff.mpr ⟨rest, reads.opens⟩] at unread
    cases unread

/-- When the text of a statement has a normal form behind the word `import` that starts with the
word itself, what has this normal form is refused. -/
theorem Reads.refused_of_startsWithImport {statement : Statement} {declaration : Declaration}
    {rest : List Token} {later : List Item} {tail short : Text}
    (reads : statement.Reads declaration rest later tail)
    (content : statement.content = text "import " ++ normalForm short)
    (starts : startsWithImport (normalForm short) = true) :
    ∃ reason, ofText [] short statement.dialect = .error (.refused ⟨.text short, reason⟩) := by
  have encodes : (normalForm short).surrogates? (fun _ => false) = none := by
    refine surrogates?_eq_none_iff.mpr fun point member => ?_
    refine surrogates?_eq_none_iff.mp reads.encodes point ?_
    rw [content]
    exact List.mem_append_right _ member
  refine ofText_of_exists_fault encodes ?_
  cases parsed : Program.ofText statement.dialect (normalForm short) with
  | error fault => exact ⟨fault, rfl⟩
  | ok program =>
    obtain ⟨fault, unread⟩ := Program.exists_fault_of_startsWithImport starts parsed
    rw [← content, Program.ofText_eq_ok_cons_iff.mpr ⟨rest, reads.opens⟩] at unread
    cases unread

/-- When a statement is built from a trimmed text behind the word `import`, the same statement is
built from the text without the word, unless the text starts with these letters and goes on with
neither a letter, a number, an underscore nor a dollar sign. Then it is refused. -/
theorem ofValue_of_ofValue_import {language short : Text} {configured : Except Failure Text}
    {dialect : Dialect} {full : Statement} (chosen : language.trim.lower = dialect.name)
    (trimmed : short.trim = short)
    (built : ofValue [] (.text (text "import " ++ short)) (languageOf (.text language) configured) =
      .ok full) :
    ((∀ (next : CodePoint) (rest : Text), short = text "import" ++ next :: rest →
        next.isWord = true ∨ next = '$') →
      ∃ statement,
        ofValue [] (.text short) (languageOf (.text language) configured) = .ok statement ∧
          statement.isSame full = true ∧ statement.node = full.node ∧
            statement.binding = full.binding ∧ statement.source = full.source ∧
              statement.imported = full.imported) ∧
    ((∃ (next : CodePoint) (rest : Text), short = text "import" ++ next :: rest ∧
        next.isWord = false ∧ next ≠ '$') →
      ∃ reason, ofValue [] (.text short) (languageOf (.text language) configured) =
        .error (.refused ⟨.text short, reason⟩)) := by
  rw [languageOf_of_chosen chosen, ofValue_text] at built ⊢
  obtain ⟨-, content, rfl, declaration, rest, later, tail, reads⟩ := ofText_eq_ok_iff.mp built
  obtain ⟨nonempty, other⟩ := reads.longer_of_import content
  rw [normalForm_import trimmed nonempty] at content
  have normal := normalForm_eq_of_trim trimmed
  constructor
  · intro carriedOn
    have shorter : ¬ startsWithImport short = true := by
      rw [startsWithImport_iff_of_ne other]
      rintro ⟨next, behind, same, notWord, notDollar⟩
      rcases carriedOn next behind same with word | dollar
      · rw [word] at notWord
        cases notWord
      · exact notDollar dollar
    rw [if_neg shorter, ← content] at normal
    refine ⟨{ full with given := short }, reads.ofText_eq normal, ?_, rfl, rfl, rfl, rfl⟩
    simp [isSame]
  · intro barred
    have first := (startsWithImport_iff_of_ne other).mpr barred
    rw [if_pos first] at normal
    rw [← normal] at content
    refine reads.refused_of_startsWithImport content ?_
    rw [normal, startsWithImport_terminated]
    exact first

/-- A longer name that starts with the letters of the word is not taken for it. -/
theorem ofValue_of_ofValue_import_longer :
    ∃ full statement : Statement,
      ofValue [] (.text (text "import importer from './button'"))
          (languageOf (.text (text "tsx")) (.error .noAttribute)) = .ok full ∧
        ofValue [] (.text (text "importer from './button'"))
            (languageOf (.text (text "tsx")) (.error .noAttribute)) = .ok statement ∧
          statement.isSame full = true ∧ statement.binding = text "importer" := by
  have chosen : (text "tsx").trim.lower = Dialect.tsx.name := trim_lower_name .tsx
  have known : (ofValue [] (.text (text "import " ++ text "importer from './button'"))
      (languageOf (.text (text "tsx")) (.error .noAttribute))).toOption.map binding =
        some (text "importer") := by
    with_unfolding_all rfl
  obtain ⟨full, built, name⟩ := exists_ok_of_map_toOption known
  have carriedOn (next : CodePoint) (rest : Text)
      (same : text "importer from './button'" = text "import" ++ next :: rest) :
      next.isWord = true ∨ next = '$' := by
    cases same
    exact Or.inl (by decide)
  obtain ⟨statement, made, same, -, binding, -⟩ :=
    (ofValue_of_ofValue_import chosen (by with_unfolding_all rfl) built).1 carriedOn
  exact ⟨full, statement, built, made, same, binding.trans name⟩

/-- A name that goes on with an accent is taken for the word. -/
theorem exists_refused_of_ofValue_import :
    (text "import\u0301 from 'x'").trim = text "import\u0301 from 'x'" ∧
      ∃ full : Statement,
        ofValue [] (.text (text "import " ++ text "import\u0301 from 'x'"))
            (.ok (text "javascript")) = .ok full ∧
          ¬ ∃ statement, ofValue [] (.text (text "import\u0301 from 'x'"))
            (.ok (text "javascript")) = .ok statement := by
  have known : (ofValue [] (.text (text "import " ++ text "import\u0301 from 'x'"))
      (.ok (text "javascript"))).toOption.map binding = some (text "import\u0301") := by
    with_unfolding_all rfl
  have refused : (ofValue [] (.text (text "import\u0301 from 'x'"))
      (.ok (text "javascript"))).toOption.map binding = none := by
    with_unfolding_all rfl
  obtain ⟨full, built, -⟩ := exists_ok_of_map_toOption known
  refine ⟨by with_unfolding_all rfl, full, built, ?_⟩
  rintro ⟨statement, made⟩
  rw [made] at refused
  cases refused

end Statement

end ImportBinding
