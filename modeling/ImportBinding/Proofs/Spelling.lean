/-
This file shows that a text is recovered from every literal that spells it.

Each code point may be spelled in a way of its own, and the literal may be continued on another
line in between. A spelling keeps the units of the text. Joining surrogates then gives the text
back, because it is the only joined text with these units.
-/

import ImportBinding.Proofs.Recovery
import ImportBinding.Proofs.StringValue

namespace ImportBinding

/-! ### Spellings -/

/-- The letters and marks that stand for a code point after a backslash. -/
def singleSpellings : List (CodePoint × CodePoint) :=
  Standard.singleEscapes ++ (text "'\"\\").map fun mark => (mark, mark)

/-- The line breaks after a backslash that continue a literal on the next line. -/
def lineBreaks : List Text :=
  [text "\n", text "\r", text "\r\n", text "\u2028", text "\u2029"]

/-- The ways to write a code point between quotes. -/
inductive Spells (quote : CodePoint) : CodePoint → Text → Prop where
  /-- The code point itself. -/
  | raw {point : CodePoint} (notQuote : point ≠ quote) (notBackslash : point ≠ '\\')
      (notLineFeed : point ≠ '\n') (notReturn : point ≠ '\r') (notZero : point.toNat ≠ 0)
      (notSurrogate : point.isSurrogate = false) : Spells quote point [point]
  /-- Its number in two digits. -/
  | two {point : CodePoint} {digits : Text} (size : digits.length = 2)
      (hex : ∀ digit ∈ digits, digit.isHexDigit = true)
      (number : digits.hexNumber = point.toNat) : Spells quote point (text "\\x" ++ digits)
  /-- Its number in four digits. -/
  | four {point : CodePoint} {digits : Text} (size : digits.length = 4)
      (hex : ∀ digit ∈ digits, digit.isHexDigit = true)
      (number : digits.hexNumber = point.toNat) : Spells quote point (text "\\u" ++ digits)
  /-- Its two units in four digits each. -/
  | pair {point : CodePoint} {high low : Text} (size : high.length = 4) (sizeLow : low.length = 4)
      (hex : ∀ digit ∈ high, digit.isHexDigit = true)
      (hexLow : ∀ digit ∈ low, digit.isHexDigit = true)
      (units : point.utf16 = [high.hexNumber, low.hexNumber]) :
      Spells quote point (text "\\u" ++ (high ++ (text "\\u" ++ low)))
  /-- Its number in braces, in any number of digits. -/
  | braces {point : CodePoint} {digits : Text} (nonempty : digits ≠ [])
      (hex : ∀ digit ∈ digits, digit.isHexDigit = true)
      (number : digits.hexNumber = point.toNat) :
      Spells quote point (text "\\u\x7b" ++ (digits ++ text "\x7d"))
  /-- A letter or a mark that stands for it. -/
  | single {letter point : CodePoint} (listed : (letter, point) ∈ singleSpellings) :
      Spells quote point [CodePoint.ofChar '\\', letter]

/-- What may be written between quotes for a text: each of its code points in one of the ways to
write it, and any number of continued lines in between. -/
inductive IsSpelled (quote : CodePoint) : Text → Text → Prop where
  | nil : IsSpelled quote [] []
  | cons {point : CodePoint} {value spelled inner : Text} (spells : Spells quote point spelled)
      (later : IsSpelled quote value inner) : IsSpelled quote (point :: value) (spelled ++ inner)
  | continued {value lineBreak inner : Text} (breaks : lineBreak ∈ lineBreaks)
      (later : IsSpelled quote value inner) :
      IsSpelled quote value (CodePoint.ofChar '\\' :: (lineBreak ++ inner))

/-! ### Pieces -/

/-- A text between quotes whose pieces denote these units together. -/
def Denotes (quote : CodePoint) (inner : Text) (units : List Nat) : Prop :=
  ∃ pieces parts, IsCut quote inner pieces ∧ pieces.mapM Piece.decode = .ok parts ∧
    Text.utf16 parts.flatten = units

section Denoting

variable {quote : CodePoint} {rest : Text} {units : List Nat}

theorem Denotes.nil : Denotes quote [] [] := ⟨[], [], .nil, rfl, rfl⟩

theorem Denotes.plain {point : CodePoint} (notBackslash : point ≠ '\\') (notQuote : point ≠ quote)
    (notLineFeed : point ≠ '\n') (notReturn : point ≠ '\r') (later : Denotes quote rest units) :
    Denotes quote (point :: rest) (point.utf16 ++ units) := by
  obtain ⟨pieces, parts, cut, decoded, rfl⟩ := later
  refine ⟨_, [point] :: parts, .plain notBackslash notQuote notLineFeed notReturn cut, ?_, ?_⟩
  · rw [List.mapM_cons, decoded]
    rfl
  · rw [List.flatten_cons, List.singleton_append, Text.utf16_cons]

theorem Denotes.escape {body value : Text} (escapes : IsEscape rest body)
    (denoted : escapeBodyValue body = .ok value) (later : Denotes quote rest units) :
    Denotes quote (CodePoint.ofChar '\\' :: (body ++ rest)) (value.utf16 ++ units) := by
  obtain ⟨pieces, parts, cut, decoded, rfl⟩ := later
  refine ⟨_, value :: parts, .escape escapes cut, ?_, ?_⟩
  · have first : (Piece.escape (CodePoint.ofChar '\\' :: body)).decode = .ok value := denoted
    rw [List.mapM_cons, first, decoded]
    rfl
  · rw [List.flatten_cons, Text.utf16_append]

/-- An escape sequence that denotes a code point. -/
theorem Denotes.point {body : Text} {point : CodePoint} (escapes : IsEscape rest body)
    (denoted : escapeBodyValue body = .ok [point]) (later : Denotes quote rest units) :
    Denotes quote (CodePoint.ofChar '\\' :: (body ++ rest)) (point.utf16 ++ units) := by
  have whole := later.escape escapes denoted
  rwa [Text.utf16_cons, Text.utf16_nil, List.append_nil] at whole

/-- Digits behind a mark denote the code point of their number. -/
theorem Denotes.digits {mark point : CodePoint} {digits : Text} (marks : mark = 'u' ∨ mark = 'x')
    (nonempty : digits ≠ []) (hex : ∀ digit ∈ digits, digit.isHexDigit = true)
    (number : digits.hexNumber = point.toNat) (escapes : IsEscape rest (mark :: digits))
    (later : Denotes quote rest units) :
    Denotes quote (CodePoint.ofChar '\\' :: (mark :: digits ++ rest)) (point.utf16 ++ units) := by
  have denoted := escapeBodyValue_digits marks nonempty hex
  rw [number, codePointOf_of_lt point.isLt] at denoted
  exact later.point escapes denoted

/-- Four digits denote the unit of that number. -/
theorem Denotes.unit {digits : Text} (size : digits.length = 4)
    (hex : ∀ digit ∈ digits, digit.isHexDigit = true) (later : Denotes quote rest units) :
    Denotes quote (text "\\u" ++ (digits ++ rest)) (digits.hexNumber :: units) := by
  have small := Text.hexNumber_lt_of_length hex (Nat.le_of_eq size)
  have nonempty := List.ne_nil_of_length_eq_add_one size
  have number : digits.hexNumber =
      CodePoint.toNat ⟨digits.hexNumber, small.trans (by decide)⟩ := rfl
  have whole := later.digits (Or.inl rfl) nonempty hex number (.four size hex)
  rw [CodePoint.utf16, if_pos small] at whole
  exact whole

/-- A letter or a mark denotes a code point where it starts no longer sequence. -/
theorem Denotes.single {letter : CodePoint} (notCode : letter ≠ 'u') (notByte : letter ≠ 'x')
    (notOctal : letter.isOctalDigit = false) (inLine : letter.isLineEnd = false)
    (later : Denotes quote rest units) :
    Denotes quote (CodePoint.ofChar '\\' :: letter :: rest)
      ((simpleEscape letter).utf16 ++ units) := by
  have denoted := escapeBodyValue_singleton letter
  rw [inLine] at denoted
  refine later.point (.single notCode notByte notOctal ?_) denoted
  rintro rfl
  cases inLine

/-- A continued line denotes nothing. A carriage return takes a line feed behind it, which would
then have to be another one. -/
theorem Denotes.continued {lineBreak : Text} (breaks : lineBreak ∈ lineBreaks)
    (inLine : ∀ next ∈ rest.head?, next ≠ '\n') (later : Denotes quote rest units) :
    Denotes quote (CodePoint.ofChar '\\' :: (lineBreak ++ rest)) units := by
  have listed : ∀ lineBreak ∈ lineBreaks, lineBreak ∈ continuations := by decide
  have escapes : IsEscape rest lineBreak := by
    have forms : ∀ lineBreak ∈ lineBreaks, lineBreak = text "\r\n" ∨
        ∃ point ∈ lineBreak.head?, lineBreak = [point] ∧ point ≠ CodePoint.ofChar 'u' ∧
          point ≠ CodePoint.ofChar 'x' ∧ point.isOctalDigit = false := by
      decide
    rcases forms lineBreak breaks with rfl | ⟨point, -, rfl, notCode, notByte, notOctal⟩
    · exact .newline
    · exact .single notCode notByte notOctal fun _ => inLine
  exact later.escape escapes (escapeBodyValue_continuation (listed lineBreak breaks))

end Denoting

/-! ### Values -/

variable {quote : CodePoint} {value inner : Text}

/-- A spelling of a code point denotes its units, whatever follows. -/
theorem Spells.denotes {point : CodePoint} {spelled rest : Text} {units : List Nat}
    (spells : Spells quote point spelled) (later : Denotes quote rest units) :
    Denotes quote (spelled ++ rest) (point.utf16 ++ units) := by
  cases spells with
  | raw notQuote notBackslash notLineFeed notReturn notZero notSurrogate =>
    exact later.plain notBackslash notQuote notLineFeed notReturn
  | two size hex number =>
    have nonempty := List.ne_nil_of_length_eq_add_one size
    exact later.digits (Or.inr rfl) nonempty hex number (.two size hex)
  | four size hex number =>
    have nonempty := List.ne_nil_of_length_eq_add_one size
    exact later.digits (Or.inl rfl) nonempty hex number (.four size hex)
  | pair size sizeLow hex hexLow units =>
    have both := (later.unit sizeLow hexLow).unit size hex
    rw [units]
    simp only [List.append_assoc] at both ⊢
    exact both
  | braces nonempty hex number =>
    have denoted := escapeBodyValue_braces nonempty hex
    rw [number, codePointOf_of_lt point.isLt] at denoted
    exact later.point (.braces nonempty hex) denoted
  | @single letter _ listed =>
    have every : ∀ pair ∈ singleSpellings, pair.1 ≠ CodePoint.ofChar 'u' ∧
        pair.1 ≠ CodePoint.ofChar 'x' ∧ pair.1.isOctalDigit = false ∧
          pair.1.isLineEnd = false ∧ simpleEscape pair.1 = pair.2 := by
      decide
    obtain ⟨notCode, notByte, notOctal, inLine, same⟩ := every _ listed
    have whole := later.single notCode notByte notOctal inLine
    rw [same] at whole
    exact whole

/-- A spelling does not start with a line feed. -/
theorem IsSpelled.head_ne (spelled : IsSpelled quote value inner) :
    ∀ next ∈ inner.head?, next ≠ '\n' := by
  intro next starts
  cases spelled with
  | nil => cases starts
  | cons spells later =>
    cases spells with
    | raw notQuote notBackslash notLineFeed notReturn notZero notSurrogate =>
      cases starts
      exact notLineFeed
    | _ =>
      cases starts
      decide
  | continued breaks later =>
    cases starts
    decide

/-- A spelling of a text denotes its units. -/
theorem IsSpelled.denotes (spelled : IsSpelled quote value inner) :
    Denotes quote inner value.utf16 := by
  induction spelled with
  | nil => exact .nil
  | @cons point value _ inner spells later inductionHypothesis =>
    rw [Text.utf16_cons]
    exact spells.denotes inductionHypothesis
  | continued breaks later inductionHypothesis =>
    exact inductionHypothesis.continued breaks later.head_ne

/-- A literal with a spelling of a text is a literal of the grammar and denotes the text. -/
theorem IsSpelled.literal (marks : quote = '\'' ∨ quote = '"') (joined : value.IsJoined)
    (spelled : IsSpelled quote value inner) :
    tokenSize? (quote :: (inner ++ [quote])) =
        some (.literal, (quote :: (inner ++ [quote])).length) ∧
      literalValue (literalPieces (quote :: (inner ++ [quote]))) = .ok value := by
  obtain ⟨pieces, parts, cut, decoded, units⟩ := spelled.denotes
  obtain ⟨sized, same⟩ := cut.literal marks
  refine ⟨?_, ?_⟩
  · rw [sized, List.length_cons, List.length_append, List.length_singleton]
  · rw [same, literalValue, decoded]
    show Except.ok (Text.joinSurrogates parts.flatten) = _
    rw [Text.joinSurrogates_eq_of_utf16 joined units]

/-! ### Code points of a spelling -/

/-- A code point that may stand in the text of a program. -/
def CodePoint.MayStand (point : CodePoint) : Prop := point.isSurrogate = false ∧ point.toNat ≠ 0

instance : DecidablePred CodePoint.MayStand := fun point =>
  inferInstanceAs (Decidable (point.isSurrogate = false ∧ point.toNat ≠ 0))

theorem CodePoint.mayStand_of_isHexDigit {point : CodePoint} (hex : point.isHexDigit = true) :
    point.MayStand := by
  obtain ⟨low, high⟩ := bounds_of_isHexDigit hex
  simp only [MayStand, isSurrogate, Bool.and_eq_false_iff, decide_eq_false_iff_not]
  omega

theorem Spells.mayStand {point : CodePoint} {spelled : Text}
    (spells : Spells quote point spelled) : ∀ other ∈ spelled, other.MayStand := by
  have digits {digits : Text} (hex : ∀ digit ∈ digits, digit.isHexDigit = true) :
      ∀ digit ∈ digits, digit.MayStand :=
    fun digit member => CodePoint.mayStand_of_isHexDigit (hex digit member)
  have unit : ∀ point ∈ text "\\u", point.MayStand := by decide
  cases spells with
  | raw notQuote notBackslash notLineFeed notReturn notZero notSurrogate =>
    exact List.forall_mem_singleton.mpr ⟨notSurrogate, notZero⟩
  | two size hex number => exact List.forall_mem_append.mpr ⟨by decide, digits hex⟩
  | four size hex number => exact List.forall_mem_append.mpr ⟨unit, digits hex⟩
  | pair size sizeLow hex hexLow units =>
    exact List.forall_mem_append.mpr ⟨unit, List.forall_mem_append.mpr ⟨digits hex,
      List.forall_mem_append.mpr ⟨unit, digits hexLow⟩⟩⟩
  | braces nonempty hex number =>
    exact List.forall_mem_append.mpr ⟨by decide, List.forall_mem_append.mpr
      ⟨digits hex, by decide⟩⟩
  | single listed =>
    have every : ∀ pair ∈ singleSpellings, pair.1.MayStand := by decide
    exact List.forall_mem_cons.mpr ⟨by decide, List.forall_mem_singleton.mpr (every _ listed)⟩

theorem IsSpelled.mayStand (spelled : IsSpelled quote value inner) :
    ∀ point ∈ inner, point.MayStand := by
  induction spelled with
  | nil => exact List.forall_mem_nil _
  | cons spells later inductionHypothesis =>
    exact List.forall_mem_append.mpr ⟨spells.mayStand, inductionHypothesis⟩
  | continued breaks later inductionHypothesis =>
    have every : ∀ lineBreak ∈ lineBreaks, ∀ point ∈ lineBreak, point.MayStand := by decide
    exact List.forall_mem_cons.mpr ⟨by decide, List.forall_mem_append.mpr
      ⟨every _ breaks, inductionHypothesis⟩⟩

/-! ### Statements -/

/-- One blank in front of so many tokens behind the first one, a semicolon and a line break. -/
def spaced (count : Nat) : Layout :=
  @Layout.uniform count (text " ") (text "\n") (by decide +kernel) (by decide +kernel) false true

namespace Import

variable {dialect : Dialect}

/-- A layout fits when the text is made of code points that may stand in a program. -/
theorem Fits.of_mayStand {declared : Import dialect} {layout : Layout}
    (apart : (declared.tokens layout).IsChain Token.IsApart)
    (every : ∀ point ∈ declared.written layout, point.MayStand) : declared.Fits layout where
  apart := apart
  encodes point member := (every point member).1
  clean point member := (every point member).2

/-- A declaration with one binding is built from any text whose normal form is the declaration. -/
theorem exists_statement {declared : Import dialect} {layout : Layout} {given : Text}
    {only : Introduced} (fits : declared.Fits layout) (whole : ¬ declared.IsCutShort)
    (normal : normalForm given = declared.written layout) (single : declared.introduced = [only]) :
    ∃ statement, Statement.ofValue [] (.text given) (.ok dialect.name) = .ok statement ∧
      statement.source = some declared.source.value ∧ statement.specifier.introduced = only := by
  have names := declared.introduced_specifiers layout
  rw [single, List.map_eq_singleton_iff] at names
  obtain ⟨specifier, specified, same⟩ := names
  have read := readStatement_eq fits whole
  rw [← normal] at read
  have built := @Statement.ofText_of_node
    ⟨given, normalForm given, dialect, declared.node layout, specifier, specified⟩ read rfl rfl
  exact ⟨_, (Statement.ofValue_text given).trans built, rfl, same⟩

/-- The import of the default export of a module as `X`. -/
def ofSource (dialect : Dialect) (source : StringLiteral) : Import dialect where
  clause := some ⟨none, .single (.ofText (text "X") (by decide +kernel))⟩
  source := source
  attributes := none

/-- The import of an export of the module `m` as `X`. -/
def ofExport (dialect : Dialect) (exported : StringLiteral) : Import dialect where
  clause := some ⟨none, .group (.named
    [⟨none, .renamed (.literal exported) (.ofText (text "X") (by decide +kernel))⟩])⟩
  source := sourceM
  attributes := none

theorem tokens_ofSource (source : StringLiteral) :
    (ofSource dialect source).tokens (spaced 3) =
      [⟨[], .name, text "import"⟩, ⟨text " ", .name, text "X"⟩, ⟨text " ", .name, text "from"⟩,
        ⟨text " ", .literal, source.written⟩, ⟨[], .semicolon, text ";"⟩] := rfl

theorem tokens_ofExport (exported : StringLiteral) :
    (ofExport dialect exported).tokens (spaced 7) =
      [⟨[], .name, text "import"⟩, ⟨text " ", .openBrace, text "\x7b"⟩,
        ⟨text " ", .literal, exported.written⟩, ⟨text " ", .name, text "as"⟩,
        ⟨text " ", .name, text "X"⟩, ⟨text " ", .closeBrace, text "\x7d"⟩,
        ⟨text " ", .name, text "from"⟩, ⟨text " ", .literal, text "'m'"⟩,
        ⟨[], .semicolon, text ";"⟩] := rfl

theorem written_ofSource (source : StringLiteral) :
    (ofSource dialect source).written (spaced 3) =
      text "import X from " ++ (source.written ++ text ";\n") := by
  rw [Import.written, tokens_ofSource]
  simp [spaced, Layout.uniform, text]

theorem written_ofExport (exported : StringLiteral) :
    (ofExport dialect exported).written (spaced 7) =
      text "import \x7b " ++ (exported.written ++ text " as X \x7d from 'm';\n") := by
  rw [Import.written, tokens_ofExport]
  simp [spaced, Layout.uniform, text]

theorem fits_ofSource {source : StringLiteral}
    (clean : ∀ point ∈ source.written, point.MayStand) :
    (ofSource dialect source).Fits (spaced 3) := by
  have every : ∀ point ∈ (ofSource dialect source).written (spaced 3), point.MayStand := by
    rw [written_ofSource, List.forall_mem_append, List.forall_mem_append]
    exact ⟨by decide, clean, by decide⟩
  refine .of_mayStand ?_ every
  rw [tokens_ofSource]
  simp [Token.IsApart, text]

theorem fits_ofExport {exported : StringLiteral}
    (clean : ∀ point ∈ exported.written, point.MayStand) :
    (ofExport dialect exported).Fits (spaced 7) := by
  have every : ∀ point ∈ (ofExport dialect exported).written (spaced 7), point.MayStand := by
    rw [written_ofExport, List.forall_mem_append, List.forall_mem_append]
    exact ⟨by decide, clean, by decide⟩
  refine .of_mayStand ?_ every
  rw [tokens_ofExport]
  simp [Token.IsApart, text]

end Import

namespace Statement

theorem imported_of_introduced {statement : Statement} {name binding : Text} {isAliased : Bool}
    (only : statement.specifier.introduced = ⟨.export name, binding, isAliased⟩) :
    statement.imported = name := by
  rw [imported]
  cases specifier : statement.specifier with
  | named imported binding =>
    rw [specifier] at only
    cases only
    rfl
  | _ =>
    rw [specifier] at only
    cases only

variable {dialect : Dialect} {quoted : StringLiteral} {quote : CodePoint} {inner : Text}

/-- The source of a default import is what its literal denotes. -/
theorem exists_source_eq (marks : quote = '\'' ∨ quote = '"')
    (shape : quoted.written = quote :: (inner ++ [quote]))
    (clean : ∀ point ∈ quoted.written, point.MayStand) :
    ∃ statement, ofValue [] (.text (text "X from " ++ quoted.written)) (.ok dialect.name) =
      .ok statement ∧ statement.source = some quoted.value := by
  obtain ⟨notBlank, notMark⟩ : quote.isBlank = false ∧ quote ≠ ';' := by
    rcases marks with rfl | rfl <;> decide
  have normal : normalForm (text "X from " ++ quoted.written) =
      (Import.ofSource dialect quoted).written (spaced 3) := by
    have bare :=
      @normalForm_of_bare (text "X from " ++ quote :: inner) quote rfl notBlank notMark rfl
    rw [Import.written_ofSource, shape]
    simp only [List.append_assoc, List.cons_append, List.nil_append] at bare ⊢
    exact bare
  have whole : ¬ (Import.ofSource dialect quoted).IsCutShort := by
    rintro ⟨clause, stated, modified, -⟩
    cases stated
    cases modified
  obtain ⟨statement, built, source, -⟩ :=
    Import.exists_statement (Import.fits_ofSource clean) whole normal rfl
  exact ⟨statement, built, source⟩

/-- The export of a named import is what its literal denotes. -/
theorem exists_imported_eq (clean : ∀ point ∈ quoted.written, point.MayStand) :
    ∃ statement, ofValue []
        (.text (text "\x7b " ++ (quoted.written ++ text " as X \x7d from 'm'")))
        (.ok dialect.name) = .ok statement ∧ statement.imported = quoted.value := by
  have normal : normalForm (text "\x7b " ++ (quoted.written ++ text " as X \x7d from 'm'")) =
      (Import.ofExport dialect quoted).written (spaced 7) := by
    have bare := @normalForm_of_bare
      (text "\x7b " ++ (quoted.written ++ text " as X \x7d from 'm")) '\'' rfl rfl (by decide) rfl
    rw [Import.written_ofExport]
    simp only [List.append_assoc] at bare ⊢
    exact bare
  have whole : ¬ (Import.ofExport dialect quoted).IsCutShort := by
    rintro ⟨clause, stated, modified, -⟩
    cases stated
    cases modified
  obtain ⟨statement, built, -, only⟩ :=
    Import.exists_statement (Import.fits_ofExport clean) whole normal rfl
  exact ⟨statement, built, imported_of_introduced only⟩

/-- Every spelling of a joined text is read as the text: as the source of a default import, and as
the export of a named import. -/
theorem exists_of_isSpelled (dialect : Dialect) {value : Text}
    (marks : quote = '\'' ∨ quote = '"') (joined : value.IsJoined)
    (spelled : IsSpelled quote value inner) :
    (∃ statement, ofValue [] (.text (text "X from " ++ (quote :: (inner ++ [quote]))))
        (.ok dialect.name) = .ok statement ∧ statement.source = some value) ∧
    ∃ statement, ofValue []
        (.text (text "\x7b " ++ ((quote :: (inner ++ [quote])) ++ text " as X \x7d from 'm'")))
        (.ok dialect.name) = .ok statement ∧ statement.imported = value := by
  obtain ⟨sized, decoded⟩ := spelled.literal marks joined
  have clean : ∀ point ∈ quote :: (inner ++ [quote]), point.MayStand := by
    have mark : quote.MayStand := by
      rcases marks with rfl | rfl <;> decide
    exact List.forall_mem_cons.mpr ⟨mark, List.forall_mem_append.mpr
      ⟨spelled.mayStand, List.forall_mem_singleton.mpr mark⟩⟩
  have denoted := StringLiteral.value_ofValue sized decoded
  have source := @exists_source_eq dialect (.ofValue sized decoded) quote inner marks rfl clean
  have imported := @exists_imported_eq dialect (.ofValue sized decoded) clean
  rw [denoted] at source imported
  exact ⟨source, imported⟩

/-- The first half of a pair, a whole pair, a letter, a line feed and the second half of a pair. -/
def halves : Text := [⟨0xD800, by decide⟩, ⟨0x1F600, by decide⟩, 'A', '\n', ⟨0xDC00, by decide⟩]

theorem exists_of_isSpelled_halves :
    halves.IsJoined ∧
      IsSpelled '"' halves (text "\\uD800\\ud83d\\uDE00A\\\r\\\n\\n\\u\x7b00dc00\x7d") ∧
      ∃ statement, ofValue []
        (.text (text "X from \"\\uD800\\ud83d\\uDE00A\\\r\\\n\\n\\u\x7b00dc00\x7d\""))
        (.ok (text "tsx")) = .ok statement ∧ statement.source = some halves := by
  have joined : halves.IsJoined := by
    unfold Text.IsJoined CodePoint.Pairs
    decide +kernel
  have spelled : IsSpelled '"' halves
      (text "\\uD800\\ud83d\\uDE00A\\\r\\\n\\n\\u\x7b00dc00\x7d") := by
    have high := @Spells.four '"' ⟨0xD800, by decide⟩ (text "D800") rfl (by decide) (by decide)
    have pair := @Spells.pair '"' ⟨0x1F600, by decide⟩ (text "d83d") (text "DE00") rfl rfl
      (by decide) (by decide) (by decide)
    have letter := @Spells.raw '"' 'A' (by decide) (by decide) (by decide) (by decide) (by decide)
      (by decide)
    have feed := @Spells.single '"' 'n' '\n' (by decide)
    have low := @Spells.braces '"' ⟨0xDC00, by decide⟩ (text "00dc00") (by decide) (by decide)
      (by decide)
    exact .cons high (.cons pair (.cons letter (@IsSpelled.continued '"' _ (text "\r") _ (by decide)
      (@IsSpelled.continued '"' _ (text "\n") _ (by decide) (.cons feed (.cons low .nil))))))
  exact ⟨joined, spelled, (exists_of_isSpelled .tsx (Or.inr rfl) joined spelled).1⟩

end Statement

end ImportBinding
