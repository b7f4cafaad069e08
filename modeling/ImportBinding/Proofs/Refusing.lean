/-
This file says how the building of a statement can fail.

Whatever is wrong with the form of a value is a reason to refuse it. Two things are not about its
form: a text with surrogates is read by no one, and the number in an escape sequence may be too
large for a code point. Then building fails in another way.
-/

import ImportBinding.Proofs.Built
import ImportBinding.Proofs.Escapes

namespace ImportBinding

/-! ### Escape sequences in a declaration -/

/-- A literal with an escape sequence for a number that is too large for a code point. -/
def Token.IsOversized (token : Token) : Prop :=
  token.kind = .literal ∧ ∃ piece ∈ literalPieces token.body, piece.IsOversized

/-- The first number in a literal that is too large for a code point. -/
def Token.oversized? (token : Token) : Option Nat :=
  if token.kind = .literal then (literalPieces token.body).findSome? Piece.oversized? else none

theorem Token.not_isOversized_iff {token : Token} :
    ¬ token.IsOversized ↔ token.oversized? = none := by
  rw [IsOversized, oversized?]
  by_cases literal : token.kind = .literal
  · rw [if_pos literal, List.findSome?_eq_none_iff]
    simp only [literal, true_and, not_exists, not_and, Piece.not_isOversized_iff]
  · rw [if_neg literal]
    exact iff_of_true (fun oversized => literal oversized.1) rfl

theorem Token.literalValue_failsAt {token : Token} (literal : token.kind = .literal) :
    FailsAt token.oversized? token.literalValue := by
  rw [oversized?, if_pos literal]
  exact ImportBinding.literalValue_failsAt token.body

theorem Token.exportName_failsAt (token : Token) (offset : Nat) :
    FailsAt token.oversized? (token.exportName offset) := by
  unfold exportName
  split
  · rename_i literal
    exact (Token.literalValue_failsAt literal).bind_ok fun name => ⟨_, rfl⟩
  · rename_i other
    rw [oversized?, if_neg other]
    exact .ok _

theorem Token.literalValue_succeedsWhen {token : Token} (literal : token.kind = .literal) :
    SucceedsWhen (¬ token.IsOversized) token.literalValue :=
  (Token.literalValue_failsAt literal).succeedsWhen Token.not_isOversized_iff

/-- The names of the exports of a group. -/
def Group.exports : Group → List Token
  | .star _ _ _ => []
  | .named listing => listing.entries.map NamedImport.imported

/-- The names of the exports of a declaration. -/
def Declaration.exports (declaration : Declaration) : List Token :=
  match declaration.clause with
  | none => []
  | some clause =>
    match clause.bindings with
    | .single _ => []
    | .both _ _ members | .group members => members.exports

theorem NamedImport.specifier_failsAt (entry : NamedImport) (offset : Nat) :
    FailsAt entry.imported.oversized? (entry.specifier offset) := by
  refine (entry.imported.exportName_failsAt _).bind_ok fun name => ?_
  cases entry.asClause <;> exact ⟨_, rfl⟩

theorem Group.specifiers_failsAt (members : Group) (offset : Nat) :
    FailsAt (members.exports.findSome? Token.oversized?) (members.specifiers offset) := by
  cases members with
  | star mark asWord binding => exact .ok _
  | named listing =>
    have entries := map_snd_placeEntries NamedImport.tokens listing.final
      (offset + listing.opening.width) listing.ended
    rw [Group.exports, Listing.entries, ← entries, List.map_map, List.findSome?_map]
    exact .mapM fun pair _ => pair.2.specifier_failsAt pair.1

/-- The specifiers of a declaration can be told, unless the name of an export has a number that is
too large. The first one is told then. -/
theorem Declaration.specifiers_failsAt (declaration : Declaration) (offset : Nat) :
    FailsAt (declaration.exports.findSome? Token.oversized?) (declaration.specifiers offset) := by
  obtain ⟨keyword, clause, source, attributes, terminator⟩ := declaration
  cases clause with
  | none => exact .ok _
  | some clause =>
    obtain ⟨modifier, bindings, fromWord⟩ := clause
    cases bindings with
    | single binding => exact .ok _
    | both binding comma members =>
      exact (members.specifiers_failsAt _).bind_ok fun specifiers => ⟨_, rfl⟩
    | group members => exact members.specifiers_failsAt _

theorem Declaration.specifiers_succeedsWhen (declaration : Declaration) (offset : Nat) :
    SucceedsWhen (∀ token ∈ declaration.exports, ¬ token.IsOversized)
      (declaration.specifiers offset) := by
  refine (declaration.specifiers_failsAt offset).succeedsWhen ?_
  simp only [List.findSome?_eq_none_iff, Token.not_isOversized_iff]

/-! ### Nodes -/

/-- A declaration with a number that is too large for a code point where it is decoded: in the name
of an export, or in the source unless a local name is a reserved word. -/
def Declaration.IsUndecodable (declaration : Declaration) : Prop :=
  (∃ token ∈ declaration.exports, token.IsOversized) ∨
    (declaration.source.IsOversized ∧ ∀ token ∈ declaration.bindings, token.body ∉ reservedWords)

theorem reservedFault?_eq_none_iff {specifiers : List Specifier} :
    reservedFault? specifiers = none ↔
      ∀ name ∈ specifiers.map fun specifier => specifier.binding.name, name ∉ reservedWords := by
  rw [reservedFault?, Option.map_eq_none_iff, List.find?_eq_none, List.forall_mem_map]
  simp only [decide_eq_true_eq]

/-- The local names of a framed declaration are free when none of its specifiers is at fault. -/
theorem Declaration.reservedFault?_eq_none_iff {declaration : Declaration} {dialect : Dialect}
    {offset : Nat} {specifiers : List Specifier} (framed : declaration.IsFramed dialect)
    (specified : declaration.specifiers offset = .ok specifiers) :
    reservedFault? specifiers = none ↔
      ∀ token ∈ declaration.bindings, token.body ∉ reservedWords := by
  rw [ImportBinding.reservedFault?_eq_none_iff,
    Declaration.names_of_specifiers framed specified, List.forall_mem_map]

theorem Declaration.node_of_isUndecodable {declaration : Declaration} {dialect : Dialect}
    (framed : declaration.IsFramed dialect) (undecodable : declaration.IsUndecodable) :
    ∃ failure, declaration.node 0 = .error failure ∧ failure.IsNoCodePoint := by
  have when_ := declaration.specifiers_succeedsWhen 0
  by_cases exported : ∀ token ∈ declaration.exports, ¬ token.IsOversized
  · obtain ⟨specifiers, specified⟩ := when_.succeeds exported
    rcases undecodable with ⟨token, member, oversized⟩ | ⟨oversized, free⟩
    · exact absurd oversized (exported token member)
    · obtain ⟨failure, failed, kind⟩ :=
        (Token.literalValue_succeedsWhen framed.source).fails (not_not.mpr oversized)
      refine ⟨failure, ?_, kind⟩
      rw [Declaration.node_of_specifiers specified,
        (Declaration.reservedFault?_eq_none_iff framed specified).mpr free, failed]
      rfl
  · obtain ⟨failure, failed, kind⟩ := when_.fails exported
    exact ⟨failure, Declaration.node_of_specifiers_error failed, kind⟩

theorem Declaration.node_of_not_isUndecodable {declaration : Declaration} {dialect : Dialect}
    (framed : declaration.IsFramed dialect) (decodable : ¬ declaration.IsUndecodable) :
    (∃ fault, declaration.node 0 = .error (.illFormed fault)) ∨
      ∃ node, declaration.node 0 = .ok node := by
  obtain ⟨exported, sourced⟩ := not_or.mp decodable
  obtain ⟨specifiers, specified⟩ := (declaration.specifiers_succeedsWhen 0).succeeds
    fun token member oversized => exported ⟨token, member, oversized⟩
  rw [Declaration.node_of_specifiers specified]
  cases reserved : reservedFault? specifiers with
  | some fault => exact Or.inl ⟨fault, rfl⟩
  | none =>
    have free := (Declaration.reservedFault?_eq_none_iff framed specified).mp reserved
    obtain ⟨source, valued⟩ := (Token.literalValue_succeedsWhen framed.source).succeeds
      fun oversized => sourced ⟨oversized, free⟩
    rw [valued]
    exact Or.inr ⟨_, rfl⟩

/-! ### Surrogates and the normal form -/

/-- A number above all ranges is in none of them. -/
theorem Ranges.contains_of_lt {ranges : Ranges} {number : Nat}
    (above : ∀ range ∈ ranges, range.2 < number) : ranges.contains number = false := by
  induction ranges with
  | nil => rfl
  | cons range later inductionHypothesis =>
    have rest := inductionHypothesis fun other member => above other (List.mem_cons_of_mem _ member)
    rw [Ranges.contains, rest, if_neg (Nat.not_le.mpr (above range List.mem_cons_self)), ite_self]

theorem CodePoint.isBlank_of_isSurrogate {point : CodePoint} (half : point.isSurrogate = true) :
    point.isBlank = false := by
  simp only [isSurrogate, Bool.and_eq_true, decide_eq_true_eq] at half
  have last : ∀ range ∈ blankRanges, range.2 < 0xD800 := by decide
  exact Ranges.contains_of_lt fun range member => (last range member).trans_le half.1

theorem mem_dropWhile_of_neg {point : CodePoint} {class_ : CodePoint → Bool} {content : Text}
    (member : point ∈ content) (other : class_ point = false) :
    point ∈ content.dropWhile class_ := by
  rw [← List.takeWhile_append_dropWhile (p := class_) (l := content)] at member
  rcases List.mem_append.mp member with front | rest
  · rw [List.mem_takeWhile_imp front] at other
    cases other
  · exact rest

theorem mem_trim_of_not_isBlank {point : CodePoint} {content : Text} (member : point ∈ content)
    (other : point.isBlank = false) : point ∈ content.trim := by
  have started : point ∈ content.trimStart := mem_dropWhile_of_neg member other
  exact List.mem_reverse.mpr (mem_dropWhile_of_neg (List.mem_reverse.mpr started) other)

theorem mem_of_mem_trim {point : CodePoint} {content : Text} (member : point ∈ content.trim) :
    point ∈ content := by
  have reversed := (List.dropWhile_suffix _).subset (List.mem_reverse.mp member)
  exact (List.dropWhile_suffix _).subset (List.mem_reverse.mp reversed)

/-- The normal form has the code points of the trimmed text, and others of its own. -/
theorem mem_normalForm {point : CodePoint} {content : Text} (member : point ∈ normalForm content) :
    point ∈ content.trim ∨ point ∈ text "import ;\n" := by
  rcases List.mem_append.mp member with inside | newline
  · have written : point ∈ terminated content.trim ∨ point ∈ text "import " := by
      unfold introduced at inside
      split at inside
      · exact Or.inl inside
      · exact (List.mem_append.mp inside).symm
    rcases written with inside | word
    · unfold terminated at inside
      split at inside
      · exact Or.inl inside
      · refine (List.mem_append.mp inside).imp_right fun semicolon => ?_
        rw [List.mem_singleton.mp semicolon]
        decide
    · exact Or.inr (List.mem_append_left (text ";\n") word)
  · rw [List.mem_singleton.mp newline]
    exact Or.inr (by decide)

theorem mem_normalForm_of_mem_trim {point : CodePoint} {content : Text}
    (member : point ∈ content.trim) : point ∈ normalForm content := by
  have inside : point ∈ terminated content.trim := by
    unfold terminated
    split
    · exact member
    · exact List.mem_append_left _ member
  exact List.mem_append_left _ ((introduced_suffix _).subset inside)

/-- The normal form has a surrogate when the text has one. -/
theorem exists_isSurrogate_normalForm_iff {content : Text} :
    (∃ point ∈ normalForm content, point.isSurrogate = true) ↔
      ∃ point ∈ content, point.isSurrogate = true := by
  constructor
  · rintro ⟨point, member, half⟩
    have plain : ∀ point ∈ text "import ;\n", point.isSurrogate = false := by decide
    rcases mem_normalForm member with inside | word
    · exact ⟨point, mem_of_mem_trim inside, half⟩
    · rw [plain point word] at half
      cases half
  · rintro ⟨point, member, half⟩
    have kept := mem_trim_of_not_isBlank member (CodePoint.isBlank_of_isSurrogate half)
    exact ⟨point, mem_normalForm_of_mem_trim kept, half⟩

/-! ### Building -/

namespace Statement

/-- A text that cannot be decoded in a dialect: it has a surrogate, or the first declaration of its
normal form has a number that is too large for a code point. -/
def IsUndecodable (dialect : Dialect) (content : Text) : Prop :=
  (∃ point ∈ content, point.isSurrogate = true) ∨
    ∃ program declaration, Program.ofText dialect (normalForm content) = .ok program ∧
      program.declarations.head? = some declaration ∧ declaration.IsUndecodable

/-- A failure that is no refusal: a number is no code point, or a text has surrogates. -/
def IsDecodingFailure (failure : Failure) : Prop :=
  failure.IsNoCodePoint ∨ ∃ first start stop, failure = .surrogates first start stop

theorem ofText_of_isNoCodePoint {content : Text} {dialect : Dialect} {failure : Failure}
    (read : readStatement [] dialect (normalForm content) = .error failure)
    (kind : failure.IsNoCodePoint) : ofText [] content dialect = .error failure := by
  obtain ⟨number, rfl | rfl⟩ := kind <;> simp only [ofText, read] <;> rfl

/-- A text that is read is a statement, or refused for what it is. -/
theorem ofText_of_read {content : Text} {dialect : Dialect} {read : Option Node}
    (known : readStatement [] dialect (normalForm content) = .ok read) :
    (∃ statement, ofText [] content dialect = .ok statement) ∨
      ∃ reason, ofText [] content dialect = .error (.refused ⟨.text content, reason⟩) := by
  simp only [ofText, known]
  cases ofNode content (normalForm content) dialect read with
  | ok statement => exact Or.inl ⟨statement, rfl⟩
  | error reason => exact Or.inr ⟨reason, rfl⟩

/-- The first declaration of a program opens the text of the program. -/
theorem exists_opens_of_head? {dialect : Dialect} {content : Text} {program : Program}
    {declaration : Declaration} (parsed : Program.ofText dialect content = .ok program)
    (first : program.declarations.head? = some declaration) :
    program.node? = (declaration.node 0).map some ∧
      ∃ rest later tail, declaration.Opens dialect content rest later tail := by
  obtain ⟨items, tail⟩ := program
  obtain ⟨tokens, -, read⟩ := Program.ofText_eq_ok_iff.mp parsed
  rcases readProgram_eq_ok_cases read with ⟨-, rfl⟩ | ⟨other, later, rfl⟩
  · cases first
  · cases first
    obtain ⟨rest, opens⟩ := Program.ofText_eq_ok_cons_iff.mp parsed
    exact ⟨rfl, rest, later, tail, opens⟩

/-- What is read off a text without surrogates is the node of its first declaration. -/
theorem readStatement_of_head? {content : Text} {dialect : Dialect} {program : Program}
    {declaration : Declaration} (encodes : content.surrogates? (fun _ => false) = none)
    (parsed : Program.ofText dialect content = .ok program)
    (first : program.declarations.head? = some declaration) :
    readStatement [] dialect content = (declaration.node 0).map some := by
  obtain ⟨node, -⟩ := exists_opens_of_head? parsed first
  rw [readStatement_nil encodes, parsed, ← node]

theorem ofText_of_surrogate {dialect : Dialect} {content : Text}
    (half : ∃ point ∈ content, point.isSurrogate = true) :
    ∃ first start stop, ofText [] content dialect = .error (.surrogates first start stop) := by
  cases found : (normalForm content).surrogates? fun _ => false with
  | none =>
    obtain ⟨point, member, half⟩ := exists_isSurrogate_normalForm_iff.mpr half
    rw [surrogates?_eq_none_iff.mp found point member] at half
    cases half
  | some stretch =>
    obtain ⟨first, start, stop⟩ := stretch
    refine ⟨first, start, stop, ?_⟩
    have read : readStatement [] dialect (normalForm content) =
        .error (.surrogates first start stop) := by
      rw [readStatement, found]
      rfl
    simp only [ofText, read]
    rfl

/-- The normal form of a text without surrogates has none. -/
theorem encodes_normalForm {content : Text}
    (whole : ¬ ∃ point ∈ content, point.isSurrogate = true) :
    (normalForm content).surrogates? (fun _ => false) = none := by
  refine surrogates?_eq_none_iff.mpr fun point member => Bool.eq_false_iff.mpr fun half => whole ?_
  exact exists_isSurrogate_normalForm_iff.mp ⟨point, member, half⟩

theorem encodes_normalForm_of_forall {content : Text}
    (whole : ∀ point ∈ content, point.isSurrogate = false) :
    (normalForm content).surrogates? (fun _ => false) = none := by
  refine encodes_normalForm fun ⟨point, member, half⟩ => ?_
  rw [whole point member] at half
  cases half

theorem ofText_of_isUndecodable {dialect : Dialect} {content : Text}
    (undecodable : IsUndecodable dialect content) :
    ∃ failure, ofText [] content dialect = .error failure ∧ IsDecodingFailure failure := by
  by_cases half : ∃ point ∈ content, point.isSurrogate = true
  · obtain ⟨first, start, stop, failed⟩ := ofText_of_surrogate half
    exact ⟨_, failed, Or.inr ⟨first, start, stop, rfl⟩⟩
  · obtain ⟨program, declaration, parsed, first, large⟩ := undecodable.resolve_left half
    obtain ⟨-, _, _, _, opens⟩ := exists_opens_of_head? parsed first
    obtain ⟨failure, failed, kind⟩ := Declaration.node_of_isUndecodable opens.framed large
    have read := readStatement_of_head? (encodes_normalForm half) parsed first
    rw [failed] at read
    exact ⟨failure, ofText_of_isNoCodePoint read kind, Or.inl kind⟩

theorem ofText_of_not_isUndecodable {dialect : Dialect} {content : Text}
    (decodable : ¬ IsUndecodable dialect content) :
    (∃ statement, ofText [] content dialect = .ok statement) ∨
      ∃ reason, ofText [] content dialect = .error (.refused ⟨.text content, reason⟩) := by
  obtain ⟨whole, small⟩ := not_or.mp decodable
  have read := readStatement_nil (encodes_normalForm whole) dialect
  cases parsed : Program.ofText dialect (normalForm content) with
  | error fault =>
    rw [parsed] at read
    exact Or.inr ⟨_, ofText_of_illFormed read⟩
  | ok program =>
    rw [parsed] at read
    cases first : program.declarations.head? with
    | none =>
      have none : program.node? = .ok none := by
        rw [Program.node?, List.head?_eq_none_iff.mp first]
        rfl
      exact ofText_of_read (read.trans none)
    | some declaration =>
      obtain ⟨-, _, _, _, opens⟩ := exists_opens_of_head? parsed first
      have known := readStatement_of_head? (encodes_normalForm whole) parsed first
      rcases Declaration.node_of_not_isUndecodable opens.framed fun large =>
          small ⟨program, declaration, parsed, first, large⟩ with ⟨fault, refused⟩ | ⟨node, made⟩
      · rw [refused] at known
        exact Or.inr ⟨_, ofText_of_illFormed known⟩
      · rw [made] at known
        exact ofText_of_read known

theorem not_isDecodingFailure_refused (refusal : Refusal) :
    ¬ IsDecodingFailure (.refused refusal) := by
  rintro (⟨number, same | same⟩ | ⟨first, start, stop, same⟩) <;> cases same

/-- Building from a text fails by refusing it, or because it cannot be decoded. -/
theorem failure_of_ofText {content : Text} {dialect : Dialect} {failure : Failure}
    (failed : ofText [] content dialect = .error failure) :
    (∃ refusal, failure = .refused refusal) ∨ IsDecodingFailure failure := by
  by_cases undecodable : IsUndecodable dialect content
  · obtain ⟨other, failedToo, kind⟩ := ofText_of_isUndecodable undecodable
    rw [failed] at failedToo
    cases failedToo
    exact Or.inr kind
  · rcases ofText_of_not_isUndecodable undecodable with ⟨_, made⟩ | ⟨_, refused⟩
    · rw [failed] at made
      cases made
    · rw [failed] at refused
      cases refused
      exact Or.inl ⟨_, rfl⟩

/-- The name of a dialect is chosen by a text that is that name, blanks and capitals aside. -/
theorem languageOf_of_chosen {language : Text} {dialect : Dialect}
    (chosen : language.trim.lower = dialect.name) (configured : Except Failure Text) :
    languageOf (.text language) configured = .ok dialect.name := by
  have given : (Value.text language).isGiven = true := by
    cases language with
    | nil => cases dialect <;> exact absurd chosen (by decide)
    | cons point rest => rfl
  rw [languageOf, if_pos given, ← chosen]
  rfl

theorem ofValue_text {recordings : List Recording} {dialect : Dialect} (content : Text) :
    ofValue recordings (.text content) (.ok dialect.name) =
      ofText recordings content dialect := by
  have named : dialectOf (.text dialect.name) = .ok dialect := by
    rw [dialectOf, (Dialect.ofName?_eq_some_iff _ _).mpr rfl]
    rfl
  show dialectOf (.text dialect.name) >>= ofText recordings content = _
  rw [named]
  rfl

theorem ofValue_of_not_text {given : Value} (other : ∀ content, given ≠ .text content)
    (language : Except Failure Text) :
    ofValue [] given language = .error (.refused ⟨given, .notText⟩) := by
  cases given with
  | text content => exact absurd rfl (other content)
  | _ => rfl

/-- With one of the dialects chosen, building a statement from a value either succeeds or refuses
that value, exactly when the value is no text that cannot be decoded. Building fails in no other way
than by refusing or decoding. -/
theorem ofValue_isRefused_iff {language : Text} {configured : Except Failure Text}
    {dialect : Dialect} (chosen : language.trim.lower = dialect.name) (given : Value) :
    (((∃ statement, ofValue [] given (languageOf (.text language) configured) = .ok statement) ∨
        ∃ reason, ofValue [] given (languageOf (.text language) configured) =
          .error (.refused ⟨given, reason⟩)) ↔
      ∀ content, given = .text content → ¬ IsUndecodable dialect content) ∧
    ∀ failure, ofValue [] given (languageOf (.text language) configured) = .error failure →
      (∃ reason, failure = .refused ⟨given, reason⟩) ∨ IsDecodingFailure failure := by
  rw [languageOf_of_chosen chosen]
  by_cases other : ∀ content, given ≠ .text content
  · rw [ofValue_of_not_text other]
    refine ⟨iff_of_true (Or.inr ⟨_, rfl⟩) fun content same => absurd same (other content), ?_⟩
    rintro failure ⟨⟩
    exact Or.inl ⟨_, rfl⟩
  · obtain ⟨content, same⟩ := not_forall.mp other
    obtain rfl := not_not.mp same
    rw [ofValue_text]
    by_cases undecodable : IsUndecodable dialect content
    · obtain ⟨failure, failed, kind⟩ := ofText_of_isUndecodable undecodable
      rw [failed]
      refine ⟨iff_of_false ?_ fun every => every content rfl undecodable, ?_⟩
      · rintro (⟨statement, made⟩ | ⟨reason, refused⟩)
        · cases made
        · cases refused
          exact not_isDecodingFailure_refused _ kind
      · rintro _ ⟨⟩
        exact Or.inr kind
    · have outcome := ofText_of_not_isUndecodable undecodable
      refine ⟨iff_of_true outcome ?_, fun failure failed => Or.inl ?_⟩
      · rintro _ ⟨⟩
        exact undecodable
      · rcases outcome with ⟨statement, made⟩ | ⟨reason, refused⟩
        · rw [made] at failed
          cases failed
        · rw [refused] at failed
          cases failed
          exact ⟨reason, rfl⟩

/-- A statement is built from a text that can be decoded, whatever the case of the dialect's
name. -/
theorem ofValue_isRefused_iff_button :
    (text " JavaScript ").trim.lower = Dialect.javascript.name ∧
      ¬ IsUndecodable .javascript (text "Button from 'vendor/button'") := by
  have chosen : (text " JavaScript ").trim.lower = Dialect.javascript.name := by decide +kernel
  have known : (ofValue [] (.text (text "Button from 'vendor/button'"))
      (languageOf (.text (text " JavaScript ")) (.error .noAttribute))).toOption.map binding =
        some (text "Button") := by
    decide +kernel
  obtain ⟨statement, made, -⟩ := exists_ok_of_map_toOption known
  refine ⟨chosen, ?_⟩
  exact (ofValue_isRefused_iff chosen _).1.mp (Or.inl ⟨statement, made⟩) _ rfl

/-- Of a source with a number that is too large for a code point neither a statement is built, nor
is it refused. -/
theorem exists_not_isRefused :
    ∃ failure, ofValue [] (.text (text "x from '\\u\x7b110000\x7d'"))
        (languageOf (.text (text "javascript")) (.error .noAttribute)) = .error failure ∧
      ∀ refusal, failure ≠ .refused refusal := by
  have failed : (match ofValue [] (.text (text "x from '\\u\x7b110000\x7d'"))
      (languageOf (.text (text "javascript")) (.error .noAttribute)) with
      | .error (.notCodePoint number) => some number
      | _ => none) = some 0x110000 := by
    decide +kernel
  split at failed
  · rename_i number same
    exact ⟨_, same, nofun⟩
  · cases failed

end Statement

end ImportBinding
