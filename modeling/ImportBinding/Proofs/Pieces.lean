/-
This file holds the grammar of literals and shows that the scanner keeps to it.

A literal is cut into pieces: plain code points and escape sequences of a few forms. What follows
matters to two of the forms only. Octal digits are taken as far as there are any, up to three, and a
carriage return takes a line feed behind it.
-/

import ImportBinding.Proofs.Spacing

namespace ImportBinding

/-! ### Escape sequences -/

/-- An escape sequence without its backslash, in front of some rest. -/
inductive IsEscape (rest : Text) : Text → Prop where
  /-- A code point in braces. -/
  | braces {digits : Text} (nonempty : digits ≠ [])
      (hex : ∀ point ∈ digits, point.isHexDigit = true) :
      IsEscape rest (text "u\x7b" ++ (digits ++ text "\x7d"))
  /-- A code unit of four digits. -/
  | four {digits : Text} (size : digits.length = 4)
      (hex : ∀ point ∈ digits, point.isHexDigit = true) :
      IsEscape rest (CodePoint.ofChar 'u' :: digits)
  /-- A code unit of two digits. -/
  | two {digits : Text} (size : digits.length = 2)
      (hex : ∀ point ∈ digits, point.isHexDigit = true) :
      IsEscape rest (CodePoint.ofChar 'x' :: digits)
  /-- Up to three octal digits. -/
  | octal {digits : Text} (nonempty : digits ≠ []) (short : digits.length ≤ 3)
      (octal : ∀ point ∈ digits, point.isOctalDigit = true)
      (ended : digits.length < 3 → ∀ next ∈ rest.head?, next.isOctalDigit = false) :
      IsEscape rest digits
  /-- A line break of two code points. -/
  | newline : IsEscape rest (text "\r\n")
  /-- Any other code point. -/
  | single {point : CodePoint} (notCode : point ≠ 'u') (notByte : point ≠ 'x')
      (notOctal : point.isOctalDigit = false)
      (ended : point = '\r' → ∀ next ∈ rest.head?, next ≠ '\n') : IsEscape rest [point]

/-- Two texts that are the same behind a split are the same on either side. -/
theorem take_of_eq_append {content front rest : Text} (split : content = front ++ rest) {size : Nat}
    (measured : size = front.length) : content.take size = front ∧ content.drop size = rest := by
  subst split measured
  exact ⟨List.take_left, List.drop_left⟩

theorem isEscape_of_unicodeEscapeSize {content : Text} (some : unicodeEscapeSize content ≠ 0) :
    IsEscape (content.drop (unicodeEscapeSize content))
      (content.take (unicodeEscapeSize content)) := by
  obtain ⟨brace, rest, rfl⟩ := exists_of_unicodeEscapeSize_ne_zero some
  rw [unicodeEscapeSize_cons] at some ⊢
  split at some
  · rename_i opens
    rw [if_pos opens]
    split at some
    · rename_i closed
      rw [if_pos closed]
      have every : ∀ point ∈ rest.takeWhile CodePoint.isHexDigit, point.isHexDigit = true :=
        fun point member => List.mem_takeWhile_imp member
      have front := List.prefix_iff_eq_take.mp
        (List.takeWhile_prefix CodePoint.isHexDigit (l := rest))
      obtain ⟨nonempty, closing⟩ := closed
      generalize rest.takeWhile CodePoint.isHexDigit = digits at front every nonempty closing ⊢
      obtain ⟨later, behind⟩ := List.head?_eq_some_iff.mp closing
      have whole : rest = digits ++ CodePoint.ofChar '\x7d' :: later := calc
        rest = rest.take digits.length ++ rest.drop digits.length :=
          (List.take_append_drop digits.length rest).symm
        _ = digits ++ CodePoint.ofChar '\x7d' :: later := by rw [← front, behind]
      have split : CodePoint.ofChar 'u' :: brace :: rest =
          (text "u\x7b" ++ (digits ++ text "\x7d")) ++ later := by
        rw [opens, whole]
        simp [text]
      have size : digits.length + 3 = (text "u\x7b" ++ (digits ++ text "\x7d")).length := by
        simp [text]
      obtain ⟨taken, left⟩ := take_of_eq_append split size
      rw [taken, left]
      exact .braces nonempty every
    · exact absurd rfl some
  · rename_i other
    rw [if_neg other]
    split at some
    · rename_i hex
      rw [if_pos hex]
      simp only [startsWithHex, Bool.and_eq_true, decide_eq_true_eq, List.all_eq_true] at hex
      rw [List.take_succ_cons]
      exact .four hex.1 hex.2
    · exact absurd rfl some

/-- Octal digits are an escape sequence where no more than two are taken behind the first one. -/
theorem isEscape_octal {point : CodePoint} (octal : point.isOctalDigit = true) (rest : Text) :
    IsEscape (rest.drop ((rest.take 2).takeWhile CodePoint.isOctalDigit).length)
      (point :: rest.take ((rest.take 2).takeWhile CodePoint.isOctalDigit).length) := by
  have front : (rest.take 2).takeWhile CodePoint.isOctalDigit <+: rest :=
    (List.takeWhile_prefix _).trans (List.take_prefix 2 rest)
  rw [← List.prefix_iff_eq_take.mp front]
  refine .octal (List.cons_ne_nil _ _) ?_ ?_ ?_
  · have short := (List.takeWhile_prefix CodePoint.isOctalDigit (l := rest.take 2)).length_le
    rw [List.length_take] at short
    rw [List.length_cons]
    omega
  · refine List.forall_mem_cons.mpr ⟨octal, fun other member => ?_⟩
    exact List.mem_takeWhile_imp member
  · intro fewer next starts
    match rest with
    | [] => cases starts
    | [second] =>
      cases digit : second.isOctalDigit <;> simp_all
    | second :: third :: rest =>
      cases digit : second.isOctalDigit <;> cases last : third.isOctalDigit <;>
        simp_all

/-- What the scanner takes behind a backslash is an escape sequence. -/
theorem isEscape_of_escapeSize {content : Text} (some : escapeSize content ≠ 0) :
    IsEscape (content.drop (escapeSize content)) (content.take (escapeSize content)) := by
  match content with
  | [] => exact absurd rfl some
  | point :: rest =>
    simp only [escapeSize] at some ⊢
    by_cases unicode : point = 'u'
    · rw [if_pos unicode] at some ⊢
      exact isEscape_of_unicodeEscapeSize some
    · rw [if_neg unicode] at some ⊢
      by_cases byte : point = 'x'
      · rw [if_pos byte] at some ⊢
        split at some
        · rename_i hex
          rw [if_pos hex, List.take_succ_cons, byte]
          simp only [startsWithHex, Bool.and_eq_true, decide_eq_true_eq, List.all_eq_true] at hex
          exact .two hex.1 hex.2
        · exact absurd rfl some
      · rw [if_neg byte]
        by_cases octal : point.isOctalDigit = true
        · rw [if_pos octal, Nat.add_comm, List.take_succ_cons, List.drop_succ_cons]
          exact isEscape_octal octal rest
        · have notOctal := Bool.eq_false_iff.mpr octal
          rw [if_neg octal]
          split
          · rename_i both
            obtain ⟨later, rfl⟩ := List.head?_eq_some_iff.mp both.2
            rw [both.1]
            exact .newline
          · rename_i alone
            refine .single unicode byte notOctal fun same next starts linefeed => alone ⟨same, ?_⟩
            rw [← linefeed]
            exact starts

/-- Octal digits are what is taken, up to some number, if there are no more of them. -/
theorem takeWhile_take_append {count : Nat} {digits rest : Text} (short : digits.length ≤ count)
    (octal : ∀ point ∈ digits, point.isOctalDigit = true)
    (ended : digits.length < count → ∀ next ∈ rest.head?, next.isOctalDigit = false) :
    ((digits ++ rest).take count).takeWhile CodePoint.isOctalDigit = digits := by
  have stops : (rest.take (count - digits.length)).takeWhile CodePoint.isOctalDigit = [] := by
    by_cases full : digits.length = count
    · rw [full, Nat.sub_self]
      rfl
    · obtain ⟨more, left⟩ : ∃ more, count - digits.length = more + 1 :=
        Nat.exists_eq_add_one.mpr (by omega)
      cases rest with
      | nil => simp
      | cons next rest =>
        rw [left, List.take_succ_cons]
        exact List.takeWhile_cons_of_neg (Bool.eq_false_iff.mp (ended (by omega) next rfl))
  rw [List.take_append, List.take_of_length_le short, List.takeWhile_append_of_pos octal, stops,
    List.append_nil]

/-- An escape sequence is what the scanner takes behind a backslash. -/
theorem IsEscape.escapeSize {rest body : Text} (escapes : IsEscape rest body) :
    escapeSize (body ++ rest) = body.length := by
  cases escapes with
  | @braces digits nonempty hex =>
    have run : (digits ++ (text "\x7d" ++ rest)).takeWhile CodePoint.isHexDigit = digits := by
      rw [List.takeWhile_append_of_pos hex]
      exact List.append_nil digits
    have size := unicodeEscapeSize_cons '\x7b' (digits ++ (text "\x7d" ++ rest))
    rw [if_pos rfl, run, List.drop_left, if_pos ⟨nonempty, rfl⟩] at size
    rw [List.append_assoc, List.append_assoc]
    exact size.trans (by simp [text])
  | @four digits size hex =>
    obtain ⟨first, later, rfl⟩ := List.exists_cons_of_length_eq_add_one size
    have notBrace : first ≠ '\x7b' := by
      rintro rfl
      have digit := hex _ List.mem_cons_self
      revert digit
      decide
    have digits : startsWithHex 4 (first :: (later ++ rest)) = true := by
      rw [← List.cons_append, startsWithHex, ← size, List.take_left, decide_eq_true rfl,
        Bool.true_and]
      exact List.all_eq_true.mpr hex
    have whole := unicodeEscapeSize_cons first (later ++ rest)
    rw [if_neg notBrace, if_pos digits] at whole
    rw [List.length_cons, size]
    exact whole
  | @two digits size hex =>
    have pair : startsWithHex 2 (digits ++ rest) = true := by
      rw [startsWithHex, ← size, List.take_left, decide_eq_true rfl, Bool.true_and]
      exact List.all_eq_true.mpr hex
    rw [List.cons_append, ImportBinding.escapeSize, if_neg (by decide), if_pos rfl, if_pos pair,
      List.length_cons, size]
  | octal nonempty short octal ended =>
    obtain ⟨first, later, rfl⟩ := List.exists_cons_of_ne_nil nonempty
    obtain ⟨digit, digits⟩ := List.forall_mem_cons.mp octal
    have letters : first ≠ 'u' ∧ first ≠ 'x' := by
      constructor <;> rintro rfl <;> revert digit <;> decide
    have run : ((later ++ rest).take 2).takeWhile CodePoint.isOctalDigit = later := by
      rw [List.length_cons] at short ended
      exact takeWhile_take_append (by omega) digits fun fewer => ended (by omega)
    rw [List.cons_append, ImportBinding.escapeSize, if_neg letters.1, if_neg letters.2,
      if_pos digit, run, List.length_cons, Nat.add_comm]
  | newline => rfl
  | single notCode notByte notOctal ended =>
    rw [List.singleton_append, ImportBinding.escapeSize, if_neg notCode, if_neg notByte,
      if_neg (Bool.eq_false_iff.mp notOctal), if_neg, List.length_singleton]
    exact fun both => ended both.1 _ both.2 rfl

/-- The closing quote carries no escape sequence on, and neither does what stands behind it. -/
theorem isEscape_append_iff {quote : CodePoint} (marks : quote = '\'' ∨ quote = '"')
    {rest body : Text} (after : Text) :
    IsEscape (rest ++ quote :: after) body ↔ IsEscape rest body := by
  have stops : quote.isOctalDigit = false ∧ quote ≠ '\n' := by
    rcases marks with rfl | rfl <;> decide
  -- the two forms that look ahead see the quote where the rest ends
  have ahead {holds : CodePoint → Prop} (quoted : holds quote) :
      (∀ next ∈ (rest ++ quote :: after).head?, holds next) ↔ ∀ next ∈ rest.head?, holds next := by
    cases rest <;> simp [quoted]
  constructor
  · rintro (⟨nonempty, hex⟩ | ⟨size, hex⟩ | ⟨size, hex⟩ | ⟨nonempty, short, octal, ended⟩ | _ |
      ⟨notCode, notByte, notOctal, ended⟩)
    · exact .braces nonempty hex
    · exact .four size hex
    · exact .two size hex
    · exact .octal nonempty short octal fun fewer => (ahead stops.1).mp (ended fewer)
    · exact .newline
    · exact .single notCode notByte notOctal fun same => (ahead stops.2).mp (ended same)
  · rintro (⟨nonempty, hex⟩ | ⟨size, hex⟩ | ⟨size, hex⟩ | ⟨nonempty, short, octal, ended⟩ | _ |
      ⟨notCode, notByte, notOctal, ended⟩)
    · exact .braces nonempty hex
    · exact .four size hex
    · exact .two size hex
    · exact .octal nonempty short octal fun fewer => (ahead stops.1).mpr (ended fewer)
    · exact .newline
    · exact .single notCode notByte notOctal fun same => (ahead stops.2).mpr (ended same)

/-! ### Pieces -/

/-- A text that may stand between two quotes, and the pieces that it is cut into. -/
inductive IsCut (quote : CodePoint) : Text → List Piece → Prop where
  | nil : IsCut quote [] []
  | plain {point : CodePoint} {rest : Text} {pieces : List Piece} (notBackslash : point ≠ '\\')
      (notQuote : point ≠ quote) (notLineFeed : point ≠ '\n') (notReturn : point ≠ '\r')
      (later : IsCut quote rest pieces) : IsCut quote (point :: rest) (.plain [point] :: pieces)
  | escape {body rest : Text} {pieces : List Piece} (escapes : IsEscape rest body)
      (later : IsCut quote rest pieces) :
      IsCut quote (CodePoint.ofChar '\\' :: (body ++ rest))
        (.escape (CodePoint.ofChar '\\' :: body) :: pieces)

/-- The scanner takes the pieces one by one, and stops at the closing quote. -/
theorem IsCut.units {quote : CodePoint} (marks : quote = '\'' ∨ quote = '"') {inner : Text}
    {pieces : List Piece} (cut : IsCut quote inner pieces) (after : Text) :
    ((inner ++ quote :: after).units (pieceSize quote)).2 = quote :: after ∧
      ((inner ++ quote :: after).units (pieceSize quote)).1.map Piece.ofUnit = pieces := by
  induction cut with
  | nil =>
    rw [List.nil_append, Text.units_of_size_eq_zero (pieceSize_quote marks after)]
    exact ⟨rfl, rfl⟩
  | @plain point rest pieces notBackslash notQuote notLineFeed notReturn later
      inductionHypothesis =>
    have size : pieceSize quote (point :: (rest ++ quote :: after)) = 1 := by
      rw [pieceSize, if_neg notBackslash, if_neg]
      exact not_or.mpr ⟨notQuote, not_or.mpr ⟨notLineFeed, notReturn⟩⟩
    have unit : Piece.ofUnit [point] = .plain [point] :=
      if_neg fun same => notBackslash (Option.some.inj same)
    rw [List.cons_append, Text.units_of_size_ne_zero (by rw [size]; decide) (List.cons_ne_nil _ _),
      size, List.drop_one, List.tail_cons, List.map_cons, inductionHypothesis.2]
    exact ⟨inductionHypothesis.1, congrArg (· :: pieces) unit⟩
  | @escape body rest pieces escapes later inductionHypothesis =>
    have inside := ((isEscape_append_iff marks after).mpr escapes).escapeSize
    have nonempty : body.length ≠ 0 := by
      cases escapes <;> simp_all [text]
    have size : pieceSize quote (CodePoint.ofChar '\\' :: (body ++ (rest ++ quote :: after))) =
        body.length + 1 := by
      rw [pieceSize, if_pos rfl, inside]
      exact if_neg nonempty
    rw [List.cons_append, List.append_assoc,
      Text.units_of_size_ne_zero (by rw [size]; exact Nat.succ_ne_zero _) (List.cons_ne_nil _ _),
      size, List.drop_succ_cons, List.drop_left, List.take_succ_cons, List.take_left,
      List.map_cons, inductionHypothesis.2]
    exact ⟨inductionHypothesis.1, rfl⟩

/-- What the scanner takes up to the closing quote is cut into pieces. -/
theorem isCut_of_units {quote : CodePoint} (marks : quote = '\'' ∨ quote = '"')
    {inner after : Text}
    (taken : ((inner ++ quote :: after).units (pieceSize quote)).2 = quote :: after) :
    IsCut quote inner (((inner ++ quote :: after).units (pieceSize quote)).1.map Piece.ofUnit) := by
  induction length : inner.length using Nat.strongRecOn generalizing inner with
  | ind length inductionHypothesis =>
    match inner with
    | [] =>
      rw [List.nil_append, Text.units_of_size_eq_zero (pieceSize_quote marks after)]
      exact .nil
    | point :: rest =>
      obtain ⟨some, bounded⟩ :=
        Text.size_le_of_units_snd (pieceSize_le_length quote) (List.cons_ne_nil point rest) taken
      rw [List.cons_append] at taken some bounded ⊢
      rw [Text.units_of_size_ne_zero some (List.cons_ne_nil _ _)] at taken ⊢
      simp only [pieceSize] at taken some bounded ⊢
      by_cases backslash : point = '\\'
      · subst backslash
        rw [if_pos rfl] at taken some bounded ⊢
        by_cases none : escapeSize (rest ++ quote :: after) = 0
        · rw [if_pos none] at some
          exact absurd rfl some
        · rw [if_neg none] at taken bounded ⊢
          have escapes := isEscape_of_escapeSize none
          rw [List.length_cons, Nat.add_le_add_iff_right] at bounded
          rw [List.drop_append_of_le_length bounded, List.take_append_of_le_length bounded,
            isEscape_append_iff marks] at escapes
          rw [List.drop_succ_cons, List.drop_append_of_le_length bounded] at taken
          rw [List.drop_succ_cons, List.drop_append_of_le_length bounded, List.take_succ_cons,
            List.take_append_of_le_length bounded, List.map_cons]
          have later := inductionHypothesis _ (by
            rw [← length, List.length_cons, List.length_drop]
            omega) taken rfl
          have whole := IsCut.escape escapes later
          rw [List.take_append_drop] at whole
          exact whole
      · rw [if_neg backslash] at taken some ⊢
        split at some
        · exact absurd rfl some
        · rename_i plain
          simp only [not_or] at plain
          rw [if_neg (by simp only [plain, or_self, not_false_iff])] at taken ⊢
          have unit : Piece.ofUnit [point] = .plain [point] :=
            if_neg fun same => backslash (Option.some.inj same)
          rw [List.drop_one, List.tail_cons] at taken ⊢
          rw [List.take_succ_cons, List.take_zero, List.map_cons, unit]
          exact .plain backslash plain.1 plain.2.1 plain.2.2
            (inductionHypothesis _ (by rw [← length]; exact Nat.lt_succ_self _) taken rfl)

/-! ### Literals -/

/-- Text that is cut into pieces is a literal when it stands between quotes. -/
theorem IsCut.literal {quote : CodePoint} (marks : quote = '\'' ∨ quote = '"') {inner : Text}
    {pieces : List Piece} (cut : IsCut quote inner pieces) :
    tokenSize? (quote :: (inner ++ [quote])) = some (.literal, inner.length + 2) ∧
      literalPieces (quote :: (inner ++ [quote])) = pieces := by
  obtain ⟨taken, same⟩ := cut.units marks []
  have unmarked : TokenKind.ofMark? quote = none := by
    rcases marks with rfl | rfl <;> decide
  exact ⟨tokenSize?_literal marks unmarked taken, same⟩

/-- A literal stands between quotes, and the text in it is cut into its pieces. -/
theorem exists_isCut_of_literal {body : Text}
    (sized : tokenSize? body = some (.literal, body.length)) :
    ∃ quote inner, (quote = CodePoint.ofChar '\'' ∨ quote = CodePoint.ofChar '"') ∧
      body = quote :: (inner ++ [quote]) ∧ IsCut quote inner (literalPieces body) := by
  rcases tokenSize?_cases sized with ⟨point, rest, -, marked, -⟩ |
    ⟨quote, inner, rest, marks, -, rfl, taken, -, size⟩ | ⟨-, -, -, -, -, -, named, -⟩
  · exact absurd rfl (TokenKind.ofMark?_eq_some_cases marked).2.1
  · obtain rfl : rest = [] := by
      rw [List.length_cons, List.length_append, List.length_cons] at size
      exact List.length_eq_zero_iff.mp (by omega)
    exact ⟨quote, inner, marks, rfl, isCut_of_units marks taken⟩
  · cases named

end ImportBinding
