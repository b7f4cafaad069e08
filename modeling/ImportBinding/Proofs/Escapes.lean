/-
This file says which literals denote a text.

Every escape sequence of a literal denotes some text, with one exception: any number of digits may
stand in braces, so the number may be too large for a code point.
-/

import ImportBinding.Proofs.Pieces
import Mathlib.Algebra.Group.Nat.Defs

namespace ImportBinding

/-! ### Numerals -/

namespace CodePoint

/-- The value of a digit in base sixteen. -/
def hexDigit (point : CodePoint) : Nat :=
  if point.isDigit then point.toNat - 0x30
  else if point.toNat ≤ 0x46 then point.toNat - 0x41 + 10
  else point.toNat - 0x61 + 10

theorem bounds_of_isHexDigit {point : CodePoint} (hex : point.isHexDigit = true) :
    0x30 ≤ point.toNat ∧ point.toNat ≤ 0x66 := by
  simp only [isHexDigit, isDigit, Bool.or_eq_true, Bool.and_eq_true, decide_eq_true_eq] at hex
  omega

theorem ne_of_isHexDigit {point : CodePoint} (hex : point.isHexDigit = true) (char : Char)
    (other : (ofChar char).isHexDigit = false) : point ≠ char := by
  rintro rfl
  rw [other] at hex
  cases hex

theorem hexValue?_of_isHexDigit {point : CodePoint} (hex : point.isHexDigit = true) :
    point.hexValue? = some point.hexDigit := by
  simp only [isHexDigit, isDigit, Bool.or_eq_true, Bool.and_eq_true, decide_eq_true_eq] at hex
  unfold hexValue? hexDigit decimalValue? isDigit
  split_ifs <;> simp_all <;> omega

theorem isNumeralBlank_of_isHexDigit {point : CodePoint} (hex : point.isHexDigit = true) :
    point.isNumeralBlank = false := by
  have notBlank : ∀ number < 0x67, 0x30 ≤ number → blankRanges.contains number = false := by decide
  obtain ⟨low, high⟩ := bounds_of_isHexDigit hex
  rw [isNumeralBlank, isBlank, notBlank _ (Nat.lt_succ_of_le high) low, Bool.false_and]

end CodePoint

namespace Text

/-- The number that digits in base sixteen denote. -/
def hexNumber (digits : Text) : Nat :=
  digits.foldl (fun value point => 16 * value + point.hexDigit) 0

theorem hexDigitsFrom_eq {digits : Text} (every : ∀ point ∈ digits, point.isHexDigit = true)
    (value : Nat) :
    hexDigitsFrom value digits =
      some (digits.foldl (fun value point => 16 * value + point.hexDigit) value) := by
  induction digits generalizing value with
  | nil => rfl
  | cons point digits inductionHypothesis =>
    have hex := every point List.mem_cons_self
    rw [hexDigitsFrom.eq_def]
    simp only [if_neg (CodePoint.ne_of_isHexDigit hex '_' (by decide)),
      CodePoint.hexValue?_of_isHexDigit hex, List.foldl_cons]
    exact inductionHypothesis (fun other member => every other (List.mem_cons_of_mem _ member)) _

theorem trimNumeral_eq {digits : Text} (every : ∀ point ∈ digits, point.isHexDigit = true) :
    digits.trimNumeral = digits := by
  have kept (all : Text) (within : ∀ point ∈ all, point.isHexDigit = true) :
      all.dropWhile CodePoint.isNumeralBlank = all := by
    cases all with
    | nil => rfl
    | cons point all =>
      have blank := CodePoint.isNumeralBlank_of_isHexDigit (within point List.mem_cons_self)
      exact List.dropWhile_cons_of_neg (Bool.eq_false_iff.mp blank)
  rw [trimNumeral, kept digits every, kept digits.reverse, List.reverse_reverse]
  exact fun point member => every point (List.mem_reverse.mp member)

/-- Digits in base sixteen, and nothing else, denote their number. -/
theorem hexNumeral?_eq {digits : Text} (nonempty : digits ≠ [])
    (every : ∀ point ∈ digits, point.isHexDigit = true) :
    digits.hexNumeral? = some (digits.hexNumber : Int) := by
  obtain ⟨first, later, rfl⟩ := List.exists_cons_of_ne_nil nonempty
  have hex := every first List.mem_cons_self
  have unmarked : dropBaseMark (first :: later) = first :: later := by
    cases later with
    | nil => rfl
    | cons second later =>
      have next := every second (List.mem_cons_of_mem first List.mem_cons_self)
      rw [dropBaseMark.eq_def]
      simp only [CodePoint.ne_of_isHexDigit next 'x' (by decide),
        CodePoint.ne_of_isHexDigit next 'X' (by decide), or_self, and_false, if_false]
  have digits : hexDigits? (first :: later) = some (hexNumber (first :: later)) := by
    rw [hexDigits?, CodePoint.hexValue?_of_isHexDigit hex]
    simp only [hexDigitsFrom_eq fun point member => every point (List.mem_cons_of_mem first member),
      hexNumber, List.foldl_cons, Nat.mul_zero, Nat.zero_add]
  rw [hexNumeral?, trimNumeral_eq every]
  simp only [if_neg (CodePoint.ne_of_isHexDigit hex '-' (by decide)),
    if_neg (CodePoint.ne_of_isHexDigit hex '+' (by decide)), unmarked, digits]
  rfl

/-- So many digits denote a number below that power of the base. -/
theorem foldl_digits_lt {base : Nat} {digit : CodePoint → Nat} {digits : Text}
    (every : ∀ point ∈ digits, digit point < base) :
    digits.foldl (fun value point => base * value + digit point) 0 < base ^ digits.length := by
  induction digits using List.reverseRecOn with
  | nil => exact Nat.one_pos
  | append_singleton digits point inductionHypothesis =>
    have before := inductionHypothesis fun other member =>
      every other (List.mem_append_left _ member)
    have last := every point (List.mem_append_right _ (List.mem_singleton_self point))
    rw [List.foldl_append, List.length_append, List.length_singleton, Nat.pow_succ]
    exact Nat.mul_add_lt_mul_of_lt_of_lt before last

theorem hexNumber_lt {digits : Text} (every : ∀ point ∈ digits, point.isHexDigit = true) :
    digits.hexNumber < 16 ^ digits.length := by
  refine foldl_digits_lt fun point member => ?_
  have hex := every point member
  simp only [CodePoint.isHexDigit, CodePoint.isDigit, Bool.or_eq_true, Bool.and_eq_true,
    decide_eq_true_eq] at hex
  unfold CodePoint.hexDigit CodePoint.isDigit
  split_ifs <;> simp_all <;> omega

theorem octalValue_lt {digits : Text} (every : ∀ point ∈ digits, point.isOctalDigit = true) :
    digits.octalValue < 8 ^ digits.length := by
  refine foldl_digits_lt fun point member => ?_
  have octal := every point member
  simp only [CodePoint.isOctalDigit, Bool.and_eq_true, decide_eq_true_eq] at octal
  omega

end Text

/-! ### Code points -/

/-- A failure that says that a number is no code point. -/
def Failure.IsNoCodePoint (failure : Failure) : Prop :=
  ∃ number, failure = .notCodePoint number ∨ failure = .tooLarge number

/-- The failure of a number that is too large for a code point. -/
def Failure.ofNumber (number : Nat) : Failure :=
  if number < 0x80000000 then .notCodePoint number else .tooLarge number

theorem Failure.isNoCodePoint_ofNumber (number : Nat) :
    (Failure.ofNumber number).IsNoCodePoint := by
  unfold ofNumber
  split
  · exact ⟨_, Or.inl rfl⟩
  · exact ⟨_, Or.inr rfl⟩

/-- A step succeeds when all numbers fit, and otherwise fails because a number is no code point. -/
structure SucceedsWhen {Result : Type} (fits : Prop) (outcome : Except Failure Result) : Prop where
  succeeds : fits → ∃ result, outcome = .ok result
  fails : ¬ fits → ∃ failure, outcome = .error failure ∧ failure.IsNoCodePoint

theorem SucceedsWhen.fits_of_ok {Result : Type} {fits : Prop} {outcome : Except Failure Result}
    {result : Result} (when_ : SucceedsWhen fits outcome) (succeeded : outcome = .ok result) :
    fits := by
  refine Classical.byContradiction fun misfit => ?_
  obtain ⟨failure, failed, -⟩ := when_.fails misfit
  rw [succeeded] at failed
  cases failed

/-- A step succeeds when no number is too large, and otherwise fails because of the given one. -/
structure FailsAt {Result : Type} (number? : Option Nat) (outcome : Except Failure Result) :
    Prop where
  succeeds : number? = none → ∃ result, outcome = .ok result
  fails : ∀ number ∈ number?, outcome = .error (.ofNumber number)

namespace FailsAt

variable {First Second : Type} {number? numberToo? : Option Nat} {first : Except Failure First}

theorem ok (result : First) : FailsAt none (.ok result) where
  succeeds _ := ⟨result, rfl⟩
  fails number member := absurd member (Option.not_mem_none number)

theorem succeedsWhen {fits : Prop} (at_ : FailsAt number? first) (same : fits ↔ number? = none) :
    SucceedsWhen fits first where
  succeeds fit := at_.succeeds (same.mp fit)
  fails misfit := by
    cases found : number? with
    | none => exact absurd (same.mpr found) misfit
    | some number => exact ⟨_, at_.fails number found, Failure.isNoCodePoint_ofNumber number⟩

/-- Of two steps the first one that fails is the one that tells. -/
theorem bind {next : First → Except Failure Second} (at_ : FailsAt number? first)
    (later : ∀ middle, FailsAt numberToo? (next middle)) :
    FailsAt (number?.or numberToo?) (first >>= next) := by
  cases found : number? with
  | some number =>
    rw [at_.fails number found]
    exact ⟨nofun, fun other member => by cases member; rfl⟩
  | none =>
    obtain ⟨middle, rfl⟩ := at_.succeeds found
    exact later middle

theorem bind_ok {next : First → Except Failure Second} (at_ : FailsAt number? first)
    (later : ∀ middle, ∃ result, next middle = .ok result) : FailsAt number? (first >>= next) := by
  rw [← Option.or_none (o := number?)]
  refine at_.bind fun middle => ?_
  obtain ⟨result, same⟩ := later middle
  rw [same]
  exact ok result

theorem mapM {all : List First} {number? : First → Option Nat}
    {read : First → Except Failure Second}
    (each : ∀ item ∈ all, FailsAt (number? item) (read item)) :
    FailsAt (all.findSome? number?) (all.mapM read) := by
  induction all with
  | nil => exact ok []
  | cons item all inductionHypothesis =>
    have front : (item :: all).findSome? number? = (number? item).or (all.findSome? number?) := by
      rw [← List.singleton_append, List.findSome?_append, List.findSome?_singleton]
    rw [List.mapM_cons, front]
    refine (each item List.mem_cons_self).bind fun result => ?_
    have later := inductionHypothesis fun other member =>
      each other (List.mem_cons_of_mem item member)
    exact later.bind_ok fun results => ⟨_, rfl⟩

end FailsAt

theorem codePointOf_of_lt {number : Nat} (small : number < 0x110000) :
    codePointOf (number : Int) = .ok [⟨number, small⟩] := by
  rw [codePointOf, if_neg (by omega), if_neg (by omega), CodePoint.ofNat?, Int.toNat_natCast,
    dif_pos small]

theorem codePointOf_of_le {number : Nat} (large : 0x110000 ≤ number) :
    codePointOf (number : Int) = .error (.ofNumber number) := by
  rw [codePointOf, Failure.ofNumber]
  split
  · rw [if_neg (by omega)]
  · rw [if_neg (by omega), CodePoint.ofNat?, Int.toNat_natCast, dif_neg (by omega),
      if_pos (by omega)]

theorem codePointOfHex_eq {digits : Text} (nonempty : digits ≠ [])
    (every : ∀ point ∈ digits, point.isHexDigit = true) :
    codePointOfHex digits = codePointOf (digits.hexNumber : Int) := by
  rw [codePointOfHex, Text.hexNumeral?_eq nonempty every]

/-! ### Escape sequences -/

/-- Only a line break continues a literal. -/
theorem not_mem_continuations {body : Text} {first : CodePoint} (starts : first ∈ body.head?)
    (plain : first.isLineEnd = false) : body ∉ continuations := by
  intro continues
  have every : ∀ body ∈ continuations, ∀ first ∈ body.head?, first.isLineEnd = true := by decide
  rw [every body continues first starts] at plain
  cases plain

theorem escapeBodyValue_continuation {body : Text} (continues : body ∈ continuations) :
    escapeBodyValue body = .ok [] := if_pos continues

/-- A single code point denotes a code point, and the end of a line denotes nothing. -/
theorem escapeBodyValue_singleton (point : CodePoint) :
    escapeBodyValue [point] =
      .ok (if point.isLineEnd = true then [] else [simpleEscape point]) := by
  cases ends : point.isLineEnd with
  | false =>
    rw [escapeBodyValue, if_neg (@not_mem_continuations [point] point rfl ends)]
    rfl
  | true =>
    simp only [CodePoint.isLineEnd, Bool.or_eq_true, decide_eq_true_eq] at ends
    refine escapeBodyValue_continuation ?_
    have same (char : Char) (spells : point.toNat = char.toNat) :
        point = CodePoint.ofChar char := by
      obtain ⟨number, bound⟩ := point
      simp only at spells
      subst spells
      rfl
    rcases ends with ((feed | back) | line) | paragraph
    · rw [same '\n' feed]
      decide
    · rw [same '\r' back]
      decide
    · rw [same '\u2028' line]
      decide
    · rw [same '\u2029' paragraph]
      decide

theorem escapeBodyValue_cons_cons {first second : CodePoint} {rest : Text}
    (plain : first.isLineEnd = false) :
    escapeBodyValue (first :: second :: rest) =
      if first = 'u' ∧ second = '\x7b' then codePointOfHex rest.dropLast
      else if first = 'u' ∨ first = 'x' then codePointOfHex (second :: rest)
      else if (first :: second :: rest).all CodePoint.isOctalDigit then
        codePointOf (Text.octalValue (first :: second :: rest))
      else .ok (first :: second :: rest) :=
  if_neg (@not_mem_continuations (first :: second :: rest) first rfl plain)

/-- Digits behind the mark denote the code point of their number. -/
theorem escapeBodyValue_digits {mark : CodePoint} {digits : Text}
    (marks : mark = 'u' ∨ mark = 'x') (nonempty : digits ≠ [])
    (every : ∀ point ∈ digits, point.isHexDigit = true) :
    escapeBodyValue (mark :: digits) = codePointOf (digits.hexNumber : Int) := by
  have plain : mark.isLineEnd = false := by
    rcases marks with rfl | rfl <;> decide
  have decoded := codePointOfHex_eq nonempty every
  obtain ⟨second, rest, rfl⟩ := List.exists_cons_of_ne_nil nonempty
  have notBrace := CodePoint.ne_of_isHexDigit (every second List.mem_cons_self) '\x7b' (by decide)
  rw [escapeBodyValue_cons_cons plain, if_neg (fun both => notBrace both.2), if_pos marks, decoded]

/-- Two octal digits or more denote the code point of their number. -/
theorem escapeBodyValue_octal {first second : CodePoint} {rest : Text}
    (every : ∀ point ∈ first :: second :: rest, point.isOctalDigit = true) :
    escapeBodyValue (first :: second :: rest) =
      codePointOf (Text.octalValue (first :: second :: rest)) := by
  have octal := every first List.mem_cons_self
  have notMark : first ≠ 'u' ∧ first ≠ 'x' := by
    constructor <;> rintro rfl <;> revert octal <;> decide
  have plain : first.isLineEnd = false := by
    simp only [CodePoint.isOctalDigit, CodePoint.isLineEnd, Bool.and_eq_true, decide_eq_true_eq,
      Bool.or_eq_false_iff, decide_eq_false_iff_not] at octal ⊢
    omega
  rw [escapeBodyValue_cons_cons plain, if_neg (fun both => notMark.1 both.1),
    if_neg (not_or.mpr notMark), if_pos (List.all_eq_true.mpr every)]

/-- Digits in braces denote the code point of their number. -/
theorem escapeBodyValue_braces {digits : Text} (nonempty : digits ≠ [])
    (every : ∀ point ∈ digits, point.isHexDigit = true) :
    escapeBodyValue (text "u\x7b" ++ (digits ++ text "\x7d")) =
      codePointOf (digits.hexNumber : Int) := by
  have decoded := @escapeBodyValue_cons_cons 'u' '\x7b' (digits ++ text "\x7d") (by decide)
  rw [if_pos ⟨rfl, rfl⟩] at decoded
  refine decoded.trans ?_
  show codePointOfHex (digits ++ [CodePoint.ofChar '\x7d']).dropLast = _
  rw [List.dropLast_concat, codePointOfHex_eq nonempty every]

/-- A few digits denote a number of one unit. -/
theorem Text.hexNumber_lt_of_length {digits : Text}
    (every : ∀ point ∈ digits, point.isHexDigit = true) (short : digits.length ≤ 4) :
    digits.hexNumber < 0x10000 :=
  (hexNumber_lt every).trans_le (Nat.pow_le_pow_right (by decide) short)

theorem Text.octalValue_lt_of_length {digits : Text}
    (every : ∀ point ∈ digits, point.isOctalDigit = true) (short : digits.length ≤ 3) :
    digits.octalValue < 0x10000 :=
  (octalValue_lt every).trans_le ((Nat.pow_le_pow_right (by decide) short).trans (by decide))

/-- A number of one unit is that of a code point. -/
theorem codePointOf_of_unit {number : Nat} (small : number < 0x10000) :
    codePointOf (number : Int) = .ok [⟨number, small.trans (by decide)⟩] :=
  codePointOf_of_lt _

/-- An escape sequence denotes a text, unless it is a number in braces. -/
theorem IsEscape.denotes {rest body : Text} (escapes : IsEscape rest body) :
    (∃ digits : Text, digits ≠ [] ∧ (∀ point ∈ digits, point.isHexDigit = true) ∧
      body = text "u\x7b" ++ (digits ++ text "\x7d")) ∨
    ∃ value, escapeBodyValue body = .ok value := by
  cases escapes with
  | @braces digits nonempty hex => exact Or.inl ⟨digits, nonempty, hex, rfl⟩
  | four size hex =>
    have nonempty := List.ne_nil_of_length_eq_add_one size
    have small := Text.hexNumber_lt_of_length hex (Nat.le_of_eq size)
    exact Or.inr ⟨_, (escapeBodyValue_digits (Or.inl rfl) nonempty hex).trans
      (codePointOf_of_unit small)⟩
  | two size hex =>
    have nonempty := List.ne_nil_of_length_eq_add_one size
    have small := Text.hexNumber_lt_of_length hex (by rw [size]; decide)
    exact Or.inr ⟨_, (escapeBodyValue_digits (Or.inr rfl) nonempty hex).trans
      (codePointOf_of_unit small)⟩
  | octal nonempty short octal ended =>
    match body, nonempty with
    | [point], _ => exact Or.inr ⟨_, escapeBodyValue_singleton point⟩
    | first :: second :: rest, _ =>
      exact Or.inr ⟨_, (escapeBodyValue_octal octal).trans
        (codePointOf_of_unit (Text.octalValue_lt_of_length octal short))⟩
  | newline => exact Or.inr ⟨[], escapeBodyValue_continuation (by decide)⟩
  | single notCode notByte notOctal ended => exact Or.inr ⟨_, escapeBodyValue_singleton _⟩

/-! ### Literals -/

/-- An escape sequence for a number that is too large for a code point. -/
def Piece.IsOversized (piece : Piece) : Prop :=
  ∃ digits : Text, digits ≠ [] ∧ (∀ point ∈ digits, point.isHexDigit = true) ∧
    piece = .escape (text "\\u\x7b" ++ (digits ++ text "\x7d")) ∧ 0x110000 ≤ digits.hexNumber

/-- The number of an escape sequence in braces, if it is too large for a code point. -/
def Piece.oversized? : Piece → Option Nat
  | plain _ => none
  | escape sequence =>
    let digits : Text := (sequence.drop 3).dropLast
    if sequence = text "\\u\x7b" ++ (digits ++ text "\x7d") ∧ digits ≠ [] ∧
        digits.all CodePoint.isHexDigit ∧ 0x110000 ≤ digits.hexNumber then
      some digits.hexNumber
    else none

theorem Piece.oversized?_eq_some_iff {piece : Piece} {number : Nat} :
    piece.oversized? = some number ↔
      ∃ digits : Text, digits ≠ [] ∧ (∀ point ∈ digits, point.isHexDigit = true) ∧
        piece = .escape (text "\\u\x7b" ++ (digits ++ text "\x7d")) ∧
          digits.hexNumber = number ∧ 0x110000 ≤ number := by
  cases piece with
  | plain content => exact ⟨nofun, fun ⟨_, _, _, same, _⟩ => nomatch same⟩
  | escape sequence =>
    rw [oversized?]
    constructor
    · intro found
      split at found
      · rename_i large
        obtain ⟨spelled, nonempty, hex, large⟩ := large
        cases found
        exact ⟨_, nonempty, List.all_eq_true.mp hex, congrArg escape spelled, rfl, large⟩
      · cases found
    · rintro ⟨digits, nonempty, hex, same, rfl, large⟩
      cases same
      have inner : ((text "\\u\x7b" ++ (digits ++ text "\x7d")).drop 3).dropLast = digits :=
        List.dropLast_concat
      rw [inner]
      exact if_pos ⟨rfl, nonempty, List.all_eq_true.mpr hex, large⟩

theorem Piece.not_isOversized_iff {piece : Piece} :
    ¬ piece.IsOversized ↔ piece.oversized? = none := by
  rw [← Option.not_isSome_iff_eq_none, not_iff_not, Option.isSome_iff_exists]
  simp only [Piece.oversized?_eq_some_iff, IsOversized]
  constructor
  · rintro ⟨digits, nonempty, hex, same, large⟩
    exact ⟨_, digits, nonempty, hex, same, rfl, large⟩
  · rintro ⟨_, digits, nonempty, hex, same, rfl, large⟩
    exact ⟨digits, nonempty, hex, same, large⟩

/-- What is taken as a unit stands at the front of some text. -/
theorem Text.exists_of_mem_units {size : Text → Nat} {content unit : Text}
    (member : unit ∈ (content.units size).1) :
    ∃ rest, size rest ≠ 0 ∧ unit = rest.take (size rest) := by
  fun_induction Text.units size content with
  | case1 content _ => cases member
  | case2 content going later rest split inductionHypothesis =>
    rw [split] at inductionHypothesis
    rcases List.mem_cons.mp member with rfl | member
    · exact ⟨content, fun none => going (Or.inl none), rfl⟩
    · exact inductionHypothesis member

/-- A piece of a literal denotes a text, unless it stands for too large a number. -/
theorem exists_decode_of_mem_literalPieces {body : Text} {piece : Piece}
    (member : piece ∈ literalPieces body) (fits : ¬ piece.IsOversized) :
    ∃ value, piece.decode = .ok value := by
  match body with
  | [] => cases member
  | quote :: content =>
    obtain ⟨unit, within, rfl⟩ := List.mem_map.mp member
    obtain ⟨rest, some, rfl⟩ := Text.exists_of_mem_units within
    match rest with
    | [] => exact absurd rfl some
    | point :: later =>
      simp only [pieceSize] at some fits ⊢
      by_cases backslash : point = '\\'
      · subst backslash
        rw [if_pos rfl] at some fits ⊢
        by_cases none : escapeSize later = 0
        · rw [if_pos none] at some
          exact absurd rfl some
        · rw [if_neg none, List.take_succ_cons] at fits ⊢
          show ∃ value, escapeBodyValue (later.take (escapeSize later)) = .ok value
          rcases (isEscape_of_escapeSize none).denotes with
            ⟨digits, nonempty, every, braces⟩ | denotes
          · rw [braces] at fits ⊢
            have small : digits.hexNumber < 0x110000 := by
              exact Nat.lt_of_not_le fun large => fits ⟨digits, nonempty, every, rfl, large⟩
            exact ⟨_, (escapeBodyValue_braces nonempty every).trans (codePointOf_of_lt small)⟩
          · exact denotes
      · rw [if_neg backslash] at some ⊢
        split at some
        · exact absurd rfl some
        · rename_i plain
          have unit : Piece.ofUnit [point] = .plain [point] :=
            if_neg fun same => backslash (Option.some.inj same)
          rw [if_neg plain, List.take_succ_cons, List.take_zero, unit]
          exact ⟨[point], rfl⟩

/-- A literal denotes a text, and otherwise decoding fails at the first number that is too large. -/
theorem literalValue_failsAt (body : Text) :
    FailsAt ((literalPieces body).findSome? Piece.oversized?)
      (literalValue (literalPieces body)) := by
  have each : ∀ piece ∈ literalPieces body, FailsAt piece.oversized? piece.decode := by
    refine fun piece member => ⟨fun fits => ?_, fun number large => ?_⟩
    · exact exists_decode_of_mem_literalPieces member (Piece.not_isOversized_iff.mpr fits)
    · obtain ⟨digits, nonempty, hex, rfl, rfl, large⟩ := Piece.oversized?_eq_some_iff.mp large
      show escapeBodyValue (text "u\x7b" ++ (digits ++ text "\x7d")) = _
      rw [escapeBodyValue_braces nonempty hex, codePointOf_of_le large]
  exact (FailsAt.mapM each).bind_ok fun parts => ⟨_, rfl⟩

theorem literalValue_succeedsWhen (body : Text) :
    SucceedsWhen (∀ piece ∈ literalPieces body, ¬ piece.IsOversized)
      (literalValue (literalPieces body)) := by
  refine (literalValue_failsAt body).succeedsWhen ?_
  simp only [List.findSome?_eq_none_iff, Piece.not_isOversized_iff]

/-! ### Literals that denote a text -/

/-- A literal of the grammar, quotes included, all of whose numbers in braces are those of code
points. -/
structure StringLiteral where
  written : Text
  isWhole : tokenSize? written = some (.literal, written.length)
  fits : ∀ piece ∈ literalPieces written, ¬ piece.IsOversized

namespace StringLiteral

/-- The text between the quotes. -/
def inner (literal : StringLiteral) : Text := literal.written.tail.dropLast

/-- The text that a literal denotes. -/
def value (literal : StringLiteral) : Text :=
  (literalValue (literalPieces literal.written)).toOption.getD []

theorem literalValue_eq (literal : StringLiteral) :
    literalValue (literalPieces literal.written) = .ok literal.value := by
  obtain ⟨value, decoded⟩ := (literalValue_succeedsWhen literal.written).succeeds literal.fits
  rw [StringLiteral.value, decoded]
  rfl

/-- A literal that denotes a text. -/
def ofValue {written value : Text} (isWhole : tokenSize? written = some (.literal, written.length))
    (decoded : literalValue (literalPieces written) = .ok value) : StringLiteral where
  written := written
  isWhole := isWhole
  fits := (literalValue_succeedsWhen written).fits_of_ok decoded

theorem value_ofValue {written value : Text}
    (isWhole : tokenSize? written = some (.literal, written.length))
    (decoded : literalValue (literalPieces written) = .ok value) :
    (ofValue isWhole decoded).value = value := by
  rw [StringLiteral.value, ofValue, decoded]
  rfl

end StringLiteral

end ImportBinding
