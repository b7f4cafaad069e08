/-
This file compares the value of a literal with the string value that the language standard gives it.

The standard reads a literal from left to right, by rules of its own for what an escape sequence
takes and denotes. The two agree on every piece of a literal but two sorts of octal escapes: a
single digit other than zero is taken for itself, and three digits are taken for one number even
where the standard takes two of them.
-/

import ImportBinding.Proofs.Escapes
import ImportBinding.Proofs.Frames
import ImportBinding.Proofs.Surrogates

namespace ImportBinding

/-! ### The rules of the standard -/

namespace Standard

/-- The code points that a letter stands for after a backslash. -/
def singleEscapes : List (CodePoint × CodePoint) :=
  [('b', '\x08'), ('t', '\x09'), ('n', '\x0a'), ('v', '\x0b'), ('f', '\x0c'), ('r', '\x0d')]

/-- The code point that a single code point stands for after a backslash: most stand for
themselves. -/
def singleEscape (point : CodePoint) : CodePoint := (singleEscapes.lookup point).getD point

/-- What an escape sequence of so many digits in base sixteen behind a mark denotes, and how many
code points it takes. -/
def hexEscape? (count : Nat) (content : Text) : Option (List Nat × Nat) :=
  let digits := content.take count
  if digits.length = count ∧ ∀ point ∈ digits, point.isHexDigit = true then
    some ([Text.hexNumber digits], count + 1)
  else none

/-- What an escape sequence with digits in braces denotes. The number is that of a code point. -/
def braceEscape? (content : Text) : Option (List Nat × Nat) :=
  let digits := content.takeWhile CodePoint.isHexDigit
  if digits ≠ [] ∧ (content.drop digits.length).head? = some (CodePoint.ofChar '\x7d') then
    (CodePoint.ofNat? (Text.hexNumber digits)).map fun point => (point.utf16, digits.length + 3)
  else none

/-- The octal digits that one escape sequence takes: up to three, and up to two behind a digit from
`4` on, so that the number fits into a byte. -/
def octalDigits : Text → Text
  | [] => []
  | first :: rest =>
    first :: (rest.take (if first.toNat ≤ 0x33 then 2 else 1)).takeWhile CodePoint.isOctalDigit

/-- What an escape sequence denotes in code units, and how many code points it takes behind the
backslash. -/
def escape? : Text → Option (List Nat × Nat)
  | [] => none
  | first :: rest =>
    if first = 'x' then hexEscape? 2 rest
    else if first = 'u' then
      if rest.head? = some (CodePoint.ofChar '\x7b') then braceEscape? rest.tail
      else hexEscape? 4 rest
    else if first.isOctalDigit then
      let digits := octalDigits (first :: rest)
      some ([Text.octalValue digits], digits.length)
    else if first.isLineEnd then
      some ([], if first = '\r' ∧ rest.head? = some (CodePoint.ofChar '\n') then 2 else 1)
    else some ((singleEscape first).utf16, 1)

/-- The string value of a text that stands between quotes, in code units. -/
def stringValue? : Text → Option (List Nat)
  | [] => some []
  | point :: rest =>
    if point = '\\' then
      match escape? rest with
      | none => none
      | some (units, size) => (stringValue? (rest.drop size)).map (units ++ ·)
    else (stringValue? rest).map (point.utf16 ++ ·)
termination_by content => content.length
decreasing_by
  · simp only [List.length_drop, List.length_cons]
    omega
  · simp

end Standard

/-! ### Agreement -/

/-- An octal escape that the standard reads in another way: a digit other than zero on its own, and
three digits of which the standard takes two. -/
inductive Piece.IsMisread : Piece → Prop where
  | digit {point : CodePoint} (octal : point.isOctalDigit = true) (notZero : point ≠ '0') :
      IsMisread (.escape [CodePoint.ofChar '\\', point])
  | number {first second third : CodePoint} (octal : first.isOctalDigit = true)
      (octalToo : second.isOctalDigit = true) (lastOctal : third.isOctalDigit = true)
      (large : 0x34 ≤ first.toNat) :
      IsMisread (.escape [CodePoint.ofChar '\\', first, second, third])

/-- Code units that are denoted, next to those of the standard: no more of them, and the same ones
exactly under a condition. -/
structure Agrees (condition : Prop) (denoted units : List Nat) : Prop where
  short : denoted.length ≤ units.length
  same : denoted = units ↔ condition

namespace Agrees

variable {condition conditionToo : Prop} {denoted denotedToo units unitsToo : List Nat}

theorem of_eq (holds : condition) (same : denoted = units) : Agrees condition denoted units :=
  ⟨by rw [same], iff_of_true same holds⟩

theorem append (first : Agrees condition denoted units)
    (second : Agrees conditionToo denotedToo unitsToo) :
    Agrees (condition ∧ conditionToo) (denoted ++ denotedToo) (units ++ unitsToo) where
  short := by
    rw [List.length_append, List.length_append]
    exact Nat.add_le_add first.short second.short
  same := by
    rw [← first.same, ← second.same]
    constructor
    · intro whole
      -- neither half is longer than its counterpart, so both have the same length
      have lengths := congrArg List.length whole
      rw [List.length_append, List.length_append] at lengths
      have short := first.short
      have shortToo := second.short
      exact List.append_inj whole (by omega)
    · rintro ⟨rfl, rfl⟩
      rfl

theorem congr (agrees : Agrees condition denoted units) (same : conditionToo ↔ condition) :
    Agrees conditionToo denoted units :=
  ⟨agrees.short, agrees.same.trans same.symm⟩

end Agrees

namespace Standard

theorem stringValue?_plain {point : CodePoint} (plain : point ≠ '\\') (rest : Text) :
    stringValue? (point :: rest) = (stringValue? rest).map (point.utf16 ++ ·) := by
  rw [stringValue?, if_neg plain]

theorem stringValue?_escape {rest : Text} {units : List Nat} {size : Nat}
    (escapes : escape? rest = some (units, size)) :
    stringValue? (CodePoint.ofChar '\\' :: rest) =
      (stringValue? (rest.drop size)).map (units ++ ·) := by
  rw [stringValue?, if_pos rfl, escapes]

theorem hexEscape?_append {count : Nat} {digits : Text} (size : digits.length = count)
    (hex : ∀ point ∈ digits, point.isHexDigit = true) (rest : Text) :
    hexEscape? count (digits ++ rest) = some ([Text.hexNumber digits], count + 1) := by
  subst size
  rw [hexEscape?, List.take_left]
  exact if_pos ⟨rfl, hex⟩

theorem braceEscape?_append {digits : Text} (nonempty : digits ≠ [])
    (hex : ∀ point ∈ digits, point.isHexDigit = true) (small : digits.hexNumber < 0x110000)
    (rest : Text) :
    braceEscape? (digits ++ (text "\x7d" ++ rest)) =
      some (CodePoint.utf16 ⟨digits.hexNumber, small⟩, digits.length + 3) := by
  have run : (digits ++ (text "\x7d" ++ rest)).takeWhile CodePoint.isHexDigit = digits := by
    rw [List.takeWhile_append_of_pos hex]
    exact List.append_nil digits
  rw [braceEscape?, run, List.drop_left, if_pos ⟨nonempty, rfl⟩, CodePoint.ofNat?, dif_pos small]
  rfl

theorem escape?_octal {first : CodePoint} (octal : first.isOctalDigit = true) (rest : Text) :
    escape? (first :: rest) =
      some ([(octalDigits (first :: rest)).octalValue], (octalDigits (first :: rest)).length) := by
  have letters : first ≠ 'x' ∧ first ≠ 'u' := by
    constructor <;> rintro rfl <;> revert octal <;> decide
  rw [escape?, if_neg letters.1, if_neg letters.2, if_pos octal]

theorem singleEscape_eq {point : CodePoint} (notOctal : point.isOctalDigit = false) :
    singleEscape point = simpleEscape point := by
  have notZero : point ≠ '0' := by
    rintro rfl
    revert notOctal
    decide
  by_cases known : point ∈ singleEscapes.map Prod.fst
  · simp only [singleEscapes, List.map_cons, List.map_nil, List.mem_cons, List.not_mem_nil,
      or_false] at known
    rcases known with rfl | rfl | rfl | rfl | rfl | rfl <;> decide
  · have absent : singleEscapes.lookup point = none := by
      refine List.lookup_eq_none_iff.mpr fun pair member => ?_
      have other : point ≠ pair.1 := by
        rintro rfl
        exact known (List.mem_map_of_mem member)
      exact bne_iff_ne.mpr other
    simp only [singleEscapes, List.map_cons, List.map_nil, List.mem_cons, List.not_mem_nil,
      or_false, not_or] at known
    rw [singleEscape, absent]
    simp only [simpleEscape, known, notZero, if_false]
    rfl

theorem octalDigits_append {first : CodePoint} {later rest : Text}
    (short : later.length ≤ if first.toNat ≤ 0x33 then 2 else 1)
    (octal : ∀ point ∈ later, point.isOctalDigit = true)
    (ended : later.length < (if first.toNat ≤ 0x33 then 2 else 1) →
      ∀ next ∈ rest.head?, next.isOctalDigit = false) :
    octalDigits (first :: (later ++ rest)) = first :: later := by
  rw [octalDigits, takeWhile_take_append short octal ended]

/-- What an escape sequence in front of some rest denotes, next to its units by the standard. -/
structure Compares (rest body part : Text) (units : List Nat) : Prop where
  decoded : escapeBodyValue body = .ok part
  agrees : Agrees (¬ (Piece.escape (CodePoint.ofChar '\\' :: body)).IsMisread)
    (Text.utf16 part) units
  standard : stringValue? (CodePoint.ofChar '\\' :: (body ++ rest)) =
    (stringValue? rest).map (units ++ ·)

/-- An escape sequence on which the standard and the grammar agree. -/
theorem agrees_of_escape? {rest body part : Text} (decoded : escapeBodyValue body = .ok part)
    (standard : escape? (body ++ rest) = some (Text.utf16 part, body.length))
    (regular : ¬ (Piece.escape (CodePoint.ofChar '\\' :: body)).IsMisread) :
    ∃ part units, Compares rest body part units := by
  refine ⟨part, Text.utf16 part, decoded, .of_eq regular rfl, ?_⟩
  rw [stringValue?_escape standard, List.drop_left]

/-- Only what starts with an octal digit is ever read in another way. -/
theorem not_isMisread {body : Text} (other : ∀ first ∈ body.head?, first.isOctalDigit = false) :
    ¬ (Piece.escape (CodePoint.ofChar '\\' :: body)).IsMisread := by
  intro misread
  cases misread with
  | digit octal notZero =>
    rw [other _ rfl] at octal
    cases octal
  | number octal octalToo lastOctal large =>
    rw [other _ rfl] at octal
    cases octal

theorem utf16_singleton {number : Nat} (small : number < 0x10000) (bound : number < 0x110000) :
    Text.utf16 [⟨number, bound⟩] = [number] := by
  rw [Text.utf16_cons, Text.utf16_nil, List.append_nil, CodePoint.utf16, if_pos small]

/-- Octal digits that the standard takes as the grammar does denote the same number. -/
theorem agrees_of_octalDigits {rest later : Text} {first second : CodePoint}
    (octal : ∀ point ∈ first :: second :: later, point.isOctalDigit = true)
    (short : (first :: second :: later).length ≤ 3)
    (taken : octalDigits (first :: (second :: later ++ rest)) = first :: second :: later)
    (regular : ¬ (Piece.escape (CodePoint.ofChar '\\' :: first :: second :: later)).IsMisread) :
    ∃ part units, Compares rest (first :: second :: later) part units := by
  have small := Text.octalValue_lt_of_length octal short
  have denoted := (escapeBodyValue_octal octal).trans (codePointOf_of_unit small)
  refine agrees_of_escape? denoted ?_ regular
  have standard := escape?_octal (octal first List.mem_cons_self) (second :: later ++ rest)
  rw [taken] at standard
  rw [utf16_singleton small]
  exact standard

/-- An octal digit on its own denotes itself, but for zero. The standard takes its number. -/
theorem agrees_digit {rest : Text} {digit : CodePoint} (octal : digit.isOctalDigit = true)
    (ended : ∀ next ∈ rest.head?, next.isOctalDigit = false) :
    ∃ part units, Compares rest [digit] part units := by
  have plain : digit.isLineEnd = false := by
    simp only [CodePoint.isOctalDigit, CodePoint.isLineEnd, Bool.and_eq_true, decide_eq_true_eq,
      Bool.or_eq_false_iff, decide_eq_false_iff_not] at octal ⊢
    omega
  have decoded := escapeBodyValue_singleton digit
  rw [plain, if_neg Bool.false_ne_true] at decoded
  have taken : octalDigits (digit :: ([] ++ rest)) = [digit] :=
    octalDigits_append (Nat.zero_le _) (List.forall_mem_nil _) fun _ => ended
  have standard : escape? ([digit] ++ rest) = some ([digit.toNat - 0x30], 1) := by
    have value := escape?_octal octal ([] ++ rest)
    rw [taken] at value
    rw [List.singleton_append]
    refine value.trans ?_
    simp [Text.octalValue]
  by_cases zero : digit = '0'
  · subst zero
    refine agrees_of_escape? decoded standard ?_
    intro misread
    cases misread with
    | digit octal notZero => exact notZero rfl
  · have itself : simpleEscape digit = digit := by
      have letters (char : Char) (other : (CodePoint.ofChar char).isOctalDigit = false) :
          digit ≠ char := by
        rintro rfl
        rw [other] at octal
        cases octal
      unfold simpleEscape
      rw [if_neg (letters 'n' (by decide)), if_neg (letters 't' (by decide)),
        if_neg (letters 'r' (by decide)), if_neg (letters 'b' (by decide)),
        if_neg (letters 'f' (by decide)), if_neg (letters 'v' (by decide)), if_neg zero]
    rw [itself] at decoded
    simp only [CodePoint.isOctalDigit, Bool.and_eq_true, decide_eq_true_eq] at octal
    have single := @utf16_singleton digit.toNat (by omega) digit.isLt
    refine ⟨[digit], [digit.toNat - 0x30], decoded, ⟨?_, ?_⟩, ?_⟩
    · rw [single]
      exact Nat.le_refl 1
    · rw [single, List.cons.injEq]
      refine iff_of_false (fun same => ?_) (not_not_intro (.digit ?_ zero))
      · omega
      · simp only [CodePoint.isOctalDigit, Bool.and_eq_true, decide_eq_true_eq]
        exact octal
    · rw [stringValue?_escape standard]
      rfl

/-- Of three octal digits from `4` on the standard takes two. -/
theorem agrees_number {rest : Text} {first second third : CodePoint}
    (octal : ∀ point ∈ [first, second, third], point.isOctalDigit = true)
    (large : 0x34 ≤ first.toNat) :
    ∃ part units, Compares rest [first, second, third] part units := by
  obtain ⟨firstOctal, secondOctal, thirdOctal⟩ :
      first.isOctalDigit = true ∧ second.isOctalDigit = true ∧ third.isOctalDigit = true :=
    ⟨octal first (by simp), octal second (by simp), octal third (by simp)⟩
  have small := Text.octalValue_lt_of_length octal (Nat.le_refl 3)
  have limit : ¬ first.toNat ≤ 0x33 := by omega
  have taken : octalDigits (first :: ([second] ++ third :: rest)) = [first, second] := by
    refine octalDigits_append ?_ ?_ ?_
    · rw [if_neg limit]
      exact Nat.le_refl 1
    · exact fun point member => octal point (by simp_all)
    · rw [if_neg limit]
      exact fun fewer => absurd fewer (Nat.lt_irrefl 1)
  have standard := escape?_octal firstOctal ([second] ++ third :: rest)
  rw [taken] at standard
  have plain : third ≠ '\\' := by
    rintro rfl
    revert thirdOctal
    decide
  have lastUnits : third.utf16 = [third.toNat] := by
    simp only [CodePoint.isOctalDigit, Bool.and_eq_true, decide_eq_true_eq] at thirdOctal
    rw [CodePoint.utf16, if_pos (by omega)]
  refine ⟨_, [Text.octalValue [first, second], third.toNat],
    (escapeBodyValue_octal octal).trans (codePointOf_of_unit small), ⟨?_, ?_⟩, ?_⟩
  · rw [utf16_singleton small]
    exact Nat.le_succ 1
  · rw [utf16_singleton small]
    refine iff_of_false (fun same => ?_)
      (not_not_intro (.number firstOctal secondOctal thirdOctal large))
    cases (List.cons.inj same).2
  · show stringValue? (CodePoint.ofChar '\\' :: first :: ([second] ++ third :: rest)) = _
    rw [stringValue?_escape standard]
    show (stringValue? (third :: rest)).map _ = _
    rw [stringValue?_plain plain, lastUnits, Option.map_map]
    rfl

/-- What the standard makes of octal digits. -/
theorem agrees_octal {rest digits : Text} (nonempty : digits ≠ []) (short : digits.length ≤ 3)
    (octal : ∀ point ∈ digits, point.isOctalDigit = true)
    (ended : digits.length < 3 → ∀ next ∈ rest.head?, next.isOctalDigit = false) :
    ∃ part units, Compares rest digits part units := by
  match digits, nonempty with
  | [digit], _ => exact agrees_digit (octal digit List.mem_cons_self) (ended (by simp))
  | [first, second], _ =>
    refine agrees_of_octalDigits octal short ?_ ?_
    · refine octalDigits_append ?_ (List.forall_mem_cons.mp octal).2 fun _ => ended (by simp)
      split <;> simp
    · intro misread
      cases misread
  | [first, second, third], _ =>
    by_cases large : 0x34 ≤ first.toNat
    · exact agrees_number octal large
    · have limit : first.toNat ≤ 0x33 := by omega
      refine agrees_of_octalDigits octal short ?_ ?_
      · refine octalDigits_append ?_ (List.forall_mem_cons.mp octal).2 ?_
        · rw [if_pos limit]
          exact Nat.le_refl 2
        · rw [if_pos limit]
          exact fun fewer => absurd fewer (Nat.lt_irrefl 2)
      · intro misread
        cases misread with
        | number _ _ _ beyond => exact large beyond
  | _ :: _ :: _ :: _ :: _, _ =>
    simp only [List.length_cons] at short
    omega

/-- Digits in base sixteen denote the unit of their number. -/
theorem agrees_digits {rest digits : Text} {mark : CodePoint} (marks : mark = 'u' ∨ mark = 'x')
    (nonempty : digits ≠ []) (short : digits.length ≤ 4)
    (hex : ∀ point ∈ digits, point.isHexDigit = true)
    (standard : escape? (mark :: digits ++ rest) =
      some ([digits.hexNumber], (mark :: digits).length)) :
    ∃ part units, Compares rest (mark :: digits) part units := by
  have small := Text.hexNumber_lt_of_length hex short
  have denoted := (escapeBodyValue_digits marks nonempty hex).trans (codePointOf_of_unit small)
  refine agrees_of_escape? denoted ?_ (not_isMisread fun first starts => ?_)
  · rw [utf16_singleton small]
    exact standard
  · cases starts
    rcases marks with rfl | rfl <;> decide

/-- Digits in braces denote the code point of their number. -/
theorem agrees_braces {rest digits : Text} (nonempty : digits ≠ [])
    (hex : ∀ point ∈ digits, point.isHexDigit = true) (small : digits.hexNumber < 0x110000) :
    ∃ part units, Compares rest (text "u\x7b" ++ (digits ++ text "\x7d")) part units := by
  have denoted := (escapeBodyValue_braces nonempty hex).trans (codePointOf_of_lt small)
  refine agrees_of_escape? denoted ?_ (not_isMisread fun first starts => ?_)
  · have standard := braceEscape?_append nonempty hex small rest
    rw [Text.utf16_cons, Text.utf16_nil, List.append_nil, List.append_assoc, List.append_assoc]
    show escape? (CodePoint.ofChar 'u' :: CodePoint.ofChar '\x7b' ::
      (digits ++ (text "\x7d" ++ rest))) = _
    rw [escape?, if_neg (by decide), if_pos rfl, List.head?_cons, if_pos rfl, List.tail_cons,
      standard]
    simp [text]
  · cases starts
    decide

/-- Any other code point denotes what the standard says, and a line break denotes nothing. -/
theorem agrees_single {rest : Text} {point : CodePoint} (notCode : point ≠ 'u')
    (notByte : point ≠ 'x') (notOctal : point.isOctalDigit = false)
    (ended : point = '\r' → ∀ next ∈ rest.head?, next ≠ '\n') :
    ∃ part units, Compares rest [point] part units := by
  refine agrees_of_escape? (escapeBodyValue_singleton point) ?_
    (not_isMisread fun first starts => ?_)
  · rw [List.singleton_append, escape?, if_neg notByte, if_neg notCode,
      if_neg (Bool.eq_false_iff.mp notOctal), List.length_singleton]
    cases ends : point.isLineEnd with
    | true =>
      rw [if_pos rfl, if_pos rfl, if_neg, Text.utf16_nil]
      rintro ⟨same, feed⟩
      exact ended same _ feed rfl
    | false =>
      rw [if_neg Bool.false_ne_true, if_neg Bool.false_ne_true, singleEscape_eq notOctal,
        Text.utf16_cons, Text.utf16_nil, List.append_nil]
  · cases starts
    exact notOctal

/-- What the standard makes of an escape sequence in front of some rest, next to the text that is
decoded from it. -/
theorem agrees_escape {rest body : Text} (escapes : IsEscape rest body)
    (fits : ¬ (Piece.escape (CodePoint.ofChar '\\' :: body)).IsOversized) :
    ∃ part units, Compares rest body part units := by
  cases escapes with
  | @braces digits nonempty hex =>
    refine agrees_braces nonempty hex (Nat.lt_of_not_le fun large => fits ?_)
    exact ⟨digits, nonempty, hex, rfl, large⟩
  | @four digits size hex =>
    have nonempty := List.ne_nil_of_length_eq_add_one size
    refine agrees_digits (Or.inl rfl) nonempty (Nat.le_of_eq size) hex ?_
    have notBrace : (digits ++ rest).head? ≠ some (CodePoint.ofChar '\x7b') := by
      obtain ⟨first, later, rfl⟩ := List.exists_cons_of_ne_nil nonempty
      intro brace
      cases Option.some.inj brace
      exact CodePoint.ne_of_isHexDigit (hex _ List.mem_cons_self) '\x7b' (by decide) rfl
    rw [List.cons_append, escape?, if_neg (by decide), if_pos rfl, if_neg notBrace,
      hexEscape?_append size hex, List.length_cons, size]
  | @two digits size hex =>
    have nonempty := List.ne_nil_of_length_eq_add_one size
    refine agrees_digits (Or.inr rfl) nonempty (by rw [size]; decide) hex ?_
    rw [List.cons_append, escape?, if_pos rfl, hexEscape?_append size hex, List.length_cons, size]
  | octal nonempty short octal ended => exact agrees_octal nonempty short octal ended
  | newline =>
    refine agrees_of_escape? (escapeBodyValue_continuation (by decide)) rfl
      (not_isMisread fun first starts => ?_)
    cases starts
    decide
  | single notCode notByte notOctal ended => exact agrees_single notCode notByte notOctal ended

end Standard

/-- The string value of a text between quotes, next to the text that its pieces denote. -/
theorem IsCut.agrees {quote : CodePoint} {inner : Text} {pieces : List Piece}
    (cut : IsCut quote inner pieces) (fits : ∀ piece ∈ pieces, ¬ piece.IsOversized) :
    ∃ parts units, pieces.mapM Piece.decode = .ok parts ∧
      Standard.stringValue? inner = some units ∧
      Agrees (∀ piece ∈ pieces, ¬ piece.IsMisread) (Text.utf16 parts.flatten) units := by
  induction cut with
  | nil =>
    refine ⟨[], [], rfl, ?_, .of_eq (List.forall_mem_nil _) rfl⟩
    rw [Standard.stringValue?]
  | @plain point rest pieces notBackslash notQuote notLineFeed notReturn later
      inductionHypothesis =>
    obtain ⟨parts, units, decoded, value, agrees⟩ :=
      inductionHypothesis fun piece member => fits piece (List.mem_cons_of_mem _ member)
    refine ⟨[point] :: parts, point.utf16 ++ units, ?_, ?_, ?_⟩
    · rw [List.mapM_cons, decoded]
      rfl
    · rw [Standard.stringValue?_plain notBackslash, value]
      rfl
    · have plain : ¬ (Piece.plain [point]).IsMisread := by
        intro misread
        cases misread
      rw [List.flatten_cons, Text.utf16_append]
      refine ((Agrees.of_eq plain ?_).append agrees).congr List.forall_mem_cons
      rw [Text.utf16_cons, Text.utf16_nil, List.append_nil]
  | @escape body rest pieces escapes later inductionHypothesis =>
    obtain ⟨here, behind⟩ := List.forall_mem_cons.mp fits
    obtain ⟨parts, units, decoded, value, agrees⟩ := inductionHypothesis behind
    obtain ⟨part, own, compares⟩ := Standard.agrees_escape escapes here
    refine ⟨part :: parts, own ++ units, ?_, ?_, ?_⟩
    · have first : (Piece.escape (CodePoint.ofChar '\\' :: body)).decode = .ok part :=
        compares.decoded
      rw [List.mapM_cons, first, decoded]
      rfl
    · rw [compares.standard, value]
      rfl
    · rw [List.flatten_cons, Text.utf16_append]
      exact (compares.agrees.append agrees).congr List.forall_mem_cons

/-- The value of a literal has the code units of its string value exactly when the literal has no
octal escape that is read in another way. -/
theorem StringLiteral.utf16_value_eq_iff (literal : StringLiteral) :
    ∃ value units, literalValue (literalPieces literal.written) = .ok value ∧
      Standard.stringValue? literal.inner = some units ∧
      (value.utf16 = units ↔ ∀ piece ∈ literalPieces literal.written, ¬ piece.IsMisread) := by
  obtain ⟨quote, inner, marks, whole, cut⟩ := exists_isCut_of_literal literal.isWhole
  obtain ⟨parts, units, decoded, standard, agrees⟩ := cut.agrees literal.fits
  have between : literal.inner = inner := by
    rw [StringLiteral.inner, whole, List.tail_cons, List.dropLast_concat]
  refine ⟨Text.joinSurrogates parts.flatten, units, ?_, ?_, ?_⟩
  · rw [literalValue, decoded]
    rfl
  · rw [between, standard]
  · rw [Text.utf16_joinSurrogates, agrees.same]

/-- The two sorts of octal escapes that are read in another way. -/
theorem StringLiteral.exists_utf16_value_ne :
    (∃ literal : StringLiteral, literal.written = text "'\\1'" ∧ literal.value = text "1" ∧
      Standard.stringValue? literal.inner = some [1]) ∧
    ∃ literal : StringLiteral, literal.written = text "'\\477'" ∧ literal.value = text "\u013f" ∧
      Standard.stringValue? literal.inner = some [0x27, 0x37] := by
  have digit : literalValue (literalPieces (text "'\\1'")) = .ok (text "1") :=
    toOption_eq_some_iff.mp (by decide +kernel)
  have number : literalValue (literalPieces (text "'\\477'")) = .ok (text "\u013f") :=
    toOption_eq_some_iff.mp (by decide +kernel)
  have unit : Standard.stringValue? (text "'\\1'").tail.dropLast = some [1] := by decide +kernel
  have units : Standard.stringValue? (text "'\\477'").tail.dropLast = some [0x27, 0x37] := by
    decide +kernel
  exact ⟨⟨.ofValue (by decide +kernel) digit, rfl, value_ofValue _ digit, unit⟩,
    .ofValue (by decide +kernel) number, rfl, value_ofValue _ number, units⟩

end ImportBinding
