/-
This file compares the local name of a statement with the identifier that the language standard
takes it for.

In a name a code point may be written as an escape sequence, and to the standard that is the same
identifier. So a name is more than its identifier, but nothing more than that and its escape
sequences. Reserved words and keywords are compared as they are written. So a local name is never
one of them, but it may spell one with an escape sequence: every such spelling is taken.
-/

import ImportBinding.Proofs.Renaming
import ImportBinding.Proofs.StringValue

namespace ImportBinding

/-! ### Units of texts without surrogates -/

theorem CodePoint.isSurrogate_of_lt {point : CodePoint} (small : point.toNat < 0xD800) :
    point.isSurrogate = false := by
  rw [isSurrogate, decide_eq_false (Nat.not_le.mpr small), Bool.false_and]

theorem CodePoint.exists_of_ofNat? {number : Nat} {point : CodePoint}
    (denoted : ofNat? number = some point) :
    ∃ small : number < 0x110000, point = ⟨number, small⟩ := by
  rw [ofNat?] at denoted
  split at denoted
  · rename_i small
    cases denoted
    exact ⟨small, rfl⟩
  · cases denoted

/-- The units of a code point tell where those of the next one start. -/
theorem CodePoint.utf16_append_inj {point other : CodePoint} {units unitsToo : List Nat}
    (encodes : point.isSurrogate = false) (encodesToo : other.isSurrogate = false)
    (same : point.utf16 ++ units = other.utf16 ++ unitsToo) : point = other ∧ units = unitsToo := by
  -- the number of a code point is no high surrogate, so the first units tell the two cases apart
  have apart {single high : CodePoint} (isSingle : single.isSurrogate = false)
      (isHigh : high.isHighSurrogate = true) : single.toNat ≠ high.toNat := by
    simp only [isSurrogate, isHighSurrogate, Bool.and_eq_true, Bool.and_eq_false_iff,
      decide_eq_true_eq, decide_eq_false_iff_not] at isSingle isHigh
    omega
  rcases point.utf16_cases with single | ⟨high, low, isHigh, -, whole, both⟩ <;>
    rcases other.utf16_cases with singleToo | ⟨highToo, lowToo, isHighToo, -, wholeToo, bothToo⟩
  · rw [single, singleToo, List.singleton_append, List.singleton_append, List.cons.injEq] at same
    exact ⟨ext same.1, same.2⟩
  · rw [single, bothToo, List.singleton_append, List.cons_append, List.cons.injEq] at same
    exact absurd same.1 (apart encodes isHighToo)
  · rw [both, singleToo, List.singleton_append, List.cons_append, List.cons.injEq] at same
    exact absurd same.1.symm (apart encodesToo isHigh)
  · rw [both, bothToo] at same
    simp only [List.cons_append, List.nil_append, List.cons.injEq] at same
    rw [whole, wholeToo, ext same.1, ext same.2.1]
    exact ⟨rfl, same.2.2⟩

namespace Text

theorem length_le_utf16 (content : Text) : content.length ≤ content.utf16.length := by
  induction content with
  | nil => exact Nat.le_refl 0
  | cons point content inductionHypothesis =>
    rw [utf16_cons, List.length_append, List.length_cons, Nat.add_comm]
    refine Nat.add_le_add ?_ inductionHypothesis
    rcases point.utf16_cases with single | ⟨high, low, -, -, -, both⟩
    · rw [single, List.length_singleton]
    · rw [both]
      exact Nat.le_succ 1

/-- In a text without surrogates there are no two that belong together. -/
theorem isJoined_of_encodes {content : Text}
    (encodes : ∀ point ∈ content, point.isSurrogate = false) : content.IsJoined := by
  induction content with
  | nil => exact .nil
  | cons point content inductionHypothesis =>
    obtain ⟨first, later⟩ := List.forall_mem_cons.mp encodes
    refine List.isChain_cons.mpr ⟨fun next _ pairs => ?_, inductionHypothesis later⟩
    have high := pairs.1
    simp only [CodePoint.isSurrogate, CodePoint.isHighSurrogate, Bool.and_eq_true,
      Bool.and_eq_false_iff, decide_eq_true_eq, decide_eq_false_iff_not] at first high
    omega

end Text

/-! ### The identifier of a name -/

namespace Standard

/-- What the escape sequence of a code point denotes in code units, and how many code points it
takes behind the backslash. -/
def codeEscape? (content : Text) : Option (List Nat × Nat) :=
  if content.head? = some (CodePoint.ofChar 'u') then escape? content else none

/-- The identifier that a name spells, in code units. -/
def nameValue? : Text → Option (List Nat)
  | [] => some []
  | point :: rest =>
    if point = '\\' then
      match codeEscape? rest with
      | none => none
      | some (units, size) => (nameValue? (rest.drop size)).map (units ++ ·)
    else (nameValue? rest).map (point.utf16 ++ ·)
termination_by name => name.length
decreasing_by
  · simp only [List.length_drop, List.length_cons]
    omega
  · simp

/-- Whether the identifier that a name spells is that word. -/
def Names (name word : Text) : Prop := nameValue? name = some word.utf16

instance (name word : Text) : Decidable (Names name word) :=
  inferInstanceAs (Decidable (nameValue? name = some word.utf16))

theorem length_utf16_le (point : CodePoint) : point.utf16.length ≤ 2 := by
  rcases point.utf16_cases with single | ⟨high, low, -, -, -, both⟩
  · rw [single]
    exact Nat.le_succ 1
  · rw [both]
    exact Nat.le_refl 2

theorem isSurrogate_of_isHexDigit {point : CodePoint} (hex : point.isHexDigit = true) :
    point.isSurrogate = false := by
  have small := (CodePoint.bounds_of_isHexDigit hex).2
  exact CodePoint.isSurrogate_of_lt (by omega)

/-- Behind the mark of a code point stand digits in braces, or four digits. -/
theorem codeEscape?_mark (rest : Text) :
    codeEscape? (CodePoint.ofChar 'u' :: rest) =
      if rest.head? = some (CodePoint.ofChar '\x7b') then braceEscape? rest.tail
      else hexEscape? 4 rest := by
  rw [codeEscape?, List.head?_cons, if_pos rfl, escape?, if_neg (by decide), if_pos rfl]

theorem codeEscape?_hex {digits : Text} (size : digits.length = 4)
    (hex : ∀ point ∈ digits, point.isHexDigit = true) (rest : Text) :
    codeEscape? (CodePoint.ofChar 'u' :: (digits ++ rest)) =
      some ([digits.hexNumber], 5) := by
  have notBrace : (digits ++ rest).head? ≠ some (CodePoint.ofChar '\x7b') := by
    obtain ⟨first, later, rfl⟩ := List.exists_cons_of_length_eq_add_one size
    intro brace
    have same : first = CodePoint.ofChar '\x7b' := Option.some.inj brace
    have digit := hex first List.mem_cons_self
    rw [same] at digit
    revert digit
    decide
  rw [codeEscape?_mark, if_neg notBrace, hexEscape?_append size hex]

theorem codeEscape?_brace {digits : Text} (nonempty : digits ≠ [])
    (hex : ∀ point ∈ digits, point.isHexDigit = true) (small : digits.hexNumber < 0x110000)
    (rest : Text) :
    codeEscape? (CodePoint.ofChar 'u' :: CodePoint.ofChar '\x7b' ::
        (digits ++ (text "\x7d" ++ rest))) =
      some (CodePoint.utf16 ⟨digits.hexNumber, small⟩, digits.length + 3) := by
  rw [codeEscape?_mark, List.head?_cons, if_pos rfl]
  exact braceEscape?_append nonempty hex small rest

/-- What is known of the escape sequence of a code point in front of a text: it takes more code
points than it denotes units, and no surrogates, and denotes the same in front of any other rest. -/
structure Takes (content : Text) (units : List Nat) (size : Nat) : Prop where
  inside : size ≤ content.length
  shrinks : units.length < size
  encodes : ∀ point ∈ content.take size, point.isSurrogate = false
  stays : ∀ rest, codeEscape? (content.take size ++ rest) = some (units, size)

theorem takes_of_hexEscape? {size : Nat} {content : Text} {units : List Nat}
    (escapes : hexEscape? 4 content = some (units, size)) :
    Takes (CodePoint.ofChar 'u' :: content) units size := by
  simp only [hexEscape?] at escapes
  split at escapes
  · rename_i digits
    cases escapes
    obtain ⟨size, hex⟩ := digits
    refine ⟨?_, ?_, ?_, fun rest => ?_⟩
    · rw [List.length_take] at size
      rw [List.length_cons]
      omega
    · rw [List.length_singleton]
      decide
    · rw [List.take_succ_cons]
      exact List.forall_mem_cons.mpr
        ⟨by decide, fun point within => isSurrogate_of_isHexDigit (hex point within)⟩
    · rw [List.take_succ_cons, List.cons_append]
      exact codeEscape?_hex size hex rest
  · cases escapes

theorem takes_of_braceEscape? {size : Nat} {content : Text} {units : List Nat}
    (escapes : braceEscape? content = some (units, size)) :
    Takes (CodePoint.ofChar 'u' :: CodePoint.ofChar '\x7b' :: content) units size := by
  simp only [braceEscape?] at escapes
  split at escapes
  · rename_i closed
    obtain ⟨point, denoted, same⟩ := Option.map_eq_some_iff.mp escapes
    cases same
    obtain ⟨nonempty, brace⟩ := closed
    have some := List.length_pos_of_ne_nil nonempty
    have inside := length_lt_of_head?_drop brace
    have hex : ∀ point ∈ content.takeWhile CodePoint.isHexDigit, point.isHexDigit = true :=
      fun point within => List.mem_takeWhile_imp within
    have digits := List.prefix_iff_eq_take.mp
      (List.takeWhile_prefix CodePoint.isHexDigit (l := content))
    rw [List.head?_drop] at brace
    have front : (CodePoint.ofChar 'u' :: CodePoint.ofChar '\x7b' :: content).take
        ((content.takeWhile CodePoint.isHexDigit).length + 3) =
          CodePoint.ofChar 'u' :: CodePoint.ofChar '\x7b' ::
            (content.takeWhile CodePoint.isHexDigit ++ text "\x7d") := by
      rw [List.take_succ_cons, List.take_succ_cons, List.take_add_one, ← digits, brace]
      rfl
    refine ⟨?_, ?_, ?_, fun rest => ?_⟩
    · rw [List.length_cons, List.length_cons]
      omega
    · exact (length_utf16_le point).trans_lt (by omega)
    · rw [front]
      simp only [List.forall_mem_cons, List.forall_mem_append]
      exact ⟨by decide, by decide, fun point within => isSurrogate_of_isHexDigit (hex point within),
        by decide⟩
    · obtain ⟨small, rfl⟩ := CodePoint.exists_of_ofNat? denoted
      rw [front, List.cons_append, List.cons_append, List.append_assoc]
      exact codeEscape?_brace nonempty hex small rest
  · cases escapes

theorem takes_of_codeEscape? {size : Nat} {content : Text} {units : List Nat}
    (escapes : codeEscape? content = some (units, size)) : Takes content units size := by
  by_cases mark : content.head? = some (CodePoint.ofChar 'u')
  · obtain ⟨rest, rfl⟩ := List.head?_eq_some_iff.mp mark
    rw [codeEscape?_mark] at escapes
    split at escapes
    · rename_i brace
      obtain ⟨later, rfl⟩ := List.head?_eq_some_iff.mp brace
      exact takes_of_braceEscape? escapes
    · exact takes_of_hexEscape? escapes
  · rw [codeEscape?, if_neg mark] at escapes
    cases escapes

/-- A name without escape sequences spells itself. -/
theorem nameValue?_of_unescaped {name : Text} (plain : CodePoint.ofChar '\\' ∉ name) :
    nameValue? name = some name.utf16 := by
  induction name with
  | nil =>
    rw [nameValue?]
    rfl
  | cons point rest inductionHypothesis =>
    obtain ⟨first, later⟩ := not_or.mp (mt List.mem_cons.mpr plain)
    rw [nameValue?, if_neg (Ne.symm first), inductionHypothesis later]
    rfl

/-- A name has at least the units of the identifier that it spells, and with an escape sequence it
has more of them. -/
theorem length_nameValue? {name : Text} {units : List Nat}
    (spelled : nameValue? name = some units) :
    units.length ≤ name.utf16.length ∧
      (CodePoint.ofChar '\\' ∈ name → units.length < name.utf16.length) := by
  fun_induction nameValue? name generalizing units with
  | case1 =>
    cases spelled
    exact ⟨Nat.le_refl 0, nofun⟩
  | case2 rest none => cases spelled
  | case3 rest part size escapes inductionHypothesis =>
    obtain ⟨later, there, rfl⟩ := Option.map_eq_some_iff.mp spelled
    obtain ⟨inside, fewer, -⟩ := takes_of_codeEscape? escapes
    obtain ⟨rest_le, -⟩ := inductionHypothesis there
    have taken := Text.length_le_utf16 (rest.take size)
    have whole := congrArg (List.length ∘ Text.utf16) (List.take_append_drop size rest)
    simp only [Function.comp_apply, Text.utf16_append, List.length_append, List.length_take]
      at whole taken
    have more : (part ++ later).length < (Text.utf16 (CodePoint.ofChar '\\' :: rest)).length := by
      rw [Text.utf16_cons, List.length_append, List.length_append]
      omega
    exact ⟨Nat.le_of_lt more, fun _ => more⟩
  | case4 point rest notBackslash inductionHypothesis =>
    obtain ⟨later, there, rfl⟩ := Option.map_eq_some_iff.mp spelled
    obtain ⟨rest_le, rest_lt⟩ := inductionHypothesis there
    rw [Text.utf16_cons, List.length_append, List.length_append]
    refine ⟨Nat.add_le_add_left rest_le _, fun member => Nat.add_lt_add_left (rest_lt ?_) _⟩
    exact (List.mem_cons.mp member).resolve_left (Ne.symm notBackslash)

/-- A name that spells units below the surrogates has no surrogates itself. -/
theorem encodes_of_nameValue? {name : Text} {units : List Nat}
    (spelled : nameValue? name = some units) (low : ∀ unit ∈ units, unit < 0xD800) :
    ∀ point ∈ name, point.isSurrogate = false := by
  fun_induction nameValue? name generalizing units with
  | case1 => exact List.forall_mem_nil _
  | case2 rest none => cases spelled
  | case3 rest part size escapes inductionHypothesis =>
    obtain ⟨later, there, rfl⟩ := Option.map_eq_some_iff.mp spelled
    refine List.forall_mem_cons.mpr ⟨rfl, ?_⟩
    rw [← List.take_append_drop size rest]
    exact List.forall_mem_append.mpr ⟨(takes_of_codeEscape? escapes).encodes,
      inductionHypothesis there (List.forall_mem_append.mp low).2⟩
  | case4 point rest notBackslash inductionHypothesis =>
    obtain ⟨later, there, rfl⟩ := Option.map_eq_some_iff.mp spelled
    obtain ⟨here, behind⟩ := List.forall_mem_append.mp low
    refine List.forall_mem_cons.mpr ⟨?_, inductionHypothesis there behind⟩
    rcases point.utf16_cases with single | ⟨first, second, high, -, -, both⟩
    · rw [single] at here
      exact CodePoint.isSurrogate_of_lt (here _ List.mem_cons_self)
    · rw [both] at here
      have small := here _ List.mem_cons_self
      simp only [CodePoint.isHighSurrogate, Bool.and_eq_true, decide_eq_true_eq] at high
      omega

/-- A name with an escape sequence does not spell itself. -/
theorem nameValue?_ne_of_escaped {name : Text} (escaped : CodePoint.ofChar '\\' ∈ name) :
    nameValue? name ≠ some name.utf16 :=
  fun spelled => Nat.lt_irrefl _ ((length_nameValue? spelled).2 escaped)

/-- Without an escape sequence a name spells no word but itself. -/
theorem Names.eq_of_unescaped {name word : Text} (names : Names name word)
    (plain : CodePoint.ofChar '\\' ∉ name)
    (encodes : ∀ point ∈ name, point.isSurrogate = false)
    (encodesToo : ∀ point ∈ word, point.isSurrogate = false) : name = word := by
  rw [Names, nameValue?_of_unescaped plain] at names
  exact Text.eq_of_utf16_eq (Text.isJoined_of_encodes encodes)
    (Text.isJoined_of_encodes encodesToo) (Option.some.inj names)

/-! ### The escape sequences of a name -/

/-- What is written tells the escape sequence: the same code points denote the same units. -/
theorem codeEscape?_inj {first second : Text} {units unitsToo : List Nat} {size sizeToo : Nat}
    (escapes : codeEscape? first = some (units, size))
    (escapesToo : codeEscape? second = some (unitsToo, sizeToo))
    (same : first.take size = second.take sizeToo) : units = unitsToo ∧ size = sizeToo := by
  have moved := (takes_of_codeEscape? escapes).stays (second.drop sizeToo)
  rw [same, List.take_append_drop, escapesToo] at moved
  exact ⟨(congrArg Prod.fst (Option.some.inj moved)).symm,
    (congrArg Prod.snd (Option.some.inj moved)).symm⟩

/-- The escape sequences of a name that starts at a place: where the backslash of each one is, and
what is written behind it. A backslash that starts none counts with the rest of the name. -/
def escapesFrom (place : Nat) : Text → List (Nat × Text)
  | [] => []
  | point :: rest =>
    if point = '\\' then
      match codeEscape? rest with
      | none => [(place, rest)]
      | some (_, size) => (place, rest.take size) :: escapesFrom (place + size + 1) (rest.drop size)
    else escapesFrom (place + 1) rest
termination_by name => name.length
decreasing_by
  · simp only [List.length_drop, List.length_cons]
    omega
  · simp

/-- The escape sequences of a name, each with its place. -/
def escapes (name : Text) : List (Nat × Text) := escapesFrom 0 name

theorem escapesFrom_escape {place : Nat} {rest : Text} {units : List Nat} {size : Nat}
    (escapes : codeEscape? rest = some (units, size)) :
    escapesFrom place (CodePoint.ofChar '\\' :: rest) =
      (place, rest.take size) :: escapesFrom (place + size + 1) (rest.drop size) := by
  rw [escapesFrom, if_pos rfl, escapes]

theorem escapesFrom_plain {place : Nat} {point : CodePoint} (plain : point ≠ '\\') (rest : Text) :
    escapesFrom place (point :: rest) = escapesFrom (place + 1) rest := by
  rw [escapesFrom, if_neg plain]

theorem le_of_mem_escapesFrom {place : Nat} {name : Text} {entry : Nat × Text}
    (member : entry ∈ escapesFrom place name) : place ≤ entry.1 := by
  fun_induction escapesFrom place name with
  | case1 => cases member
  | case2 place rest none =>
    rw [List.mem_singleton.mp member]
  | case3 place rest units size escapes inductionHypothesis =>
    rcases List.mem_cons.mp member with rfl | later
    · exact Nat.le_refl place
    · exact Nat.le_trans (by omega) (inductionHypothesis later)
  | case4 place point rest plain inductionHypothesis =>
    exact Nat.le_of_succ_le (inductionHypothesis member)

theorem escapesFrom_eq_nil_iff {place : Nat} {name : Text} :
    escapesFrom place name = [] ↔ CodePoint.ofChar '\\' ∉ name := by
  fun_induction escapesFrom place name with
  | case1 => exact iff_of_true rfl List.not_mem_nil
  | case2 | case3 =>
    exact iff_of_false (List.cons_ne_nil _ _) (not_not_intro List.mem_cons_self)
  | case4 place point rest plain inductionHypothesis =>
    rw [inductionHypothesis, List.mem_cons, not_or]
    exact (and_iff_right (Ne.symm plain)).symm

theorem escapes_eq_nil_iff {name : Text} : escapes name = [] ↔ CodePoint.ofChar '\\' ∉ name :=
  escapesFrom_eq_nil_iff

/-- There is an escape sequence at the place where a name starts exactly when a backslash stands
there. -/
theorem mem_places_iff {place : Nat} {name : Text} :
    place ∈ (escapesFrom place name).map Prod.fst ↔ name.head? = some (CodePoint.ofChar '\\') := by
  cases name with
  | nil =>
    rw [escapesFrom]
    exact iff_of_false List.not_mem_nil (Option.some_ne_none _).symm
  | cons point rest =>
    by_cases mark : point = '\\'
    · subst mark
      refine iff_of_true ?_ rfl
      rw [escapesFrom, if_pos rfl]
      split <;> exact List.mem_cons_self
    · rw [escapesFrom_plain mark]
      refine iff_of_false (fun member => ?_) (fun same => mark (Option.some.inj same))
      obtain ⟨entry, inside, start⟩ := List.mem_map.mp member
      have behind := le_of_mem_escapesFrom inside
      omega

theorem exists_of_nameValue?_escape {rest : Text} {units : List Nat}
    (spelled : nameValue? (CodePoint.ofChar '\\' :: rest) = some units) :
    ∃ part size later, codeEscape? rest = some (part, size) ∧
      nameValue? (rest.drop size) = some later ∧ units = part ++ later := by
  rw [nameValue?, if_pos rfl] at spelled
  split at spelled
  · cases spelled
  · rename_i part size escapes
    obtain ⟨later, there, whole⟩ := Option.map_eq_some_iff.mp spelled
    exact ⟨part, size, later, escapes, there, whole.symm⟩

theorem exists_of_nameValue?_plain {point : CodePoint} {rest : Text} {units : List Nat}
    (plain : point ≠ '\\') (spelled : nameValue? (point :: rest) = some units) :
    ∃ later, nameValue? rest = some later ∧ units = point.utf16 ++ later := by
  rw [nameValue?, if_neg plain] at spelled
  obtain ⟨later, there, whole⟩ := Option.map_eq_some_iff.mp spelled
  exact ⟨later, there, whole.symm⟩

theorem head?_iff_of_escapesFrom_eq {place : Nat} {first second : Text}
    (same : escapesFrom place first = escapesFrom place second) :
    first.head? = some (CodePoint.ofChar '\\') ↔ second.head? = some (CodePoint.ofChar '\\') := by
  rw [← @mem_places_iff place first, same, mem_places_iff]

/-- Names that spell the same identifier with the same escape sequences in the same places are
written alike. -/
theorem eq_of_escapesFrom_eq {place : Nat} {first second : Text} {units : List Nat}
    (encodes : ∀ point ∈ first, point.isSurrogate = false)
    (encodesToo : ∀ point ∈ second, point.isSurrogate = false)
    (spelled : nameValue? first = some units) (spelledToo : nameValue? second = some units)
    (same : escapesFrom place first = escapesFrom place second) : first = second := by
  -- both names are read side by side: the places say whether a backslash stands next in both, and
  -- the units which code point does otherwise
  have marks := head?_iff_of_escapesFrom_eq same
  fun_induction nameValue? first generalizing second units place with
  | case1 =>
    cases second with
    | nil => rfl
    | cons other restToo =>
      have plain : other ≠ '\\' := fun mark => nomatch marks.mpr (congrArg some mark)
      obtain ⟨later, -, whole⟩ := exists_of_nameValue?_plain plain spelledToo
      cases spelled
      exact absurd whole.symm (List.append_ne_nil_of_left_ne_nil other.utf16_ne_nil _)
  | case2 => cases spelled
  | case3 rest part size escapes inductionHypothesis =>
    obtain ⟨later, there, rfl⟩ := Option.map_eq_some_iff.mp spelled
    obtain ⟨restToo, rfl⟩ := List.head?_eq_some_iff.mp (marks.mp rfl)
    obtain ⟨partToo, sizeToo, laterToo, escapesToo, thereToo, whole⟩ :=
      exists_of_nameValue?_escape spelledToo
    rw [escapesFrom_escape escapes, escapesFrom_escape escapesToo, List.cons.injEq,
      Prod.mk.injEq] at same
    obtain ⟨⟨-, taken⟩, behind⟩ := same
    obtain ⟨rfl, rfl⟩ := codeEscape?_inj escapes escapesToo taken
    obtain rfl := List.append_cancel_left whole
    obtain ⟨-, encodesRest⟩ := List.forall_mem_cons.mp encodes
    obtain ⟨-, encodesRestToo⟩ := List.forall_mem_cons.mp encodesToo
    have dropped := inductionHypothesis
      (fun point member => encodesRest point (List.mem_of_mem_drop member))
      (fun point member => encodesRestToo point (List.mem_of_mem_drop member))
      there thereToo behind (head?_iff_of_escapesFrom_eq behind)
    rw [← List.take_append_drop size rest, taken, dropped, List.take_append_drop]
  | case4 point rest plain inductionHypothesis =>
    obtain ⟨later, there, rfl⟩ := Option.map_eq_some_iff.mp spelled
    have plainSecond : second.head? ≠ some (CodePoint.ofChar '\\') :=
      fun mark => plain (Option.some.inj (marks.mpr mark))
    cases second with
    | nil =>
      rw [nameValue?, Option.some.injEq] at spelledToo
      exact absurd spelledToo.symm (List.append_ne_nil_of_left_ne_nil point.utf16_ne_nil _)
    | cons other restToo =>
      have plainToo : other ≠ '\\' := fun mark => plainSecond (congrArg some mark)
      obtain ⟨laterToo, thereToo, whole⟩ := exists_of_nameValue?_plain plainToo spelledToo
      obtain ⟨encodesFirst, encodesRest⟩ := List.forall_mem_cons.mp encodes
      obtain ⟨encodesOther, encodesRestToo⟩ := List.forall_mem_cons.mp encodesToo
      obtain ⟨rfl, rfl⟩ := CodePoint.utf16_append_inj encodesFirst encodesOther whole
      rw [escapesFrom_plain plain, escapesFrom_plain plainToo] at same
      rw [inductionHypothesis encodesRest encodesRestToo there thereToo same
        (head?_iff_of_escapesFrom_eq same)]

/-- Names are written alike exactly when they spell the same identifier with the same escape
sequences. -/
theorem eq_iff_escapes_eq {first second : Text}
    (encodes : ∀ point ∈ first, point.isSurrogate = false)
    (encodesToo : ∀ point ∈ second, point.isSurrogate = false)
    (spells : (nameValue? first).isSome = true) :
    first = second ↔ nameValue? first = nameValue? second ∧ escapes first = escapes second := by
  constructor
  · rintro rfl
    exact ⟨rfl, rfl⟩
  · rintro ⟨value, same⟩
    obtain ⟨units, spelled⟩ := Option.isSome_iff_exists.mp spells
    exact eq_of_escapesFrom_eq encodes encodesToo spelled (value.symm.trans spelled) same

end Standard

/-! ### Local names -/

/-- The words that no local name of a module may be. -/
def forbiddenWords : List Text := reservedWords ++ keywords

namespace Statement

section Reads

variable {statement : Statement} {declaration : Declaration} {rest : List Token}
  {later : List Item} {tail : Text} (reads : statement.Reads declaration rest later tail)

include reads

/-- The tokens of a statement have no surrogates. -/
theorem Reads.encodes_of_mem {token : Token} (member : token ∈ declaration.tokens) :
    ∀ point ∈ token.body, point.isSurrogate = false := by
  intro point within
  obtain ⟨-, whole, -⟩ := scan_eq_ok_iff.mp reads.opens.scanned
  refine surrogates?_eq_none_iff.mp reads.encodes point ?_
  rw [whole]
  exact List.mem_append_left tail (mem_written_of_mem (List.mem_append_left rest member) within)

theorem Reads.encodes_binding : ∀ point ∈ statement.binding, point.isSurrogate = false := by
  obtain ⟨token, member, -, body⟩ := reads.exists_token_binding
  rw [← body]
  exact reads.encodes_of_mem member

/-- As it is written, the local name of a statement is neither a keyword nor a reserved word. -/
theorem Reads.binding_not_mem : statement.binding ∉ forbiddenWords := by
  rw [forbiddenWords, List.mem_append, not_or]
  constructor
  · obtain ⟨specifiers, source, specified, free, -⟩ := Declaration.node_eq_ok_iff.mp reads.node
    rw [reads.specifiers_eq] at specified
    cases specified
    intro reserved
    rw [reservedFault?_singleton] at free
    exact Option.some_ne_none _ ((if_pos reserved).symm.trans free)
  · have names := Declaration.names_of_specifiers reads.opens.framed reads.specifiers_eq
    have listed : statement.binding ∈ declaration.bindings.map Token.body := by
      rw [← names]
      exact List.mem_singleton_self _
    obtain ⟨token, member, body⟩ := List.mem_map.mp listed
    have identifier := List.all_eq_true.mp reads.opens.accepted token member
    rw [Token.isIdentifier, body] at identifier
    simp only [Bool.and_eq_true, Bool.not_eq_true', List.contains_eq_mem, decide_eq_false_iff_not]
      at identifier
    exact identifier.2

end Reads

/-- A local name that spells a keyword or a reserved word has an escape sequence, and every name
that spells one with an escape sequence can be taken. -/
theorem escaped_of_names_forbidden {statement : Statement} (built : statement.IsBuilt) :
    statement.binding ∉ forbiddenWords ∧
      (∀ word ∈ forbiddenWords, Standard.Names statement.binding word →
        CodePoint.ofChar '\\' ∈ statement.binding) ∧
      ∀ word ∈ forbiddenWords, ∀ name, IsName name → Standard.Names name word →
        ((∃ renamed, statement.rename [] (.text name) = .ok renamed ∧ renamed.binding = name) ↔
          CodePoint.ofChar '\\' ∈ name) := by
  obtain ⟨declaration, rest, later, tail, reads⟩ := built.exists_reads
  obtain ⟨front, slot, back, has, sourced⟩ := reads.exists_slot
  have wordEncodes : ∀ word ∈ forbiddenWords, ∀ point ∈ word, point.isSurrogate = false := by
    decide
  have wordLow : ∀ word ∈ forbiddenWords, ∀ unit ∈ Text.utf16 word, unit < 0xD800 := by decide
  have wordPlain : ∀ word ∈ forbiddenWords, CodePoint.ofChar '\\' ∉ word := by decide
  have notFrom : CodePoint.ofChar '\\' ∉ text "from" := by decide
  refine ⟨reads.binding_not_mem, fun word member names => ?_,
    fun word member name single names => ?_⟩
  · by_contra plain
    have same := names.eq_of_unescaped plain reads.encodes_binding (wordEncodes word member)
    exact reads.binding_not_mem (same ▸ member)
  · have encodes := Standard.encodes_of_nameValue? names (wordLow word member)
    constructor
    · rintro ⟨renamed, done, binding⟩
      by_contra plain
      have same := names.eq_of_unescaped plain encodes (wordEncodes word member)
      obtain ⟨declaration', rest', later', tail', reread⟩ := (built.renamed done).exists_reads
      refine reread.binding_not_mem ?_
      rw [binding, same]
      exact member
    · intro escaped
      have fresh : name ∉ forbiddenWords := fun listed => wordPlain name listed escaped
      rw [forbiddenWords, List.mem_append, not_or] at fresh
      have pair : ∀ clause ∈ declaration.clause, clause.ModifiesPair → name ≠ text "from" := by
        rintro - - - rfl
        exact notFrom escaped
      obtain ⟨renamed, done, -⟩ :=
        reads.rename_of_free has sourced single encodes pair fresh.2 fresh.1
      exact ⟨renamed, done, (reads.renamed_eq has sourced single done).1⟩

/-- The word `let` with an escape sequence is a local name, and the word `if` with one becomes the
next local name. -/
theorem escaped_of_names_forbidden_let :
    ∃ statement renamed : Statement,
      ofValue [] (.text (text "l\\u0065t from 'm'")) (.ok (text "javascript")) = .ok statement ∧
        Standard.Names statement.binding (text "let") ∧
          CodePoint.ofChar '\\' ∈ statement.binding ∧
            statement.rename [] (.text (text "\\u\x7b69\x7df")) = .ok renamed := by
  have known : (ofValue [] (.text (text "l\\u0065t from 'm'"))
      (.ok (text "javascript"))).toOption.map binding = some (text "l\\u0065t") := by
    decide +kernel
  obtain ⟨statement, made, name⟩ := exists_ok_of_map_toOption known
  obtain ⟨-, escaped, taken⟩ := escaped_of_names_forbidden (.new made)
  have names : Standard.Names statement.binding (text "let") := by
    rw [name]
    decide +kernel
  have single : IsName (text "\\u\x7b69\x7df") := isName_iff.mpr ⟨by decide, by decide +kernel⟩
  obtain ⟨renamed, done, -⟩ := (taken (text "if") (by decide) (text "\\u\x7b69\x7df") single
    (by decide +kernel)).mpr (by decide)
  exact ⟨statement, renamed, made, names, escaped _ (by decide) names, done⟩

/-- There are statements whose local names spell a reserved word and a keyword. -/
theorem exists_names_forbidden :
    (∃ statement : Statement,
      ofValue [] (.text (text "l\\u0065t from 'm'")) (.ok (text "javascript")) = .ok statement ∧
        text "let" ∈ reservedWords ∧ Standard.Names statement.binding (text "let")) ∧
    ∃ statement renamed : Statement,
      ofValue [] (.text (text "x from 'm'")) (.ok (text "javascript")) = .ok statement ∧
        statement.rename [] (.text (text "\\u\x7b69\x7df")) = .ok renamed ∧
          text "if" ∈ keywords ∧ Standard.Names renamed.binding (text "if") := by
  have built : (ofValue [] (.text (text "l\\u0065t from 'm'"))
      (.ok (text "javascript"))).toOption.map
        (fun statement => decide (Standard.Names statement.binding (text "let"))) = some true := by
    decide +kernel
  have renamed : (ofValue [] (.text (text "x from 'm'")) (.ok (text "javascript"))).toOption.map
      (fun statement => (statement.rename [] (.text (text "\\u\x7b69\x7df"))).toOption.map
        fun renamed => decide (Standard.Names renamed.binding (text "if"))) = some (some true) := by
    decide +kernel
  obtain ⟨first, made, names⟩ := exists_ok_of_map_toOption built
  obtain ⟨statement, madeToo, told⟩ := exists_ok_of_map_toOption renamed
  obtain ⟨renamed, done, namesToo⟩ := exists_ok_of_map_toOption told
  exact ⟨⟨first, made, by decide, of_decide_eq_true names⟩, statement, renamed, madeToo, done,
    by decide, of_decide_eq_true namesToo⟩

end Statement

end ImportBinding
