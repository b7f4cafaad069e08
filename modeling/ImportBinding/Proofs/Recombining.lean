/-
This file compares joining surrogates with writing a text in UTF-16 and reading it back.

What is written starts with a mark, and reading drops that one. Then it takes two units for one code
point where they are its halves, and any other unit for itself. The text that comes out is joined
and has the units that were written, and there is only one such text. So joining is a normal form
of texts up to their units.
-/

import ImportBinding.Proofs.Surrogates

namespace ImportBinding

/-! ### Reading units -/

/-- The code point that a unit is, a half or a whole one. -/
def CodePoint.ofUnit (unit : Nat) : CodePoint := ⟨unit % 0x10000, by omega⟩

theorem CodePoint.toNat_ofUnit {unit : Nat} (small : unit < 0x10000) :
    (ofUnit unit).toNat = unit := Nat.mod_eq_of_lt small

namespace Text

/-- The text that units are read as. -/
def ofUtf16 : List Nat → Text
  | [] => []
  | [unit] => [CodePoint.ofUnit unit]
  | first :: second :: rest =>
    let high := CodePoint.ofUnit first
    let low := CodePoint.ofUnit second
    if high.isHighSurrogate && low.isLowSurrogate then
      CodePoint.ofSurrogates high low :: ofUtf16 rest
    else high :: ofUtf16 (second :: rest)

/-- The mark in front of units, which is none of the text. -/
def orderMark : CodePoint := CodePoint.ofChar '\ufeff'

/-- The units of a text behind a mark. -/
def markedUtf16 (content : Text) : List Nat := orderMark.toNat :: content.utf16

/-- The text that units are read as. A mark in front is dropped, but no second one. -/
def ofMarkedUtf16 (units : List Nat) : Text :=
  if units.head? = some orderMark.toNat then ofUtf16 (units.drop 1) else ofUtf16 units

theorem ofUtf16_eq (units : List Nat) :
    ofUtf16 units = joinSurrogates (units.map CodePoint.ofUnit) := by
  fun_induction ofUtf16 units with
  | case1 => rfl
  | case2 => rfl
  | case3 first second rest high low pairs inductionHypothesis =>
    rw [List.map_cons, List.map_cons, joinSurrogates, if_pos pairs, inductionHypothesis]
  | case4 first second rest high low apart inductionHypothesis =>
    rw [List.map_cons, List.map_cons, joinSurrogates, if_neg apart, inductionHypothesis]
    rfl

theorem utf16_lt {content : Text} : ∀ unit ∈ content.utf16, unit < 0x10000 := by
  intro unit member
  obtain ⟨point, -, member⟩ := List.mem_flatMap.mp member
  have bound := point.isLt
  rw [CodePoint.utf16] at member
  split at member
  · rwa [List.mem_singleton.mp member]
  · simp only [List.mem_cons, List.not_mem_nil, or_false] at member
    omega

/-- Each unit on its own has itself as its unit. -/
theorem utf16_map_ofUnit {units : List Nat} (small : ∀ unit ∈ units, unit < 0x10000) :
    utf16 (units.map CodePoint.ofUnit) = units := by
  induction units with
  | nil => rfl
  | cons unit rest inductionHypothesis =>
    obtain ⟨first, later⟩ := List.forall_mem_cons.mp small
    have single : (CodePoint.ofUnit unit).utf16 = [unit] := by
      rw [CodePoint.utf16, CodePoint.toNat_ofUnit first, if_pos first]
    rw [List.map_cons, utf16_cons, single, inductionHypothesis later]
    rfl

/-! ### A normal form -/

/-- Texts are joined to the same text exactly when they have the same units. -/
theorem joinSurrogates_eq_iff {content other : Text} :
    content.joinSurrogates = other.joinSurrogates ↔ content.utf16 = other.utf16 := by
  constructor
  · intro same
    rw [← utf16_joinSurrogates content, same, utf16_joinSurrogates]
  · intro same
    refine joinSurrogates_eq_of_utf16 (isJoined_joinSurrogates other) ?_
    rw [same, utf16_joinSurrogates]

theorem joinSurrogates_of_isJoined {content : Text} (joined : content.IsJoined) :
    content.joinSurrogates = content := joinSurrogates_eq_of_utf16 joined rfl

/-- Joining is reading the units of a text. -/
theorem ofUtf16_utf16 (content : Text) : ofUtf16 content.utf16 = content.joinSurrogates := by
  rw [ofUtf16_eq, joinSurrogates_eq_iff, utf16_map_ofUnit utf16_lt]

theorem ofMarkedUtf16_markedUtf16 (content : Text) :
    ofMarkedUtf16 content.markedUtf16 = content.joinSurrogates :=
  (if_pos rfl).trans (ofUtf16_utf16 content)

/-- Joining surrogates is writing a text in UTF-16 and reading it back. It keeps the units, leaves
no high surrogate in front of a low one, and changes nothing when it is done again. Two texts come
out the same exactly when they have the same units, and a mark that the text itself starts with is
kept. -/
theorem joinSurrogates_canonical (content other : Text) :
    content.joinSurrogates = ofMarkedUtf16 content.markedUtf16 ∧
      content.joinSurrogates.utf16 = content.utf16 ∧
      content.joinSurrogates.IsJoined ∧
      content.joinSurrogates.joinSurrogates = content.joinSurrogates ∧
      (content.joinSurrogates = other.joinSurrogates ↔ content.utf16 = other.utf16) ∧
      joinSurrogates (orderMark :: content) = orderMark :: content.joinSurrogates := by
  refine ⟨(ofMarkedUtf16_markedUtf16 content).symm, utf16_joinSurrogates content,
    isJoined_joinSurrogates content, joinSurrogates_of_isJoined (isJoined_joinSurrogates content),
    joinSurrogates_eq_iff, ?_⟩
  have whole : orderMark.isHighSurrogate = false := by decide
  cases content with
  | nil => rfl
  | cons point rest =>
    rw [joinSurrogates, whole, Bool.false_and, if_neg Bool.false_ne_true]

end Text

end ImportBinding
