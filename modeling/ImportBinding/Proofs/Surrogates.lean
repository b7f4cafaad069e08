/-
This file says what joining surrogates does to a text.

The units of a text stay as they are, and afterwards no high surrogate stands in front of a low one.
There is only one such text for given units, so two texts with the same units are joined to the same
text.
-/

import Mathlib.Data.List.Chain
import ImportBinding.Text.Units

namespace ImportBinding

/-! ### Units of a code point -/

namespace CodePoint

theorem ext {first second : CodePoint} (same : first.toNat = second.toNat) : first = second := by
  obtain ⟨number, bound⟩ := first
  obtain ⟨other, otherBound⟩ := second
  subst same
  rfl

/-- A high surrogate in front of a low one, which belong together. -/
def Pairs (first second : CodePoint) : Prop :=
  first.isHighSurrogate = true ∧ second.isLowSurrogate = true

theorem toNat_ofSurrogates {high low : CodePoint} (pairs : Pairs high low) :
    (ofSurrogates high low).toNat =
      0x10000 + (high.toNat - 0xD800) * 0x400 + (low.toNat - 0xDC00) := by
  simp only [Pairs, isHighSurrogate, isLowSurrogate, Bool.and_eq_true, decide_eq_true_eq] at pairs
  simp only [ofSurrogates]
  omega

/-- Two surrogates that belong together are the units of the code point that they stand for. -/
theorem utf16_ofSurrogates {high low : CodePoint} (pairs : Pairs high low) :
    (ofSurrogates high low).utf16 = high.utf16 ++ low.utf16 := by
  have number := toNat_ofSurrogates pairs
  simp only [Pairs, isHighSurrogate, isLowSurrogate, Bool.and_eq_true, decide_eq_true_eq] at pairs
  rw [utf16, utf16, utf16, if_neg (by omega), if_pos (by omega), if_pos (by omega), number,
    List.singleton_append, List.cons.injEq, List.cons.injEq]
  refine ⟨?_, ?_, rfl⟩ <;> omega

/-- The units of a code point are its number, or a high and a low surrogate. -/
theorem utf16_cases (point : CodePoint) :
    point.utf16 = [point.toNat] ∨
      ∃ high low, high.isHighSurrogate = true ∧ low.isLowSurrogate = true ∧
        point = ofSurrogates high low ∧ point.utf16 = [high.toNat, low.toNat] := by
  have bound := point.isLt
  rw [utf16]
  by_cases small : point.toNat < 0x10000
  · exact Or.inl (if_pos small)
  · rw [if_neg small]
    have highBound : 0xD800 + (point.toNat - 0x10000) / 0x400 < 0x110000 := by omega
    have lowBound : 0xDC00 + (point.toNat - 0x10000) % 0x400 < 0x110000 := by omega
    have pairs : Pairs ⟨_, highBound⟩ ⟨_, lowBound⟩ := by
      simp only [Pairs, isHighSurrogate, isLowSurrogate, Bool.and_eq_true, decide_eq_true_eq]
      omega
    refine Or.inr ⟨⟨_, highBound⟩, ⟨_, lowBound⟩, pairs.1, pairs.2, ext ?_, rfl⟩
    rw [toNat_ofSurrogates pairs]
    simp only
    omega

theorem utf16_ne_nil (point : CodePoint) : point.utf16 ≠ [] := by
  rcases point.utf16_cases with single | ⟨high, low, -, -, -, both⟩
  · rw [single]
    exact List.cons_ne_nil _ _
  · rw [both]
    exact List.cons_ne_nil _ _

end CodePoint

/-! ### Joined texts -/

namespace Text

@[simp]
theorem utf16_nil : utf16 [] = [] := rfl

@[simp]
theorem utf16_cons (point : CodePoint) (content : Text) :
    utf16 (point :: content) = point.utf16 ++ utf16 content := List.flatMap_cons

@[simp]
theorem utf16_append (first second : Text) :
    utf16 (first ++ second) = utf16 first ++ utf16 second := List.flatMap_append

/-- A text in which no high surrogate stands directly in front of a low one. -/
def IsJoined (content : Text) : Prop :=
  List.IsChain (fun first second => ¬ CodePoint.Pairs first second) content

/-- Joining surrogates keeps the units of a text. -/
theorem utf16_joinSurrogates (content : Text) : content.joinSurrogates.utf16 = content.utf16 := by
  fun_induction joinSurrogates content with
  | case1 => rfl
  | case2 => rfl
  | case3 first second rest pairs inductionHypothesis =>
    rw [utf16_cons, utf16_cons, utf16_cons, inductionHypothesis,
      CodePoint.utf16_ofSurrogates (Bool.and_eq_true_iff.mp pairs), List.append_assoc]
  | case4 first second rest apart inductionHypothesis =>
    rw [utf16_cons, utf16_cons, inductionHypothesis]

/-- A code point beyond U+FFFF is neither half of a pair. -/
theorem not_pairs_ofSurrogates {high low : CodePoint} (point : CodePoint) :
    ¬ CodePoint.Pairs (.ofSurrogates high low) point ∧
      ¬ CodePoint.Pairs point (.ofSurrogates high low) := by
  have large : 0x10000 ≤ (CodePoint.ofSurrogates high low).toNat :=
    (Nat.le_add_right _ _).trans (Nat.le_add_right _ _)
  simp only [CodePoint.Pairs, CodePoint.isHighSurrogate, CodePoint.isLowSurrogate,
    Bool.and_eq_true, decide_eq_true_eq]
  omega

/-- What joining puts in front is the first code point, or no half of a pair. -/
theorem head_joinSurrogates {first head : CodePoint} {content : Text}
    (starts : head ∈ (joinSurrogates (first :: content)).head?) :
    head = first ∨ ∃ high low, head = .ofSurrogates high low := by
  cases content with
  | nil =>
    cases starts
    exact Or.inl rfl
  | cons second rest =>
    rw [joinSurrogates] at starts
    split at starts
    · exact Or.inr ⟨first, second, (Option.mem_some_iff.mp starts).symm⟩
    · exact Or.inl (Option.mem_some_iff.mp starts).symm

theorem isJoined_joinSurrogates (content : Text) : content.joinSurrogates.IsJoined := by
  fun_induction joinSurrogates content with
  | case1 => exact .nil
  | case2 point => exact .singleton point
  | case3 first second rest pairs inductionHypothesis =>
    refine List.isChain_cons.mpr ⟨fun next _ => ?_, inductionHypothesis⟩
    exact (not_pairs_ofSurrogates next).1
  | case4 first second rest apart inductionHypothesis =>
    refine List.isChain_cons.mpr ⟨fun next starts => ?_, inductionHypothesis⟩
    rcases head_joinSurrogates starts with rfl | ⟨high, low, rfl⟩
    · exact fun both => apart (Bool.and_eq_true_iff.mpr both)
    · exact (not_pairs_ofSurrogates first).2

/-- The first unit of a text is a low surrogate only if its first code point is. -/
theorem exists_low_of_utf16 {content : Text} {low : CodePoint} {units : List Nat}
    (half : low.isLowSurrogate = true) (spelled : content.utf16 = low.toNat :: units) :
    ∃ rest, content = low :: rest := by
  cases content with
  | nil => cases spelled
  | cons point rest =>
    rw [utf16_cons] at spelled
    rcases point.utf16_cases with single | ⟨high, other, first, second, -, both⟩
    · rw [single, List.singleton_append, List.cons.injEq] at spelled
      exact ⟨rest, by rw [CodePoint.ext spelled.1]⟩
    · rw [both, List.cons_append, List.cons.injEq] at spelled
      simp only [CodePoint.isHighSurrogate, CodePoint.isLowSurrogate, Bool.and_eq_true,
        decide_eq_true_eq] at half first
      omega

/-- The two halves of a code point do not stand apart in a joined text. -/
theorem not_apart_of_utf16 {first second : CodePoint} {content rest : Text}
    (joined : IsJoined (first :: content)) (single : first.utf16 = [first.toNat])
    {high low : CodePoint} (isHigh : high.isHighSurrogate = true)
    (isLow : low.isLowSurrogate = true) (both : second.utf16 = [high.toNat, low.toNat])
    (same : utf16 (first :: content) = utf16 (second :: rest)) : False := by
  rw [utf16_cons, utf16_cons, single, both, List.singleton_append, List.cons_append,
    List.cons.injEq] at same
  obtain ⟨behind, rfl⟩ := exists_low_of_utf16 isLow same.2
  rw [← CodePoint.ext same.1] at isHigh
  exact (List.isChain_cons_cons.mp joined).1 ⟨isHigh, isLow⟩

/-- Joined texts with the same units are the same. -/
theorem eq_of_utf16_eq {first second : Text} (joined : first.IsJoined) (joinedToo : second.IsJoined)
    (same : first.utf16 = second.utf16) : first = second := by
  induction first generalizing second with
  | nil =>
    cases second with
    | nil => rfl
    | cons other rest =>
      rw [utf16_nil, utf16_cons] at same
      exact absurd same.symm (List.append_ne_nil_of_left_ne_nil other.utf16_ne_nil _)
  | cons point content inductionHypothesis =>
    cases second with
    | nil =>
      rw [utf16_nil, utf16_cons] at same
      exact absurd same (List.append_ne_nil_of_left_ne_nil point.utf16_ne_nil _)
    | cons other rest =>
      have later (units : utf16 content = utf16 rest) : content = rest :=
        inductionHypothesis joined.tail joinedToo.tail units
      rcases point.utf16_cases with single | ⟨high, low, isHigh, isLow, whole, both⟩ <;>
        rcases other.utf16_cases with single' | ⟨high', low', isHigh', isLow', whole', both'⟩
      · rw [utf16_cons, utf16_cons, single, single', List.singleton_append, List.singleton_append,
          List.cons.injEq] at same
        rw [CodePoint.ext same.1, later same.2]
      · exact (not_apart_of_utf16 joined single isHigh' isLow' both' same).elim
      · exact (not_apart_of_utf16 joinedToo single' isHigh isLow both same.symm).elim
      · rw [utf16_cons, utf16_cons, both, both'] at same
        simp only [List.cons_append, List.nil_append, List.cons.injEq] at same
        rw [whole, whole', CodePoint.ext same.1, CodePoint.ext same.2.1, later same.2.2]

/-- A text is joined to the one joined text that has the same units. -/
theorem joinSurrogates_eq_of_utf16 {content joined : Text} (isJoined : joined.IsJoined)
    (same : content.utf16 = joined.utf16) : content.joinSurrogates = joined :=
  eq_of_utf16_eq (isJoined_joinSurrogates content) isJoined
    ((utf16_joinSurrogates content).trans same)

end Text

end ImportBinding
