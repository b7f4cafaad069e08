/-
This file says that the environment gives back every text that is whole.

The bytes of a code point begin those of no other, so a text can be read off its bytes from the
front. What is stored is read back as it was unless it has surrogates; some of those cannot be
stored, and others, the stray bytes, may come back as the code points that they form together.
-/

import ImportBinding.Proofs.Built
import ImportBinding.Proofs.Offsets
import ImportBinding.Proofs.Surrogates
import ImportBinding.Settings.Basic

namespace ImportBinding

/-! ### Code points and their bytes -/

namespace CodePoint

/-- The bytes of a code point are one to four, told apart by the size of its number. -/
theorem utf8_cases (point : CodePoint) :
    (point.toNat < 0x80 ∧ point.utf8 = [point.toNat]) ∨
      (0x80 ≤ point.toNat ∧ point.toNat < 0x800 ∧
        point.utf8 = [0xC0 + point.toNat / 0x40, 0x80 + point.toNat % 0x40]) ∨
      (0x800 ≤ point.toNat ∧ point.toNat < 0x10000 ∧
        point.utf8 = [0xE0 + point.toNat / 0x1000, 0x80 + point.toNat / 0x40 % 0x40,
          0x80 + point.toNat % 0x40]) ∨
      (0x10000 ≤ point.toNat ∧
        point.utf8 = [0xF0 + point.toNat / 0x40000, 0x80 + point.toNat / 0x1000 % 0x40,
          0x80 + point.toNat / 0x40 % 0x40, 0x80 + point.toNat % 0x40]) := by
  simp only [utf8]
  split
  · exact Or.inl ⟨‹_›, rfl⟩
  · rename_i one
    split
    · exact Or.inr (Or.inl ⟨Nat.le_of_not_lt one, ‹_›, rfl⟩)
    · rename_i two
      split
      · exact Or.inr (Or.inr (Or.inl ⟨Nat.le_of_not_lt two, ‹_›, rfl⟩))
      · rename_i three
        exact Or.inr (Or.inr (Or.inr ⟨Nat.le_of_not_lt three, rfl⟩))

theorem payload_utf8 (point : CodePoint) : Text.payload point.utf8 = point.toNat := by
  have bound := point.isLt
  rcases point.utf8_cases with
      ⟨small, bytes⟩ | ⟨_, small, bytes⟩ | ⟨_, small, bytes⟩ | ⟨_, bytes⟩ <;>
    rw [bytes] <;>
    simp only [Text.payload, List.length_cons, List.length_nil, List.foldl_cons, List.foldl_nil] <;>
    omega

/-- The bytes of a code point begin those of no other. -/
theorem eq_of_utf8_prefix {point other : CodePoint} {bytes : List Nat}
    (front : point.utf8 <+: bytes) (frontToo : other.utf8 <+: bytes) : point = other := by
  obtain ⟨rest, rfl⟩ := front
  obtain ⟨restToo, same⟩ := frontToo
  have bound := point.isLt
  have boundToo := other.isLt
  apply ext
  rcases point.utf8_cases with
      ⟨small, bytes⟩ | ⟨_, small, bytes⟩ | ⟨_, small, bytes⟩ | ⟨_, bytes⟩ <;>
    rcases other.utf8_cases with
      ⟨small', bytes'⟩ | ⟨_, small', bytes'⟩ | ⟨_, small', bytes'⟩ | ⟨_, bytes'⟩ <;>
    rw [bytes, bytes'] at same <;>
    simp only [List.cons_append, List.nil_append, List.cons.injEq] at same <;>
    omega

end CodePoint

namespace Text

theorem decodePoint?_utf8 {point : CodePoint} (whole : point.isSurrogate = false) :
    decodePoint? point.utf8 = some point := by
  rw [decodePoint?, CodePoint.payload_utf8, CodePoint.ofNat?, dif_pos point.isLt]
  simp [whole]

theorem utf8_of_decodePoint? {bytes : List Nat} {point : CodePoint}
    (decoded : decodePoint? bytes = some point) : point.utf8 = bytes := by
  rw [decodePoint?, Option.filter_eq_some_iff] at decoded
  exact of_decide_eq_true (Bool.and_eq_true_iff.mp decoded.2).1

/-- Bytes that start with those of a code point are read as that one first. -/
theorem ofBytes_utf8_append {point : CodePoint} (whole : point.isSurrogate = false)
    (bytes : List Nat) : ofBytes (point.utf8 ++ bytes) = point :: ofBytes bytes := by
  have size : point.utf8.length ∈ [1, 2, 3, 4] := by
    rcases point.utf8_cases with ⟨_, found⟩ | ⟨_, _, found⟩ | ⟨_, _, found⟩ | ⟨_, found⟩ <;>
      rw [found] <;> simp
  have first : [1, 2, 3, 4].findSome? (fun size =>
      decodePoint? ((point.utf8 ++ bytes).take size)) = some point := by
    cases found : [1, 2, 3, 4].findSome? fun size =>
        decodePoint? ((point.utf8 ++ bytes).take size) with
    | none =>
      have missing := List.findSome?_eq_none_iff.mp found _ size
      rw [List.take_left, decodePoint?_utf8 whole] at missing
      cases missing
    | some other =>
      obtain ⟨size, -, decoded⟩ := List.exists_of_findSome?_eq_some found
      have front : other.utf8 <+: point.utf8 ++ bytes :=
        utf8_of_decodePoint? decoded ▸ List.take_prefix _ _
      rw [CodePoint.eq_of_utf8_prefix front (List.prefix_append _ _)]
  have positive := point.length_utf8_pos
  cases written : point.utf8 with
  | nil =>
    rw [written] at positive
    cases positive
  | cons byte later =>
    rw [written, List.cons_append] at first
    rw [List.cons_append, ofBytes, first]
    simp only [written, List.length_cons, Nat.add_sub_cancel, List.drop_left]

/-- A text without surrogates is read back from its bytes. -/
theorem ofBytes_bytes {content : Text} (whole : ∀ point ∈ content, point.isSurrogate = false) :
    ofBytes content.bytes = content := by
  induction content with
  | nil => rw [bytes, List.flatMap_nil, ofBytes]
  | cons point rest inductionHypothesis =>
    obtain ⟨first, later⟩ := List.forall_mem_cons.mp whole
    have encoded : point.bytes = point.utf8 := by
      rw [CodePoint.bytes, if_neg]
      intro stray
      simp only [CodePoint.isStrayByte, CodePoint.isSurrogate, Bool.and_eq_true,
        Bool.and_eq_false_iff, decide_eq_true_eq, decide_eq_false_iff_not] at stray first
      omega
    rw [bytes, List.flatMap_cons, encoded, ofBytes_utf8_append first]
    exact congrArg _ (inductionHypothesis later)

end Text

/-! ### Variables -/

namespace Variable

/-- What is read back is the text of the bytes that were stored. -/
theorem eq_of_stored {content value : Text} (read : stored content = .ok value) :
    value = Text.ofBytes content.bytes := by
  unfold stored at read
  split at read
  · cases read
  · split at read <;> cases read
    rfl

/-- A text without surrogates and without the code point zero can be stored. -/
theorem stored_of_whole {content : Text} (whole : ∀ point ∈ content, point.isSurrogate = false)
    (nonzero : ∀ point ∈ content, point.toNat ≠ 0) : stored content = .ok content := by
  have encodes : content.surrogates? CodePoint.isStrayByte = none := by
    have every : (content.dropWhile fun point => !point.isSurrogate || point.isStrayByte) = [] :=
      List.dropWhile_eq_nil_iff.mpr fun point member => by rw [whole point member]; rfl
    rw [Text.surrogates?, every]
  have unended : (content.any fun point => point.toNat = 0) = false :=
    List.any_eq_false.mpr fun point member same => nonzero point member (of_decide_eq_true same)
  rw [stored, encodes, unended, Text.ofBytes_bytes whole]
  rfl

end Variable

end ImportBinding
