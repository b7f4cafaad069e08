/-
This file says which lists of tokens a scan yields, and shows that scanning undoes writing.

Whether written tokens can be told apart again is a matter of each token and of its neighbour: the
layout in front of a token has to be closed, its text has to be one token, and a name must
not carry on the name before it. A text has the tokens that a scan finds in it, and no
other list of tokens that keeps to these rules. Since the rules are local, a token can be
exchanged for another one without a second look at the rest.
-/

import Mathlib.Data.List.Chain
import Mathlib.Data.List.TakeWhile
import ImportBinding.Proofs.Munch

namespace ImportBinding

/-! ### Spacing -/

/-- Layout that may stand in front of a token. Any token would do in place of the semicolon. -/
def IsGap (gap : Text) : Prop := ((gap ++ text ";").units layoutSize).2 = text ";"

/-- Layout that may stand at the end of a text, where a comment need not be ended. -/
def IsTail (tail : Text) : Prop := (tail.units layoutSize).2 = []

instance : DecidablePred IsGap := fun gap =>
  inferInstanceAs (Decidable (((gap ++ text ";").units layoutSize).2 = text ";"))

instance : DecidablePred IsTail := fun tail =>
  inferInstanceAs (Decidable ((tail.units layoutSize).2 = []))

namespace Token

/-- The text of a token is a single token of its kind. -/
def IsWhole (token : Token) : Prop :=
  tokenSize? token.body = some (token.kind, token.body.length)

/-- A name is kept apart from the name before it. -/
def IsApart (first second : Token) : Prop :=
  first.kind = .name → second.kind = .name → second.gap ≠ []

instance : DecidableRel IsApart := fun first second =>
  inferInstanceAs (Decidable (first.kind = .name → second.kind = .name → second.gap ≠ []))

end Token

/-- Tokens that can be told apart when they are written one after another. -/
structure Tokens.WellSpaced (tokens : List Token) : Prop where
  gaps : ∀ token ∈ tokens, IsGap token.gap
  whole : ∀ token ∈ tokens, token.IsWhole
  apart : tokens.IsChain Token.IsApart

/-! ### How layout and tokens start -/

/-- The marks are no layout, no quotes and no parts of a name. -/
theorem TokenKind.ofMark?_eq_some_cases {point : CodePoint} {kind : TokenKind}
    (marked : TokenKind.ofMark? point = some kind) :
    kind ≠ .name ∧ kind ≠ .literal ∧ point.isSpace = false ∧ point ≠ '/' ∧ point ≠ '\\' ∧
      point.isNamePart = false := by
  unfold TokenKind.ofMark? at marked
  split_ifs at marked with same same same same same same <;>
    (cases marked; subst same; decide)

/-- A part of a name starts with a backslash or a code point that names are made of. -/
theorem head_of_namePartSize_ne_zero {point : CodePoint} {rest : Text}
    (some : namePartSize (point :: rest) ≠ 0) : point.isSpace = false ∧ point ≠ '/' := by
  simp only [namePartSize] at some
  split at some
  · rename_i backslash
    subst backslash
    decide
  · split at some
    · rename_i part
      simp only [CodePoint.isNamePart, Bool.and_eq_true, Bool.not_eq_true'] at part
      refine ⟨part.1.2, fun slash => ?_⟩
      subst slash
      exact absurd part.2 (by decide)
    · exact absurd rfl some

/-- No layout starts where a token does. -/
theorem layoutSize_of_tokenSize? {body : Text} {found : TokenKind × Nat}
    (sized : tokenSize? body = some found) (rest : Text) : layoutSize (body ++ rest) = 0 := by
  rcases tokenSize?_cases sized with ⟨point, later, rfl, marked, -⟩ |
    ⟨quote, inner, later, marks, -, rfl, -⟩ | ⟨point, name, later, -, rfl, taken, -⟩
  · obtain ⟨-, -, notSpace, notSlash, -⟩ := TokenKind.ofMark?_eq_some_cases marked
    exact layoutSize_eq_zero_of_head notSpace notSlash _
  · refine layoutSize_eq_zero_of_head ?_ ?_ _ <;> rcases marks with rfl | rfl <;> decide
  · have part := (Text.size_le_of_units_snd namePartSize_le_length
      (List.cons_ne_nil point name) taken).1
    obtain ⟨notSpace, notSlash⟩ := head_of_namePartSize_ne_zero part
    exact layoutSize_eq_zero_of_head notSpace notSlash _

/-- A name is not carried on by a token of another kind. -/
theorem namePartSize_of_tokenSize? {content : Text} {kind : TokenKind} {size : Nat}
    (sized : tokenSize? content = some (kind, size)) (other : kind ≠ .name) :
    namePartSize content = 0 := by
  rcases tokenSize?_cases sized with ⟨point, later, rfl, marked, -⟩ |
    ⟨quote, inner, later, marks, -, rfl, -⟩ | ⟨point, name, later, -, -, -, named, -⟩
  · obtain ⟨-, -, -, -, notBackslash, notPart⟩ := TokenKind.ofMark?_eq_some_cases marked
    simp only [namePartSize, if_neg notBackslash, notPart, Bool.false_eq_true, if_false]
  · have notPart : quote ≠ '\\' ∧ quote.isNamePart = false := by
      rcases marks with rfl | rfl <;> decide
    simp only [namePartSize, if_neg notPart.1, notPart.2, Bool.false_eq_true, if_false]
  · exact absurd named other

/-- A name is carried on by another name. -/
theorem namePartSize_ne_zero_of_tokenSize? {body : Text} {size : Nat}
    (sized : tokenSize? body = some (.name, size)) (rest : Text) :
    namePartSize (body ++ rest) ≠ 0 := by
  have part : namePartSize (body ++ []) ≠ 0 := by
    rw [List.append_nil]
    rcases tokenSize?_cases sized with ⟨point, later, -, marked, -⟩ |
      ⟨quote, inner, later, -, -, -, -, named, -⟩ | ⟨point, name, later, -, rfl, taken, -⟩
    · exact absurd rfl (TokenKind.ofMark?_eq_some_cases marked).1
    · cases named
    · exact (Text.size_le_of_units_snd namePartSize_le_length
        (List.cons_ne_nil point name) taken).1
  have inside := namePartSize_le_length (body ++ [])
  rw [List.append_nil] at inside
  rw [namePartSize_append (ne_nil_of_tokenSize? sized) part
    (by rw [List.append_nil]; exact inside) rest]
  exact part

/-- A name is not carried on by layout. -/
theorem namePartSize_of_layoutSize {content : Text} (layout : layoutSize content ≠ 0) :
    namePartSize content = 0 := by
  cases content with
  | nil => rfl
  | cons point rest =>
    refine Decidable.byContradiction fun part => layout ?_
    obtain ⟨notSpace, notSlash⟩ := head_of_namePartSize_ne_zero part
    exact layoutSize_eq_zero_of_head notSpace notSlash rest

/-- A name ends where nothing carries it on. -/
theorem namePartSize_after_name {body rest : Text}
    (sized : tokenSize? (body ++ rest) = some (.name, body.length)) : namePartSize rest = 0 := by
  rcases tokenSize?_cases sized with ⟨point, later, -, marked, -⟩ |
    ⟨quote, inner, later, -, -, -, -, named, -⟩ | ⟨point, name, later, -, whole, taken, -, size⟩
  · exact absurd rfl (TokenKind.ofMark?_eq_some_cases marked).1
  · cases named
  · obtain ⟨-, rfl⟩ : body = point :: name ∧ rest = later :=
      List.append_inj (whole.trans rfl) (by rw [size, List.length_cons])
    have ended := Text.size_units_snd namePartSize (point :: (name ++ rest))
    rw [taken] at ended
    rcases ended with stops | empty
    · exact stops
    · rw [empty]
      rfl

/-- A token is part of the text that it stands in front of. -/
theorem length_le_of_tokenSize? {content : Text} {kind : TokenKind} {size : Nat}
    (sized : tokenSize? content = some (kind, size)) : size ≤ content.length := by
  rcases tokenSize?_cases sized with ⟨point, later, rfl, -, rfl⟩ |
    ⟨quote, inner, later, -, -, rfl, -, -, rfl⟩ | ⟨point, name, later, -, rfl, -, -, rfl⟩
  all_goals
    simp only [List.length_cons, List.length_append]
    omega

/-! ### Layout -/

theorem IsGap.units {gap rest : Text} (closed : IsGap gap) (stops : layoutSize rest = 0) :
    ((gap ++ rest).units layoutSize).2 = rest := by
  rw [units_layoutSize_append (by decide) stops closed]

theorem isGap_of_units {gap rest : Text} (nonempty : rest ≠ [])
    (taken : ((gap ++ rest).units layoutSize).2 = rest) : IsGap gap := by
  rw [IsGap, units_layoutSize_append nonempty (by decide) taken]

/-- Layout in front of a token starts with layout, unless there is none. -/
theorem IsGap.layoutSize_ne_zero {gap rest : Text} (closed : IsGap gap) (nonempty : gap ≠ [])
    (stops : layoutSize rest = 0) : layoutSize (gap ++ rest) ≠ 0 :=
  (Text.size_le_of_units_snd layoutSize_le_length nonempty (closed.units stops)).1

theorem IsTail.layoutSize_ne_zero {tail : Text} (ends : IsTail tail) (nonempty : tail ≠ []) :
    layoutSize tail ≠ 0 := by
  intro none
  rw [IsTail, Text.units_of_size_eq_zero none] at ends
  exact nonempty ends

/-! ### Scanning what was written -/

namespace Tokens

@[simp]
theorem written_nil : written [] = [] := rfl

@[simp]
theorem written_cons (token : Token) (later : List Token) :
    written (token :: later) = token.gap ++ (token.body ++ written later) := by
  simp only [written, List.flatMap_cons, Token.written, List.append_assoc]

@[simp]
theorem written_append (first second : List Token) :
    written (first ++ second) = written first ++ written second := by
  simp only [written, List.flatMap_append]

@[simp]
theorem width_cons (token : Token) (later : List Token) :
    width (token :: later) = token.width + width later := rfl

@[simp]
theorem width_append (first second : List Token) :
    width (first ++ second) = width first + width second := by
  rw [← length_written, written_append, List.length_append, length_written, length_written]

namespace WellSpaced

variable {token : Token} {first second later : List Token} {tail : Text}

theorem tail_of_cons (spaced : WellSpaced (token :: later)) : WellSpaced later where
  gaps other member := spaced.gaps other (List.mem_cons_of_mem token member)
  whole other member := spaced.whole other (List.mem_cons_of_mem token member)
  apart := spaced.apart.tail

theorem of_append_right (spaced : WellSpaced (first ++ second)) : WellSpaced second where
  gaps token member := spaced.gaps token (List.mem_append_right first member)
  whole token member := spaced.whole token (List.mem_append_right first member)
  apart := (List.isChain_append.mp spaced.apart).2.1

/-- A name in front of well-spaced tokens ends where they start. -/
theorem namePartSize (spaced : WellSpaced (token :: later)) (named : token.kind = .name)
    (ends : IsTail tail) : ImportBinding.namePartSize (written later ++ tail) = 0 := by
  cases later with
  | nil =>
    by_cases empty : tail = []
    · rw [written_nil, List.nil_append, empty]
      rfl
    · exact namePartSize_of_layoutSize (ends.layoutSize_ne_zero empty)
  | cons next later =>
    have member : next ∈ token :: next :: later := List.mem_cons_of_mem token List.mem_cons_self
    have whole := spaced.whole next member
    have apart := (List.isChain_cons_cons.mp spaced.apart).1 named
    rw [written_cons, List.append_assoc, List.append_assoc]
    by_cases close : next.gap = []
    · have other : next.kind ≠ .name := fun nextNamed => apart nextNamed close
      rw [close, List.nil_append]
      exact namePartSize_of_tokenSize? (tokenSize?_append
        (by rw [List.append_nil]; exact whole) fun same => absurd same other) other
    · exact namePartSize_of_layoutSize
        ((spaced.gaps next member).layoutSize_ne_zero close (layoutSize_of_tokenSize? whole _))

/-- A token of a list is read off whatever follows its text in the list. -/
theorem tokenSize? (spaced : WellSpaced (token :: later)) (ends : IsTail tail) :
    ImportBinding.tokenSize? (token.body ++ (written later ++ tail)) =
      some (token.kind, token.body.length) := by
  have whole := spaced.whole token List.mem_cons_self
  refine tokenSize?_append (by rw [List.append_nil]; exact whole) fun named => ?_
  exact spaced.namePartSize named ends

end WellSpaced

/-- A token in front of tokens that can be told apart is one of them, if its layout is closed, its
text is a token, and it is a name only where no name follows directly. -/
theorem wellSpaced_cons {token : Token} {later : List Token} (tail : Text)
    (gap : IsGap token.gap)
    (sized : ImportBinding.tokenSize? (token.body ++ (written later ++ tail)) =
      some (token.kind, token.body.length))
    (spaced : WellSpaced later) : WellSpaced (token :: later) where
  gaps other member := by
    rcases List.mem_cons.mp member with rfl | member
    · exact gap
    · exact spaced.gaps other member
  whole other member := by
    rcases List.mem_cons.mp member with rfl | member
    · have whole := tokenSize?_append sized fun _ => (rfl : namePartSize [] = 0)
      rwa [List.append_nil] at whole
    · exact spaced.whole other member
  apart := by
    refine List.isChain_cons.mpr ⟨fun next head named nextNamed close => ?_, spaced.apart⟩
    obtain ⟨others, rfl⟩ := List.head?_eq_some_iff.mp head
    have whole := spaced.whole next List.mem_cons_self
    rw [Token.IsWhole, nextNamed] at whole
    rw [named] at sized
    have stops := namePartSize_after_name sized
    rw [written_cons, close, List.nil_append, List.append_assoc] at stops
    exact namePartSize_ne_zero_of_tokenSize? whole _ stops

/-- A scan finds the tokens that a text is made of. Well-spaced tokens and the layout after
them are found when they are written, and nothing else is. -/
theorem tokens_eq_ok_iff {content : Text} {found : List Token} {tail : Text} :
    tokens content = .ok (found, tail) ↔
      content = written found ++ tail ∧ WellSpaced found ∧ IsTail tail := by
  constructor
  · intro scanned
    fun_induction tokens content generalizing found with
    | case1 content layout rest sized =>
      rename_i empty
      simp only [Except.ok.injEq, Prod.mk.injEq] at scanned
      obtain ⟨rfl, rfl⟩ := scanned
      have whole : layout = content := by
        have pieces := Text.units_flatten layoutSize content
        rwa [show (content.units layoutSize).2 = [] from empty, List.append_nil] at pieces
      rw [whole]
      refine ⟨rfl, ⟨?_, ?_, List.isChain_nil⟩, empty⟩
      · exact fun token member => nomatch member
      · exact fun token member => nomatch member
    | case2 => cases scanned
    | case3 content layout rest kind size sized later end_ inner =>
      rename_i inductionHypothesis
      simp only [Except.ok.injEq, Prod.mk.injEq] at scanned
      obtain ⟨rfl, rfl⟩ := scanned
      obtain ⟨spelled, spaced, ends⟩ := inductionHypothesis inner
      have whole : layout ++ rest = content :=
        Text.units_flatten layoutSize content
      have halves : rest.take size ++ (written later ++ end_) = rest := by
        rw [← spelled, List.take_append_drop]
      have taken : (rest.take size).length = size :=
        List.length_take_of_le (length_le_of_tokenSize? sized)
      refine ⟨?_, wellSpaced_cons end_ ?_ ?_ spaced, ends⟩
      · rw [written_cons, List.append_assoc, List.append_assoc, halves, whole]
      · refine isGap_of_units (ne_nil_of_tokenSize? sized) ?_
        rw [whole]
      · rw [taken, halves]
        exact sized
    | case4 => cases scanned
  · rintro ⟨rfl, spaced, ends⟩
    induction found with
    | nil =>
      have whole := Text.units_flatten layoutSize tail
      rw [show (tail.units layoutSize).2 = [] from ends, List.append_nil] at whole
      rw [written_nil, List.nil_append, tokens]
      split
      · rw [if_pos (show (tail.units layoutSize).2 = [] from ends), whole]
      · rename_i sized
        rw [show (tail.units layoutSize).2 = [] from ends] at sized
        cases sized
    | cons token later inductionHypothesis =>
      have sized := spaced.tokenSize? ends
      have taken := (spaced.gaps token List.mem_cons_self).units
        (layoutSize_of_tokenSize? (spaced.whole token List.mem_cons_self) (written later ++ tail))
      rw [written_cons, List.append_assoc, List.append_assoc, tokens]
      split
      · rename_i none
        rw [taken, sized] at none
        cases none
      · rename_i kind size some
        rw [taken, sized] at some
        cases some
        rw [taken, List.drop_left, inductionHypothesis spaced.tail_of_cons, List.take_left,
          Text.units_fst_flatten token.gap taken]

/-- Tokens may be put in the place of one token if they start and end as it does. -/
theorem WellSpaced.splice {front back new : List Token} {old : Token}
    (spaced : WellSpaced (front ++ old :: back)) (fresh : WellSpaced new) (nonempty : new ≠ [])
    (starts : ∀ first ∈ new.head?, first.gap = old.gap ∧ first.kind = old.kind)
    (stops : ∀ last ∈ new.getLast?, last.kind = old.kind) :
    WellSpaced (front ++ (new ++ back)) where
  gaps token member := by
    rcases List.mem_append.mp member with inFront | inRest
    · exact spaced.gaps token (List.mem_append_left _ inFront)
    · rcases List.mem_append.mp inRest with inNew | inBack
      · exact fresh.gaps token inNew
      · exact spaced.gaps token (List.mem_append_right front (List.mem_cons_of_mem old inBack))
  whole token member := by
    rcases List.mem_append.mp member with inFront | inRest
    · exact spaced.whole token (List.mem_append_left _ inFront)
    · rcases List.mem_append.mp inRest with inNew | inBack
      · exact fresh.whole token inNew
      · exact spaced.whole token (List.mem_append_right front (List.mem_cons_of_mem old inBack))
  apart := by
    obtain ⟨frontApart, oldApart, before⟩ := List.isChain_append.mp spaced.apart
    obtain ⟨behind, backApart⟩ := List.isChain_cons.mp oldApart
    refine List.isChain_append.mpr ⟨frontApart, List.isChain_append.mpr
      ⟨fresh.apart, backApart, fun last atEnd next atHead named => ?_⟩,
      fun last atEnd next atHead named nextNamed => ?_⟩
    · rw [stops last atEnd] at named
      exact behind next atHead named
    · rw [List.head?_append_of_ne_nil _ nonempty] at atHead
      obtain ⟨gap, kind⟩ := starts next atHead
      rw [kind] at nextNamed
      rw [gap]
      exact before last atEnd old rfl named nextNamed

end Tokens

/-- A program text holds no code point zero, and is made of tokens otherwise. -/
theorem scan_eq_ok_iff {content : Text} {found : List Token} {tail : Text} :
    scan content = .ok (found, tail) ↔ (∀ point ∈ content, point.toNat ≠ 0) ∧
      content = Tokens.written found ++ tail ∧ Tokens.WellSpaced found ∧ IsTail tail := by
  have clean : (content.dropWhile fun point => point.toNat ≠ 0) = [] ↔
      ∀ point ∈ content, point.toNat ≠ 0 := by
    simp only [List.dropWhile_eq_nil_iff, decide_eq_true_eq]
  rw [← Tokens.tokens_eq_ok_iff, ← clean, scan]
  split
  · rename_i none
    exact (and_iff_right none).symm
  · rename_i stray
    exact ⟨nofun, fun both => absurd both.1 stray⟩

end ImportBinding
