/-
This file says which lists of tokens are the parts of a program, one after another.

A row of declarations and semicolons is read part by part, and a part knows of the next one only
that it starts a line. So a row may be put behind another one that way, and a semicolon behind any
row: it ends the last declaration, or stands on its own.
-/

import ImportBinding.Proofs.Declarations
import ImportBinding.Proofs.Endings

namespace ImportBinding

/-! ### Declarations with other layout in front, or without their semicolon -/

namespace Declaration

/-- The declaration with the given layout in front. -/
def led (gap : Text) (declaration : Declaration) : Declaration :=
  { declaration with keyword := { declaration.keyword with gap } }

/-- The declaration without the semicolon at its end. -/
def unended (declaration : Declaration) : Declaration := { declaration with terminator := none }

variable {declaration : Declaration} {dialect : Dialect}

theorem IsFramed.led (framed : declaration.IsFramed dialect) (gap : Text) :
    (declaration.led gap).IsFramed dialect :=
  ⟨framed.keyword, framed.clause, framed.source, framed.attributes, framed.terminator⟩

theorem IsFramed.keyword_ne_semicolon (framed : declaration.IsFramed dialect) :
    declaration.keyword.kind ≠ .semicolon := by
  rw [Token.kind_of_isWord framed.keyword]
  decide

theorem tokens_eq_cons (declaration : Declaration) :
    declaration.tokens = declaration.keyword :: declaration.tokens.tail := rfl

/-- A declaration ends with its source or with a closing brace, or else with its semicolon. -/
theorem IsFramed.exists_last (framed : declaration.IsFramed dialect) :
    ∃ front last, declaration.tokens = front ++ [last] ∧ last.kind ≠ .name ∧
      (declaration.terminator = none → last.kind ≠ .semicolon) := by
  obtain ⟨keyword, clause, source, attributes, terminator⟩ := declaration
  cases terminator with
  | some token =>
    refine ⟨keyword :: (clause.elim [] Clause.tokens ++ source :: attributes.elim []
      fun pair => pair.1 :: pair.2.tokens Attribute.tokens), token, ?_, ?_, nofun⟩
    · simp [Declaration.tokens]
    · rw [framed.terminator token rfl]
      decide
  | none =>
    cases attributes with
    | none =>
      refine ⟨keyword :: clause.elim [] Clause.tokens, source, ?_, ?_⟩
      · simp [Declaration.tokens]
      · have literal : source.kind = .literal := framed.source
        rw [literal]
        exact ⟨by decide, fun _ => by decide⟩
    | some pair =>
      obtain ⟨withWord, listing⟩ := pair
      have closing := (framed.attributes (withWord, listing) rfl).2.2.closing
      refine ⟨keyword :: (clause.elim [] Clause.tokens ++ source :: withWord :: listing.opening ::
        Listing.inside Attribute.tokens listing.ended listing.final), listing.closing, ?_, ?_⟩
      · simp [Declaration.tokens, Listing.tokens_eq_inside]
      · rw [closing]
        exact ⟨by decide, fun _ => by decide⟩

/-- A declaration that is ended by a semicolon takes it in, when it has none. -/
theorem tokens_of_unended {token : Token} (open_ : declaration.terminator = none) :
    ({ declaration with terminator := some token } : Declaration).tokens =
      declaration.tokens ++ [token] := by
  simp [tokens, open_]

end Declaration

/-! ### Rows -/

/-- The tokens of some items, one after another, where every declaration ends. -/
inductive IsRow (dialect : Dialect) : List Token → List Item → Prop where
  | nil : IsRow dialect [] []
  | semicolon {token : Token} {rest : List Token} {items : List Item}
      (marks : token.kind = .semicolon) (later : IsRow dialect rest items) :
      IsRow dialect (token :: rest) (.semicolon token :: items)
  | declaration {read : Declaration} {rest : List Token} {items : List Item}
      (framed : read.IsFramed dialect) (ends : read.EndsBefore rest)
      (accepted : read.bindings.all Token.isIdentifier = true) (later : IsRow dialect rest items) :
      IsRow dialect (read.tokens ++ rest) (.declaration read :: items)

/-- Items are read off some tokens exactly when these are the tokens of the items. -/
theorem readItems_eq_ok_iff {dialect : Dialect} {tokens : List Token} {items : List Item} :
    readItems dialect tokens = .ok items ↔ IsRow dialect tokens items := by
  constructor
  · intro read
    induction length : tokens.length using Nat.strongRecOn generalizing tokens items with
    | ind length inductionHypothesis =>
      subst length
      cases tokens with
      | nil =>
        rw [readItems] at read
        cases read
        exact .nil
      | cons token tokens =>
        by_cases marks : token.kind = .semicolon
        · rw [readItems, if_pos marks, map_eq_ok_iff] at read
          obtain ⟨items, later, rfl⟩ := read
          exact .semicolon marks (inductionHypothesis _ (Nat.lt_succ_self _) later rfl)
        · rw [readItems_cons_of_ne marks, bind_eq_ok_iff] at read
          obtain ⟨⟨first, rest⟩, front, behind⟩ := read
          obtain ⟨items, later, rfl⟩ := map_eq_ok_iff.mp behind
          obtain ⟨whole, framed, ends, accepted⟩ := Declaration.read_eq_ok_iff.mp front
          have row := inductionHypothesis _ (Declaration.length_lt_of_read front) later rfl
          rw [whole]
          exact .declaration framed ends accepted row
  · intro row
    induction row with
    | nil => rw [readItems]
    | semicolon marks _ inductionHypothesis =>
      rw [readItems, if_pos marks, inductionHypothesis]
      rfl
    | @declaration first rest items framed ends accepted _ inductionHypothesis =>
      have front : Declaration.read dialect (first.tokens ++ rest) = .ok (first, rest) :=
        Declaration.read_eq_ok_iff.mpr ⟨rfl, framed, ends, accepted⟩
      rw [Declaration.tokens_eq_cons, List.cons_append] at front ⊢
      rw [readItems_cons_of_ne framed.keyword_ne_semicolon, front, ok_bind]
      show (readItems dialect rest).map _ = _
      rw [inductionHypothesis]
      rfl

/-- A text is a program that starts with a declaration exactly when its tokens are such a row. -/
theorem Program.ofText_eq_ok_cons_iff_isRow {dialect : Dialect} {content tail : Text}
    {declaration : Declaration} {later : List Item} :
    Program.ofText dialect content = .ok ⟨.declaration declaration :: later, tail⟩ ↔
      ∃ tokens, scan content = .ok (tokens, tail) ∧
        IsRow dialect tokens (.declaration declaration :: later) := by
  rw [Program.ofText_eq_ok_cons_iff]
  constructor
  · rintro ⟨rest, scanned, framed, ends, accepted, others⟩
    exact ⟨_, scanned, .declaration framed ends accepted (readItems_eq_ok_iff.mp others)⟩
  · rintro ⟨tokens, scanned, row⟩
    cases row with
    | @declaration _ rest _ framed ends accepted behind =>
      exact ⟨rest, scanned, framed, ends, accepted, readItems_eq_ok_iff.mpr behind⟩

namespace IsRow

variable {dialect : Dialect} {tokens more : List Token} {items others : List Item}

/-- The first declaration of a row is framed. -/
theorem framed {declaration : Declaration}
    (row : IsRow dialect tokens (.declaration declaration :: items)) :
    declaration.IsFramed dialect := by
  cases row with
  | declaration framed => exact framed

/-- The first declaration of a row may stand behind any layout. -/
theorem led {declaration : Declaration}
    (row : IsRow dialect tokens (.declaration declaration :: items)) (gap : Text) :
    ∃ rest, tokens = declaration.keyword :: rest ∧
      IsRow dialect ((declaration.led gap).keyword :: rest)
        (.declaration (declaration.led gap) :: items) := by
  cases row with
  | declaration framed ends accepted later =>
    exact ⟨_, rfl, .declaration (framed.led gap) ends accepted later⟩

/-- A row that does not start with a semicolon starts with a declaration. -/
theorem exists_declaration {token : Token} {rest : List Token}
    (row : IsRow dialect (token :: rest) items) (other : token.kind ≠ .semicolon) :
    ∃ first later, items = .declaration first :: later ∧ first.keyword = token := by
  generalize whole : token :: rest = tokens at row
  cases row with
  | nil => cases whole
  | semicolon marks _ =>
    cases whole
    exact absurd marks other
  | @declaration first _ items _ _ _ _ =>
    rw [Declaration.tokens_eq_cons, List.cons_append, List.cons.injEq] at whole
    exact ⟨first, items, rfl, whole.1.symm⟩

/-- A row does not end with a name. -/
theorem kind_of_getLast? (row : IsRow dialect tokens items) :
    ∀ last ∈ tokens.getLast?, last.kind ≠ .name := by
  induction row with
  | nil => exact nofun
  | @semicolon token rest _ marks _ inductionHypothesis =>
    intro last ends
    rcases List.eq_nil_or_concat' rest with rfl | ⟨rest, other, rfl⟩
    · obtain rfl : token = last := Option.some.inj ends
      rw [marks]
      decide
    · refine inductionHypothesis last ?_
      rwa [← List.cons_append, List.getLast?_concat, ← List.getLast?_concat (l := rest)] at ends
  | @declaration first rest _ framed _ _ _ inductionHypothesis =>
    intro last ends
    rcases List.eq_nil_or_concat' rest with rfl | ⟨rest, other, rfl⟩
    · obtain ⟨front, final, whole, kind, -⟩ := framed.exists_last
      rw [List.append_nil, whole, List.getLast?_concat] at ends
      cases ends
      exact kind
    · refine inductionHypothesis last ?_
      rwa [← List.append_assoc, List.getLast?_concat, ← List.getLast?_concat (l := rest)] at ends

/-- The text of a row does not end with a blank. -/
theorem exists_last (row : IsRow dialect tokens items) (spaced : Tokens.WellSpaced tokens)
    (nonempty : tokens ≠ []) :
    ∃ last, (Tokens.written tokens).getLast? = some last ∧ last.isBlank = false := by
  obtain ⟨front, final, rfl⟩ := (List.eq_nil_or_concat' tokens).resolve_left nonempty
  have whole := spaced.whole final (List.mem_append_right front (List.mem_singleton_self final))
  have other := row.kind_of_getLast? final List.getLast?_concat
  obtain ⟨last, ends, mark⟩ := whole.exists_last other
  refine ⟨last, ?_, mark⟩
  have written : final.body ≠ [] := ne_nil_of_tokenSize? whole
  rw [Tokens.written_append, Tokens.written_cons, Tokens.written_nil, List.append_nil,
    List.getLast?_append_of_ne_nil _ (List.append_ne_nil_of_right_ne_nil _ written),
    List.getLast?_append_of_ne_nil _ written, ends]

/-- A row may follow another one behind a semicolon, or on a new line. -/
theorem append_of_apart (row : IsRow dialect tokens items) (rowToo : IsRow dialect more others)
    (apart : ∀ last ∈ tokens.getLast?, last.kind ≠ .semicolon →
      ∀ next ∈ more.head?, next.startsLine = true ∧ next.kind ≠ .semicolon) :
    IsRow dialect (tokens ++ more) (items ++ others) := by
  -- the last token of a row is the last one of what follows its first item, unless nothing does
  induction row with
  | nil => exact rowToo
  | @semicolon token rest _ marks _ inductionHypothesis =>
    refine .semicolon marks (inductionHypothesis fun last ends => apart last ?_)
    rw [List.getLast?_cons, Option.mem_def.mp ends]
    rfl
  | @declaration first rest _ framed ends accepted _ inductionHypothesis =>
    rw [List.append_assoc]
    refine .declaration framed (fun open_ next head => ?_) accepted
      (inductionHypothesis fun last final => apart last ?_)
    · cases rest with
      | nil =>
        obtain ⟨front, last, whole, -, other⟩ := framed.exists_last
        refine apart last ?_ (other open_) next head
        rw [List.append_nil, whole, List.getLast?_concat]
        rfl
      | cons other rest => exact ends open_ next head
    · rw [List.getLast?_append, Option.mem_def.mp final]
      rfl

/-- A row may follow another one on a new line. -/
theorem append (row : IsRow dialect tokens items) (rowToo : IsRow dialect more others)
    (starts : ∀ next ∈ more.head?, next.startsLine = true ∧ next.kind ≠ .semicolon) :
    IsRow dialect (tokens ++ more) (items ++ others) :=
  row.append_of_apart rowToo fun _ _ _ => starts

/-- A row may be followed by a semicolon. Its declarations stay the same but for their ends. -/
theorem concat_semicolon {token : Token} (row : IsRow dialect tokens items)
    (marks : token.kind = .semicolon) :
    ∃ others, IsRow dialect (tokens ++ [token]) others ∧
      (others.filterMap Item.declaration?).map Declaration.unended =
        (items.filterMap Item.declaration?).map Declaration.unended := by
  induction row with
  | nil => exact ⟨_, .semicolon marks .nil, rfl⟩
  | semicolon marks _ inductionHypothesis =>
    obtain ⟨others, row, same⟩ := inductionHypothesis
    exact ⟨_, .semicolon marks row, same⟩
  | @declaration first rest items framed ends accepted later inductionHypothesis =>
    by_cases open_ : rest = [] ∧ first.terminator = none
    · obtain ⟨rfl, open_⟩ := open_
      cases later
      have ended : ({ first with terminator := some token } : Declaration).IsFramed dialect :=
        ⟨framed.keyword, framed.clause, framed.source, framed.attributes,
          fun other member => by cases member; exact marks⟩
      have row := IsRow.declaration ended nofun accepted .nil
      rw [Declaration.tokens_of_unended open_, List.append_nil] at row
      rw [List.append_nil]
      exact ⟨_, row, rfl⟩
    · obtain ⟨others, row, same⟩ := inductionHypothesis
      rw [List.append_assoc]
      refine ⟨_, .declaration framed (fun none next head => ?_) accepted row, ?_⟩
      · cases rest with
        | nil => exact absurd ⟨rfl, none⟩ open_
        | cons other rest => exact ends none next head
      · exact congrArg (first.unended :: ·) same

end IsRow

end ImportBinding
