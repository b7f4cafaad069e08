/-
This file says which programs can be read.

Whether a declaration can be read depends on its own tokens, and on the first token behind it when
it ends without a semicolon. What follows the first declaration of a program is read on its own.
-/

import ImportBinding.Proofs.Frames
import ImportBinding.Proofs.Spacing

namespace ImportBinding

/-! ### Declarations -/

namespace Declaration

/-- The tokens of the local names of a declaration. -/
def bindings (declaration : Declaration) : List Token :=
  declaration.clause.elim [] fun clause => clause.bindings.bindings

/-- The tokens of the attributes of a declaration. -/
def attributeTokens (declaration : Declaration) : List Token :=
  declaration.attributes.elim []
    fun (withWord, listing) => withWord :: listing.tokens Attribute.tokens

/-- The tokens of a declaration, and what follows them. -/
theorem tokens_append (declaration : Declaration) (rest : List Token) :
    declaration.tokens ++ rest =
      declaration.keyword :: (declaration.clause.elim [] Clause.tokens ++
        declaration.source ::
          (declaration.attributeTokens ++ (declaration.terminator.toList ++ rest))) := by
  simp only [Declaration.tokens, attributeTokens, List.cons_append, List.append_assoc]

/-- A declaration that is well-formed but for its local names. -/
structure IsFramed (dialect : Dialect) (declaration : Declaration) : Prop where
  keyword : declaration.keyword.isWord (text "import") = true
  clause : ∀ clause ∈ declaration.clause, clause.IsFramed dialect
  source : declaration.source.kind = .literal
  attributes : ∀ pair ∈ declaration.attributes,
    pair.1.isWord (text "with") = true ∧ pair.1.startsLine = false ∧
      pair.2.IsFramed Attribute.IsWellFormed
  terminator : ∀ token ∈ declaration.terminator, token.kind = .semicolon

/-- Whether these tokens can follow a declaration: without a semicolon at its end the next token
has to start a line. -/
def EndsBefore (declaration : Declaration) (rest : List Token) : Prop :=
  declaration.terminator = none →
    ∀ next ∈ rest.head?, next.startsLine = true ∧ next.kind ≠ .semicolon

theorem readTerminator_tokens {declaration : Declaration} {dialect : Dialect}
    (framed : declaration.IsFramed dialect) {rest : List Token}
    (ends : declaration.EndsBefore rest) :
    readTerminator (declaration.terminator.toList ++ rest) =
      .ok (declaration.terminator, rest) := by
  cases last : declaration.terminator with
  | some token =>
    rw [Option.toList_some, List.singleton_append, readTerminator,
      if_pos (framed.terminator token last)]
  | none =>
    cases rest with
    | nil => rfl
    | cons next rest =>
      obtain ⟨starts, other⟩ := ends last next rfl
      rw [Option.toList_none, List.nil_append, readTerminator, if_neg other, if_pos starts]

theorem readAttributes_tokens {declaration : Declaration} {dialect : Dialect}
    (framed : declaration.IsFramed dialect) {rest : List Token}
    (ends : declaration.EndsBefore rest) :
    (readAttributes
        (declaration.attributeTokens ++ (declaration.terminator.toList ++ rest))).toOption =
      some (declaration.attributes, declaration.terminator.toList ++ rest) := by
  rw [attributeTokens]
  cases attributes : declaration.attributes with
  | some pair =>
    obtain ⟨withWord, listing⟩ := pair
    obtain ⟨word, sameLine, listed⟩ := framed.attributes (withWord, listing) attributes
    simp only at word sameLine listed
    have read : (Listing.read Attribute.ofTokens?
        (listing.tokens Attribute.tokens ++ (declaration.terminator.toList ++ rest))).toOption =
          if (listing.entries.all fun _ => true) = true then
            some (listing, declaration.terminator.toList ++ rest)
          else none :=
      Listing.read_tokens
        (fun pair formed => ⟨List.cons_ne_nil _ _, fun token member => by
          rcases Attribute.IsWellFormed.kind_of_mem formed member with kind | kind | kind <;>
            rw [kind] <;> decide⟩)
        (fun pair formed => Attribute.ofTokens?_tokens formed) listed _
    rw [if_pos (List.all_eq_true.mpr fun _ _ => rfl)] at read
    simp only [readAttributes, Option.elim_some, List.cons_append, expect, word, sameLine,
      Bool.not_false, Bool.and_self, if_true, toOption_bind, read]
    rfl
  | none =>
    rw [Option.elim_none, List.nil_append, readAttributes]
    have absent : ∃ stuck, expect (fun token => token.isWord (text "with") && !token.startsLine)
        (declaration.terminator.toList ++ rest) = .error stuck := by
      cases last : declaration.terminator with
      | some token =>
        have notWith : token.isWord (text "with") = false :=
          Token.isWord_eq_false (by rw [framed.terminator token last]; decide) _
        exact ⟨_, expect_cons_of_false (by rw [notWith, Bool.false_and]) rest⟩
      | none =>
        cases rest with
        | nil => exact ⟨_, rfl⟩
        | cons next rest =>
          refine ⟨_, expect_cons_of_false ?_ rest⟩
          rw [(ends last next rfl).1, Bool.not_true, Bool.and_false]
    obtain ⟨stuck, absent⟩ := absent
    rw [absent]
    rfl

theorem readClause_tokens {declaration : Declaration} {dialect : Dialect}
    (framed : declaration.IsFramed dialect) (rest : List Token) :
    (readClause dialect
        (declaration.clause.elim [] Clause.tokens ++ declaration.source :: rest)).toOption =
      if declaration.bindings.all Token.isIdentifier = true then
        some (declaration.clause, declaration.source :: rest)
      else none := by
  rw [Declaration.bindings]
  cases stated : declaration.clause with
  | none =>
    rw [Option.elim_none, List.nil_append, readClause, expect_kind framed.source]
    rfl
  | some clause =>
    have inner : clause.IsFramed dialect := framed.clause clause stated
    obtain ⟨first, later, front, kind⟩ := Clause.IsFramed.head inner
    have notLiteral : expect (fun token => token.kind = .literal)
        (clause.tokens ++ declaration.source :: rest) =
          .error (clause.tokens ++ declaration.source :: rest) := by
      rw [front, List.cons_append]
      exact expect_kind_of_ne kind _
    rw [Option.elim_some, readClause, notLiteral]
    simp only [toOption_bind, Clause.read_tokens inner framed.source]
    split
    · rename_i accepted
      exact (if_pos accepted).symm
    · rename_i rejected
      exact (if_neg rejected).symm

/-- Framed tokens are read as the declaration that they are the tokens of when the local names are
identifiers, and not at all otherwise. -/
theorem read_tokens {declaration : Declaration} {dialect : Dialect}
    (framed : declaration.IsFramed dialect) {rest : List Token}
    (ends : declaration.EndsBefore rest) :
    (Declaration.read dialect (declaration.tokens ++ rest)).toOption =
      if declaration.bindings.all Token.isIdentifier = true then some (declaration, rest)
      else none := by
  simp only [tokens_append, Declaration.read, expect_word framed.keyword, ok_bind, toOption_bind,
    readClause_tokens framed]
  split
  · simp only [Option.bind_some, expect_kind framed.source, toOption_ok,
      readAttributes_tokens framed ends, readTerminator_tokens framed ends]
  · rfl

theorem isFramed_of_readClause {dialect : Dialect} {tokens rest : List Token}
    {clause : Option Clause} (read : readClause dialect tokens = .ok (clause, rest)) :
    (∀ stated ∈ clause, stated.IsFramed dialect) ∧
      (clause.elim [] fun stated => stated.bindings.bindings).all Token.isIdentifier = true := by
  rw [readClause] at read
  split at read
  · simp only [Except.ok.injEq, Prod.mk.injEq] at read
    obtain ⟨rfl, rfl⟩ := read
    exact ⟨fun stated member => absurd member (Option.not_mem_none stated), rfl⟩
  · simp only [bind_eq_ok_iff, Prod.exists, Except.ok.injEq, Prod.mk.injEq] at read
    obtain ⟨stated, _, inside, rfl, rfl⟩ := read
    obtain ⟨framed, accepted⟩ := Clause.isFramed_of_read inside
    refine ⟨fun other member => ?_, accepted⟩
    rw [← Option.mem_some_iff.mp member]
    exact framed

theorem isFramed_of_readAttributes {tokens rest : List Token}
    {attributes : Option (Token × Listing Attribute)}
    (read : readAttributes tokens = .ok (attributes, rest)) :
    ∀ pair ∈ attributes, pair.1.isWord (text "with") = true ∧ pair.1.startsLine = false ∧
      pair.2.IsFramed Attribute.IsWellFormed := by
  rw [readAttributes] at read
  split at read
  · rename_i withWord inner worded
    simp only [bind_eq_ok_iff, Prod.exists, Except.ok.injEq, Prod.mk.injEq] at read
    obtain ⟨listing, _, listed, rfl, rfl⟩ := read
    obtain ⟨-, both⟩ := expect_eq_ok_iff.mp worded
    obtain ⟨word, sameLine⟩ := Bool.and_eq_true_iff.mp both
    have framed : listing.IsFramed Attribute.IsWellFormed ∧
        (listing.entries.all fun _ => true) = true :=
      Listing.isFramed_of_read
        (fun tokens pair found => ⟨Attribute.isWellFormed_of_ofTokens? found, rfl⟩) listed
    intro pair member
    rw [← Option.mem_some_iff.mp member]
    exact ⟨word, (Bool.not_eq_true' _).mp sameLine, framed.1⟩
  · simp only [Except.ok.injEq, Prod.mk.injEq] at read
    obtain ⟨rfl, rfl⟩ := read
    exact fun pair member => absurd member (Option.not_mem_none pair)

theorem isEnd_of_readTerminator {tokens rest : List Token} {terminator : Option Token}
    (read : readTerminator tokens = .ok (terminator, rest)) :
    (∀ token ∈ terminator, token.kind = .semicolon) ∧
      (terminator = none → ∀ next ∈ rest.head?, next.startsLine = true ∧
        next.kind ≠ .semicolon) := by
  unfold readTerminator at read
  split at read
  · cases read
    exact ⟨fun token member => absurd member (Option.not_mem_none token),
      fun _ next member => absurd member (Option.not_mem_none next)⟩
  · rename_i token later
    split at read
    · rename_i semicolon
      cases read
      refine ⟨fun other member => ?_, fun none => absurd none (Option.some_ne_none token)⟩
      cases member
      exact semicolon
    · rename_i other
      split at read
      · rename_i starts
        cases read
        refine ⟨fun token member => absurd member (Option.not_mem_none token),
          fun _ next member => ?_⟩
        cases member
        exact ⟨starts, other⟩
      · cases read

theorem isFramed_of_read {dialect : Dialect} {tokens rest : List Token}
    {declaration : Declaration} (read : Declaration.read dialect tokens = .ok (declaration, rest)) :
    declaration.IsFramed dialect ∧ declaration.EndsBefore rest ∧
      declaration.bindings.all Token.isIdentifier = true := by
  simp only [Declaration.read, bind_eq_ok_iff, Prod.exists, Except.ok.injEq, Prod.mk.injEq] at read
  obtain ⟨keyword, later, started, clause, later', claused, source, later'', sourced, attributes,
    later''', attributed, terminator, after, terminated, rfl, rfl⟩ := read
  obtain ⟨-, word⟩ := expect_eq_ok_iff.mp started
  obtain ⟨-, literal⟩ := expect_eq_ok_iff.mp sourced
  obtain ⟨framedClause, accepted⟩ := isFramed_of_readClause claused
  obtain ⟨semicolon, ends⟩ := isEnd_of_readTerminator terminated
  exact ⟨⟨word, framedClause, of_decide_eq_true literal, isFramed_of_readAttributes attributed,
    semicolon⟩, ends, accepted⟩

/-- A declaration is read off some tokens exactly when they start with its own, it is framed, its
local names are identifiers and the other tokens can follow it. -/
theorem read_eq_ok_iff {dialect : Dialect} {tokens rest : List Token} {declaration : Declaration} :
    Declaration.read dialect tokens = .ok (declaration, rest) ↔
      tokens = declaration.tokens ++ rest ∧ declaration.IsFramed dialect ∧
        declaration.EndsBefore rest ∧ declaration.bindings.all Token.isIdentifier = true := by
  constructor
  · intro read
    exact ⟨tokens_of_read read, isFramed_of_read read⟩
  · rintro ⟨rfl, framed, ends, accepted⟩
    have read := read_tokens framed ends
    rw [if_pos accepted] at read
    exact toOption_eq_some_iff.mp read

/-- After a modifier the word `from` in front of a comma ends the clause, and no source follows. -/
theorem read_of_pair {dialect : Dialect} {keyword modifier next comma : Token}
    {later : List Token} (named : modifier.kind = .name)
    (word : next.isWord (text "from") = true) (separates : comma.kind = .comma) :
    (Declaration.read dialect (keyword :: modifier :: next :: comma :: later)).toOption = none := by
  have notLiteral : modifier.kind ≠ .literal := by
    rw [named]
    decide
  have notComma : next.kind ≠ .comma := by
    rw [Token.kind_of_isWord word]
    decide
  have notSource : comma.kind ≠ .literal := by
    rw [separates]
    decide
  have plain := Clause.startsWithModifier_of_comma dialect modifier word separates later
  rw [Declaration.read, toOption_bind]
  cases started : expect (fun token => token.isWord (text "import"))
      (keyword :: modifier :: next :: comma :: later) with
  | error stuck => rfl
  | ok pair =>
    obtain ⟨first, rest⟩ := pair
    obtain ⟨same, -⟩ := expect_eq_ok_iff.mp started
    cases same
    rw [toOption_ok, Option.bind_some, toOption_bind, readClause, expect_kind_of_ne notLiteral]
    simp only [Clause.read, plain, Bindings.read, Bool.false_eq_true, if_false,
      Option.toList_none, List.length_nil, List.drop_zero, expect_kind named, toOption_bind,
      expect_identifier]
    split
    · simp only [Option.bind_some, expect_kind_of_ne notComma, toOption_ok, expect_word word,
        expect_kind_of_ne notSource]
      rfl
    · rfl

end Declaration

/-! ### Programs -/

theorem readItems_cons_of_ne {dialect : Dialect} {token : Token} {rest : List Token}
    (other : token.kind ≠ .semicolon) :
    readItems dialect (token :: rest) =
      Declaration.read dialect (token :: rest) >>= fun (declaration, after) =>
        (readItems dialect after).map fun items => .declaration declaration :: items := by
  rw [readItems, if_neg other]
  split
  · rename_i declaration after read
    rw [read]
    rfl
  · rename_i stuck read
    rw [read]
    rfl

/-- A program starts with a declaration when that is read off its tokens and its other items are
read off the tokens behind. -/
theorem readProgram_eq_ok_cons_iff {dialect : Dialect} {tokens : List Token}
    {declaration : Declaration} {later : List Item} :
    readProgram dialect tokens = .ok (.declaration declaration :: later) ↔
      ∃ rest, Declaration.read dialect tokens = .ok (declaration, rest) ∧
        readItems dialect rest = .ok later := by
  cases tokens with
  | nil => simp [readProgram, Declaration.read, expect, bind, Except.bind]
  | cons token tokens =>
    rw [readProgram]
    by_cases semicolon : token.kind = .semicolon
    · rw [if_pos semicolon]
      constructor
      · intro read
        cases read
      · rintro ⟨rest, read, -⟩
        have front := Declaration.tokens_of_read read
        have keyword := Token.kind_of_isWord (Declaration.isFramed_of_read read).1.keyword
        rw [Declaration.tokens, List.cons_append, List.cons.injEq] at front
        rw [front.1, keyword] at semicolon
        cases semicolon
    · rw [if_neg semicolon, readItems_cons_of_ne semicolon]
      simp only [bind_eq_ok_iff, Prod.exists, map_eq_ok_iff, List.cons.injEq,
        Item.declaration.injEq]
      constructor
      · rintro ⟨first, rest, read, items, later, rfl, rfl⟩
        exact ⟨rest, read, later⟩
      · rintro ⟨rest, read, later⟩
        exact ⟨declaration, rest, read, _, later, rfl, rfl⟩

/-- A program is empty or starts with a declaration. -/
theorem readProgram_eq_ok_cases {dialect : Dialect} {tokens : List Token} {items : List Item}
    (read : readProgram dialect tokens = .ok items) :
    (tokens = [] ∧ items = []) ∨
      ∃ declaration later, items = .declaration declaration :: later := by
  cases tokens with
  | nil =>
    cases read
    exact Or.inl ⟨rfl, rfl⟩
  | cons token tokens =>
    rw [readProgram] at read
    split at read
    · cases read
    · rename_i other
      rw [readItems_cons_of_ne other] at read
      simp only [bind_eq_ok_iff, Prod.exists, map_eq_ok_iff] at read
      obtain ⟨declaration, rest, -, later, -, rfl⟩ := read
      exact Or.inr ⟨declaration, later, rfl⟩

/-- There are no declarations among the items that are read off some tokens exactly when the tokens
are all semicolons. -/
theorem declarations_eq_nil_iff {dialect : Dialect} {tokens : List Token} {items : List Item}
    (read : readItems dialect tokens = .ok items) :
    items.filterMap Item.declaration? = [] ↔ ∀ token ∈ tokens, token.kind = .semicolon := by
  induction tokens generalizing items with
  | nil =>
    rw [readItems] at read
    cases read
    exact ⟨fun _ => List.forall_mem_nil _, fun _ => rfl⟩
  | cons token tokens inductionHypothesis =>
    by_cases semicolon : token.kind = .semicolon
    · rw [readItems, if_pos semicolon, map_eq_ok_iff] at read
      obtain ⟨later, inner, rfl⟩ := read
      rw [List.filterMap_cons_none rfl, inductionHypothesis inner, List.forall_mem_cons]
      exact ⟨fun rest => ⟨semicolon, rest⟩, And.right⟩
    · rw [readItems_cons_of_ne semicolon] at read
      simp only [bind_eq_ok_iff, Prod.exists, map_eq_ok_iff] at read
      obtain ⟨declaration, rest, -, later, -, rfl⟩ := read
      have listed : (Item.declaration declaration :: later).filterMap Item.declaration? ≠ [] :=
        List.cons_ne_nil declaration _
      exact ⟨fun none => absurd none listed,
        fun every => absurd (every token List.mem_cons_self) semicolon⟩

theorem Program.ofText_eq_ok_iff {dialect : Dialect} {content : Text} {program : Program} :
    Program.ofText dialect content = .ok program ↔
      ∃ tokens, scan content = .ok (tokens, program.tail) ∧
        readProgram dialect tokens = .ok program.items := by
  rw [Program.ofText]
  cases scanned : scan content with
  | error stray => simp
  | ok pair =>
    obtain ⟨tokens, tail⟩ := pair
    cases read : readProgram dialect tokens with
    | error stuck => cases stuck <;> simp [read]
    | ok items =>
      simp only [read, Except.ok.injEq, Prod.mk.injEq]
      constructor
      · rintro rfl
        exact ⟨tokens, ⟨rfl, rfl⟩, read⟩
      · rintro ⟨_, ⟨rfl, rfl⟩, same⟩
        rw [read] at same
        cases same
        rfl

/-- A declaration opens a text when its tokens are the first ones there, and the others are read as
the given items. -/
structure Declaration.Opens (declaration : Declaration) (dialect : Dialect) (content : Text)
    (rest : List Token) (later : List Item) (tail : Text) : Prop where
  scanned : scan content = .ok (declaration.tokens ++ rest, tail)
  framed : declaration.IsFramed dialect
  ends : declaration.EndsBefore rest
  accepted : declaration.bindings.all Token.isIdentifier = true
  others : readItems dialect rest = .ok later

/-- A text is read as a program that starts with a declaration exactly when the declaration opens
it. -/
theorem Program.ofText_eq_ok_cons_iff {dialect : Dialect} {content tail : Text}
    {declaration : Declaration} {later : List Item} :
    Program.ofText dialect content = .ok ⟨.declaration declaration :: later, tail⟩ ↔
      ∃ rest, declaration.Opens dialect content rest later tail := by
  rw [Program.ofText_eq_ok_iff]
  constructor
  · rintro ⟨tokens, scanned, read⟩
    obtain ⟨rest, first, others⟩ := readProgram_eq_ok_cons_iff.mp read
    obtain ⟨rfl, framed, ends, accepted⟩ := Declaration.read_eq_ok_iff.mp first
    exact ⟨rest, scanned, framed, ends, accepted, others⟩
  · rintro ⟨rest, scanned, framed, ends, accepted, others⟩
    refine ⟨declaration.tokens ++ rest, scanned, readProgram_eq_ok_cons_iff.mpr ⟨rest, ?_, others⟩⟩
    exact Declaration.read_eq_ok_iff.mpr ⟨rfl, framed, ends, accepted⟩

end ImportBinding
