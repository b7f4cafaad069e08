/-
This file shows that reading a declaration loses nothing: the tokens of the declaration and the
tokens after it are the tokens that were there. Reading therefore gets on with every
declaration.
-/

import ImportBinding.Declaration.Reading

namespace ImportBinding

/-! ### Steps of a reader -/

/-- A step followed by another succeeds when both do. -/
theorem bind_eq_ok_iff {Fault First Second : Type} {first : Except Fault First}
    {next : First → Except Fault Second} {result : Second} :
    (first >>= next) = .ok result ↔ ∃ middle, first = .ok middle ∧ next middle = .ok result := by
  cases first <;> simp [bind, Except.bind]

/-- One token is read when it is the first one and of the wanted sort. -/
theorem expect_eq_ok_iff {wanted : Token → Bool} {tokens rest : List Token} {token : Token} :
    expect wanted tokens = .ok (token, rest) ↔ tokens = token :: rest ∧ wanted token = true := by
  cases tokens with
  | nil => simp [expect]
  | cons first later =>
    simp only [expect, List.cons.injEq]
    split
    · simp only [Except.ok.injEq, Prod.mk.injEq]
      constructor
      · rintro ⟨rfl, rfl⟩
        exact ⟨⟨rfl, rfl⟩, ‹_›⟩
      · exact fun both => both.1
    · rename_i unwanted
      constructor
      · intro impossible
        cases impossible
      · rintro ⟨⟨rfl, rfl⟩, same⟩
        exact absurd same unwanted

/-! ### Nothing is lost -/

/-- A named import has the tokens that it was read from. -/
theorem NamedImport.tokens_of_ofTokens? {dialect : Dialect} {tokens : List Token}
    {entry : NamedImport} (found : NamedImport.ofTokens? dialect tokens = some entry) :
    entry.tokens = tokens := by
  revert found
  unfold NamedImport.ofTokens?
  split <;> (try split) <;> intro found <;> simp only [Option.some.injEq, reduceCtorEq] at found <;>
    subst found <;> rfl

/-- An attribute has the tokens that it was read from. -/
theorem Attribute.tokens_of_ofTokens? {tokens : List Token}
    {pair : Attribute} (found : Attribute.ofTokens? tokens = some pair) :
    pair.tokens = tokens := by
  revert found
  unfold Attribute.ofTokens?
  split <;> (try split) <;> intro found <;> simp only [Option.some.injEq, reduceCtorEq] at found
  subst found
  rfl

/-- The entries between two braces and their commas are the tokens between the braces, if an entry
has the tokens that it was read from. -/
theorem tokens_of_readEntries {Entry : Type} {ofTokens? : List Token → Option Entry}
    {entryTokens : Entry → List Token}
    (lossless : ∀ {tokens entry}, ofTokens? tokens = some entry → entryTokens entry = tokens)
    {tokens : List Token} {ended : List (Entry × Token)} {final : Option Entry}
    (read : readEntries ofTokens? tokens = .ok (ended, final)) :
    tokens = ended.flatMap (fun (entry, comma) => entryTokens entry ++ [comma]) ++
      final.elim [] entryTokens := by
  have cut (tokens : List Token) :=
    List.takeWhile_append_dropWhile (p := fun token : Token => token.kind ≠ .comma) (l := tokens)
  fun_induction readEntries ofTokens? tokens generalizing ended final with
  | case1 tokens piece rest =>
    rename_i empty
    simp only [Except.ok.injEq, Prod.mk.injEq] at read
    obtain ⟨rfl, rfl⟩ := read
    rw [← cut tokens, rest, show List.takeWhile _ tokens = [] from empty]
    rfl
  | case2 tokens piece rest _ entry =>
    rename_i found
    simp only [Except.ok.injEq, Prod.mk.injEq] at read
    obtain ⟨rfl, rfl⟩ := read
    have same := lossless found
    have whole := cut tokens
    rw [rest, List.append_nil] at whole
    simp only [List.flatMap_nil, Option.elim_some, List.nil_append, same]
    exact whole.symm
  | case3 => simp at read
  | case4 => simp at read
  | case5 tokens piece comma later rest entry found _ _ inner =>
    rename_i ih
    simp only [Except.ok.injEq, Prod.mk.injEq] at read
    obtain ⟨rfl, rfl⟩ := read
    have same := lossless found
    have whole := cut tokens
    rw [rest, ih inner] at whole
    simp only [List.flatMap_cons, same, List.append_assoc, List.cons_append, List.nil_append]
    rw [← whole]
  | case6 => simp at read

/-- A list in braces and the rest are the tokens that were there. -/
theorem Listing.tokens_of_read {Entry : Type} {ofTokens? : List Token → Option Entry}
    {entryTokens : Entry → List Token}
    (lossless : ∀ {tokens entry}, ofTokens? tokens = some entry → entryTokens entry = tokens)
    {tokens rest : List Token} {listing : Listing Entry}
    (read : Listing.read ofTokens? tokens = .ok (listing, rest)) :
    tokens = listing.tokens entryTokens ++ rest := by
  simp only [Listing.read, bind_eq_ok_iff, Prod.exists] at read
  obtain ⟨opening, inner, opened, closing, after, closed, read⟩ := read
  obtain ⟨rfl, _⟩ := expect_eq_ok_iff.mp opened
  obtain ⟨rest', _⟩ := expect_eq_ok_iff.mp closed
  split at read
  · rename_i ended final entries
    simp only [Except.ok.injEq, Prod.mk.injEq] at read
    obtain ⟨rfl, rfl⟩ := read
    have inside := tokens_of_readEntries lossless entries
    have whole := List.takeWhile_append_dropWhile
      (p := fun token : Token => token.kind ≠ .closeBrace) (l := inner)
    rw [rest', inside] at whole
    simp only [Listing.tokens, List.cons_append, List.append_assoc, List.nil_append] at whole ⊢
    rw [← whole]
  · cases read

/-- A group and the rest are the tokens that were there. -/
theorem Group.tokens_of_read {dialect : Dialect} {tokens rest : List Token} {members : Group}
    (read : Group.read dialect tokens = .ok (members, rest)) :
    tokens = members.tokens ++ rest := by
  rw [Group.read] at read
  split at read
  · rename_i mark later starred
    simp only [bind_eq_ok_iff, Prod.exists, Except.ok.injEq, Prod.mk.injEq] at read
    obtain ⟨asWord, later', worded, binding, later'', bound, rfl, rfl⟩ := read
    obtain ⟨rfl, _⟩ := expect_eq_ok_iff.mp starred
    obtain ⟨rfl, _⟩ := expect_eq_ok_iff.mp worded
    obtain ⟨rfl, _⟩ := expect_eq_ok_iff.mp bound
    rfl
  · simp only [bind_eq_ok_iff, Prod.exists, Except.ok.injEq, Prod.mk.injEq] at read
    obtain ⟨listing, later, listed, rfl, rfl⟩ := read
    exact Listing.tokens_of_read NamedImport.tokens_of_ofTokens? listed

/-- Bindings and the rest are the tokens that were there. -/
theorem Bindings.tokens_of_read {dialect : Dialect} {tokens rest : List Token}
    {bindings : Bindings} (read : Bindings.read dialect tokens = .ok (bindings, rest)) :
    tokens = bindings.tokens ++ rest := by
  rw [Bindings.read] at read
  split at read
  · simp only [bind_eq_ok_iff, Prod.exists] at read
    obtain ⟨binding, later, bound, read⟩ := read
    obtain ⟨rfl, _⟩ := expect_eq_ok_iff.mp bound
    split at read
    · rename_i comma later' separated
      simp only [bind_eq_ok_iff, Prod.exists, Except.ok.injEq, Prod.mk.injEq] at read
      obtain ⟨members, later'', grouped, rfl, rfl⟩ := read
      obtain ⟨rfl, _⟩ := expect_eq_ok_iff.mp separated
      rw [Group.tokens_of_read grouped]
      rfl
    · simp only [Except.ok.injEq, Prod.mk.injEq] at read
      obtain ⟨rfl, rfl⟩ := read
      rfl
  · simp only [bind_eq_ok_iff, Prod.exists, Except.ok.injEq, Prod.mk.injEq] at read
    obtain ⟨members, later, grouped, rfl, rfl⟩ := read
    exact Group.tokens_of_read grouped

/-- A clause and the rest are the tokens that were there. -/
theorem Clause.tokens_of_read {dialect : Dialect} {tokens rest : List Token} {clause : Clause}
    (read : Clause.read dialect tokens = .ok (clause, rest)) :
    tokens = clause.tokens ++ rest := by
  simp only [Clause.read, bind_eq_ok_iff, Prod.exists, Except.ok.injEq, Prod.mk.injEq] at read
  obtain ⟨bindings, later, bound, fromWord, later', worded, rfl, rfl⟩ := read
  obtain ⟨rfl, _⟩ := expect_eq_ok_iff.mp worded
  have after := Bindings.tokens_of_read bound
  have front (taken : Bool) : tokens = (if taken then tokens.head? else none).toList ++
      tokens.drop (if taken then tokens.head? else none).toList.length := by
    cases taken <;> cases tokens <;> rfl
  have front := front (startsWithModifier dialect tokens)
  rw [after] at front
  simp only [Clause.tokens, List.append_assoc, List.cons_append, List.nil_append]
  exact front

/-- A declaration and the rest are the tokens that were there. -/
theorem Declaration.tokens_of_read {dialect : Dialect} {tokens rest : List Token}
    {declaration : Declaration} (read : Declaration.read dialect tokens = .ok (declaration, rest)) :
    tokens = declaration.tokens ++ rest := by
  simp only [Declaration.read, bind_eq_ok_iff, Prod.exists, Except.ok.injEq, Prod.mk.injEq] at read
  obtain ⟨keyword, later, started, clause, later', claused, source, later'', sourced, attributes,
    later''', attributed, terminator, after, terminated, rfl, rfl⟩ := read
  obtain ⟨rfl, _⟩ := expect_eq_ok_iff.mp started
  have clauseTokens : later = clause.elim [] Clause.tokens ++ later' := by
    rw [readClause] at claused
    split at claused
    · simp only [Except.ok.injEq, Prod.mk.injEq] at claused
      obtain ⟨rfl, rfl⟩ := claused
      rfl
    · simp only [bind_eq_ok_iff, Prod.exists, Except.ok.injEq, Prod.mk.injEq] at claused
      obtain ⟨inner, _, inside, rfl, rfl⟩ := claused
      exact Clause.tokens_of_read inside
  obtain ⟨rfl, _⟩ := expect_eq_ok_iff.mp sourced
  have attributeTokens : later'' = attributes.elim []
      (fun written => written.1 :: written.2.tokens Attribute.tokens) ++ later''' := by
    rw [readAttributes] at attributed
    split at attributed
    · rename_i withWord inner worded
      simp only [bind_eq_ok_iff, Prod.exists, Except.ok.injEq, Prod.mk.injEq] at attributed
      obtain ⟨listing, _, listed, rfl, rfl⟩ := attributed
      obtain ⟨rfl, _⟩ := expect_eq_ok_iff.mp worded
      exact congrArg (withWord :: ·) (Listing.tokens_of_read Attribute.tokens_of_ofTokens? listed)
    · simp only [Except.ok.injEq, Prod.mk.injEq] at attributed
      obtain ⟨rfl, rfl⟩ := attributed
      rfl
  have terminatorTokens : later''' = terminator.toList ++ after := by
    unfold readTerminator at terminated
    split at terminated
    · simp only [Except.ok.injEq, Prod.mk.injEq] at terminated
      obtain ⟨rfl, rfl⟩ := terminated
      rfl
    · split at terminated
      · simp only [Except.ok.injEq, Prod.mk.injEq] at terminated
        obtain ⟨rfl, rfl⟩ := terminated
        rfl
      · split at terminated
        · simp only [Except.ok.injEq, Prod.mk.injEq] at terminated
          obtain ⟨rfl, rfl⟩ := terminated
          rfl
        · cases terminated
  rw [clauseTokens, attributeTokens, terminatorTokens]
  simp only [Declaration.tokens, List.cons_append, List.append_assoc]

/-- Reading a declaration takes at least one token. -/
theorem Declaration.length_lt_of_read {dialect : Dialect} {tokens rest : List Token}
    {declaration : Declaration} (read : Declaration.read dialect tokens = .ok (declaration, rest)) :
    rest.length < tokens.length := by
  rw [Declaration.tokens_of_read read, List.length_append, Declaration.tokens, List.length_cons]
  omega

end ImportBinding
