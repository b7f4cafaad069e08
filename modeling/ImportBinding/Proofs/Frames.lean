/-
This file says which declarations can be read, and shows that reading undoes writing.

A declaration is framed when all of it but its local names is as the grammar wants it: the words,
the marks, the names of exports and the source. Framed tokens are read as the declaration
that they are the tokens of exactly when its local names are identifiers. So reading looks at
the local names in one way only, and a local name can be exchanged for another one.
-/

import ImportBinding.Program
import ImportBinding.Proofs.Outcomes
import Mathlib.Data.List.TakeWhile

namespace ImportBinding

/-! ### Single tokens -/

theorem Token.kind_of_isWord {token : Token} {word : Text} (same : token.isWord word = true) :
    token.kind = .name := by
  simp only [Token.isWord, Bool.and_eq_true, decide_eq_true_eq] at same
  exact same.1

theorem Token.body_of_isWord {token : Token} {word : Text} (same : token.isWord word = true) :
    token.body = word := by
  simp only [Token.isWord, Bool.and_eq_true, decide_eq_true_eq] at same
  exact same.2

theorem Token.isWord_eq_false {token : Token} (other : token.kind ≠ .name) (word : Text) :
    token.isWord word = false := by
  rw [Token.isWord, decide_eq_false other, Bool.false_and]

theorem Token.kind_of_isIdentifier {token : Token} (named : token.isIdentifier = true) :
    token.kind = .name := by
  simp only [Token.isIdentifier, Bool.and_eq_true, decide_eq_true_eq] at named
  exact named.1

theorem Token.isExport_of_isIdentifier {token : Token} (named : token.isIdentifier = true) :
    token.isExport = true := by
  simp only [Token.isExport, named, Bool.true_or]

theorem Token.kind_of_isExport {token : Token} (exported : token.isExport = true) :
    token.kind = .name ∨ token.kind = .literal := by
  simp only [Token.isExport, Bool.or_eq_true, decide_eq_true_eq] at exported
  rcases exported with (identifier | word) | literal
  · exact Or.inl (Token.kind_of_isIdentifier identifier)
  · exact Or.inl (Token.kind_of_isWord word)
  · exact Or.inr literal

theorem Token.kind_of_isModifier {token : Token} {dialect : Dialect}
    (modifies : token.isModifier dialect = true) : token.kind = .name := by
  simp only [Token.isModifier, Bool.and_eq_true, Bool.or_eq_true] at modifies
  exact modifies.2.elim Token.kind_of_isWord Token.kind_of_isWord

/-! ### Steps of a reader -/

theorem expect_cons_of_false {wanted : Token → Bool} {token : Token}
    (wrong : wanted token = false) (rest : List Token) :
    expect wanted (token :: rest) = .error (token :: rest) := by
  rw [expect, wrong, if_neg Bool.false_ne_true]

theorem expect_kind {kind : TokenKind} {token : Token} (same : token.kind = kind)
    (rest : List Token) :
    expect (fun token => token.kind = kind) (token :: rest) = .ok (token, rest) :=
  expect_eq_ok_iff.mpr ⟨rfl, decide_eq_true same⟩

theorem expect_kind_of_ne {kind : TokenKind} {token : Token} (other : token.kind ≠ kind)
    (rest : List Token) :
    expect (fun token => token.kind = kind) (token :: rest) = .error (token :: rest) :=
  expect_cons_of_false (decide_eq_false other) rest

theorem expect_word {word : Text} {token : Token} (same : token.isWord word = true)
    (rest : List Token) :
    expect (fun token => token.isWord word) (token :: rest) = .ok (token, rest) :=
  expect_eq_ok_iff.mpr ⟨rfl, same⟩

/-- A local name is read when it is an identifier. -/
theorem expect_identifier (token : Token) (rest : List Token) :
    (expect Token.isIdentifier (token :: rest)).toOption =
      if token.isIdentifier = true then some (token, rest) else none := by
  rw [expect]
  split <;> rfl

/-! ### Entries -/

namespace NamedImport

/-- The token of the local name. -/
def binding (entry : NamedImport) : Token := entry.asClause.elim entry.imported Prod.snd

/-- A named import that is well-formed but for its local name. -/
structure IsFramed (dialect : Dialect) (entry : NamedImport) : Prop where
  modifier : ∀ token ∈ entry.modifier, token.isModifier dialect = true
  binding : entry.binding.kind = .name
  renamed : ∀ pair ∈ entry.asClause,
    entry.imported.isExport = true ∧ pair.1.isWord (text "as") = true

theorem ofTokens?_tokens {dialect : Dialect} {entry : NamedImport}
    (framed : entry.IsFramed dialect) :
    ofTokens? dialect entry.tokens =
      if entry.binding.isIdentifier = true then some entry else none := by
  match entry, framed with
  | ⟨none, _, none⟩, _ => rfl
  | ⟨some modifier, imported, none⟩, framed =>
    have modifies : modifier.isModifier dialect = true := framed.modifier modifier rfl
    simp only [NamedImport.tokens, NamedImport.binding, Option.toList_some, Option.elim_none,
      List.singleton_append, ofTokens?, modifies, Bool.true_and]
    rfl
  | ⟨none, imported, some (asWord, renamed)⟩, framed =>
    obtain ⟨exported, word⟩ := framed.renamed (asWord, renamed) rfl
    simp only at exported word
    simp only [NamedImport.tokens, NamedImport.binding, Option.toList_none, Option.elim_some,
      List.nil_append, ofTokens?, exported, word, Bool.true_and]
    rfl
  | ⟨some modifier, imported, some (asWord, renamed)⟩, framed =>
    have modifies : modifier.isModifier dialect = true := framed.modifier modifier rfl
    obtain ⟨exported, word⟩ := framed.renamed (asWord, renamed) rfl
    simp only at exported word
    simp only [NamedImport.tokens, NamedImport.binding, Option.toList_some, Option.elim_some,
      List.singleton_append, ofTokens?, modifies, exported, word, Bool.true_and]
    rfl

theorem isFramed_of_ofTokens? {dialect : Dialect} {tokens : List Token} {entry : NamedImport}
    (found : ofTokens? dialect tokens = some entry) :
    entry.IsFramed dialect ∧ entry.binding.isIdentifier = true := by
  revert found
  fun_cases ofTokens? dialect tokens with
  | case1 imported identifier =>
    rintro ⟨⟩
    exact ⟨⟨nofun, Token.kind_of_isIdentifier identifier, nofun⟩, identifier⟩
  | case3 modifier imported both =>
    rintro ⟨⟩
    obtain ⟨modifies, identifier⟩ := Bool.and_eq_true_iff.mp both
    refine ⟨⟨fun token member => ?_, Token.kind_of_isIdentifier identifier, nofun⟩, identifier⟩
    cases member
    exact modifies
  | case5 imported asWord binding all =>
    rintro ⟨⟩
    simp only [Bool.and_eq_true] at all
    obtain ⟨⟨exported, word⟩, identifier⟩ := all
    refine ⟨⟨nofun, Token.kind_of_isIdentifier identifier, fun pair member => ?_⟩, identifier⟩
    cases member
    exact ⟨exported, word⟩
  | case7 modifier imported asWord binding all =>
    rintro ⟨⟩
    simp only [Bool.and_eq_true] at all
    obtain ⟨⟨⟨modifies, exported⟩, word⟩, identifier⟩ := all
    refine ⟨⟨fun token member => ?_, Token.kind_of_isIdentifier identifier,
      fun pair member => ?_⟩, identifier⟩
    · cases member
      exact modifies
    · cases member
      exact ⟨exported, word⟩
  | _ => nofun

/-- The tokens of a named import are no commas and no braces. -/
theorem IsFramed.kind_of_mem {dialect : Dialect} {entry : NamedImport}
    (framed : entry.IsFramed dialect) {token : Token} (member : token ∈ entry.tokens) :
    token.kind = .name ∨ token.kind = .literal := by
  match entry, framed with
  | ⟨modifier, imported, none⟩, framed =>
    simp only [NamedImport.tokens, Option.elim_none, List.mem_append, Option.mem_toList,
      List.mem_singleton] at member
    rcases member with modifies | rfl
    · exact Or.inl (Token.kind_of_isModifier (framed.modifier token modifies))
    · exact Or.inl framed.binding
  | ⟨modifier, imported, some (asWord, renamed)⟩, framed =>
    obtain ⟨exported, word⟩ := framed.renamed (asWord, renamed) rfl
    simp only [NamedImport.tokens, Option.elim_some, List.mem_append, Option.mem_toList,
      List.mem_cons, List.not_mem_nil, or_false] at member
    rcases member with modifies | rfl | rfl | rfl
    · exact Or.inl (Token.kind_of_isModifier (framed.modifier token modifies))
    · exact Token.kind_of_isExport exported
    · exact Or.inl (Token.kind_of_isWord word)
    · exact Or.inl framed.binding

theorem tokens_ne_nil (entry : NamedImport) : entry.tokens ≠ [] :=
  List.append_ne_nil_of_right_ne_nil _ (List.cons_ne_nil _ _)

end NamedImport

namespace Attribute

/-- A well-formed attribute. -/
structure IsWellFormed (pair : Attribute) : Prop where
  key : pair.key.kind = .name ∨ pair.key.kind = .literal
  colon : pair.colon.kind = .colon
  value : pair.value.kind = .literal

theorem ofTokens?_tokens {pair : Attribute} (formed : pair.IsWellFormed) :
    ofTokens? pair.tokens = some pair := by
  have keyed : (decide (pair.key.kind = .name) || decide (pair.key.kind = .literal)) = true := by
    simpa using formed.key
  simp only [Attribute.tokens, ofTokens?, keyed, formed.colon, formed.value, decide_true,
    Bool.and_self, if_true]

theorem isWellFormed_of_ofTokens? {tokens : List Token} {pair : Attribute}
    (found : ofTokens? tokens = some pair) : pair.IsWellFormed := by
  revert found
  fun_cases ofTokens? tokens with
  | case1 key colon value all =>
    rintro ⟨⟩
    simp only [Bool.and_eq_true, Bool.or_eq_true, decide_eq_true_eq] at all
    exact ⟨all.1.1, all.1.2, all.2⟩
  | _ => nofun

theorem IsWellFormed.kind_of_mem {pair : Attribute} (formed : pair.IsWellFormed) {token : Token}
    (member : token ∈ pair.tokens) :
    token.kind = .name ∨ token.kind = .literal ∨ token.kind = .colon := by
  simp only [Attribute.tokens, List.mem_cons, List.not_mem_nil, or_false] at member
  rcases member with rfl | rfl | rfl
  · exact formed.key.imp_right Or.inl
  · exact Or.inr (Or.inr formed.colon)
  · exact Or.inr (Or.inl formed.value)

end Attribute

/-! ### Lists in braces -/

section Listing

variable {Entry : Type} {ofTokens? : List Token → Option Entry} {entryTokens : Entry → List Token}
  {fits : Entry → Prop} {accepts : Entry → Bool}

namespace Listing

/-- The entries of a list. -/
def entries (listing : Listing Entry) : List Entry :=
  listing.ended.map Prod.fst ++ listing.final.toList

/-- The tokens between the braces of a list. -/
def inside (entryTokens : Entry → List Token) (ended : List (Entry × Token))
    (final : Option Entry) : List Token :=
  ended.flatMap (fun (entry, comma) => entryTokens entry ++ [comma]) ++ final.elim [] entryTokens

theorem tokens_eq_inside (entryTokens : Entry → List Token) (listing : Listing Entry) :
    listing.tokens entryTokens =
      listing.opening :: (inside entryTokens listing.ended listing.final ++ [listing.closing]) := by
  rw [Listing.tokens, inside, List.append_assoc]

/-- A list whose braces and commas are in place and whose entries all fit. -/
structure IsFramed (fits : Entry → Prop) (listing : Listing Entry) : Prop where
  opening : listing.opening.kind = .openBrace
  closing : listing.closing.kind = .closeBrace
  commas : ∀ pair ∈ listing.ended, pair.2.kind = .comma
  entries : ∀ entry ∈ listing.entries, fits entry

end Listing

/-- Cutting at the first token of a kind takes the tokens of other kinds in front of it. -/
theorem cut_at_kind {kind : TokenKind} {front : List Token} {mark : Token}
    (plain : ∀ token ∈ front, token.kind ≠ kind) (marks : mark.kind = kind) (rest : List Token) :
    (front ++ mark :: rest).takeWhile (fun token => token.kind ≠ kind) = front ∧
      (front ++ mark :: rest).dropWhile (fun token => token.kind ≠ kind) = mark :: rest := by
  have every : ∀ token ∈ front, (fun token : Token => decide (token.kind ≠ kind)) token = true :=
    fun token member => decide_eq_true (plain token member)
  rw [List.takeWhile_append_of_pos every, List.dropWhile_append_of_pos every]
  simp [marks]

/-- What is cut off in front has no token of the kind that is cut at. -/
theorem kind_of_mem_dropWhile {kind : TokenKind} {tokens later : List Token} {mark : Token}
    (rest : tokens.dropWhile (fun token => token.kind ≠ kind) = mark :: later) :
    mark.kind = kind := by
  have head := List.head?_dropWhile_not (fun token : Token => decide (token.kind ≠ kind)) tokens
  rw [rest] at head
  simpa using head

/-- Entries and commas are read as what they are the tokens of when every entry is accepted, and
not at all otherwise. -/
theorem readEntries_tokens
    (plain : ∀ entry, fits entry →
      entryTokens entry ≠ [] ∧ ∀ token ∈ entryTokens entry, token.kind ≠ .comma)
    (reads : ∀ entry, fits entry →
      ofTokens? (entryTokens entry) = if accepts entry = true then some entry else none)
    {ended : List (Entry × Token)} {final : Option Entry}
    (commas : ∀ pair ∈ ended, pair.2.kind = .comma)
    (entries : ∀ entry ∈ ended.map Prod.fst ++ final.toList, fits entry) :
    (readEntries ofTokens? (Listing.inside entryTokens ended final)).toOption =
      if (ended.map Prod.fst ++ final.toList).all accepts = true then some (ended, final)
      else none := by
  induction ended with
  | nil =>
    rw [Listing.inside, List.flatMap_nil, List.nil_append, List.map_nil, List.nil_append]
    cases final with
    | none =>
      rw [readEntries]
      rfl
    | some entry =>
      have fit := entries entry (List.mem_append_right _ (Option.mem_toList.mpr rfl))
      obtain ⟨nonempty, noComma⟩ := plain entry fit
      have every : ∀ token ∈ entryTokens entry,
          (fun token : Token => decide (token.kind ≠ .comma)) token = true :=
        fun token member => decide_eq_true (noComma token member)
      rw [Option.elim_some, readEntries]
      simp only [List.takeWhile_eq_self_iff.mpr every, Option.toList_some, List.all_cons,
        List.all_nil, Bool.and_true]
      split
      · rw [if_neg nonempty, reads entry fit]
        cases accepts entry <;> rfl
      · rename_i comma later split_
        rw [List.dropWhile_eq_nil_iff.mpr every] at split_
        cases split_
  | cons pair ended inductionHypothesis =>
    obtain ⟨entry, comma⟩ := pair
    have fit := entries entry (List.mem_append_left _ List.mem_cons_self)
    obtain ⟨-, noComma⟩ := plain entry fit
    have later := inductionHypothesis
      (fun other member => commas other (List.mem_cons_of_mem _ member))
      (fun other member => entries other (by
        rw [List.map_cons, List.cons_append]
        exact List.mem_cons_of_mem entry member))
    have cut := cut_at_kind noComma (commas (entry, comma) List.mem_cons_self)
    have front : Listing.inside entryTokens ((entry, comma) :: ended) final =
        entryTokens entry ++ comma :: Listing.inside entryTokens ended final := by
      simp only [Listing.inside, List.flatMap_cons, List.append_assoc, List.cons_append,
        List.nil_append]
    rw [front, readEntries, List.map_cons, List.cons_append, List.all_cons]
    split
    · rename_i split_
      rw [(cut _).2] at split_
      cases split_
    · rename_i comma' rest split_
      rw [(cut _).2] at split_
      cases split_
      rw [(cut _).1, reads entry fit]
      cases accepts entry with
      | false => rfl
      | true =>
        rw [Bool.true_and, if_pos rfl]
        rcases cases_of_toOption_eq_ite later with ⟨accepted, inner⟩ | ⟨rejected, stuck, inner⟩
        · rw [inner, if_pos accepted]
          rfl
        · rw [inner, if_neg rejected]
          rfl

/-- Entries that were read fit, and commas stand between them. -/
theorem fits_of_readEntries
    (found : ∀ tokens entry, ofTokens? tokens = some entry → fits entry ∧ accepts entry = true)
    {tokens : List Token} {ended : List (Entry × Token)} {final : Option Entry}
    (read : readEntries ofTokens? tokens = .ok (ended, final)) :
    (∀ pair ∈ ended, pair.2.kind = .comma) ∧
      ∀ entry ∈ ended.map Prod.fst ++ final.toList, fits entry ∧ accepts entry = true := by
  fun_induction readEntries ofTokens? tokens generalizing ended final with
  | case1 =>
    cases read
    exact ⟨List.forall_mem_nil _, List.forall_mem_nil _⟩
  | case2 tokens piece rest _ entry =>
    rename_i last
    cases read
    refine ⟨List.forall_mem_nil _, fun other member => ?_⟩
    rw [List.map_nil, List.nil_append, Option.toList_some, List.mem_singleton] at member
    rw [member]
    exact found _ _ last
  | case3 => cases read
  | case4 => cases read
  | case5 tokens piece comma later rest entry first _ _ inner =>
    rename_i inductionHypothesis
    cases read
    obtain ⟨commas, entries⟩ := inductionHypothesis inner
    refine ⟨fun pair member => ?_, fun other member => ?_⟩
    · rcases List.mem_cons.mp member with rfl | member
      · exact kind_of_mem_dropWhile rest
      · exact commas pair member
    · rw [List.map_cons, List.cons_append, List.mem_cons] at member
      rcases member with rfl | member
      · exact found _ _ first
      · exact entries other member
  | case6 => cases read

namespace Listing

/-- A list in braces is read as what it is the tokens of when every entry is accepted, and not at
all otherwise. -/
theorem read_tokens
    (plain : ∀ entry, fits entry → entryTokens entry ≠ [] ∧
      ∀ token ∈ entryTokens entry, token.kind ≠ .comma ∧ token.kind ≠ .closeBrace)
    (reads : ∀ entry, fits entry →
      ofTokens? (entryTokens entry) = if accepts entry = true then some entry else none)
    {listing : Listing Entry} (framed : listing.IsFramed fits) (rest : List Token) :
    (Listing.read ofTokens? (listing.tokens entryTokens ++ rest)).toOption =
      if listing.entries.all accepts = true then some (listing, rest) else none := by
  have inner : ∀ token ∈ inside entryTokens listing.ended listing.final,
      token.kind ≠ .closeBrace := by
    intro token member
    rcases List.mem_append.mp member with inEnded | inFinal
    · obtain ⟨⟨entry, comma⟩, listed, member⟩ := List.mem_flatMap.mp inEnded
      rcases List.mem_append.mp member with inEntry | isComma
      · have fit := framed.entries entry
          (List.mem_append_left _ (List.mem_map.mpr ⟨(entry, comma), listed, rfl⟩))
        exact ((plain entry fit).2 token inEntry).2
      · rw [List.mem_singleton.mp isComma, framed.commas (entry, comma) listed]
        decide
    · cases last : listing.final with
      | none =>
        rw [last] at inFinal
        cases inFinal
      | some entry =>
        rw [last] at inFinal
        have fit := framed.entries entry (List.mem_append_right _ (Option.mem_toList.mpr last))
        exact ((plain entry fit).2 token inFinal).2
  have read := readEntries_tokens
    (fun entry fit =>
      ⟨(plain entry fit).1, fun token member => ((plain entry fit).2 token member).1⟩)
    reads framed.commas framed.entries
  have cut := cut_at_kind inner framed.closing rest
  rw [tokens_eq_inside, List.cons_append, List.append_assoc, List.singleton_append]
  simp only [Listing.read, expect_kind framed.opening, ok_bind, cut.1, cut.2,
    expect_kind framed.closing]
  rw [Listing.entries]
  rcases cases_of_toOption_eq_ite read with ⟨accepted, inner⟩ | ⟨rejected, stuck, inner⟩
  · rw [inner, if_pos accepted]
    rfl
  · rw [inner, if_neg rejected]
    rfl

/-- The tokens of a list that was read are in place, and its entries are those that fit. -/
theorem isFramed_of_read
    (found : ∀ tokens entry, ofTokens? tokens = some entry → fits entry ∧ accepts entry = true)
    {tokens rest : List Token} {listing : Listing Entry}
    (read : Listing.read ofTokens? tokens = .ok (listing, rest)) :
    listing.IsFramed fits ∧ listing.entries.all accepts = true := by
  simp only [Listing.read, bind_eq_ok_iff, Prod.exists] at read
  obtain ⟨opening, inner, opened, closing, after, closed, read⟩ := read
  obtain ⟨-, opens⟩ := expect_eq_ok_iff.mp opened
  obtain ⟨-, closes⟩ := expect_eq_ok_iff.mp closed
  split at read
  · rename_i ended final between
    cases read
    obtain ⟨commas, entries⟩ := fits_of_readEntries found between
    refine ⟨⟨of_decide_eq_true opens, of_decide_eq_true closes, commas,
      fun entry member => (entries entry member).1⟩, ?_⟩
    exact List.all_eq_true.mpr fun entry member => (entries entry member).2
  · cases read

end Listing

end Listing

/-! ### Groups and bindings -/

namespace Group

/-- The tokens of the local names of a group. -/
def bindings : Group → List Token
  | .star _ _ binding => [binding]
  | .named listing => listing.entries.map NamedImport.binding

/-- A group that is well-formed but for its local names. -/
def IsFramed (dialect : Dialect) : Group → Prop
  | .star mark asWord binding =>
    mark.kind = .star ∧ asWord.isWord (text "as") = true ∧ binding.kind = .name
  | .named listing => listing.IsFramed (NamedImport.IsFramed dialect)

theorem read_tokens {dialect : Dialect} {members : Group} (framed : members.IsFramed dialect)
    (rest : List Token) :
    (Group.read dialect (members.tokens ++ rest)).toOption =
      if members.bindings.all Token.isIdentifier = true then some (members, rest) else none := by
  cases members with
  | star mark asWord binding =>
    obtain ⟨marks, word, -⟩ := framed
    simp only [Group.tokens, List.cons_append, List.nil_append, Group.read, expect_kind marks,
      expect_word word, ok_bind, toOption_bind, expect_identifier, Group.bindings, List.all_cons,
      List.all_nil, Bool.and_true]
    split <;> rfl
  | named listing =>
    have read := Listing.read_tokens
      (fun entry fit => ⟨NamedImport.tokens_ne_nil entry, fun token member => by
        rcases NamedImport.IsFramed.kind_of_mem fit member with kind | kind <;>
          rw [kind] <;> decide⟩)
      (fun entry fit => NamedImport.ofTokens?_tokens fit) framed rest
    have opening : listing.opening.kind ≠ .star := by
      rw [framed.opening]
      decide
    have notStarred : expect (fun token => token.kind = .star)
        (listing.tokens NamedImport.tokens ++ rest) =
          .error (listing.tokens NamedImport.tokens ++ rest) := by
      rw [Listing.tokens_eq_inside, List.cons_append]
      exact expect_kind_of_ne opening _
    simp only [Group.tokens, Group.read, notStarred, toOption_bind, read, Group.bindings,
      List.all_map, Function.comp_def]
    split <;> rfl

theorem isFramed_of_read {dialect : Dialect} {tokens rest : List Token} {members : Group}
    (read : Group.read dialect tokens = .ok (members, rest)) :
    members.IsFramed dialect ∧ members.bindings.all Token.isIdentifier = true := by
  rw [Group.read] at read
  split at read
  · rename_i mark later starred
    simp only [bind_eq_ok_iff, Prod.exists, Except.ok.injEq, Prod.mk.injEq] at read
    obtain ⟨asWord, later', worded, binding, later'', bound, rfl, rfl⟩ := read
    obtain ⟨-, marks⟩ := expect_eq_ok_iff.mp starred
    obtain ⟨-, word⟩ := expect_eq_ok_iff.mp worded
    obtain ⟨-, identifier⟩ := expect_eq_ok_iff.mp bound
    refine ⟨⟨of_decide_eq_true marks, word, Token.kind_of_isIdentifier identifier⟩, ?_⟩
    rw [Group.bindings, List.all_cons, identifier]
    rfl
  · simp only [bind_eq_ok_iff, Prod.exists, Except.ok.injEq, Prod.mk.injEq] at read
    obtain ⟨listing, later, listed, rfl, rfl⟩ := read
    obtain ⟨framed, accepted⟩ := Listing.isFramed_of_read
      (fun tokens entry found => NamedImport.isFramed_of_ofTokens? found) listed
    refine ⟨framed, ?_⟩
    rw [Group.bindings, List.all_map]
    exact accepted

/-- A group does not start with a name. -/
theorem IsFramed.head {dialect : Dialect} {members : Group} (framed : members.IsFramed dialect) :
    ∃ first later, members.tokens = first :: later ∧
      (first.kind = .star ∨ first.kind = .openBrace) := by
  cases members with
  | star mark asWord binding => exact ⟨mark, _, rfl, Or.inl framed.1⟩
  | named listing => exact ⟨listing.opening, _, rfl, Or.inr framed.opening⟩

end Group

namespace Bindings

/-- The tokens of the local names of bindings. -/
def bindings : Bindings → List Token
  | .single binding => [binding]
  | .both binding _ members => binding :: members.bindings
  | .group members => members.bindings

/-- Bindings that are well-formed but for their local names. -/
def IsFramed (dialect : Dialect) : Bindings → Prop
  | .single binding => binding.kind = .name
  | .both binding comma members =>
    binding.kind = .name ∧ comma.kind = .comma ∧ members.IsFramed dialect
  | .group members => members.IsFramed dialect

theorem read_tokens {dialect : Dialect} {bindings : Bindings} (framed : bindings.IsFramed dialect)
    {fromWord : Token} (word : fromWord.isWord (text "from") = true) (rest : List Token) :
    (Bindings.read dialect (bindings.tokens ++ fromWord :: rest)).toOption =
      if bindings.bindings.all Token.isIdentifier = true then some (bindings, fromWord :: rest)
      else none := by
  cases bindings with
  | single binding =>
    have named : binding.kind = .name := framed
    have notComma : fromWord.kind ≠ .comma := by
      rw [Token.kind_of_isWord word]
      decide
    simp only [Bindings.tokens, List.cons_append, List.nil_append, Bindings.read,
      expect_kind named, toOption_bind, expect_identifier, Bindings.bindings, List.all_cons,
      List.all_nil, Bool.and_true]
    split
    · simp only [Option.bind_some, expect_kind_of_ne notComma]
      rfl
    · rfl
  | both binding comma members =>
    obtain ⟨named, separates, grouped⟩ := framed
    simp only [Bindings.tokens, List.cons_append, Bindings.read, expect_kind named, toOption_bind,
      expect_identifier, Bindings.bindings, List.all_cons]
    by_cases identifier : binding.isIdentifier = true
    · rw [if_pos identifier, Option.bind_some]
      simp only [identifier, expect_kind separates, toOption_bind, Group.read_tokens grouped,
        Bool.true_and]
      split <;> rfl
    · rw [if_neg identifier, Option.bind_none]
      exact (if_neg fun both => identifier (Bool.and_eq_true_iff.mp both).1).symm
  | group members =>
    obtain ⟨first, later, front, kind⟩ := Group.IsFramed.head framed
    have notNamed : expect (fun token => token.kind = .name)
        (members.tokens ++ fromWord :: rest) = .error (members.tokens ++ fromWord :: rest) := by
      rw [front, List.cons_append]
      refine expect_kind_of_ne ?_ _
      rcases kind with kind | kind <;> rw [kind] <;> decide
    simp only [Bindings.tokens, Bindings.read, notNamed, toOption_bind,
      Group.read_tokens framed]
    split
    · rename_i accepted
      exact (if_pos accepted).symm
    · rename_i rejected
      exact (if_neg rejected).symm

theorem isFramed_of_read {dialect : Dialect} {tokens rest : List Token} {bindings : Bindings}
    (read : Bindings.read dialect tokens = .ok (bindings, rest)) :
    bindings.IsFramed dialect ∧ bindings.bindings.all Token.isIdentifier = true := by
  rw [Bindings.read] at read
  split at read
  · simp only [bind_eq_ok_iff, Prod.exists] at read
    obtain ⟨binding, later, bound, read⟩ := read
    obtain ⟨-, identifier⟩ := expect_eq_ok_iff.mp bound
    split at read
    · rename_i comma later' separated
      simp only [bind_eq_ok_iff, Prod.exists, Except.ok.injEq, Prod.mk.injEq] at read
      obtain ⟨members, later'', grouped, rfl, rfl⟩ := read
      obtain ⟨-, separates⟩ := expect_eq_ok_iff.mp separated
      obtain ⟨framed, accepted⟩ := Group.isFramed_of_read grouped
      refine ⟨⟨Token.kind_of_isIdentifier identifier, of_decide_eq_true separates, framed⟩, ?_⟩
      rw [Bindings.bindings, List.all_cons, identifier, accepted]
      rfl
    · simp only [Except.ok.injEq, Prod.mk.injEq] at read
      obtain ⟨rfl, rfl⟩ := read
      refine ⟨Token.kind_of_isIdentifier identifier, ?_⟩
      rw [Bindings.bindings, List.all_cons, identifier]
      rfl
  · simp only [bind_eq_ok_iff, Prod.exists, Except.ok.injEq, Prod.mk.injEq] at read
    obtain ⟨members, later, grouped, rfl, rfl⟩ := read
    exact Group.isFramed_of_read grouped

end Bindings

/-! ### Clauses -/

namespace Clause

/-- Whether a clause has a modifier in front of a default binding that a comma follows. -/
def ModifiesPair (clause : Clause) : Prop :=
  clause.modifier.isSome = true ∧
    ∃ binding comma members, clause.bindings = .both binding comma members

/-- A clause that is well-formed but for its local names. A word that a modifier stands in front
of must not be taken for the end of the clause. -/
structure IsFramed (dialect : Dialect) (clause : Clause) : Prop where
  modifier : ∀ token ∈ clause.modifier, token.isModifier dialect = true
  bindings : clause.bindings.IsFramed dialect
  fromWord : clause.fromWord.isWord (text "from") = true
  pair : clause.ModifiesPair →
    ∀ token ∈ clause.bindings.bindings.head?, token.isWord (text "from") = false

/-- The first token of a framed clause is its modifier, or no modifier at all. -/
theorem startsWithModifier_tokens {dialect : Dialect} {clause : Clause}
    (framed : clause.IsFramed dialect) {source : Token} (literal : source.kind = .literal)
    (rest : List Token) :
    startsWithModifier dialect (clause.tokens ++ source :: rest) = clause.modifier.isSome := by
  have notFrom : source.isWord (text "from") = false :=
    Token.isWord_eq_false (by rw [literal]; decide) _
  obtain ⟨modifier, bindings, fromWord⟩ := clause
  have word : fromWord.isWord (text "from") = true := framed.fromWord
  cases modifier with
  | none =>
    cases bindings with
    | single binding =>
      simp [Clause.tokens, Bindings.tokens, startsWithModifier, Token.kind_of_isWord word, word,
        notFrom]
    | both binding comma members =>
      have separates : comma.kind = .comma := framed.bindings.2.1
      simp [Clause.tokens, Bindings.tokens, startsWithModifier, separates]
    | group members =>
      obtain ⟨first, later, front, kind⟩ := Group.IsFramed.head framed.bindings
      have plain : first.isModifier dialect = false := by
        rw [Bool.eq_false_iff]
        intro modifies
        rw [Token.kind_of_isModifier modifies] at kind
        rcases kind with kind | kind <;> cases kind
      cases later <;> simp [Clause.tokens, Bindings.tokens, front, startsWithModifier, plain]
  | some modifier =>
    have modifies : modifier.isModifier dialect = true := framed.modifier modifier rfl
    cases bindings with
    | single binding =>
      have named : binding.kind = .name := framed.bindings
      simp [Clause.tokens, Bindings.tokens, startsWithModifier, modifies, named, word]
    | both binding comma members =>
      have named : binding.kind = .name := framed.bindings.1
      have other : binding.isWord (text "from") = false :=
        framed.pair ⟨rfl, _, _, _, rfl⟩ binding rfl
      simp [Clause.tokens, Bindings.tokens, startsWithModifier, modifies, named, other]
    | group members =>
      obtain ⟨first, later, front, kind⟩ := Group.IsFramed.head framed.bindings
      rcases kind with kind | kind <;>
        simp [Clause.tokens, Bindings.tokens, front, startsWithModifier, modifies, kind]

/-- The word `from` in front of a comma is no binding that a modifier can stand in front of. -/
theorem startsWithModifier_of_comma (dialect : Dialect) (modifier : Token) {next comma : Token}
    (word : next.isWord (text "from") = true) (separates : comma.kind = .comma)
    (later : List Token) :
    startsWithModifier dialect (modifier :: next :: comma :: later) = false := by
  have notFrom : comma.isWord (text "from") = false :=
    Token.isWord_eq_false (by rw [separates]; decide) _
  simp [startsWithModifier, Token.kind_of_isWord word, word, notFrom]

theorem read_tokens {dialect : Dialect} {clause : Clause} (framed : clause.IsFramed dialect)
    {source : Token} (literal : source.kind = .literal) (rest : List Token) :
    (Clause.read dialect (clause.tokens ++ source :: rest)).toOption =
      if clause.bindings.bindings.all Token.isIdentifier = true then
        some (clause, source :: rest)
      else none := by
  have starts := startsWithModifier_tokens framed literal rest
  have front : (if clause.modifier.isSome = true then (clause.tokens ++ source :: rest).head?
      else none) = clause.modifier := by
    cases modifier : clause.modifier <;> simp [Clause.tokens, modifier]
  have behind : (clause.tokens ++ source :: rest).drop clause.modifier.toList.length =
      clause.bindings.tokens ++ clause.fromWord :: source :: rest := by
    rw [Clause.tokens, List.append_assoc, List.drop_left, List.append_assoc]
    rfl
  simp only [Clause.read, starts, front, behind, toOption_bind,
    Bindings.read_tokens framed.bindings framed.fromWord]
  split
  · simp only [Option.bind_some, expect_word framed.fromWord]
    rfl
  · rfl

theorem isModifier_of_startsWithModifier {dialect : Dialect} {tokens : List Token}
    (starts : startsWithModifier dialect tokens = true) {first : Token}
    (taken : tokens.head? = some first) : first.isModifier dialect = true := by
  match tokens, starts with
  | modifier :: next :: rest, starts =>
    cases taken
    rw [startsWithModifier, Bool.and_eq_true] at starts
    exact starts.1

theorem isFramed_of_read {dialect : Dialect} {tokens rest : List Token} {clause : Clause}
    (read : Clause.read dialect tokens = .ok (clause, rest)) :
    clause.IsFramed dialect ∧ clause.bindings.bindings.all Token.isIdentifier = true := by
  have whole := Clause.tokens_of_read read
  simp only [Clause.read, bind_eq_ok_iff, Prod.exists, Except.ok.injEq, Prod.mk.injEq] at read
  obtain ⟨bindings, later, bound, fromWord, later', worded, rfl, rfl⟩ := read
  obtain ⟨framed, accepted⟩ := Bindings.isFramed_of_read bound
  obtain ⟨-, word⟩ := expect_eq_ok_iff.mp worded
  refine ⟨⟨fun token taken => ?_, framed, word, fun paired token first => ?_⟩, accepted⟩
  · simp only at taken
    split at taken
    · rename_i starts
      exact isModifier_of_startsWithModifier starts taken
    · cases taken
  · obtain ⟨modified, binding, comma, members, both⟩ := paired
    simp only at modified both first
    subst both
    cases first
    split at modified
    · rename_i starts
      have opens := starts
      rw [whole] at opens
      obtain ⟨named, separates, -⟩ := framed
      cases head : tokens.head? with
      | none =>
        rw [head] at modified
        cases modified
      | some modifier =>
        have front : startsWithModifier dialect
            (modifier :: token :: comma :: (members.tokens ++ fromWord :: later')) = true := by
          simpa [Clause.tokens, Bindings.tokens, head, starts] using opens
        simpa [startsWithModifier, named, Token.isWord, separates] using
          (Bool.and_eq_true_iff.mp front).2
    · cases modified

/-- A clause does not start with a literal. -/
theorem IsFramed.head {dialect : Dialect} {clause : Clause} (framed : clause.IsFramed dialect) :
    ∃ first later, clause.tokens = first :: later ∧ first.kind ≠ .literal := by
  obtain ⟨modifier, bindings, fromWord⟩ := clause
  cases modifier with
  | some modifier =>
    refine ⟨modifier, _, rfl, ?_⟩
    rw [Token.kind_of_isModifier (framed.modifier modifier rfl)]
    decide
  | none =>
    cases bindings with
    | single binding =>
      have named : binding.kind = .name := framed.bindings
      refine ⟨binding, _, rfl, ?_⟩
      rw [named]
      decide
    | both binding comma members =>
      have named : binding.kind = .name := framed.bindings.1
      refine ⟨binding, _, rfl, ?_⟩
      rw [named]
      decide
    | group members =>
      obtain ⟨first, later, front, kind⟩ := Group.IsFramed.head framed.bindings
      refine ⟨first, later ++ [fromWord], ?_, ?_⟩
      · rw [Clause.tokens, Bindings.tokens, front]
        rfl
      · rcases kind with kind | kind <;> rw [kind] <;> decide

end Clause

end ImportBinding
