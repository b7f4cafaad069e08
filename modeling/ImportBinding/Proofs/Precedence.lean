/-
This file says which fault of a declaration is told when there are several.

The literals that name exports come first, then the local names, then the literal of the source, and
the number of bindings last. Within a list the first fault in the order of the text is told. What
follows the first declaration of a text has no say.
-/

import ImportBinding.Proofs.Refusing

namespace ImportBinding

/-! ### Where local names stand -/

/-- The local name of a named import whose tokens start at a place. -/
def NamedImport.localName (offset : Nat) (entry : NamedImport) : Identifier :=
  let start := offset + Tokens.width entry.modifier.toList
  match entry.asClause with
  | none => entry.imported.identifier start
  | some (asWord, binding) => binding.identifier (start + entry.imported.width + asWord.width)

/-- The local names of a group. -/
def Group.localNames (offset : Nat) : Group → List Identifier
  | .star mark asWord binding => [binding.identifier (offset + mark.width + asWord.width)]
  | .named listing =>
    (placeEntries NamedImport.tokens listing.final (offset + listing.opening.width)
      listing.ended).map fun (start, entry) => entry.localName start

/-- The local names of bindings. -/
def Bindings.localNames (offset : Nat) : Bindings → List Identifier
  | .single binding => [binding.identifier offset]
  | .both binding comma members =>
    binding.identifier offset :: members.localNames (offset + binding.width + comma.width)
  | .group members => members.localNames offset

/-- The local names of a declaration whose tokens start at a place, in the order of the text. -/
def Declaration.localNames (offset : Nat) (declaration : Declaration) : List Identifier :=
  declaration.clause.elim [] fun clause => clause.bindings.localNames
    (offset + declaration.keyword.width + Tokens.width clause.modifier.toList)

theorem NamedImport.binding_of_specifier {dialect : Dialect} {entry : NamedImport} {offset : Nat}
    {specifier : Specifier} (framed : entry.IsFramed dialect)
    (read : entry.specifier offset = .ok specifier) :
    specifier.binding = entry.localName offset := by
  obtain ⟨modifier, imported, asClause⟩ := entry
  cases asClause with
  | none =>
    have named : imported.kind = .name := framed.binding
    rw [NamedImport.specifier, Token.exportName_of_name named, ok_bind] at read
    cases read
    rfl
  | some pair =>
    obtain ⟨name, -, same⟩ := bind_eq_ok_iff.mp read
    cases same
    rfl

theorem Group.bindings_of_specifiers {dialect : Dialect} {members : Group} {offset : Nat}
    {specifiers : List Specifier} (framed : members.IsFramed dialect)
    (read : members.specifiers offset = .ok specifiers) :
    specifiers.map Specifier.binding = members.localNames offset := by
  cases members with
  | star mark asWord binding =>
    cases read
    rfl
  | named listing =>
    have entries := map_snd_placeEntries NamedImport.tokens listing.final
      (offset + listing.opening.width) listing.ended
    refine map_eq_of_mapM_eq_ok (fun pair member specifier specified => ?_) read
    refine NamedImport.binding_of_specifier (framed.entries pair.2 ?_) specified
    rw [Listing.entries, ← entries]
    exact List.mem_map_of_mem member

/-- The specifiers of a declaration have its local names. -/
theorem Declaration.bindings_of_specifiers {dialect : Dialect} {declaration : Declaration}
    {offset : Nat} {specifiers : List Specifier} (framed : declaration.IsFramed dialect)
    (read : declaration.specifiers offset = .ok specifiers) :
    specifiers.map Specifier.binding = declaration.localNames offset := by
  obtain ⟨keyword, clause, source, attributes, terminator⟩ := declaration
  cases clause with
  | none =>
    cases read
    rfl
  | some clause =>
    obtain ⟨modifier, bindings, fromWord⟩ := clause
    have inner := (framed.clause _ rfl).bindings
    cases bindings with
    | single binding =>
      cases read
      rfl
    | both binding comma members =>
      obtain ⟨others, grouped, same⟩ := bind_eq_ok_iff.mp read
      cases same
      exact congrArg (_ :: ·) (Group.bindings_of_specifiers inner.2.2 grouped)
    | group members => exact Group.bindings_of_specifiers inner read

/-! ### Local names among tokens -/

/-- A name stands among some tokens, which start at a place, when one of them writes it there. -/
def Identifier.StandsIn (offset : Nat) (tokens : List Token) (name : Identifier) : Prop :=
  ∃ front token back, tokens = front ++ token :: back ∧
    name = token.identifier (offset + Tokens.width front)

namespace Identifier.StandsIn

variable {offset : Nat} {tokens : List Token} {name : Identifier}

theorem behind (front : List Token) (stands : name.StandsIn (offset + Tokens.width front) tokens) :
    name.StandsIn offset (front ++ tokens) := by
  obtain ⟨before, token, back, rfl, rfl⟩ := stands
  refine ⟨front ++ before, token, back, (List.append_assoc _ _ _).symm, ?_⟩
  rw [Tokens.width_append, Nat.add_assoc]

theorem after (first : Token) (stands : name.StandsIn (offset + first.width) tokens) :
    name.StandsIn offset (first :: tokens) := stands.behind [first]

theorem inFrontOf (stands : name.StandsIn offset tokens) (back : List Token) :
    name.StandsIn offset (tokens ++ back) := by
  obtain ⟨front, token, behind, rfl, rfl⟩ := stands
  exact ⟨front, token, behind ++ back, List.append_assoc _ _ _, rfl⟩

theorem here (token : Token) (later : List Token) :
    (token.identifier offset).StandsIn offset (token :: later) :=
  ⟨[], token, later, rfl, rfl⟩

end Identifier.StandsIn

theorem NamedImport.standsIn_localName (entry : NamedImport) (offset : Nat) :
    (entry.localName offset).StandsIn offset entry.tokens := by
  obtain ⟨modifier, imported, asClause⟩ := entry
  refine .behind modifier.toList ?_
  cases asClause with
  | none => exact .here imported []
  | some pair =>
    obtain ⟨asWord, binding⟩ := pair
    exact .after imported (.after asWord (.here binding []))

/-- What stands in an entry of a list at its place stands among the tokens of all entries. -/
theorem standsIn_of_mem_placeEntries {Entry : Type} {entryTokens : Entry → List Token}
    {final : Option Entry} {offset : Nat} {ended : List (Entry × Token)} {pair : Nat × Entry}
    {name : Identifier} (member : pair ∈ placeEntries entryTokens final offset ended)
    (stands : name.StandsIn pair.1 (entryTokens pair.2)) :
    name.StandsIn offset (ended.flatMap (fun (entry, comma) => entryTokens entry ++ [comma]) ++
      final.elim [] entryTokens) := by
  induction ended generalizing offset with
  | nil =>
    obtain ⟨entry, last, rfl⟩ := List.mem_map.mp member
    rw [Option.mem_toList.mp last]
    exact stands
  | cons first ended inductionHypothesis =>
    obtain ⟨entry, comma⟩ := first
    rw [List.flatMap_cons, List.append_assoc]
    rcases List.mem_cons.mp member with rfl | later
    · exact (stands.inFrontOf [comma]).inFrontOf _
    · refine .behind (entryTokens entry ++ [comma]) (inductionHypothesis ?_)
      rw [Tokens.width_append, ← Nat.add_assoc]
      exact later

theorem Group.standsIn_of_mem_localNames {members : Group} {offset : Nat} {name : Identifier}
    (member : name ∈ members.localNames offset) : name.StandsIn offset members.tokens := by
  cases members with
  | star mark asWord binding =>
    obtain rfl := List.mem_singleton.mp member
    exact .after mark (.after asWord (.here binding []))
  | named listing =>
    obtain ⟨⟨start, entry⟩, placed, rfl⟩ := List.mem_map.mp member
    have inside := standsIn_of_mem_placeEntries placed (entry.standsIn_localName start)
    rw [Group.tokens, Listing.tokens, ← List.append_assoc]
    exact .after listing.opening (inside.inFrontOf [listing.closing])

/-- Every local name of a declaration is written at its place. -/
theorem Declaration.standsIn_of_mem_localNames {declaration : Declaration} {offset : Nat}
    {name : Identifier} (member : name ∈ declaration.localNames offset) :
    name.StandsIn offset declaration.tokens := by
  obtain ⟨keyword, clause, source, attributes, terminator⟩ := declaration
  cases clause with
  | none => cases member
  | some clause =>
    obtain ⟨modifier, bindings, fromWord⟩ := clause
    refine .after keyword (.inFrontOf (.behind modifier.toList (.inFrontOf ?_ [fromWord])) _)
    cases bindings with
    | single binding =>
      obtain rfl := List.mem_singleton.mp member
      exact .here binding []
    | both binding comma members =>
      rcases List.mem_cons.mp member with rfl | grouped
      · exact .here binding _
      · exact .after binding (.after comma (Group.standsIn_of_mem_localNames grouped))
    | group members => exact Group.standsIn_of_mem_localNames member

/-- What decides about a declaration: a number that is too large for a code point, a local name that
is a reserved word, a number of bindings other than one, or nothing that speaks against it. -/
inductive Verdict where
  | oversized (number : Nat)
  | reserved (name : Text) (position : Nat)
  | several (names : List Text)
  | single
deriving DecidableEq

/-- The verdict about a declaration at the start of a text. -/
def Declaration.verdict (declaration : Declaration) : Verdict :=
  let names := declaration.localNames 0
  match declaration.exports.findSome? Token.oversized? with
  | some number => .oversized number
  | none =>
    match names.find? fun name => name.name ∈ reservedWords with
    | some name => .reserved name.name name.start
    | none =>
      match declaration.source.oversized? with
      | some number => .oversized number
      | none => if names.length = 1 then .single else .several (names.map Identifier.name)

/-- The reserved word that is told is the first one among the local names. -/
theorem Declaration.reservedFault?_eq {dialect : Dialect} {declaration : Declaration}
    {offset : Nat} {specifiers : List Specifier} (framed : declaration.IsFramed dialect)
    (specified : declaration.specifiers offset = .ok specifiers) :
    reservedFault? specifiers =
      ((declaration.localNames offset).find? fun name => name.name ∈ reservedWords).map
        fun name => .reserved name.name name.start := by
  rw [← Declaration.bindings_of_specifiers framed specified, List.find?_map, Option.map_map]
  rfl

/-- What the verdict about a declaration says of its node. -/
theorem Declaration.node_of_verdict {dialect : Dialect} {declaration : Declaration}
    (framed : declaration.IsFramed dialect) :
    match declaration.verdict with
    | .oversized number => declaration.node 0 = .error (.ofNumber number)
    | .reserved name position =>
      declaration.node 0 = .error (.illFormed (.reserved name position)) ∧
        ∃ stop, Identifier.StandsIn 0 declaration.tokens ⟨name, position, stop⟩
    | .several names =>
      ∃ node, declaration.node 0 = .ok node ∧ node.kind = importKind ∧ names.length ≠ 1 ∧
        (node.specifiers.map fun specifier => specifier.binding.name) = names
    | .single =>
      ∃ node, declaration.node 0 = .ok node ∧ node.kind = importKind ∧
        node.specifiers.length = 1 := by
  have exported := declaration.specifiers_failsAt 0
  have sourced := Token.literalValue_failsAt framed.source
  cases large : declaration.exports.findSome? Token.oversized? with
  | some number =>
    simp only [Declaration.verdict, large]
    exact Declaration.node_of_specifiers_error (exported.fails number large)
  | none =>
    obtain ⟨specifiers, specified⟩ := exported.succeeds large
    have made := Declaration.node_of_specifiers specified
    have names := Declaration.bindings_of_specifiers framed specified
    rw [Declaration.reservedFault?_eq framed specified] at made
    cases taken : (declaration.localNames 0).find? fun name => name.name ∈ reservedWords with
    | some name =>
      simp only [Declaration.verdict, large, taken]
      rw [taken] at made
      have stands := Declaration.standsIn_of_mem_localNames (List.mem_of_find?_eq_some taken)
      exact ⟨made, name.stop, stands⟩
    | none =>
      rw [taken] at made
      cases largeToo : declaration.source.oversized? with
      | some number =>
        simp only [Declaration.verdict, large, taken, largeToo]
        rw [sourced.fails number largeToo] at made
        exact made
      | none =>
        obtain ⟨source, valued⟩ := sourced.succeeds largeToo
        rw [valued] at made
        simp only [Declaration.verdict, large, taken, largeToo]
        rw [← names, List.length_map, List.map_map]
        by_cases one : specifiers.length = 1
        · rw [if_pos one]
          exact ⟨_, made, rfl, one⟩
        · rw [if_neg one]
          refine ⟨_, made, rfl, ?_, rfl⟩
          rw [List.length_map]
          exact one

/-! ### Statements -/

namespace Statement

end Statement

end ImportBinding
