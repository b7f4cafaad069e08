/-
This file gives the one local name of a declaration another spelling.

A specifier stands at one token of the declaration, its slot. Where the local name is written apart
from the name of the export, the slot is the local name and its text is exchanged. Otherwise the
slot is the name of the export, and `as` and the local name are put behind it. Nothing else
changes: the tokens in front of the slot and behind it stay, and so does what they mean.
-/

import ImportBinding.Proofs.Declarations

namespace ImportBinding

/-! ### Specifiers with another local name -/

/-- The word `as` and a local name, as they are put behind the name of an export. -/
def aliasTokens (name : Text) : Token × Token :=
  (⟨text " ", .name, text "as"⟩, ⟨text " ", .name, name⟩)

namespace Specifier

/-- Whether the local name is the name of the export. -/
def isBare : Specifier → Bool
  | named imported binding => imported.start = binding.start
  | _ => false

/-- Whether two specifiers are of one kind. -/
def isLike : Specifier → Specifier → Bool
  | default _, default _ | star _, star _ | named _ _, named _ _ => true
  | _, _ => false

/-- The specifier with another local name. -/
def renamed (name : Text) : Specifier → Specifier
  | default binding => default ⟨name, binding.start, binding.start + name.length⟩
  | star binding => star ⟨name, binding.start, binding.start + name.length⟩
  | named imported binding =>
    let start := if imported.start = binding.start then imported.stop + 4 else binding.start
    named imported ⟨name, start, start + name.length⟩

theorem name_renamed (specifier : Specifier) (name : Text) :
    (specifier.renamed name).binding.name = name := by
  cases specifier <;> rfl

/-- The tokens that stand in place of the slot once the specifier has another local name. -/
def exchange (specifier : Specifier) (slot : Token) (name : Text) : List Token :=
  if specifier.isBare then [slot, (aliasTokens name).1, (aliasTokens name).2]
  else [{ slot with body := name }]

/-- Whether a specifier stands at a slot, which these tokens stand in front of. -/
def StandsAt (offset : Nat) (front : List Token) (slot : Token) : Specifier → Prop
  | default binding | star binding => binding = slot.identifier (offset + Tokens.width front)
  | named imported binding =>
    binding = slot.identifier (offset + Tokens.width front) ∧
      (imported.start = binding.start → imported = binding)

/-- What stands at a slot is the local name. -/
theorem StandsAt.binding_eq {offset : Nat} {front : List Token} {slot : Token}
    {specifier : Specifier} (stands : specifier.StandsAt offset front slot) :
    specifier.binding = slot.identifier (offset + Tokens.width front) := by
  cases specifier with
  | default binding | star binding => exact stands
  | named imported binding => exact stands.1

end Specifier

/-! ### Declarations with another local name -/

/-- The entry with another local name. -/
def NamedImport.rebind (name : Text) (entry : NamedImport) : NamedImport :=
  { entry with
    asClause := some (entry.asClause.elim (aliasTokens name) fun (asWord, binding) =>
      (asWord, { binding with body := name })) }

/-- The group with another local name. -/
def Group.rebind (name : Text) : Group → Group
  | .star mark asWord binding => .star mark asWord { binding with body := name }
  | .named listing =>
    .named { listing with
      ended := listing.ended.map fun (entry, comma) => (entry.rebind name, comma)
      final := listing.final.map (NamedImport.rebind name) }

/-- The bindings with another local name. -/
def Bindings.rebind (name : Text) : Bindings → Bindings
  | .single binding => .single { binding with body := name }
  | .both binding comma members => .both { binding with body := name } comma (members.rebind name)
  | .group members => .group (members.rebind name)

/-- The clause with another local name. -/
def Clause.rebind (name : Text) (clause : Clause) : Clause :=
  { clause with bindings := clause.bindings.rebind name }

/-- The declaration with another local name. -/
def Declaration.rebind (name : Text) (declaration : Declaration) : Declaration :=
  { declaration with clause := declaration.clause.map (Clause.rebind name) }

/-! ### The slot of a specifier -/

/-- How a specifier and its tokens change with the local name: `tokens` and `specifiers` are what
they become for each name. -/
structure HasSlot (offset : Nat) (specifier : Specifier) (old : List Token)
    (tokens : Text → List Token) (specifiers : Text → Except Failure (List Specifier))
    (front : List Token) (slot : Token) (back : List Token) : Prop where
  stands : specifier.StandsAt offset front slot
  named : slot.kind = .name
  whole : old = front ++ slot :: back
  exchanged : ∀ name, tokens name = front ++ (specifier.exchange slot name ++ back)
  renamed : ∀ name, specifiers name = .ok [specifier.renamed name]

namespace HasSlot

variable {offset : Nat} {specifier : Specifier} {old front back : List Token} {slot : Token}
  {tokens : Text → List Token} {specifiers : Text → Except Failure (List Specifier)}

/-- A slot is still one between other tokens. -/
theorem between (lead : List Token)
    (has : HasSlot (offset + Tokens.width lead) specifier old tokens specifiers front slot back)
    (trail : List Token) :
    HasSlot offset specifier (lead ++ (old ++ trail)) (fun name => lead ++ (tokens name ++ trail))
      specifiers (lead ++ front) slot (back ++ trail) where
  stands := by
    have same : offset + Tokens.width lead + Tokens.width front =
        offset + Tokens.width (lead ++ front) := by
      rw [Tokens.width_append, Nat.add_assoc]
    have stands := has.stands
    cases specifier <;> simpa only [Specifier.StandsAt, same] using stands
  named := has.named
  whole := by
    rw [has.whole]
    simp only [List.append_assoc, List.cons_append]
  exchanged name := by
    rw [has.exchanged]
    simp only [List.append_assoc]
  renamed := has.renamed

theorem congr {old' : List Token} {tokens' : Text → List Token}
    {specifiers' : Text → Except Failure (List Specifier)}
    (has : HasSlot offset specifier old tokens specifiers front slot back) (same : old' = old)
    (sameTokens : ∀ name, tokens' name = tokens name)
    (sameSpecifiers : ∀ name, specifiers' name = specifiers name) :
    HasSlot offset specifier old' tokens' specifiers' front slot back := by
  rw [same, funext sameTokens, funext sameSpecifiers]
  exact has

end HasSlot

theorem Token.exportName_of_name {token : Token} (named : token.kind = .name) (offset : Nat) :
    token.exportName offset = .ok (token.identifier offset) := by
  rw [Token.exportName, if_neg (by rw [named]; decide)]
  rfl

/-- The name of an export stands where its token does. -/
theorem Token.start_of_exportName {token : Token} {offset : Nat} {name : Identifier}
    (exported : token.exportName offset = .ok name) :
    name.start = offset + token.gap.length ∧ name.stop = offset + token.width := by
  unfold Token.exportName at exported
  split at exported
  · obtain ⟨value, -, same⟩ := bind_eq_ok_iff.mp exported
    cases same
    exact ⟨rfl, rfl⟩
  · cases exported
    exact ⟨rfl, rfl⟩

/-- A local name that is put behind the name of an export stands four code points behind it. -/
theorem identifier_aliasTokens (name : Text) (place : Nat) :
    (aliasTokens name).2.identifier (place + (aliasTokens name).1.width) =
      ⟨name, place + 4, place + 4 + name.length⟩ := by
  have stop : place + 3 + (1 + name.length) = place + 4 + name.length := by omega
  show (⟨name, place + 3 + 1, place + 3 + (1 + name.length)⟩ : Identifier) = _
  rw [stop]

/-- A token with another text writes that text where it starts. -/
theorem Token.identifier_exchange (token : Token) (name : Text) (place : Nat) :
    ({ token with body := name } : Token).identifier place =
      ⟨name, (token.identifier place).start, (token.identifier place).start + name.length⟩ := by
  show (⟨name, place + token.gap.length, place + (token.gap.length + name.length)⟩ : Identifier) = _
  rw [← Nat.add_assoc]
  rfl

theorem NamedImport.exists_slot {dialect : Dialect} {entry : NamedImport} {offset : Nat}
    {specifier : Specifier} (framed : entry.IsFramed dialect)
    (read : entry.specifier offset = .ok specifier) :
    ∃ front slot back, HasSlot offset specifier entry.tokens
      (fun name => (entry.rebind name).tokens)
      (fun name => ((entry.rebind name).specifier offset).map fun renamed => [renamed])
      front slot back := by
  obtain ⟨modifier, imported, asClause⟩ := entry
  cases asClause with
  | none =>
    have named : imported.kind = .name := framed.binding
    have exported (start : Nat) := Token.exportName_of_name named start
    simp only [NamedImport.specifier, exported, ok_bind, pure, Except.pure,
      Except.ok.injEq] at read
    subst read
    refine ⟨modifier.toList, imported, [], ⟨⟨rfl, fun _ => rfl⟩, named, rfl, fun name => ?_,
      fun name => ?_⟩⟩
    · simp [NamedImport.tokens, NamedImport.rebind, Specifier.exchange, Specifier.isBare]
    · have place := identifier_aliasTokens name
        (offset + Tokens.width modifier.toList + imported.width)
      simp only [NamedImport.rebind, NamedImport.specifier, exported, ok_bind, Option.elim_none,
        place, pure, Except.pure, Except.map, Specifier.renamed, if_true]
      rfl
  | some pair =>
    obtain ⟨asWord, binding⟩ := pair
    obtain ⟨-, word⟩ := framed.renamed (asWord, binding) rfl
    have named : binding.kind = .name := framed.binding
    simp only [NamedImport.specifier, bind_eq_ok_iff, pure, Except.pure, Except.ok.injEq] at read
    obtain ⟨name, exported, rfl⟩ := read
    obtain ⟨start, stop⟩ := Token.start_of_exportName exported
    have apart : name.start ≠ (binding.identifier (offset + Tokens.width modifier.toList +
        imported.width + asWord.width)).start := by
      have long : asWord.body.length = 2 := by
        rw [Token.body_of_isWord word]
        rfl
      rw [start]
      simp only [Token.identifier, Token.width, long]
      omega
    refine ⟨modifier.toList ++ [imported, asWord], binding, [],
      ⟨⟨?_, fun same => absurd same apart⟩, named, ?_, fun name' => ?_, fun name' => ?_⟩⟩
    · rw [Tokens.width_append, Tokens.width_cons, Tokens.width_cons]
      simp only [Nat.add_assoc]
      rfl
    · simp [NamedImport.tokens]
    · simp [NamedImport.tokens, NamedImport.rebind, Specifier.exchange, Specifier.isBare, apart]
    · simp only [NamedImport.rebind, NamedImport.specifier, exported, ok_bind, Option.elim_some,
        pure, Except.pure, Except.map, Specifier.renamed, if_neg apart, Token.identifier_exchange]

/-- A list with one entry has nothing but that entry, with or without a comma behind it. -/
theorem placeEntries_eq_singleton {Entry : Type} {entryTokens : Entry → List Token}
    {final : Option Entry} {offset start : Nat} {ended : List (Entry × Token)} {entry : Entry}
    (placed : placeEntries entryTokens final offset ended = [(start, entry)]) :
    start = offset ∧ ((ended = [] ∧ final = some entry) ∨
      ∃ comma, ended = [(entry, comma)] ∧ final = none) := by
  match ended with
  | [] =>
    cases final with
    | none => cases placed
    | some last =>
      cases placed
      exact ⟨rfl, Or.inl ⟨rfl, rfl⟩⟩
  | [(first, comma)] =>
    cases final with
    | none =>
      cases placed
      exact ⟨rfl, Or.inr ⟨comma, rfl, rfl⟩⟩
    | some last => simp [placeEntries] at placed
  | (first, comma) :: (second, comma') :: later => simp [placeEntries] at placed

theorem Group.exists_slot {dialect : Dialect} {members : Group} {offset : Nat}
    {specifier : Specifier} (framed : members.IsFramed dialect)
    (read : members.specifiers offset = .ok [specifier]) :
    ∃ front slot back, HasSlot offset specifier members.tokens
      (fun name => (members.rebind name).tokens)
      (fun name => (members.rebind name).specifiers offset) front slot back := by
  cases members with
  | star mark asWord binding =>
    cases read
    refine ⟨[mark, asWord], binding, [], ⟨?_, framed.2.2, rfl, fun name => rfl, fun name => ?_⟩⟩
    · show binding.identifier (offset + mark.width + asWord.width) = _
      rw [Nat.add_assoc]
      rfl
    · show _ = Except.ok [Specifier.star _]
      rw [← Token.identifier_exchange]
      rfl
  | named listing =>
    obtain ⟨⟨start, entry⟩, placed, specified⟩ := mapM_eq_ok_singleton_iff.mp read
    obtain ⟨rfl, shape⟩ := placeEntries_eq_singleton placed
    obtain ⟨opening, ended, final, closing⟩ := listing
    simp only at shape specified
    have fit : entry.IsFramed dialect := by
      refine framed.entries entry ?_
      rcases shape with ⟨rfl, rfl⟩ | ⟨comma, rfl, rfl⟩ <;> exact List.mem_cons_self
    obtain ⟨front, slot, back, inner⟩ := NamedImport.exists_slot fit specified
    rcases shape with ⟨rfl, rfl⟩ | ⟨comma, rfl, rfl⟩
    · refine ⟨_, slot, _, (inner.between [opening] [closing]).congr rfl (fun name => rfl)
        fun name => ?_⟩
      exact mapM_singleton _ (offset + opening.width, entry.rebind name)
    · refine ⟨_, slot, _, (inner.between [opening] [comma, closing]).congr ?_ (fun name => ?_)
        fun name => ?_⟩
      · simp [Group.tokens, Listing.tokens]
      · simp [Group.tokens, Listing.tokens, Group.rebind]
      · exact mapM_singleton _ (offset + opening.width, entry.rebind name)

/-- A group without specifiers is a pair of braces. -/
theorem Group.eq_of_specifiers_eq_nil {members : Group} {offset : Nat}
    (read : members.specifiers offset = .ok []) :
    ∃ opening closing, members = .named ⟨opening, [], none, closing⟩ := by
  cases members with
  | star mark asWord binding => cases read
  | named listing =>
    obtain ⟨opening, ended, final, closing⟩ := listing
    match ended, final with
    | [], none => exact ⟨opening, closing, rfl⟩
    | [], some entry =>
      simp [Group.specifiers, placeEntries, bind_eq_ok_iff, pure, Except.pure] at read
    | (entry, comma) :: ended, final =>
      simp [Group.specifiers, placeEntries, bind_eq_ok_iff, pure, Except.pure] at read

theorem Bindings.exists_slot {dialect : Dialect} {bindings : Bindings} {offset : Nat}
    {specifier : Specifier} (framed : bindings.IsFramed dialect)
    (read : bindings.specifiers offset = .ok [specifier]) :
    ∃ front slot back, HasSlot offset specifier bindings.tokens
      (fun name => (bindings.rebind name).tokens)
      (fun name => (bindings.rebind name).specifiers offset) front slot back := by
  cases bindings with
  | single binding =>
    cases read
    refine ⟨[], binding, [], ⟨rfl, framed, rfl, fun name => rfl, fun name => ?_⟩⟩
    show _ = Except.ok [Specifier.default _]
    rw [← Token.identifier_exchange]
    rfl
  | both binding comma members =>
    simp only [Bindings.specifiers, bind_eq_ok_iff, pure, Except.pure, Except.ok.injEq,
      List.cons.injEq] at read
    obtain ⟨_, none, rfl, rfl⟩ := read
    obtain ⟨opening, closing, rfl⟩ := Group.eq_of_specifiers_eq_nil none
    refine ⟨[], binding, [comma, opening, closing], ⟨rfl, framed.1, rfl, fun name => rfl,
      fun name => ?_⟩⟩
    show _ = Except.ok [Specifier.default _]
    rw [← Token.identifier_exchange]
    rfl
  | group members => exact Group.exists_slot framed read

theorem Clause.exists_slot {dialect : Dialect} {clause : Clause} {offset : Nat}
    {specifier : Specifier} (framed : clause.IsFramed dialect)
    (read : clause.specifiers offset = .ok [specifier]) :
    ∃ front slot back, HasSlot offset specifier clause.tokens
      (fun name => (clause.rebind name).tokens)
      (fun name => (clause.rebind name).specifiers offset) front slot back := by
  obtain ⟨front, slot, back, inner⟩ := Bindings.exists_slot framed.bindings read
  exact ⟨_, slot, _, inner.between clause.modifier.toList [clause.fromWord]⟩

/-- A declaration with one specifier has a slot behind its first word and in front of its source. -/
theorem Declaration.exists_slot {dialect : Dialect} {declaration : Declaration} {offset : Nat}
    {specifier : Specifier} (framed : declaration.IsFramed dialect)
    (read : declaration.specifiers offset = .ok [specifier]) :
    ∃ front slot back, HasSlot offset specifier declaration.tokens
      (fun name => (declaration.rebind name).tokens)
      (fun name => (declaration.rebind name).specifiers offset)
      (declaration.keyword :: front) slot back ∧ declaration.source ∈ back := by
  obtain ⟨keyword, clause, source, attributes, terminator⟩ := declaration
  cases clause with
  | none => cases read
  | some clause =>
    obtain ⟨front, slot, back, inner⟩ := Clause.exists_slot (framed.clause clause rfl) read
    exact ⟨_, slot, _, inner.between [keyword] (source :: _),
      List.mem_append_right back List.mem_cons_self⟩

/-! ### The local names of a declaration -/

theorem map_snd_placeEntries {Entry : Type} (entryTokens : Entry → List Token)
    (final : Option Entry) (offset : Nat) (ended : List (Entry × Token)) :
    (placeEntries entryTokens final offset ended).map Prod.snd =
      ended.map Prod.fst ++ final.toList := by
  induction ended generalizing offset with
  | nil => cases final <;> rfl
  | cons pair ended inductionHypothesis =>
    obtain ⟨entry, comma⟩ := pair
    rw [placeEntries, List.map_cons, inductionHypothesis]
    rfl

theorem NamedImport.name_of_specifier {dialect : Dialect} {entry : NamedImport} {offset : Nat}
    {specifier : Specifier} (framed : entry.IsFramed dialect)
    (read : entry.specifier offset = .ok specifier) :
    specifier.binding.name = entry.binding.body := by
  obtain ⟨modifier, imported, asClause⟩ := entry
  cases asClause with
  | none =>
    have named : imported.kind = .name := framed.binding
    rw [NamedImport.specifier, Token.exportName_of_name named, ok_bind] at read
    cases read
    rfl
  | some pair =>
    obtain ⟨name, -, same⟩ := bind_eq_ok_iff.mp read
    cases same
    rfl

theorem Group.names_of_specifiers {dialect : Dialect} {members : Group} {offset : Nat}
    {specifiers : List Specifier} (framed : members.IsFramed dialect)
    (read : members.specifiers offset = .ok specifiers) :
    (specifiers.map fun specifier => specifier.binding.name) =
      members.bindings.map Token.body := by
  cases members with
  | star mark asWord binding =>
    cases read
    rfl
  | named listing =>
    have entries := map_snd_placeEntries NamedImport.tokens listing.final
      (offset + listing.opening.width) listing.ended
    rw [Group.bindings, Listing.entries, ← entries, List.map_map, List.map_map]
    refine map_eq_of_mapM_eq_ok (fun pair member specifier specified => ?_) read
    refine NamedImport.name_of_specifier (framed.entries pair.2 ?_) specified
    rw [Listing.entries, ← entries]
    exact List.mem_map_of_mem member

/-- The local names of the specifiers are those of the declaration. -/
theorem Declaration.names_of_specifiers {dialect : Dialect} {declaration : Declaration}
    {offset : Nat} {specifiers : List Specifier} (framed : declaration.IsFramed dialect)
    (read : declaration.specifiers offset = .ok specifiers) :
    (specifiers.map fun specifier => specifier.binding.name) =
      declaration.bindings.map Token.body := by
  obtain ⟨keyword, clause, source, attributes, terminator⟩ := declaration
  cases clause with
  | none =>
    cases read
    rfl
  | some clause =>
    obtain ⟨modifier, bindings, fromWord⟩ := clause
    have inner := (framed.clause _ rfl).bindings
    cases bindings with
    | single binding =>
      cases read
      rfl
    | both binding comma members =>
      obtain ⟨others, grouped, same⟩ := bind_eq_ok_iff.mp read
      cases same
      exact congrArg (binding.body :: ·) (Group.names_of_specifiers inner.2.2 grouped)
    | group members => exact Group.names_of_specifiers inner read

/-! ### Framed declarations with another local name -/

theorem NamedImport.IsFramed.rebind {dialect : Dialect} {entry : NamedImport}
    (framed : entry.IsFramed dialect) (accepted : entry.binding.isIdentifier = true)
    (name : Text) : (entry.rebind name).IsFramed dialect := by
  obtain ⟨modifier, imported, asClause⟩ := entry
  cases asClause with
  | none =>
    refine ⟨framed.modifier, rfl, fun pair member => ?_⟩
    rw [← Option.mem_some_iff.mp member]
    exact ⟨Token.isExport_of_isIdentifier accepted, rfl⟩
  | some pair =>
    refine ⟨framed.modifier, framed.binding, fun other member => ?_⟩
    rw [← Option.mem_some_iff.mp member]
    exact framed.renamed pair rfl

/-- The entries of a list with another local name. -/
theorem entries_rebind (name : Text) (opening closing : Token)
    (ended : List (NamedImport × Token)) (final : Option NamedImport) :
    (⟨opening, ended.map fun (entry, comma) => (entry.rebind name, comma),
        final.map (NamedImport.rebind name), closing⟩ : Listing NamedImport).entries =
      (⟨opening, ended, final, closing⟩ : Listing NamedImport).entries.map
        (NamedImport.rebind name) := by
  cases final <;> simp [Listing.entries, Function.comp_def]

theorem Group.IsFramed.rebind {dialect : Dialect} {members : Group}
    (framed : members.IsFramed dialect)
    (accepted : members.bindings.all Token.isIdentifier = true) (name : Text) :
    (members.rebind name).IsFramed dialect := by
  cases members with
  | star mark asWord binding => exact framed
  | named listing =>
    refine ⟨framed.opening, framed.closing, fun pair member => ?_, fun entry member => ?_⟩
    · obtain ⟨old, listed, rfl⟩ := List.mem_map.mp member
      exact framed.commas old listed
    · rw [entries_rebind] at member
      obtain ⟨old, listed, rfl⟩ := List.mem_map.mp member
      refine (framed.entries old listed).rebind ?_ name
      exact List.all_eq_true.mp accepted _ (List.mem_map_of_mem listed)

theorem Bindings.IsFramed.rebind {dialect : Dialect} {bindings : Bindings}
    (framed : bindings.IsFramed dialect)
    (accepted : bindings.bindings.all Token.isIdentifier = true) (name : Text) :
    (bindings.rebind name).IsFramed dialect := by
  cases bindings with
  | single binding => exact framed
  | both binding comma members =>
    rw [Bindings.bindings, List.all_cons, Bool.and_eq_true] at accepted
    exact ⟨framed.1, framed.2.1, Group.IsFramed.rebind framed.2.2 accepted.2 name⟩
  | group members => exact Group.IsFramed.rebind framed accepted name

theorem NamedImport.IsFramed.binding_rebind {dialect : Dialect} {entry : NamedImport}
    (framed : entry.IsFramed dialect) (name : Text) :
    (entry.rebind name).binding.kind = .name ∧ (entry.rebind name).binding.body = name := by
  obtain ⟨modifier, imported, asClause⟩ := entry
  cases asClause with
  | none => exact ⟨rfl, rfl⟩
  | some pair => exact ⟨framed.binding, rfl⟩

theorem Group.IsFramed.mem_bindings_rebind {dialect : Dialect} {members : Group}
    (framed : members.IsFramed dialect) {name : Text} {token : Token}
    (member : token ∈ (members.rebind name).bindings) :
    token.kind = .name ∧ token.body = name := by
  cases members with
  | star mark asWord binding =>
    rw [List.mem_singleton.mp member]
    exact ⟨framed.2.2, rfl⟩
  | named listing =>
    obtain ⟨entry, listed, rfl⟩ := List.mem_map.mp member
    rw [entries_rebind] at listed
    obtain ⟨old, stood, rfl⟩ := List.mem_map.mp listed
    exact (framed.entries old stood).binding_rebind name

theorem Bindings.IsFramed.mem_bindings_rebind {dialect : Dialect} {bindings : Bindings}
    (framed : bindings.IsFramed dialect) {name : Text} {token : Token}
    (member : token ∈ (bindings.rebind name).bindings) :
    token.kind = .name ∧ token.body = name := by
  cases bindings with
  | single binding =>
    rw [List.mem_singleton.mp member]
    exact ⟨framed, rfl⟩
  | both binding comma members =>
    rcases List.mem_cons.mp member with rfl | member
    · exact ⟨framed.1, rfl⟩
    · exact Group.IsFramed.mem_bindings_rebind framed.2.2 member
  | group members => exact Group.IsFramed.mem_bindings_rebind framed member

/-- Every local name of a declaration with another local name is that name. -/
theorem Declaration.IsFramed.mem_bindings_rebind {dialect : Dialect} {declaration : Declaration}
    (framed : declaration.IsFramed dialect) {name : Text} {token : Token}
    (member : token ∈ (declaration.rebind name).bindings) :
    token.kind = .name ∧ token.body = name := by
  obtain ⟨keyword, clause, source, attributes, terminator⟩ := declaration
  cases clause with
  | none => cases member
  | some clause => exact (framed.clause clause rfl).bindings.mem_bindings_rebind member

/-- A declaration stays well-formed with another local name, unless that is taken for the end of
the clause. -/
theorem Declaration.IsFramed.rebind {dialect : Dialect} {declaration : Declaration}
    (framed : declaration.IsFramed dialect)
    (accepted : declaration.bindings.all Token.isIdentifier = true) {name : Text}
    (pair : ∀ clause ∈ declaration.clause, clause.ModifiesPair → name ≠ text "from") :
    (declaration.rebind name).IsFramed dialect := by
  obtain ⟨keyword, clause, source, attributes, terminator⟩ := declaration
  refine ⟨framed.keyword, fun renamed member => ?_, framed.source, framed.attributes,
    framed.terminator⟩
  obtain ⟨clause, rfl, rfl⟩ := Option.map_eq_some_iff.mp member
  have inner := framed.clause clause rfl
  refine ⟨inner.modifier, inner.bindings.rebind accepted name, inner.fromWord,
    fun modified token first => ?_⟩
  have other : name ≠ text "from" := by
    refine pair clause rfl ⟨modified.1, ?_⟩
    obtain ⟨-, binding, comma, members, both⟩ := modified
    cases bindings : clause.bindings with
    | both binding comma members => exact ⟨_, _, _, rfl⟩
    | single binding => simp [Clause.rebind, bindings, Bindings.rebind] at both
    | group members => simp [Clause.rebind, bindings, Bindings.rebind] at both
  have body := (inner.bindings.mem_bindings_rebind (List.mem_of_mem_head? first)).2
  rw [Token.isWord, body, decide_eq_false other, Bool.and_false]

end ImportBinding
