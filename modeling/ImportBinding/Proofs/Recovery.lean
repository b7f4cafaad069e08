/-
This file shows that reading recovers what has been written.

Whatever the layout, the tokens that are written are those of a syntax tree, the tree is
well-formed, and it means what the writer was told. This is shown for one sort of trees after
another. Each of them stands behind tokens that have been written before, which only move its names
along the text. A whole declaration can therefore be read, unless it is of the one form that the
grammar cannot tell apart from another.
-/

import ImportBinding.Proofs.Printing
import ImportBinding.Proofs.Refusing
import ImportBinding.Proofs.Renaming

namespace ImportBinding

/-! ### Sorts of trees -/

/-- A token that can be told apart from what stands around it, but perhaps for another name. -/
structure Token.IsSet (token : Token) : Prop where
  gap : IsGap token.gap
  whole : token.IsWhole

/-- A sort of syntax trees: their tokens, which trees are well-formed, and what they mean when their
tokens start at a place. -/
structure Category (Tree Result : Type) where
  tokens : Tree → List Token
  IsFormed : Tree → Prop
  meaning : Nat → Tree → Except Failure Result

/-- What has been written behind some tokens is a tree that means what was told. -/
structure Category.Realizes {Tree Result : Type} (category : Category Tree Result)
    (before : List Token) (outcome : Result × List Token) (tree : Tree) : Prop where
  tokens : outcome.2 = before ++ category.tokens tree
  set : ∀ token ∈ category.tokens tree, token.IsSet
  formed : category.IsFormed tree
  meaning : category.meaning (Tokens.width before) tree = .ok outcome.1

theorem Category.Realizes.width {Tree Result : Type} {category : Category Tree Result}
    {before : List Token} {outcome : Result × List Token} {tree : Tree}
    (realizes : category.Realizes before outcome tree) :
    Tokens.width outcome.2 = Tokens.width before + Tokens.width (category.tokens tree) := by
  rw [realizes.tokens, Tokens.width_append]

/-! ### Tokens -/

namespace Layout

variable (layout : Layout)

/-- The next token. -/
def token (before : List Token) (kind : TokenKind) (body : Text) : Token :=
  ⟨layout.gap before.length, kind, body⟩

theorem put_eq (kind : TokenKind) (body : Text) (before : List Token) :
    layout.put kind body before =
      ((layout.token before kind body).identifier (Tokens.width before),
        before ++ [layout.token before kind body]) := by
  simp only [put, putAfter, token, Token.identifier, Token.width, Tokens.length_written,
    Nat.add_assoc]

theorem isSet_token {kind : TokenKind} {body : Text}
    (whole : tokenSize? body = some (kind, body.length)) (before : List Token) :
    (layout.token before kind body).IsSet :=
  ⟨layout.isGap before.length, whole⟩

theorem isWord_token (before : List Token) (word : Text) :
    (layout.token before .name word).isWord word = true := by
  simp [Token.isWord, token]

theorem isSet_as (before : List Token) : (layout.token before .name (text "as")).IsSet :=
  layout.isSet_token (by decide +kernel) before

theorem isIdentifier_token (name : IdentifierName) (before : List Token) :
    (layout.token before .name name.written).isIdentifier = true := by
  simp [Token.isIdentifier, token, name.isFree]

end Layout

theorem Token.exportName_of_literal {token : Token} {value : Text} (literal : token.kind = .literal)
    (decoded : token.literalValue = .ok value) (offset : Nat) :
    token.exportName offset = .ok { token.identifier offset with name := value } := by
  rw [Token.exportName, if_pos literal, decoded]
  rfl

/-- The names of exports. -/
def exports : Category Token Identifier where
  tokens token := [token]
  IsFormed token := token.isExport = true
  meaning := Token.exportName

/-- The names of bindings. -/
def bindingNames : Category Token Identifier where
  tokens token := [token]
  IsFormed token := token.isIdentifier = true
  meaning offset token := .ok (token.identifier offset)

namespace Layout

variable (layout : Layout)

theorem exists_name (name : IdentifierName) (before : List Token) :
    ∃ token, token.body = name.written ∧
      bindingNames.Realizes before (layout.putName name before) token := by
  refine ⟨layout.token before .name name.written, rfl, rfl, ?_, ?_, ?_⟩
  · exact List.forall_mem_singleton.mpr (layout.isSet_token name.isWhole before)
  · exact layout.isIdentifier_token name before
  · rw [putName, layout.put_eq]
    rfl

theorem exists_export (exported : ExportName) (before : List Token) :
    ∃ token, exports.Realizes before (layout.putExport exported before) token := by
  cases exported with
  | identifier name =>
    obtain ⟨token, -, tokens, set, formed, meaning⟩ := layout.exists_name name before
    refine ⟨token, tokens, set, Token.isExport_of_isIdentifier formed, ?_⟩
    exact (Token.exportName_of_name (Token.kind_of_isIdentifier formed) _).trans meaning
  | default =>
    have word := layout.isWord_token before (text "default")
    refine ⟨layout.token before .name (text "default"), rfl, ?_, ?_, ?_⟩
    · exact List.forall_mem_singleton.mpr (layout.isSet_token (by decide +kernel) before)
    · show Token.isExport _ = true
      rw [Token.isExport, word, Bool.or_true, Bool.true_or]
    · refine (Token.exportName_of_name (Token.kind_of_isWord word) _).trans ?_
      rw [putExport, layout.put_eq]
  | literal quoted =>
    refine ⟨layout.token before .literal quoted.written, rfl, ?_, Bool.or_true _, ?_⟩
    · exact List.forall_mem_singleton.mpr (layout.isSet_token quoted.isWhole before)
    · have literal : (layout.token before .literal quoted.written).kind = .literal := rfl
      refine (Token.exportName_of_literal literal quoted.literalValue_eq _).trans ?_
      simp only [putExport, Writing.bind_apply, Writing.pure_apply, layout.put_eq]

/-! ### Entries -/

/-- The token of a modifier. -/
def modifierToken {dialect : Dialect} (before : List Token)
    (modifier : Option (Modifier dialect)) : Option Token :=
  modifier.map fun modifier => layout.token before .name modifier.word

theorem putModifier_eq {dialect : Dialect} (modifier : Option (Modifier dialect))
    (before : List Token) :
    layout.putModifier modifier before =
      ((), before ++ (layout.modifierToken before modifier).toList) := by
  cases modifier with
  | none =>
    rw [modifierToken, Option.map_none, Option.toList_none, List.append_nil]
    rfl
  | some modifier => rfl

theorem isModifier_modifierToken {dialect : Dialect} {modifier : Option (Modifier dialect)}
    {before : List Token} {token : Token} (taken : token ∈ layout.modifierToken before modifier) :
    token.isModifier dialect = true ∧ token.IsSet := by
  obtain ⟨modifier, -, rfl⟩ := Option.map_eq_some_iff.mp taken
  have word := layout.isWord_token before modifier.word
  rw [Token.isModifier]
  cases modifier with
  | type isTyped =>
    rw [Modifier.word] at word ⊢
    rw [isTyped, word]
    exact ⟨rfl, layout.isSet_token (by decide +kernel) before⟩
  | typeof isTyped =>
    rw [Modifier.word] at word ⊢
    rw [isTyped, word, Bool.or_true]
    exact ⟨rfl, layout.isSet_token (by decide +kernel) before⟩

end Layout

/-- The entries of lists of named imports. -/
def namedImports (dialect : Dialect) : Category NamedImport Specifier where
  tokens := NamedImport.tokens
  IsFormed entry := entry.IsFramed dialect ∧ entry.binding.isIdentifier = true
  meaning := NamedImport.specifier

theorem Layout.exists_entry {dialect : Dialect} (layout : Layout) (entry : ImportEntry dialect)
    (before : List Token) :
    ∃ tree, (namedImports dialect).Realizes before (layout.putEntry entry before) tree := by
  obtain ⟨modifier, names⟩ := entry
  have modifies {token : Token} (taken : token ∈ layout.modifierToken before modifier) :=
    layout.isModifier_modifierToken taken
  have start : Tokens.width (before ++ (layout.modifierToken before modifier).toList) =
      Tokens.width before + Tokens.width (layout.modifierToken before modifier).toList :=
    Tokens.width_append _ _
  simp only [putEntry, Writing.bind_apply, layout.putModifier_eq]
  generalize layout.modifierToken before modifier = lead at modifies start ⊢
  have leadSet : ∀ token ∈ lead.toList, token.IsSet :=
    fun token member => (modifies (Option.mem_toList.mp member)).2
  cases names with
  | same name =>
    obtain ⟨first, -, written⟩ := layout.exists_name name.toIdentifierName (before ++ lead.toList)
    have named := Token.kind_of_isIdentifier written.formed
    refine ⟨⟨lead, first, none⟩, ?_, ?_, ⟨⟨fun token taken => (modifies taken).1, named, nofun⟩,
      written.formed⟩, ?_⟩
    · exact written.tokens.trans (List.append_assoc _ _ _)
    · exact List.forall_mem_append.mpr ⟨leadSet, written.set⟩
    · have meaning := (Token.exportName_of_name named _).trans written.meaning
      rw [start] at meaning
      show NamedImport.specifier _ _ = _
      simp only [NamedImport.specifier, meaning, ok_bind]
      rfl
  | renamed imported binding =>
    obtain ⟨exported, first⟩ := layout.exists_export imported (before ++ lead.toList)
    simp only [putEntryNames, Writing.bind_apply, Writing.discard_apply, Writing.pure_apply,
      layout.put_eq .name (text "as")]
    generalize layout.putExport imported (before ++ lead.toList) = outcome at first ⊢
    have word := layout.isWord_token outcome.2 (text "as")
    have wordSet := layout.isSet_as outcome.2
    generalize layout.token outcome.2 .name (text "as") = asWord at word wordSet ⊢
    obtain ⟨last, -, second⟩ := layout.exists_name binding.toIdentifierName (outcome.2 ++ [asWord])
    generalize layout.putName binding.toIdentifierName (outcome.2 ++ [asWord]) = place at second ⊢
    refine ⟨⟨lead, exported, some (asWord, last)⟩, ?_, ?_,
      ⟨⟨fun token taken => (modifies taken).1, Token.kind_of_isIdentifier second.formed, ?_⟩,
        second.formed⟩, ?_⟩
    · rw [second.tokens, first.tokens]
      simp only [namedImports, NamedImport.tokens, exports, bindingNames, List.append_assoc,
        List.cons_append, List.nil_append, Option.elim_some]
    · refine List.forall_mem_append.mpr ⟨leadSet, List.forall_mem_cons.mpr ⟨first.set _ ?_,
        List.forall_mem_cons.mpr ⟨wordSet, second.set⟩⟩⟩
      exact List.mem_singleton_self exported
    · intro pair member
      cases member
      exact ⟨first.formed, word⟩
    · have meaning : exported.exportName _ = _ := first.meaning
      have behind := first.width
      have placed := second.meaning
      rw [start] at meaning behind
      rw [Tokens.width_append, behind] at placed
      show NamedImport.specifier _ _ = _
      simp only [NamedImport.specifier, meaning, ok_bind]
      exact congrArg (Except.map (Specifier.named outcome.1)) placed

/-! ### Lists in braces -/

section Listing

variable {Entry Tree Result : Type} {category : Category Tree Result}

namespace Category

/-- The entries of lists, each with the comma behind it, and the last one where there is none. -/
def inside (category : Category Tree Result) :
    Category (List (Tree × Token) × Option Tree) (List Result) where
  tokens listed := Listing.inside category.tokens listed.1 listed.2
  IsFormed listed := (∀ pair ∈ listed.1, pair.2.kind = .comma) ∧
    ∀ tree ∈ listed.1.map Prod.fst ++ listed.2.toList, category.IsFormed tree
  meaning offset listed :=
    (placeEntries category.tokens listed.2 offset listed.1).mapM
      fun (start, tree) => category.meaning start tree

/-- Lists in braces. -/
def listing (category : Category Tree Result) : Category (Listing Tree) (List Result) where
  tokens := Listing.tokens category.tokens
  IsFormed listed := listed.IsFramed category.IsFormed
  meaning offset listed :=
    category.inside.meaning (offset + listed.opening.width) (listed.ended, listed.final)

theorem meaning_inside_cons (offset : Nat) (tree : Tree) (comma : Token)
    (listed : List (Tree × Token) × Option Tree) :
    category.inside.meaning offset ((tree, comma) :: listed.1, listed.2) = do
      let result ← category.meaning offset tree
      let results ← category.inside.meaning
        (offset + Tokens.width (category.tokens tree) + comma.width) listed
      return result :: results := by
  simp only [inside, placeEntries, List.mapM_cons]

theorem realizes_inside_nil (before : List Token) :
    category.inside.Realizes before ([], before) ([], none) where
  tokens := (List.append_nil before).symm
  set := List.forall_mem_nil _
  formed := ⟨List.forall_mem_nil _, List.forall_mem_nil _⟩
  meaning := rfl

theorem Realizes.inside_singleton {before : List Token} {outcome : Result × List Token}
    {tree : Tree} (only : category.Realizes before outcome tree) :
    category.inside.Realizes before ([outcome.1], outcome.2) ([], some tree) where
  tokens := only.tokens
  set := only.set
  formed := ⟨List.forall_mem_nil _, List.forall_mem_singleton.mpr only.formed⟩
  meaning := by
    have single : category.inside.meaning (Tokens.width before) ([], some tree) =
        (category.meaning (Tokens.width before) tree).map ([·]) := by
      simp only [inside, placeEntries, Option.toList_some, List.map_cons, List.map_nil,
        mapM_singleton]
    rw [single, only.meaning]
    rfl

/-- An entry and a comma in front of entries. -/
theorem Realizes.inside_cons {before : List Token} {outcome : Result × List Token} {tree : Tree}
    (first : category.Realizes before outcome tree) {comma : Token}
    (separates : comma.kind = .comma)
    (commaSet : comma.IsSet) {results : List Result × List Token}
    {listed : List (Tree × Token) × Option Tree}
    (later : category.inside.Realizes (outcome.2 ++ [comma]) results listed) :
    category.inside.Realizes before (outcome.1 :: results.1, results.2)
      ((tree, comma) :: listed.1, listed.2) where
  tokens := by
    rw [later.tokens, first.tokens]
    simp only [inside, Listing.inside, List.flatMap_cons, List.append_assoc]
  set := by
    have inFront := List.forall_mem_append.mpr ⟨first.set, List.forall_mem_singleton.mpr commaSet⟩
    simp only [inside, Listing.inside, List.flatMap_cons, List.append_assoc]
    rw [← List.append_assoc]
    exact List.forall_mem_append.mpr ⟨inFront, later.set⟩
  formed :=
    ⟨List.forall_mem_cons.mpr ⟨separates, later.formed.1⟩,
      List.forall_mem_cons.mpr ⟨first.formed, later.formed.2⟩⟩
  meaning := by
    have behind := later.meaning
    rw [Tokens.width_append, first.width] at behind
    rw [meaning_inside_cons, first.meaning, ok_bind]
    exact congrArg (Except.map (outcome.1 :: ·)) behind

end Category

namespace Layout

variable (layout : Layout)

/-- A mark that is written is set apart by itself. -/
theorem isSet_mark {kind : TokenKind} (mark : CodePoint)
    (marks : TokenKind.ofMark? mark = some kind) (before : List Token) :
    (layout.token before kind [mark]).IsSet :=
  layout.isSet_token (tokenSize?_mark marks []) before

theorem exists_inside {write : Entry → Writing Result}
    (each : ∀ entry before, ∃ tree, category.Realizes before (write entry before) tree)
    (comma : Bool) (entries : List Entry) (before : List Token) :
    ∃ listed, category.inside.Realizes before (layout.putEntries write comma entries before)
      listed := by
  fun_induction putEntries layout write comma entries generalizing before with
  | case1 => exact ⟨_, Category.realizes_inside_nil before⟩
  | case2 entry =>
    obtain ⟨tree, only⟩ := each entry before
    cases comma with
    | false => exact ⟨_, only.inside_singleton⟩
    | true =>
      have commaSet := layout.isSet_mark ',' rfl (write entry before).2
      exact ⟨_, only.inside_cons rfl commaSet (Category.realizes_inside_nil _)⟩
  | case3 entry later nonempty inductionHypothesis =>
    obtain ⟨tree, first⟩ := each entry before
    have commaSet := layout.isSet_mark ',' rfl (write entry before).2
    obtain ⟨listed, rest⟩ := inductionHypothesis _
    exact ⟨_, first.inside_cons rfl commaSet rest⟩

theorem exists_listing {write : Entry → Writing Result}
    (each : ∀ entry before, ∃ tree, category.Realizes before (write entry before) tree)
    (comma : Bool) (entries : List Entry) (before : List Token) :
    ∃ listed, category.listing.Realizes before (layout.putListing write comma entries before)
      listed := by
  simp only [putListing, Writing.bind_apply, Writing.discard_apply, Writing.pure_apply,
    layout.put_eq]
  have openingSet := layout.isSet_mark '\x7b' rfl before
  obtain ⟨listed, between⟩ := layout.exists_inside each comma entries
    (before ++ [layout.token before .openBrace (text "\x7b")])
  generalize layout.putEntries write comma entries _ = outcome at between ⊢
  have closingSet := layout.isSet_mark '\x7d' rfl outcome.2
  refine ⟨⟨layout.token before .openBrace (text "\x7b"), listed.1, listed.2,
    layout.token outcome.2 .closeBrace (text "\x7d")⟩, ?_, ?_, ⟨rfl, rfl, between.formed.1,
    between.formed.2⟩, ?_⟩
  · rw [between.tokens]
    simp only [Category.listing, Listing.tokens_eq_inside, Category.inside, List.append_assoc,
      List.cons_append, List.nil_append]
  · show ∀ token ∈ Listing.tokens category.tokens _, token.IsSet
    rw [Listing.tokens_eq_inside]
    exact List.forall_mem_cons.mpr ⟨openingSet, List.forall_mem_append.mpr
      ⟨between.set, List.forall_mem_singleton.mpr closingSet⟩⟩
  · have meaning := between.meaning
    rw [Tokens.width_append] at meaning
    exact meaning

end Layout

end Listing

/-! ### Clauses -/

/-- Groups. -/
def groups (dialect : Dialect) : Category Group (List Specifier) where
  tokens := Group.tokens
  IsFormed members := members.IsFramed dialect ∧ members.bindings.all Token.isIdentifier = true
  meaning := Group.specifiers

/-- The bindings of clauses. -/
def clauseBindings (dialect : Dialect) : Category Bindings (List Specifier) where
  tokens := Bindings.tokens
  IsFormed bindings := bindings.IsFramed dialect ∧ bindings.bindings.all Token.isIdentifier = true
  meaning := Bindings.specifiers

/-- The name of a default binding that a group follows. -/
def Bindings.paired? : Bindings → Option Text
  | .both binding _ _ => some binding.body
  | _ => none

/-- The name of a default binding that a group follows. -/
def ImportBindings.paired? {dialect : Dialect} : ImportBindings dialect → Option Text
  | .both binding _ => some binding.written
  | _ => none

theorem ImportBindings.paired?_eq_some_iff {dialect : Dialect} {bindings : ImportBindings dialect}
    {name : Text} : bindings.paired? = some name ↔
      ∃ binding members, bindings = .both binding members ∧ binding.written = name := by
  cases bindings with
  | both first group =>
    constructor
    · intro same
      exact ⟨first, group, rfl, Option.some.inj same⟩
    · rintro ⟨binding, members, same, rfl⟩
      cases same
      rfl
  | single first => simp [ImportBindings.paired?]
  | group members => simp [ImportBindings.paired?]

namespace Layout

variable {dialect : Dialect} (layout : Layout)

theorem exists_group (members : ImportGroup dialect) (before : List Token) :
    ∃ tree, (groups dialect).Realizes before (layout.putGroup members before) tree := by
  cases members with
  | star binding =>
    simp only [putGroup, Writing.bind_apply, Writing.discard_apply, Writing.pure_apply,
      layout.put_eq]
    have markSet : (layout.token before .star (text "*")).IsSet := layout.isSet_mark '*' rfl before
    have marks : (layout.token before .star (text "*")).kind = .star := rfl
    generalize layout.token before .star (text "*") = mark at markSet marks ⊢
    have word := layout.isWord_token (before ++ [mark]) (text "as")
    have wordSet := layout.isSet_as (before ++ [mark])
    generalize layout.token (before ++ [mark]) .name (text "as") = asWord at word wordSet ⊢
    obtain ⟨last, -, written⟩ :=
      layout.exists_name binding.toIdentifierName (before ++ [mark] ++ [asWord])
    generalize layout.putName binding.toIdentifierName _ = place at written ⊢
    refine ⟨.star mark asWord last, ?_, ?_, ⟨⟨marks, word, Token.kind_of_isIdentifier
      written.formed⟩, ?_⟩, ?_⟩
    · rw [written.tokens, List.append_assoc, List.append_assoc]
      rfl
    · exact List.forall_mem_cons.mpr ⟨markSet, List.forall_mem_cons.mpr ⟨wordSet, written.set⟩⟩
    · rw [Group.bindings, List.all_cons, written.formed]
      rfl
    · have placed := written.meaning
      rw [Tokens.width_append, Tokens.width_append] at placed
      exact congrArg (Except.map ([Specifier.star ·])) placed
  | named entries =>
    obtain ⟨listed, tokens, set, formed, meaning⟩ := layout.exists_listing
      (fun entry before => layout.exists_entry entry before) layout.entryComma entries before
    refine ⟨.named listed, tokens, set, ⟨⟨formed.opening, formed.closing, formed.commas,
      fun entry member => (formed.entries entry member).1⟩, ?_⟩, meaning⟩
    rw [Group.bindings, List.all_map, List.all_eq_true]
    exact fun entry member => (formed.entries entry member).2

theorem exists_bindings (bindings : ImportBindings dialect) (before : List Token) :
    ∃ tree, (clauseBindings dialect).Realizes before (layout.putBindings bindings before) tree ∧
      tree.paired? = bindings.paired? := by
  cases bindings with
  | single binding =>
    obtain ⟨token, -, tokens, set, formed, meaning⟩ :=
      layout.exists_name binding.toIdentifierName before
    refine ⟨.single token, ⟨tokens, set, ⟨Token.kind_of_isIdentifier formed, ?_⟩, ?_⟩, rfl⟩
    · rw [Bindings.bindings, List.all_cons, formed]
      rfl
    · exact congrArg (Except.map ([Specifier.default ·])) meaning
  | both binding members =>
    simp only [putBindings, Writing.bind_apply, Writing.discard_apply, Writing.pure_apply,
      layout.put_eq .comma]
    obtain ⟨token, same, first⟩ := layout.exists_name binding.toIdentifierName before
    generalize layout.putName binding.toIdentifierName before = place at first ⊢
    have commaSet : (layout.token place.2 .comma (text ",")).IsSet :=
      layout.isSet_mark ',' rfl place.2
    have separates : (layout.token place.2 .comma (text ",")).kind = .comma := rfl
    generalize layout.token place.2 .comma (text ",") = comma at commaSet separates ⊢
    obtain ⟨tree, rest⟩ := layout.exists_group members (place.2 ++ [comma])
    generalize layout.putGroup members _ = outcome at rest ⊢
    refine ⟨.both token comma tree, ⟨?_, ?_, ⟨⟨Token.kind_of_isIdentifier first.formed, separates,
      rest.formed.1⟩, ?_⟩, ?_⟩, congrArg some same⟩
    · rw [rest.tokens, first.tokens, List.append_assoc, List.append_assoc]
      rfl
    · refine List.forall_mem_cons.mpr ⟨first.set token ?_, List.forall_mem_cons.mpr
        ⟨commaSet, rest.set⟩⟩
      exact List.mem_singleton_self token
    · rw [Bindings.bindings, List.all_cons, first.formed, rest.formed.2]
      rfl
    · have behind := rest.meaning
      rw [Tokens.width_append, first.width] at behind
      have default : token.identifier (Tokens.width before) = place.1 :=
        Except.ok.inj first.meaning
      show Bindings.specifiers (Tokens.width before) (.both token comma tree) = _
      rw [Bindings.specifiers, default]
      exact congrArg (Except.map (Specifier.default place.1 :: ·)) behind
  | group members =>
    obtain ⟨tree, tokens, set, formed, meaning⟩ := layout.exists_group members before
    exact ⟨.group tree, ⟨tokens, set, formed, meaning⟩, rfl⟩

end Layout

/-- A clause in which the word `from` stands between a modifier and a comma. -/
def Clause.IsCutShort (clause : Clause) : Prop :=
  clause.modifier.isSome = true ∧ clause.bindings.paired? = some (text "from")

/-- Clauses, of which those that are cut short need not be well-formed as a whole. -/
def clauses (dialect : Dialect) : Category Clause (List Specifier) where
  tokens := Clause.tokens
  IsFormed clause := (∀ token ∈ clause.modifier, token.isModifier dialect = true) ∧
    (clauseBindings dialect).IsFormed clause.bindings ∧
      clause.fromWord.isWord (text "from") = true
  meaning := Clause.specifiers

theorem Clause.isFramed_of_isFormed {dialect : Dialect} {clause : Clause}
    (formed : (clauses dialect).IsFormed clause) (whole : ¬ clause.IsCutShort) :
    clause.IsFramed dialect where
  modifier := formed.1
  bindings := formed.2.1.1
  fromWord := formed.2.2
  pair := by
    rintro ⟨modified, binding, comma, members, both⟩ token first
    rw [both] at first
    cases first
    rw [Bool.eq_false_iff]
    intro word
    refine whole ⟨modified, ?_⟩
    rw [both, Bindings.paired?, Token.body_of_isWord word]

theorem Layout.exists_clause {dialect : Dialect} (layout : Layout) (clause : ImportClause dialect)
    (before : List Token) :
    ∃ tree, (clauses dialect).Realizes before (layout.putClause clause before) tree ∧
      (tree.IsCutShort ↔ clause.IsCutShort) := by
  obtain ⟨modifier, bindings⟩ := clause
  have modifies {token : Token} (taken : token ∈ layout.modifierToken before modifier) :=
    layout.isModifier_modifierToken taken
  have start : Tokens.width (before ++ (layout.modifierToken before modifier).toList) =
      Tokens.width before + Tokens.width (layout.modifierToken before modifier).toList :=
    Tokens.width_append _ _
  have some : (layout.modifierToken before modifier).isSome = modifier.isSome := Option.isSome_map
  simp only [putClause, Writing.bind_apply, Writing.discard_apply, Writing.pure_apply,
    layout.putModifier_eq, layout.put_eq]
  generalize layout.modifierToken before modifier = lead at modifies start some ⊢
  have leadSet : ∀ token ∈ lead.toList, token.IsSet :=
    fun token member => (modifies (Option.mem_toList.mp member)).2
  obtain ⟨tree, written, paired⟩ := layout.exists_bindings bindings (before ++ lead.toList)
  generalize layout.putBindings bindings _ = outcome at written ⊢
  have word := layout.isWord_token outcome.2 (text "from")
  have wordSet : (layout.token outcome.2 .name (text "from")).IsSet :=
    layout.isSet_token (by decide +kernel) outcome.2
  generalize layout.token outcome.2 .name (text "from") = fromWord at word wordSet ⊢
  refine ⟨⟨lead, tree, fromWord⟩, ⟨?_, ?_, ⟨fun token taken => (modifies taken).1, written.formed,
    word⟩, ?_⟩, ?_⟩
  · rw [written.tokens, List.append_assoc, List.append_assoc]
    rfl
  · exact List.forall_mem_append.mpr ⟨leadSet, List.forall_mem_append.mpr
      ⟨written.set, List.forall_mem_singleton.mpr wordSet⟩⟩
  · have meaning := written.meaning
    rw [start] at meaning
    exact meaning
  · rw [Clause.IsCutShort, some, paired, ImportBindings.paired?_eq_some_iff,
      ImportClause.IsCutShort]

/-! ### Attributes -/

/-- Attributes, of which nothing is told. -/
def attributePairs : Category Attribute Unit where
  tokens := Attribute.tokens
  IsFormed := Attribute.IsWellFormed
  meaning _ _ := .ok ()

/-- What may stand behind a source. -/
def attributeClauses : Category (Option (Token × Listing Attribute)) Unit where
  tokens tree := tree.elim [] fun pair => pair.1 :: pair.2.tokens Attribute.tokens
  IsFormed tree := ∀ pair ∈ tree, pair.1.isWord (text "with") = true ∧ pair.1.startsLine = false ∧
    pair.2.IsFramed Attribute.IsWellFormed
  meaning _ _ := .ok ()

/-- What may stand at the end. -/
def terminators : Category (Option Token) Unit where
  tokens := Option.toList
  IsFormed tree := ∀ token ∈ tree, token.kind = .semicolon
  meaning _ _ := .ok ()

namespace Layout

variable (layout : Layout)

theorem exists_key (key : AttributeKey) (before : List Token) :
    ∃ token, (layout.putKey key before).2 = before ++ [token] ∧ token.IsSet ∧
      (token.kind = .name ∨ token.kind = .literal) := by
  cases key with
  | name written isWhole =>
    exact ⟨_, rfl, layout.isSet_token isWhole before, Or.inl rfl⟩
  | literal quoted =>
    exact ⟨_, rfl, layout.isSet_token quoted.isWhole before, Or.inr rfl⟩

theorem exists_attribute (pair : ImportAttribute) (before : List Token) :
    ∃ tree, attributePairs.Realizes before (layout.putAttribute pair before) tree := by
  obtain ⟨key, written, keySet, keyKind⟩ := layout.exists_key pair.key before
  simp only [putAttribute, Writing.bind_apply, Writing.discard_apply, layout.put_eq, written]
  have colonSet : (layout.token (before ++ [key]) .colon (text ":")).IsSet :=
    layout.isSet_mark ':' rfl (before ++ [key])
  have colonKind : (layout.token (before ++ [key]) .colon (text ":")).kind = .colon := rfl
  generalize layout.token (before ++ [key]) .colon (text ":") = colon at colonSet colonKind ⊢
  have valueSet := layout.isSet_token pair.value.isWhole (before ++ [key] ++ [colon])
  have valueKind : (layout.token (before ++ [key] ++ [colon]) .literal pair.value.written).kind =
      .literal := rfl
  refine ⟨⟨key, colon, _⟩, ?_, ?_, ⟨keyKind, colonKind, valueKind⟩, rfl⟩
  · rw [List.append_assoc, List.append_assoc]
    rfl
  · exact List.forall_mem_cons.mpr ⟨keySet, List.forall_mem_cons.mpr
      ⟨colonSet, List.forall_mem_singleton.mpr valueSet⟩⟩

theorem exists_attributes (attributes : Option (List ImportAttribute)) (before : List Token) :
    ∃ tree, attributeClauses.Realizes before (layout.putAttributes attributes before) tree := by
  cases attributes with
  | none =>
    refine ⟨none, (List.append_nil before).symm, List.forall_mem_nil _, ?_, rfl⟩
    exact fun pair member => absurd member (Option.not_mem_none pair)
  | some attributes =>
    have whole : tokenSize? (text "with") = some (.name, (text "with").length) := by
      decide +kernel
    have withSet : Token.IsSet ⟨layout.withGap, .name, text "with"⟩ := ⟨layout.isWithGap, whole⟩
    have word : Token.isWord ⟨layout.withGap, .name, text "with"⟩ (text "with") = true := by
      simp [Token.isWord]
    have sameLine : Token.startsLine ⟨layout.withGap, .name, text "with"⟩ = false := layout.sameLine
    have written : (layout.putAttributes (some attributes) before).2 =
        (layout.putListing layout.putAttribute layout.attributeComma attributes
          (before ++ [⟨layout.withGap, .name, text "with"⟩])).2 := rfl
    generalize (⟨layout.withGap, .name, text "with"⟩ : Token) = withWord
      at withSet word sameLine written
    obtain ⟨listed, realizes⟩ := layout.exists_listing
      (fun pair before => layout.exists_attribute pair before) layout.attributeComma attributes
      (before ++ [withWord])
    refine ⟨some (withWord, listed), ?_, ?_, fun pair member => ?_, rfl⟩
    · rw [written, realizes.tokens, List.append_assoc]
      rfl
    · exact List.forall_mem_cons.mpr ⟨withSet, realizes.set⟩
    · cases member
      exact ⟨word, sameLine, realizes.formed⟩

theorem exists_end (before : List Token) :
    ∃ tree, terminators.Realizes before (layout.putEnd before) tree := by
  rw [putEnd]
  cases layout.semicolon with
  | false =>
    refine ⟨none, (List.append_nil before).symm, List.forall_mem_nil _, ?_, rfl⟩
    exact fun token member => absurd member (Option.not_mem_none token)
  | true =>
    have markSet : (layout.token before .semicolon (text ";")).IsSet :=
      layout.isSet_mark ';' rfl before
    refine ⟨some (layout.token before .semicolon (text ";")), rfl, ?_, ?_, rfl⟩
    · exact List.forall_mem_singleton.mpr markSet
    · intro token member
      cases member
      rfl

end Layout

/-! ### Declarations -/

/-- What stands between the word `import` and the source. -/
def clauseParts (dialect : Dialect) : Category (Option Clause) (List Specifier) where
  tokens tree := tree.elim [] Clause.tokens
  IsFormed tree := ∀ clause ∈ tree, (clauses dialect).IsFormed clause
  meaning offset tree := tree.elim (.ok []) (Clause.specifiers offset)

/-- Declarations, of which those that are cut short need not be well-formed as a whole. -/
def declarations (dialect : Dialect) : Category Declaration (List Specifier) where
  tokens := Declaration.tokens
  IsFormed tree := tree.keyword.isWord (text "import") = true ∧
    (clauseParts dialect).IsFormed tree.clause ∧ tree.source.kind = .literal ∧
      attributeClauses.IsFormed tree.attributes ∧ terminators.IsFormed tree.terminator
  meaning := Declaration.specifiers

/-- A declaration whose clause is cut short. -/
def Declaration.IsCutShort (declaration : Declaration) : Prop :=
  ∃ clause ∈ declaration.clause, clause.IsCutShort

theorem Declaration.isFramed_of_isFormed {dialect : Dialect} {declaration : Declaration}
    (formed : (declarations dialect).IsFormed declaration) (whole : ¬ declaration.IsCutShort) :
    declaration.IsFramed dialect where
  keyword := formed.1
  clause clause stated :=
    Clause.isFramed_of_isFormed (formed.2.1 clause stated)
      fun short => whole ⟨clause, stated, short⟩
  source := formed.2.2.1
  attributes := formed.2.2.2.1
  terminator := formed.2.2.2.2

/-- The tokens with which a declaration starts that is cut short. -/
theorem Declaration.tokens_of_isCutShort {dialect : Dialect} {declaration : Declaration}
    (formed : (declarations dialect).IsFormed declaration) (short : declaration.IsCutShort) :
    ∃ modifier binding comma later,
      declaration.tokens = declaration.keyword :: modifier :: binding :: comma :: later ∧
        modifier.kind = .name ∧ binding.isWord (text "from") = true ∧ comma.kind = .comma := by
  obtain ⟨clause, stated, modified, paired⟩ := short
  obtain ⟨modifies, ⟨framed, -⟩, -⟩ := formed.2.1 clause stated
  obtain ⟨modifier, taken⟩ := Option.isSome_iff_exists.mp modified
  cases both : clause.bindings with
  | both binding comma members =>
    rw [both] at framed paired
    have tokens : ∃ later, declaration.tokens =
        declaration.keyword :: modifier :: binding :: comma :: later := by
      rw [Declaration.tokens, stated]
      simp [Clause.tokens, taken, both, Bindings.tokens]
    obtain ⟨later, tokens⟩ := tokens
    refine ⟨modifier, binding, comma, later, tokens,
      Token.kind_of_isModifier (modifies modifier taken), ?_, framed.2.1⟩
    rw [Token.isWord, framed.1, Option.some.inj paired]
    rfl
  | single binding =>
    rw [both] at paired
    cases paired
  | group members =>
    rw [both] at paired
    cases paired

namespace Layout

variable {dialect : Dialect} (layout : Layout)

theorem exists_clausePart (clause : Option (ImportClause dialect)) (before : List Token) :
    ∃ tree, (clauseParts dialect).Realizes before (clause.elim (pure []) layout.putClause before)
        tree ∧
      ((∃ stated ∈ tree, stated.IsCutShort) ↔ ∃ stated ∈ clause, stated.IsCutShort) := by
  cases clause with
  | none =>
    refine ⟨none, ⟨(List.append_nil before).symm, List.forall_mem_nil _, ?_, rfl⟩, ?_⟩
    · exact fun clause member => absurd member (Option.not_mem_none clause)
    · simp
  | some clause =>
    obtain ⟨tree, ⟨tokens, set, formed, meaning⟩, same⟩ := layout.exists_clause clause before
    refine ⟨some tree, ⟨tokens, set, ?_, meaning⟩, ?_⟩
    · intro other member
      cases member
      exact formed
    · simpa using same

theorem exists_declaration (declared : Import dialect) :
    ∃ tree, (declarations dialect).Realizes [] (layout.putImport declared []) tree ∧
      tree.keyword.gap = layout.gap 0 ∧ tree.source.body = declared.source.written ∧
        (tree.IsCutShort ↔ declared.IsCutShort) := by
  simp only [putImport, Writing.bind_apply, Writing.discard_apply, Writing.pure_apply,
    layout.put_eq, List.nil_append]
  have word := layout.isWord_token [] (text "import")
  have wordSet : (layout.token [] .name (text "import")).IsSet :=
    layout.isSet_token (by decide +kernel) []
  have wordGap : (layout.token [] .name (text "import")).gap = layout.gap 0 := rfl
  generalize layout.token [] .name (text "import") = keyword at word wordSet wordGap ⊢
  obtain ⟨clause, first, cut⟩ := layout.exists_clausePart declared.clause [keyword]
  generalize declared.clause.elim (pure []) layout.putClause [keyword] = outcome at first ⊢
  have sourceSet := layout.isSet_token declared.source.isWhole outcome.2
  have sourceKind : (layout.token outcome.2 .literal declared.source.written).kind = .literal := rfl
  have sourceBody : (layout.token outcome.2 .literal declared.source.written).body =
      declared.source.written := rfl
  generalize layout.token outcome.2 .literal declared.source.written = source
    at sourceSet sourceKind sourceBody ⊢
  obtain ⟨attributes, second⟩ :=
    layout.exists_attributes declared.attributes (outcome.2 ++ [source])
  generalize (layout.putAttributes declared.attributes (outcome.2 ++ [source])) = behind at second ⊢
  obtain ⟨terminator, last⟩ := layout.exists_end behind.2
  refine ⟨⟨keyword, clause, source, attributes, terminator⟩, ⟨?_, ?_, ⟨word, first.formed,
    sourceKind, second.formed, last.formed⟩, ?_⟩, wordGap, sourceBody, cut⟩
  · rw [last.tokens, second.tokens, first.tokens]
    simp only [List.append_assoc, List.cons_append, List.nil_append]
    rfl
  · refine List.forall_mem_cons.mpr ⟨wordSet, List.forall_mem_append.mpr ⟨first.set,
      List.forall_mem_cons.mpr ⟨sourceSet, List.forall_mem_append.mpr ⟨?_, last.set⟩⟩⟩⟩
    exact second.set
  · have meaning := first.meaning
    rw [show Tokens.width [keyword] = 0 + keyword.width from Nat.add_comm _ 0] at meaning
    cases clause with
    | none => exact meaning
    | some clause => exact meaning

end Layout

/-! ### Reading what has been written -/

namespace Import

variable {dialect : Dialect} {declared : Import dialect} {layout : Layout}

/-- The text of a declaration is scanned as the tokens that have been written. -/
theorem Fits.scan (fits : declared.Fits layout) {tree : Declaration}
    (written : (declarations dialect).Realizes [] (layout.putImport declared []) tree) :
    ImportBinding.scan (declared.written layout) = .ok (tree.tokens, layout.tail) := by
  have tokens : declared.tokens layout = tree.tokens := written.tokens
  refine scan_eq_ok_iff.mpr ⟨fits.clean, ?_, ⟨?_, ?_, ?_⟩, layout.isTail⟩
  · rw [Import.written, tokens]
  · exact fun token member => (written.set token member).gap
  · exact fun token member => (written.set token member).whole
  · rw [← tokens]
    exact fits.apart

/-- A declaration is read off its text, whatever the layout, unless it is cut short. -/
theorem readStatement_eq (fits : declared.Fits layout) (whole : ¬ declared.IsCutShort) :
    readStatement [] dialect (declared.written layout) = .ok (some (declared.node layout)) := by
  obtain ⟨tree, written, start, source, short⟩ := layout.exists_declaration declared
  have framed := Declaration.isFramed_of_isFormed written.formed fun cut => whole (short.mp cut)
  have accepted : tree.bindings.all Token.isIdentifier = true := by
    rw [Declaration.bindings]
    cases stated : tree.clause with
    | none => rfl
    | some clause => exact (written.formed.2.1 clause stated).2.1.2
  have scanned := fits.scan written
  have opens : tree.Opens dialect (declared.written layout) [] [] layout.tail := by
    refine ⟨?_, framed, ?_, accepted, ?_⟩
    · rw [List.append_nil]
      exact scanned
    · exact fun _ next member => absurd member (Option.not_mem_none next)
    · rw [readItems]
  refine readStatement_eq_ok_some_iff.mpr
    ⟨surrogates?_eq_none_iff.mpr fits.encodes, tree, [], [], layout.tail, opens, ?_⟩
  refine Declaration.node_eq_ok_iff.mpr
    ⟨declared.specifiers layout, declared.source.value, written.meaning, ?_, ?_, ?_⟩
  · refine reservedFault?_eq_none_iff.mpr (List.forall_mem_map.mpr fun specifier member => ?_)
    have among := List.mem_map_of_mem (f := Specifier.introduced) member
    rw [declared.introduced_specifiers] at among
    exact declared.not_mem_reservedWords _ among
  · rw [Token.literalValue, source]
    exact declared.source.literalValue_eq
  · rw [node, start, Nat.zero_add, Nat.zero_add, Tokens.length_written]
    rw [show declared.tokens layout = tree.tokens from written.tokens]

/-- A declaration that is cut short is not read, whatever the layout. -/
theorem exists_fault (fits : declared.Fits layout) (short : declared.IsCutShort) :
    ∃ fault, readStatement [] dialect (declared.written layout) = .error (.illFormed fault) := by
  obtain ⟨tree, written, -, -, same⟩ := layout.exists_declaration declared
  obtain ⟨modifier, binding, comma, later, tokens, named, word, separates⟩ :=
    Declaration.tokens_of_isCutShort written.formed (same.mpr short)
  have scanned := fits.scan written
  have unread : (Declaration.read dialect tree.tokens).toOption = none := by
    rw [tokens]
    exact Declaration.read_of_pair named word separates
  obtain ⟨fault, failed⟩ := Program.exists_fault scanned (List.cons_ne_nil _ _) unread
  refine ⟨fault, ?_⟩
  rw [readStatement_nil (surrogates?_eq_none_iff.mpr fits.encodes), failed]

/-- Reading recovers a declaration from its text in every layout that the grammar allows: the
bindings that the declaration introduces, in their order, each name where it is written, and the
source. The one form that the grammar cannot tell apart is not read in any layout. -/
theorem readStatement_written (declared : Import dialect) (layout : Layout)
    (fits : declared.Fits layout) :
    (declared.IsCutShort → ∃ fault,
      readStatement [] dialect (declared.written layout) = .error (.illFormed fault)) ∧
    (¬ declared.IsCutShort →
      readStatement [] dialect (declared.written layout) = .ok (some (declared.node layout)) ∧
        (declared.node layout).specifiers.map Specifier.introduced = declared.introduced ∧
        ∀ specifier ∈ (declared.node layout).specifiers,
          specifier.Spans (declared.written layout)) :=
  ⟨exists_fault fits, fun whole =>
    ⟨readStatement_eq fits whole, introduced_specifiers _ _, spans_specifiers _ _⟩⟩

/-- The module `m` in quotes. -/
def sourceM : StringLiteral :=
  @StringLiteral.ofValue (text "'m'") (text "m") (by decide +kernel)
    (toOption_eq_some_iff.mp (by decide +kernel))

/-- A type import of a default export as `from`, and of an export `as`. -/
def fromAndAs : Import .typescript where
  clause := some ⟨some (.type rfl), .group (.named
    [⟨none, .renamed .default (.ofText (text "from") (by decide +kernel))⟩,
      ⟨none, .same (.ofText (text "as") (by decide +kernel))⟩])⟩
  source := sourceM
  attributes := none

/-- Comments in the place of blanks, and a comma behind the last entry. -/
def comments : Layout :=
  @Layout.uniform 11 (text "/**/") (text "//") (by decide +kernel) (by decide +kernel) true false

theorem readStatement_written_fromAndAs :
    fromAndAs.Fits comments ∧ ¬ fromAndAs.IsCutShort ∧
      readStatement [] .typescript (text ("import/**/type/**/\x7b/**/default/**/as" ++
        "/**/from/**/,/**/as/**/,/**/\x7d/**/from/**/'m'//")) =
        .ok (some ⟨importKind, 0, 80, [.named ⟨text "default", 23, 30⟩ ⟨text "from", 40, 44⟩,
          .named ⟨text "as", 53, 55⟩ ⟨text "as", 53, 55⟩], some (text "m")⟩) := by
  have fits : fromAndAs.Fits comments := ⟨by decide +kernel, by decide +kernel, by decide +kernel⟩
  have whole : ¬ fromAndAs.IsCutShort := by
    rintro ⟨clause, stated, -, binding, members, both, -⟩
    cases stated
    cases both
  have written : fromAndAs.written comments = text ("import/**/type/**/\x7b/**/default/**/as" ++
      "/**/from/**/,/**/as/**/,/**/\x7d/**/from/**/'m'//") := by decide +kernel
  have node : fromAndAs.node comments = ⟨importKind, 0, 80,
      [.named ⟨text "default", 23, 30⟩ ⟨text "from", 40, 44⟩,
        .named ⟨text "as", 53, 55⟩ ⟨text "as", 53, 55⟩], some (text "m")⟩ := by decide +kernel
  have read := ((readStatement_written fromAndAs comments fits).2 whole).1
  rw [written, node] at read
  exact ⟨fits, whole, read⟩

end Import

end ImportBinding
