/-
This file says what renaming does.

A single name is taken over exactly when it is neither a keyword nor a reserved word, and then
nothing else about the statement changes. Any other text is pasted into the statement all the same:
the statement is read anew, and when that succeeds its local name is the given text only if that is
a single name.
-/

import ImportBinding.Proofs.Splicing

namespace ImportBinding

/-! ### Texts that are no programs -/

/-- A text that does not start with a declaration is no program. -/
theorem Program.exists_fault {dialect : Dialect} {content tail : Text} {tokens : List Token}
    (scanned : scan content = .ok (tokens, tail)) (nonempty : tokens ≠ [])
    (unread : (Declaration.read dialect tokens).toOption = none) :
    ∃ fault, Program.ofText dialect content = .error fault := by
  cases parsed : Program.ofText dialect content with
  | error fault => exact ⟨fault, rfl⟩
  | ok program =>
    obtain ⟨found, rescanned, read⟩ := Program.ofText_eq_ok_iff.mp parsed
    rw [scanned] at rescanned
    cases rescanned
    obtain ⟨items, end_⟩ := program
    rcases readProgram_eq_ok_cases read with ⟨none, -⟩ | ⟨declaration, later, rfl⟩
    · exact absurd none nonempty
    · obtain ⟨rest, first, -⟩ := readProgram_eq_ok_cons_iff.mp read
      rw [first] at unread
      cases unread

namespace Statement

/-- A text in normal form that is no program is refused. -/
theorem ofText_of_fault {given : Text} {dialect : Dialect} {fault : SyntaxFault}
    (normal : IsNormal given)
    (read : readStatement [] dialect given = .error (.illFormed fault)) :
    ofText [] given dialect = .error (.refused ⟨.text given, .illFormed fault given⟩) := by
  have same := normalForm_of_isNormal normal
  rw [← same] at read
  have refused := ofText_of_illFormed read
  rw [same] at refused
  exact refused

theorem imported_eq_of_renamed {statement renamed : Statement} {name : Text}
    (same : renamed.specifier = statement.specifier.renamed name) :
    renamed.imported = statement.imported := by
  rw [imported, imported, same]
  cases statement.specifier <;> rfl

section Slot

variable {statement : Statement} {declaration : Declaration} {rest : List Token}
  {later : List Item} {tail : Text} {front back : List Token} {slot : Token} {name : Text}
  (reads : statement.Reads declaration rest later tail)
  (has : HasSlot 0 statement.specifier declaration.tokens
    (fun name => (declaration.rebind name).tokens)
    (fun name => (declaration.rebind name).specifiers 0) (declaration.keyword :: front) slot back)

theorem Reads.encodes_spliced (reads : statement.Reads declaration rest later tail)
    (encodes : ∀ point ∈ name, point.isSurrogate = false) :
    (statement.spliced name).surrogates? (fun _ => false) = none :=
  surrogates?_eq_none_iff.mpr
    (forall_mem_spliced (surrogates?_eq_none_iff.mp reads.encodes) encodes (by decide))

include reads has

/-- The one local name of the changed declaration. -/
theorem Reads.bindings_rebind (framed : (declaration.rebind name).IsFramed statement.dialect) :
    ∃ token, (declaration.rebind name).bindings = [token] ∧ token.kind = .name ∧
      token.body = name := by
  have names := Declaration.names_of_specifiers framed (has.renamed name)
  rw [List.map_singleton, Specifier.name_renamed] at names
  obtain ⟨token, bindings, body⟩ := List.map_eq_singleton_iff.mp names.symm
  have member : token ∈ (declaration.rebind name).bindings := by
    rw [bindings]
    exact List.mem_singleton_self token
  exact ⟨token, bindings, reads.opens.framed.mem_bindings_rebind member⟩

theorem Reads.accepts_rebind_iff (framed : (declaration.rebind name).IsFramed statement.dialect) :
    (declaration.rebind name).bindings.all Token.isIdentifier = true ↔ name ∉ keywords := by
  obtain ⟨token, bindings, named, body⟩ := reads.bindings_rebind has framed
  rw [bindings, List.all_cons, List.all_nil, Bool.and_true, Token.isIdentifier, named, body]
  simp

/-- A new local name that is no keyword leaves the text a program, unless it is taken for the end of
the clause. -/
theorem Reads.opens_spliced (single : IsName name) (fresh : name ∉ keywords)
    (pair : ∀ clause ∈ declaration.clause, clause.ModifiesPair → name ≠ text "from") :
    (declaration.rebind name).Opens statement.dialect (statement.spliced name) rest later tail := by
  have framed := reads.opens.framed.rebind reads.opens.accepted pair
  exact ⟨reads.scan_spliced has single, framed, reads.opens.ends,
    (reads.accepts_rebind_iff has framed).mpr fresh, reads.opens.others⟩

/-- With a keyword for a local name the text is no program. -/
theorem Reads.exists_fault_of_keyword (single : IsName name) (keyword : name ∈ keywords) :
    ∃ fault, Program.ofText statement.dialect (statement.spliced name) = .error fault := by
  have notFrom : name ≠ text "from" := by
    rintro rfl
    exact absurd keyword (by decide)
  have framed := reads.opens.framed.rebind reads.opens.accepted fun _ _ _ => notFrom
  have rejected := mt (reads.accepts_rebind_iff has framed).mp (not_not.mpr keyword)
  refine Program.exists_fault (reads.scan_spliced has single) (List.cons_ne_nil _ _) ?_
  rw [Declaration.read_tokens framed reads.opens.ends, if_neg rejected]

/-- With the word `from` between a modifier and a comma the text is no program. -/
theorem Reads.exists_fault_of_pair (single : IsName (text "from")) {clause : Clause}
    (stated : declaration.clause = some clause) (pair : clause.ModifiesPair) :
    ∃ fault, Program.ofText statement.dialect (statement.spliced (text "from")) = .error fault := by
  refine Program.exists_fault (reads.scan_spliced has single) (List.cons_ne_nil _ _) ?_
  have framed := reads.opens.framed.clause clause stated
  obtain ⟨modified, binding, comma, members, both⟩ := pair
  obtain ⟨modifier, taken⟩ := Option.isSome_iff_exists.mp modified
  have parts := framed.bindings
  rw [both] at parts
  have word : ({ binding with body := text "from" } : Token).isWord (text "from") = true := by
    rw [Token.isWord, parts.1]
    rfl
  have tokens : ∃ behind, (declaration.rebind (text "from")).tokens ++ rest =
      declaration.keyword :: modifier :: { binding with body := text "from" } :: comma ::
        behind := by
    rw [Declaration.tokens_append, Declaration.rebind, stated]
    simp [Clause.tokens, Clause.rebind, taken, both, Bindings.rebind, Bindings.tokens]
  obtain ⟨behind, tokens⟩ := tokens
  rw [tokens]
  exact Declaration.read_of_pair (Token.kind_of_isModifier (framed.modifier modifier taken)) word
    parts.2.1

/-- A changed text that is no program is refused. -/
theorem Reads.rename_of_fault {fault : SyntaxFault} (sourced : declaration.source ∈ back)
    (encodes : ∀ point ∈ name, point.isSurrogate = false)
    (unread : Program.ofText statement.dialect (statement.spliced name) = .error fault) :
    statement.rename [] (.text name) = .error (.refused
      ⟨.text (statement.spliced name), .illFormed fault (statement.spliced name)⟩) := by
  refine ofText_of_fault (reads.isNormal_spliced has sourced name) ?_
  rw [readStatement_nil (reads.encodes_spliced encodes), unread]

/-- A reserved word is refused where it stands in the changed text. -/
theorem Reads.rename_of_reserved (sourced : declaration.source ∈ back) (single : IsName name)
    (encodes : ∀ point ∈ name, point.isSurrogate = false) (reserved : name ∈ reservedWords) :
    statement.rename [] (.text name) = .error (.refused ⟨.text (statement.spliced name),
      .illFormed (.reserved name (statement.specifier.renamed name).binding.start)
        (statement.spliced name)⟩) := by
  have plain : ∀ word ∈ reservedWords, word ∉ keywords ∧ word ≠ text "from" := by decide
  obtain ⟨fresh, notFrom⟩ := plain name reserved
  have opens := reads.opens_spliced has single fresh fun _ _ _ => notFrom
  have parsed := Program.ofText_eq_ok_cons_iff.mpr ⟨rest, opens⟩
  have node : (declaration.rebind name).node 0 = .error (.illFormed
      (.reserved name (statement.specifier.renamed name).binding.start)) := by
    rw [Declaration.node_of_specifiers (has.renamed name), reservedFault?_singleton,
      Specifier.name_renamed, if_pos reserved]
  refine ofText_of_fault (reads.isNormal_spliced has sourced name) ?_
  rw [readStatement_nil (reads.encodes_spliced encodes), parsed]
  show ((declaration.rebind name).node 0).map some = _
  rw [node]
  rfl

/-- Any other name is taken over, and nothing else about the statement changes. -/
theorem Reads.rename_of_free (sourced : declaration.source ∈ back) (single : IsName name)
    (encodes : ∀ point ∈ name, point.isSurrogate = false)
    (pair : ∀ clause ∈ declaration.clause, clause.ModifiesPair → name ≠ text "from")
    (fresh : name ∉ keywords) (free : name ∉ reservedWords) :
    ∃ renamed, statement.rename [] (.text name) = .ok renamed ∧
      renamed.Reads (declaration.rebind name) rest later tail ∧
        renamed.specifier = statement.specifier.renamed name ∧
          renamed.source = statement.source ∧ renamed.dialect = statement.dialect := by
  obtain ⟨specifiers, source, -, -, valued, node⟩ := Declaration.node_eq_ok_iff.mp reads.node
  have unreserved : reservedFault? [statement.specifier.renamed name] = none := by
    rw [reservedFault?_singleton, Specifier.name_renamed, if_neg free]
  let changed : Node := ⟨importKind, 0 + declaration.keyword.gap.length,
    0 + Tokens.width (declaration.rebind name).tokens, [statement.specifier.renamed name],
    some source⟩
  have made : (declaration.rebind name).node 0 = .ok changed :=
    Declaration.node_eq_ok_iff.mpr ⟨_, source, has.renamed name, unreserved, valued, rfl⟩
  let renamed : Statement :=
    ⟨statement.spliced name, statement.spliced name, statement.dialect, changed,
      statement.specifier.renamed name, rfl⟩
  have normal := reads.isNormal_spliced has sourced name
  have reread : renamed.Reads (declaration.rebind name) rest later tail :=
    ⟨normal, reads.encodes_spliced encodes, reads.opens_spliced has single fresh pair, made⟩
  refine ⟨renamed, ofText_eq_ok_iff.mpr ⟨rfl, (normalForm_of_isNormal normal).symm, rfl,
    declaration.rebind name, rest, later, tail, reread⟩, reread, rfl, ?_, rfl⟩
  show some source = statement.node.source
  rw [node]

theorem Reads.rename_of_keyword (sourced : declaration.source ∈ back) (single : IsName name)
    (encodes : ∀ point ∈ name, point.isSurrogate = false) (keyword : name ∈ keywords) :
    ∃ refusal, statement.rename [] (.text name) = .error (.refused refusal) := by
  obtain ⟨fault, unread⟩ := reads.exists_fault_of_keyword has single keyword
  exact ⟨_, reads.rename_of_fault has sourced encodes unread⟩

/-- A statement is not renamed to a text with surrogates. -/
theorem Reads.encodes_of_rename {renamed : Statement} (sourced : declaration.source ∈ back)
    (done : statement.rename [] (.text name) = .ok renamed) :
    ∀ point ∈ name, point.isSurrogate = false := by
  obtain ⟨-, content, -, declaration', rest', later', tail', reread⟩ := ofText_eq_ok_iff.mp done
  have every := surrogates?_eq_none_iff.mp reread.encodes
  rw [content, normalForm_of_isNormal (reads.isNormal_spliced has sourced name),
    reads.spliced_eq has] at every
  refine fun point member => every point ?_
  exact List.mem_append_right _ (List.mem_append_right _ (List.mem_append_left _ member))

/-- A name that a statement was renamed to is neither a keyword nor a reserved word, and was not
taken for the end of the clause. -/
theorem Reads.free_of_rename {renamed : Statement} (sourced : declaration.source ∈ back)
    (single : IsName name) (encodes : ∀ point ∈ name, point.isSurrogate = false)
    (done : statement.rename [] (.text name) = .ok renamed) :
    name ∉ keywords ∧ name ∉ reservedWords ∧
      ∀ clause ∈ declaration.clause, clause.ModifiesPair → name ≠ text "from" := by
  refine ⟨fun keyword => ?_, fun reserved => ?_, fun clause stated pair same => ?_⟩
  · obtain ⟨refusal, refused⟩ := reads.rename_of_keyword has sourced single encodes keyword
    rw [done] at refused
    cases refused
  · rw [reads.rename_of_reserved has sourced single encodes reserved] at done
    cases done
  · subst same
    obtain ⟨fault, unread⟩ := reads.exists_fault_of_pair has single stated pair
    rw [reads.rename_of_fault has sourced encodes unread] at done
    cases done

/-- What a statement is renamed to by a single name is read off the declaration with that local
name, followed by the tokens that were there. -/
theorem Reads.reads_renamed {renamed : Statement} (sourced : declaration.source ∈ back)
    (single : IsName name) (done : statement.rename [] (.text name) = .ok renamed) :
    renamed.Reads (declaration.rebind name) rest later tail ∧
      renamed.specifier = statement.specifier.renamed name ∧
        renamed.source = statement.source ∧ renamed.dialect = statement.dialect := by
  have encodes := reads.encodes_of_rename has sourced done
  obtain ⟨fresh, free, notFrom⟩ := reads.free_of_rename has sourced single encodes done
  obtain ⟨other, redone, changed⟩ :=
    reads.rename_of_free has sourced single encodes notFrom fresh free
  rw [done] at redone
  cases redone
  exact changed

/-- Renaming to a single name changes the local name and nothing else. -/
theorem Reads.renamed_eq {renamed : Statement} (sourced : declaration.source ∈ back)
    (single : IsName name) (done : statement.rename [] (.text name) = .ok renamed) :
    renamed.binding = name ∧ renamed.source = statement.source ∧
      renamed.imported = statement.imported ∧
        renamed.specifier.isLike statement.specifier = true ∧
          renamed.dialect = statement.dialect := by
  obtain ⟨-, specifier, source, dialect⟩ := reads.reads_renamed has sourced single done
  refine ⟨?_, source, imported_eq_of_renamed specifier, ?_, dialect⟩
  · rw [binding, specifier, Specifier.name_renamed]
  · rw [specifier]
    cases statement.specifier <;> rfl

end Slot

/-! ### Renaming to a single name -/

/-- Whether a modifier stands in front of the default binding of a statement and a comma behind
it. -/
def ModifiesPair (statement : Statement) : Prop :=
  ∃ program declaration clause,
    Program.ofText statement.dialect statement.content = .ok program ∧
      program.declarations.head? = some declaration ∧ declaration.clause = some clause ∧
        clause.ModifiesPair

theorem Reads.modifiesPair_iff {statement : Statement} {declaration : Declaration}
    {rest : List Token} {later : List Item} {tail : Text}
    (reads : statement.Reads declaration rest later tail) :
    statement.ModifiesPair ↔ ∃ clause ∈ declaration.clause, clause.ModifiesPair := by
  have parsed := Program.ofText_eq_ok_cons_iff.mpr ⟨rest, reads.opens⟩
  constructor
  · rintro ⟨program, first, clause, reparsed, head, stated, pair⟩
    rw [parsed] at reparsed
    cases reparsed
    cases head
    exact ⟨clause, stated, pair⟩
  · rintro ⟨clause, stated, pair⟩
    exact ⟨_, declaration, clause, parsed, rfl, stated, pair⟩

/-- A single name is taken over exactly when it is neither a keyword nor a reserved word; nothing
else about the statement changes then. A reserved word is refused at the place where it stands in
the changed text, and a keyword is refused too. Between a modifier and a comma the word `from` is
read in another way. -/
theorem rename_of_isName {statement : Statement} (built : statement.IsBuilt) {name : Text}
    (single : IsName name) (encodes : ∀ point ∈ name, point.isSurrogate = false)
    (pair : statement.ModifiesPair → name ≠ text "from") :
    ((∃ renamed, statement.rename [] (.text name) = .ok renamed) ↔
        name ∉ keywords ∧ name ∉ reservedWords) ∧
      (∀ renamed, statement.rename [] (.text name) = .ok renamed →
        renamed.binding = name ∧ renamed.source = statement.source ∧
          renamed.imported = statement.imported ∧
            renamed.specifier.isLike statement.specifier = true ∧
              renamed.dialect = statement.dialect) ∧
        (name ∈ reservedWords → ∃ before after refusal,
          (∀ other, statement.spliced other = before ++ other ++ after) ∧
            statement.rename [] (.text name) = .error (.refused refusal) ∧
              refusal.position = some (before.length : Int)) ∧
          (name ∈ keywords → ∃ refusal,
            statement.rename [] (.text name) = .error (.refused refusal)) := by
  obtain ⟨declaration, rest, later, tail, reads⟩ := built.exists_reads
  obtain ⟨front, slot, back, has, sourced⟩ := reads.exists_slot
  have notFrom : ∀ clause ∈ declaration.clause, clause.ModifiesPair → name ≠ text "from" :=
    fun clause stated modified => pair (reads.modifiesPair_iff.mpr ⟨clause, stated, modified⟩)
  refine ⟨⟨?_, fun ⟨fresh, free⟩ => ?_⟩, fun renamed => reads.renamed_eq has sourced single,
    fun reserved => ?_, reads.rename_of_keyword has sourced single encodes⟩
  · rintro ⟨renamed, done⟩
    obtain ⟨fresh, free, -⟩ := reads.free_of_rename has sourced single encodes done
    exact ⟨fresh, free⟩
  · obtain ⟨renamed, done, -⟩ :=
      reads.rename_of_free has sourced single encodes notFrom fresh free
    exact ⟨renamed, done⟩
  · refine ⟨Tokens.written (declaration.keyword :: front) ++ statement.specifier.lead slot,
      Tokens.written (back ++ rest) ++ tail, _, fun other => ?_,
      reads.rename_of_reserved has sourced single encodes reserved, ?_⟩
    · rw [reads.spliced_eq has]
      simp only [List.append_assoc]
    · rw [← Specifier.start_renamed has.stands name]
      rfl

/-- A default binding is renamed and keeps its module. -/
theorem rename_of_isName_default :
    ∃ statement : Statement, statement.IsBuilt ∧ statement.source = some (text "vendor/button") ∧
      ∃ renamed, statement.rename [] (.text (text "Button2")) = .ok renamed ∧
        renamed.binding = text "Button2" ∧ renamed.source = statement.source := by
  have known : (ofValue [] (.text (text "Button from 'vendor/button'"))
      (.ok (text "javascript"))).toOption.map source = some (some (text "vendor/button")) := by
    decide +kernel
  obtain ⟨statement, made, sourced⟩ := exists_ok_of_map_toOption known
  have single : IsName (text "Button2") := isName_iff.mpr ⟨by decide, by decide +kernel⟩
  obtain ⟨accepted, kept, -⟩ :=
    rename_of_isName (.new made) single (by decide) (fun _ => by decide)
  obtain ⟨renamed, done⟩ := accepted.mpr ⟨by decide, by decide⟩
  obtain ⟨name, same, -⟩ := kept renamed done
  exact ⟨statement, .new made, sourced, renamed, done, name, same⟩

/-! ### Renaming to any text -/

/-- What a statement is renamed to becomes its local name, and nothing else about it changes,
exactly when that is a single name. -/
theorem rename_takes_over_iff {statement renamed : Statement} (built : statement.IsBuilt)
    {name : Text} (done : statement.rename [] (.text name) = .ok renamed) :
    (renamed.binding = name ∧ renamed.source = statement.source ∧
        renamed.imported = statement.imported ∧ renamed.dialect = statement.dialect) ↔
      IsName name := by
  obtain ⟨declaration, rest, later, tail, reads⟩ := built.exists_reads
  obtain ⟨front, slot, back, has, sourced⟩ := reads.exists_slot
  constructor
  · rintro ⟨rfl, -⟩
    obtain ⟨declaration', rest', later', tail', reread⟩ := (built.renamed done).exists_reads
    exact reread.isName_binding
  · intro single
    obtain ⟨binding, source, imported, -, dialect⟩ := reads.renamed_eq has sourced single done
    exact ⟨binding, source, imported, dialect⟩

/-- A default binding takes over a single name. -/
theorem rename_takes_over_default :
    ∃ statement renamed : Statement, statement.IsBuilt ∧
      statement.rename [] (.text (text "Button2")) = .ok renamed ∧
        renamed.binding = text "Button2" := by
  have known : (ofValue [] (.text (text "Button from 'vendor/button'"))
      (.ok (text "javascript"))).toOption.map (fun statement =>
        (statement.rename [] (.text (text "Button2"))).toOption.isSome) = some true := by
    decide +kernel
  obtain ⟨statement, made, accepted⟩ := exists_ok_of_map_toOption known
  obtain ⟨renamed, done⟩ := Option.isSome_iff_exists.mp accepted
  have done := toOption_eq_some_iff.mp done
  have single : IsName (text "Button2") := isName_iff.mpr ⟨by decide, by decide +kernel⟩
  have taken := (rename_takes_over_iff (.new made) done).mpr single
  exact ⟨statement, renamed, .new made, done, taken.1⟩

/-- Text that ends the declaration and starts another one is pasted into a statement: what comes out
has another local name and another module. -/
theorem rename_to_other_module :
    ∃ statement renamed : Statement,
      ofValue [] (.text (text "x from 'a'")) (.ok (text "javascript")) = .ok statement ∧
        statement.rename [] (.text (text "y from 'b'; import z")) = .ok renamed ∧
          renamed.binding = text "y" ∧ statement.source = some (text "a") ∧
            renamed.source = some (text "b") := by
  have known : (ofValue [] (.text (text "x from 'a'")) (.ok (text "javascript"))).toOption.map
      (fun statement => (statement.source,
        (statement.rename [] (.text (text "y from 'b'; import z"))).toOption.map fun renamed =>
          (renamed.binding, renamed.source))) =
        some (some (text "a"), some (text "y", some (text "b"))) := by
    decide +kernel
  obtain ⟨statement, made, told⟩ := exists_ok_of_map_toOption known
  obtain ⟨source, told⟩ := Prod.mk.inj told
  obtain ⟨renamed, done, told⟩ := exists_ok_of_map_toOption told
  obtain ⟨name, other⟩ := Prod.mk.inj told
  exact ⟨statement, renamed, made, done, name, source, other⟩

end Statement

end ImportBinding
