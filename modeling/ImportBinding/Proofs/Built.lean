/-
This file says what is known of every statement that there is.

A statement is built from a value, or made from another statement by renaming it. Either way its
text is in normal form and has no surrogates, and a declaration opens it whose node is the node of
the statement.
-/

import ImportBinding.Proofs.Normal
import ImportBinding.Proofs.Rebinding
import ImportBinding.Statement.Basic

namespace ImportBinding

/-! ### Nodes of declarations -/

theorem reservedFault?_singleton (specifier : Specifier) :
    reservedFault? [specifier] =
      if specifier.binding.name ∈ reservedWords then
        some (.reserved specifier.binding.name specifier.binding.start)
      else none := by
  rw [reservedFault?, List.find?_singleton]
  by_cases reserved : specifier.binding.name ∈ reservedWords <;> simp [reserved]

theorem Declaration.node_of_specifiers_error {declaration : Declaration} {offset : Nat}
    {failure : Failure} (failed : declaration.specifiers offset = .error failure) :
    declaration.node offset = .error failure := by
  rw [Declaration.node, failed]
  rfl

/-- The node of a declaration whose specifiers can be told. -/
theorem Declaration.node_of_specifiers {declaration : Declaration} {offset : Nat}
    {specifiers : List Specifier} (specified : declaration.specifiers offset = .ok specifiers) :
    declaration.node offset =
      match reservedFault? specifiers with
      | some fault => .error (.illFormed fault)
      | none => declaration.source.literalValue.map fun source =>
        ⟨importKind, offset + declaration.keyword.gap.length,
          offset + Tokens.width declaration.tokens, specifiers, some source⟩ := by
  rw [Declaration.node, specified, Node.ofImport, ok_bind]
  cases reservedFault? specifiers with
  | some fault => rfl
  | none => cases declaration.source.literalValue <;> rfl

/-- A declaration has a node when its specifiers and its source can be told and no local name is
reserved. -/
theorem Declaration.node_eq_ok_iff {declaration : Declaration} {offset : Nat} {node : Node} :
    declaration.node offset = .ok node ↔
      ∃ specifiers source, declaration.specifiers offset = .ok specifiers ∧
        reservedFault? specifiers = none ∧ declaration.source.literalValue = .ok source ∧
          node = ⟨importKind, offset + declaration.keyword.gap.length,
            offset + Tokens.width declaration.tokens, specifiers, some source⟩ := by
  constructor
  · intro made
    cases specified : declaration.specifiers offset with
    | error failure =>
      rw [Declaration.node_of_specifiers_error specified] at made
      cases made
    | ok specifiers =>
      rw [Declaration.node_of_specifiers specified] at made
      cases free : reservedFault? specifiers with
      | some fault =>
        rw [free] at made
        cases made
      | none =>
        rw [free] at made
        obtain ⟨source, valued, same⟩ := map_eq_ok_iff.mp made
        exact ⟨specifiers, source, rfl, free, valued, same.symm⟩
  · rintro ⟨specifiers, source, specified, free, valued, rfl⟩
    rw [Declaration.node_of_specifiers specified, free, valued]
    rfl

/-! ### Surrogates -/

theorem surrogates?_eq_none_iff {content : Text} :
    content.surrogates? (fun _ => false) = none ↔ ∀ point ∈ content, point.isSurrogate = false := by
  rw [Text.surrogates?]
  have every : (content.dropWhile fun point => !point.isSurrogate || false) = [] ↔
      ∀ point ∈ content, point.isSurrogate = false := by
    simp only [Bool.or_false, List.dropWhile_eq_nil_iff, Bool.not_eq_true']
  rw [← every]
  split
  · rename_i none
    exact ⟨fun _ => none, fun _ => rfl⟩
  · rename_i some
    rw [some]
    exact ⟨nofun, nofun⟩

/-! ### Reading without recorded trees -/

theorem recordedTree?_nil (dialect : Dialect) (content : Text) :
    recordedTree? [] dialect content = none := rfl

/-- A text without surrogates is read by the grammar when no trees are recorded. -/
theorem readStatement_nil {content : Text} (encodes : content.surrogates? (fun _ => false) = none)
    (dialect : Dialect) :
    readStatement [] dialect content =
      match Program.ofText dialect content with
      | .error fault => .error (.illFormed fault)
      | .ok program => program.node? := by
  rw [readStatement, encodes, recordedTree?_nil]
  rfl

theorem Program.node?_cons (declaration : Declaration) (later : List Item) (tail : Text) :
    (⟨.declaration declaration :: later, tail⟩ : Program).node? =
      (declaration.node 0).map some := rfl

/-- A statement is read off a text exactly when the text has no surrogates and a declaration opens
it that has the node of the statement. -/
theorem readStatement_eq_ok_some_iff {dialect : Dialect} {content : Text} {node : Node} :
    readStatement [] dialect content = .ok (some node) ↔
      content.surrogates? (fun _ => false) = none ∧
        ∃ (declaration : Declaration) (rest : List Token) (later : List Item) (tail : Text),
          declaration.Opens dialect content rest later tail ∧ declaration.node 0 = .ok node := by
  constructor
  · intro read
    cases encodes : content.surrogates? fun _ => false with
    | some stretch =>
      rw [readStatement, encodes] at read
      cases read
    | none =>
      rw [readStatement_nil encodes] at read
      refine ⟨rfl, ?_⟩
      split at read
      · cases read
      · rename_i program parsed
        obtain ⟨tokens, -, items⟩ := Program.ofText_eq_ok_iff.mp parsed
        obtain ⟨items, tail⟩ := program
        rcases readProgram_eq_ok_cases items with ⟨-, rfl⟩ | ⟨declaration, later, rfl⟩
        · cases read
        · obtain ⟨rest, opens⟩ := Program.ofText_eq_ok_cons_iff.mp parsed
          rw [Program.node?_cons, map_eq_ok_iff] at read
          obtain ⟨first, read, same⟩ := read
          cases same
          exact ⟨declaration, rest, later, tail, opens, read⟩
  · rintro ⟨encodes, declaration, rest, later, tail, opens, read⟩
    have parsed := Program.ofText_eq_ok_cons_iff.mpr ⟨rest, opens⟩
    rw [readStatement_nil encodes, parsed]
    show (declaration.node 0).map some = _
    rw [read]
    rfl

/-! ### Statements -/

namespace Statement

/-- The statements that there are: those that are built from a value, and those that renaming makes
of them. -/
inductive IsBuilt : Statement → Prop where
  | new {given : Value} {language : Except Failure Text} {statement : Statement}
      (built : ofValue [] given language = .ok statement) : IsBuilt statement
  | renamed {statement renamed : Statement} {name : Value} (before : IsBuilt statement)
      (built : rename [] statement name = .ok renamed) : IsBuilt renamed

/-- What is known of a statement: a declaration opens its text, which is in normal form and has no
surrogates, and its node is that of the declaration. -/
structure Reads (statement : Statement) (declaration : Declaration) (rest : List Token)
    (later : List Item) (tail : Text) : Prop where
  normal : IsNormal statement.content
  encodes : statement.content.surrogates? (fun _ => false) = none
  opens : declaration.Opens statement.dialect statement.content rest later tail
  node : declaration.node 0 = .ok statement.node

/-- The specifier of a statement is the only one of the declaration that opens its text. -/
theorem Reads.specifiers_eq {statement : Statement} {declaration : Declaration}
    {rest : List Token} {later : List Item} {tail : Text}
    (reads : statement.Reads declaration rest later tail) :
    declaration.specifiers 0 = .ok [statement.specifier] := by
  obtain ⟨specifiers, source, specified, -, -, node⟩ := Declaration.node_eq_ok_iff.mp reads.node
  have single := statement.single
  rw [node] at single
  rw [specified]
  exact congrArg Except.ok single

theorem ofNode_eq_ok_iff {given content : Text} {dialect : Dialect} {read : Option Node}
    {statement : Statement} :
    ofNode given content dialect read = .ok statement ↔
      read = some statement.node ∧ statement.node.kind = importKind ∧ statement.given = given ∧
        statement.content = content ∧ statement.dialect = dialect := by
  constructor
  · intro made
    unfold ofNode at made
    split at made
    · cases made
    · rename_i node
      split at made
      · cases made
      · rename_i kind
        split at made
        · cases made
          exact ⟨rfl, not_not.mp kind, rfl, rfl, rfl⟩
        · cases made
  · obtain ⟨given', content', dialect', node, specifier, single⟩ := statement
    rintro ⟨rfl, kind, rfl, rfl, rfl⟩
    simp only at kind
    unfold ofNode
    simp only [kind, ne_eq, not_true_eq_false, if_false]
    split
    · rename_i other same
      rw [single] at same
      cases same
      rfl
    · rename_i other
      exact absurd single (other specifier)

/-- What is wrong with the form of a text is a reason to refuse it. -/
theorem ofText_of_illFormed {content : Text} {dialect : Dialect} {fault : SyntaxFault}
    (read : readStatement [] dialect (normalForm content) = .error (.illFormed fault)) :
    ofText [] content dialect =
      .error (.refused ⟨.text content, .illFormed fault (normalForm content)⟩) := by
  simp only [ofText, read]
  rfl

/-- A statement is built from a text whose normal form was read as the node of the statement. -/
theorem ofText_of_node {statement : Statement}
    (read : readStatement [] statement.dialect (normalForm statement.given) =
      .ok (some statement.node)) (kind : statement.node.kind = importKind)
    (normal : statement.content = normalForm statement.given) :
    ofText [] statement.given statement.dialect = .ok statement := by
  have made : ofNode statement.given (normalForm statement.given) statement.dialect
      (some statement.node) = .ok statement :=
    ofNode_eq_ok_iff.mpr ⟨rfl, kind, rfl, normal, rfl⟩
  simp only [ofText, read, made]
  rfl

theorem ofText_eq_ok_iff {given : Text} {dialect : Dialect} {statement : Statement} :
    ofText [] given dialect = .ok statement ↔
      statement.given = given ∧ statement.content = normalForm given ∧
        statement.dialect = dialect ∧ ∃ declaration rest later tail,
          statement.Reads declaration rest later tail := by
  constructor
  · intro built
    simp only [ofText] at built
    split at built
    · cases built
    · cases built
    · rename_i read parsed
      cases made : ofNode given (normalForm given) dialect read with
      | error reason =>
        rw [made] at built
        cases built
      | ok other =>
        rw [made] at built
        cases built
        obtain ⟨rfl, -, sameGiven, sameContent, sameDialect⟩ := ofNode_eq_ok_iff.mp made
        obtain ⟨encodes, declaration, rest, later, tail, opens, node⟩ :=
          readStatement_eq_ok_some_iff.mp parsed
        refine ⟨sameGiven, sameContent, sameDialect, declaration, rest, later, tail, ?_⟩
        rw [← sameContent] at encodes opens
        rw [← sameDialect] at opens
        refine ⟨?_, encodes, opens, node⟩
        rw [sameContent]
        exact isNormal_normalForm given
  · rintro ⟨rfl, sameContent, rfl, declaration, rest, later, tail, reads⟩
    have read : readStatement [] statement.dialect (normalForm statement.given) =
        .ok (some statement.node) := by
      rw [← sameContent]
      exact readStatement_eq_ok_some_iff.mpr
        ⟨reads.encodes, declaration, rest, later, tail, reads.opens, reads.node⟩
    have kind : statement.node.kind = importKind := by
      obtain ⟨specifiers, source, -, -, -, same⟩ := Declaration.node_eq_ok_iff.mp reads.node
      rw [same]
    exact ofText_of_node read kind sameContent

/-- A statement that was built is read off its own text. -/
theorem IsBuilt.exists_reads {statement : Statement} (built : statement.IsBuilt) :
    ∃ declaration rest later tail, statement.Reads declaration rest later tail := by
  cases built with
  | new built =>
    simp only [ofValue, bind_eq_ok_iff] at built
    obtain ⟨given, -, language, -, dialect, -, built⟩ := built
    exact (ofText_eq_ok_iff.mp built).2.2.2
  | @renamed before _ name _ built =>
    cases name with
    | text name => exact (ofText_eq_ok_iff.mp built).2.2.2
    | _ => cases built

end Statement

end ImportBinding
