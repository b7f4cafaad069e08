/-
This file compares what a statement tells of its import with the import that the language standard
takes it for.

A statement tells one text of the export: the word `default`, a star for the whole module, or the
name of a named export, which a literal denotes and which is otherwise as it is written. So the star
may stand for the whole module or for an export of that name, and a name with an escape sequence
tells another text than the name that it spells. In all other cases the text is the name of the
export.
-/

import ImportBinding.Proofs.Identifiers
import ImportBinding.Proofs.Refusing

namespace ImportBinding

/-! ### How an export is named -/

/-- What a declaration imports by the standard: the whole module, or the export whose name has
these code units. -/
inductive Standard.Export where
  | whole
  | named (units : List Nat)
deriving DecidableEq

/-- How a declaration names what it imports. Names and literals are as they are written. -/
inductive ExportForm where
  | whole
  | default
  | name (body : Text)
  | literal (body : Text)
deriving DecidableEq

namespace ExportForm

/-- The text that a statement tells of an export that is named in this way. -/
def imported : ExportForm → Except Failure Text
  | whole => .ok (text "*")
  | default => .ok (text "default")
  | name body => .ok body
  | literal body => literalValue (literalPieces body)

/-- What is imported by the standard, if the escape sequences are all right. -/
def standard? : ExportForm → Option Standard.Export
  | whole => some .whole
  | default => some (.named (text "default").utf16)
  | name body => (Standard.nameValue? body).map .named
  | literal body => (Standard.stringValue? body.tail.dropLast).map .named

/-- Whether the export is named by a name with an escape sequence. -/
def isEscaped : ExportForm → Bool
  | name body => body.contains (CodePoint.ofChar '\\')
  | _ => false

/-- The escape sequences of the name of an export, each with its place. Those of a literal do not
count, as a literal is decoded. -/
def escapes : ExportForm → List (Nat × Text)
  | name body => Standard.escapes body
  | _ => []

/-- Whether one export is imported, without an escape sequence in a name. -/
def IsPlain (form : ExportForm) : Prop := form ≠ whole ∧ form.isEscaped = false

/-- The pieces of the literal that names the export. -/
def pieces : ExportForm → List Piece
  | literal body => literalPieces body
  | _ => []

/-- What holds of every such form in a text: a name has no surrogates, and a literal is a whole
one. -/
def IsFormed : ExportForm → Prop
  | name body => ∀ point ∈ body, point.isSurrogate = false
  | literal body => tokenSize? body = some (.literal, body.length)
  | _ => True

end ExportForm

/-- How a token names an export. -/
def Token.exportForm (token : Token) : ExportForm :=
  if token.kind = .literal then .literal token.body else .name token.body

/-- How a group names its exports. -/
def Group.forms (members : Group) : List ExportForm :=
  match members with
  | .star _ _ _ => [.whole]
  | .named _ => members.exports.map Token.exportForm

/-- How a declaration names its exports, in the order of the text. -/
def Declaration.forms (declaration : Declaration) : List ExportForm :=
  match declaration.clause with
  | none => []
  | some clause =>
    match clause.bindings with
    | .single _ => [.default]
    | .both _ _ members => .default :: members.forms
    | .group members => members.forms

/-- The pieces of the literals of a declaration that are decoded. -/
def Declaration.pieces (declaration : Declaration) : List Piece :=
  literalPieces declaration.source.body ++ declaration.forms.flatMap ExportForm.pieces

namespace Statement

/-- The declaration that a statement was read from: the first one of its text. -/
def declaration? (statement : Statement) : Option Declaration :=
  (Program.ofText statement.dialect statement.content).toOption.bind fun program =>
    program.declarations.head?

/-- How a statement names its export. -/
def form? (statement : Statement) : Option ExportForm :=
  statement.declaration?.bind fun declaration => declaration.forms.head?

/-- What a statement imports by the standard: the string value of its source, and the export. -/
def imports? (statement : Statement) : Option (List Nat × Standard.Export) :=
  statement.declaration?.bind fun declaration =>
    (Standard.stringValue? declaration.source.body.tail.dropLast).bind fun module =>
      (declaration.forms.head?.bind ExportForm.standard?).map fun exported => (module, exported)

/-- No literal of the statement that is decoded has an octal escape that the standard reads in
another way. -/
def IsRegular (statement : Statement) : Prop :=
  ∀ declaration ∈ statement.declaration?, ∀ piece ∈ declaration.pieces, ¬ piece.IsMisread

end Statement

/-! ### The text that is told of an export -/

/-- The text that is told of what a specifier imports. -/
def Specifier.importedName : Specifier → Text
  | star _ => text "*"
  | default _ => text "default"
  | named imported _ => imported.name

theorem Token.imported_exportForm {token : Token} {offset : Nat} {name : Identifier}
    (exported : token.exportName offset = .ok name) :
    token.exportForm.imported = .ok name.name := by
  unfold exportName at exported
  unfold exportForm
  split at exported
  · rename_i literal
    obtain ⟨value, decoded, same⟩ := bind_eq_ok_iff.mp exported
    cases same
    rw [if_pos literal]
    exact decoded
  · rename_i other
    cases exported
    rw [if_neg other]
    rfl

theorem NamedImport.imported_of_specifier {entry : NamedImport} {offset : Nat}
    {specifier : Specifier} (read : entry.specifier offset = .ok specifier) :
    entry.imported.exportForm.imported = .ok specifier.importedName := by
  obtain ⟨name, exported, named⟩ := bind_eq_ok_iff.mp read
  rw [Token.imported_exportForm exported]
  split at named <;> cases named <;> rfl

theorem Group.imported_of_specifiers {members : Group} {offset : Nat}
    {specifiers : List Specifier} (read : members.specifiers offset = .ok specifiers) :
    specifiers.map (fun specifier => .ok specifier.importedName) =
      members.forms.map ExportForm.imported := by
  cases members with
  | star mark asWord binding =>
    cases read
    rfl
  | named listing =>
    have entries := map_snd_placeEntries NamedImport.tokens listing.final
      (offset + listing.opening.width) listing.ended
    rw [forms, exports, Listing.entries, ← entries, List.map_map, List.map_map, List.map_map]
    exact map_eq_of_mapM_eq_ok
      (fun pair member specifier specified => (NamedImport.imported_of_specifier specified).symm)
      read

/-- What is told of the specifiers of a declaration is what is told of their forms. -/
theorem Declaration.imported_of_specifiers {declaration : Declaration} {offset : Nat}
    {specifiers : List Specifier} (read : declaration.specifiers offset = .ok specifiers) :
    specifiers.map (fun specifier => .ok specifier.importedName) =
      declaration.forms.map ExportForm.imported := by
  obtain ⟨keyword, clause, source, attributes, terminator⟩ := declaration
  cases clause with
  | none =>
    cases read
    rfl
  | some clause =>
    obtain ⟨modifier, bindings, fromWord⟩ := clause
    cases bindings with
    | single binding =>
      cases read
      rfl
    | both binding comma members =>
      obtain ⟨others, grouped, same⟩ := bind_eq_ok_iff.mp read
      cases same
      exact congrArg (.ok (text "default") :: ·) (Group.imported_of_specifiers grouped)
    | group members => exact Group.imported_of_specifiers read

/-! ### The tokens that name exports -/

theorem Listing.mem_tokens {Entry : Type} {entryTokens : Entry → List Token}
    {listing : Listing Entry} {entry : Entry} {token : Token} (member : entry ∈ listing.entries)
    (within : token ∈ entryTokens entry) : token ∈ listing.tokens entryTokens := by
  refine List.mem_cons_of_mem _ (List.mem_append.mpr ?_)
  rcases List.mem_append.mp member with inEnded | last
  · obtain ⟨pair, listed, rfl⟩ := List.mem_map.mp inEnded
    exact Or.inl (List.mem_flatMap.mpr ⟨pair, listed, List.mem_append_left _ within⟩)
  · rw [Option.mem_toList.mp last]
    exact Or.inr (List.mem_append_left _ within)

theorem Group.mem_tokens_of_mem_exports {members : Group} {token : Token}
    (member : token ∈ members.exports) : token ∈ members.tokens := by
  cases members with
  | star mark asWord binding => cases member
  | named listing =>
    obtain ⟨entry, listed, rfl⟩ := List.mem_map.mp member
    exact Listing.mem_tokens listed (List.mem_append_right _ List.mem_cons_self)

theorem Declaration.mem_tokens_of_mem_exports {declaration : Declaration} {token : Token}
    (member : token ∈ declaration.exports) : token ∈ declaration.tokens := by
  obtain ⟨keyword, clause, source, attributes, terminator⟩ := declaration
  refine List.mem_cons_of_mem _ (List.mem_append_left _ ?_)
  cases clause with
  | none => cases member
  | some clause =>
    obtain ⟨modifier, bindings, fromWord⟩ := clause
    refine List.mem_append_right _ (List.mem_append_left _ ?_)
    cases bindings with
    | single binding => cases member
    | both binding comma members =>
      exact List.mem_cons_of_mem _ (List.mem_cons_of_mem _ (Group.mem_tokens_of_mem_exports member))
    | group members => exact Group.mem_tokens_of_mem_exports member

theorem Group.mem_forms_cases {members : Group} {form : ExportForm}
    (member : form ∈ members.forms) :
    form = .whole ∨ ∃ token ∈ members.exports, token.exportForm = form := by
  cases members with
  | star mark asWord binding => exact Or.inl (List.mem_singleton.mp member)
  | named listing => exact Or.inr (List.mem_map.mp member)

/-- A form is that of a token that names an export, unless the whole module or the default export is
imported. -/
theorem Declaration.mem_forms_cases {declaration : Declaration} {form : ExportForm}
    (member : form ∈ declaration.forms) :
    form = .default ∨ form = .whole ∨ ∃ token ∈ declaration.exports, token.exportForm = form := by
  obtain ⟨keyword, clause, source, attributes, terminator⟩ := declaration
  cases clause with
  | none => cases member
  | some clause =>
    obtain ⟨modifier, bindings, fromWord⟩ := clause
    cases bindings with
    | single binding => exact Or.inl (List.mem_singleton.mp member)
    | both binding comma members =>
      exact (List.mem_cons.mp member).imp_right Group.mem_forms_cases
    | group members => exact Or.inr (Group.mem_forms_cases member)

/-! ### The name of an export -/

/-- What is read in another way is longer than a single code point. -/
theorem Piece.not_isMisread_of_single {piece : Piece} (single : piece.written.length = 1) :
    ¬ piece.IsMisread := by
  intro misread
  cases misread <;> cases single

/-- A literal that denotes a text has a string value. It has the code units of the text if no octal
escape is read in another way. -/
theorem exists_stringValue? {body value : Text}
    (isWhole : tokenSize? body = some (.literal, body.length))
    (decoded : literalValue (literalPieces body) = .ok value) :
    ∃ units, Standard.stringValue? body.tail.dropLast = some units ∧
      ((∀ piece ∈ literalPieces body, ¬ piece.IsMisread) → units = value.utf16) := by
  have fits := (literalValue_succeedsWhen body).fits_of_ok decoded
  obtain ⟨quote, inner, -, whole, cut⟩ := exists_isCut_of_literal isWhole
  obtain ⟨parts, units, each, standard, agrees⟩ := cut.agrees fits
  rw [literalValue, each] at decoded
  cases decoded
  refine ⟨units, ?_, fun regular => ?_⟩
  · rw [whole, List.tail_cons, List.dropLast_concat, standard]
  · rw [Text.utf16_joinSurrogates, agrees.same.mpr regular]

namespace ExportForm

variable {form : ExportForm} {value : Text}

theorem isJoined_of_imported (formed : form.IsFormed) (tells : form.imported = .ok value) :
    value.IsJoined := by
  cases form with
  | whole | default =>
    cases tells
    exact Text.isJoined_of_encodes (by decide)
  | name body =>
    cases tells
    exact Text.isJoined_of_encodes formed
  | literal body =>
    obtain ⟨parts, -, same⟩ := bind_eq_ok_iff.mp tells
    cases same
    exact Text.isJoined_joinSurrogates parts.flatten

theorem isPlain_name_iff {body : Text} :
    (name body).IsPlain ↔ CodePoint.ofChar '\\' ∉ body := by
  rw [← List.contains_iff_mem, Bool.not_eq_true]
  exact and_iff_right nofun

/-- Two things are not plain: the whole module, and a name with an escape sequence. -/
theorem cases_of_not_isPlain (other : ¬ form.IsPlain) :
    form = whole ∨ ∃ body, form = name body ∧ CodePoint.ofChar '\\' ∈ body := by
  cases form with
  | whole => exact Or.inl rfl
  | name body => exact Or.inr ⟨body, rfl, not_not.mp (mt isPlain_name_iff.mpr other)⟩
  | default => exact absurd ⟨nofun, rfl⟩ other
  | literal body => exact absurd ⟨nofun, rfl⟩ other

/-- The text that is told is the name of the export exactly when the form is plain. -/
theorem standard?_eq_iff_isPlain (formed : form.IsFormed) (tells : form.imported = .ok value)
    (regular : ∀ piece ∈ form.pieces, ¬ piece.IsMisread) :
    form.standard? = some (.named value.utf16) ↔ form.IsPlain := by
  constructor
  · intro spelled
    by_contra other
    rcases cases_of_not_isPlain other with rfl | ⟨body, rfl, escaped⟩
    · cases spelled
    · cases tells
      obtain ⟨units, named, same⟩ := Option.map_eq_some_iff.mp spelled
      cases same
      exact Standard.nameValue?_ne_of_escaped escaped named
  · intro plain
    cases form with
    | whole => exact absurd rfl plain.1
    | default =>
      cases tells
      rfl
    | name body =>
      rw [standard?, Standard.nameValue?_of_unescaped (isPlain_name_iff.mp plain)]
      cases tells
      rfl
    | literal body =>
      obtain ⟨units, standard, same⟩ := exists_stringValue? formed tells
      rw [standard?, standard, same regular]
      rfl

theorem standard?_eq_whole_iff : form.standard? = some .whole ↔ form = whole := by
  cases form <;> simp [standard?]

/-- Two forms that are not plain are the same when they tell the same text. -/
theorem eq_of_not_isPlain {formToo : ExportForm} (tells : form.imported = .ok value)
    (tellsToo : formToo.imported = .ok value) (other : ¬ form.IsPlain)
    (otherToo : ¬ formToo.IsPlain) : form = formToo := by
  have star : CodePoint.ofChar '\\' ∉ text "*" := by decide
  rcases cases_of_not_isPlain other with rfl | ⟨body, rfl, escaped⟩ <;>
    rcases cases_of_not_isPlain otherToo with rfl | ⟨bodyToo, rfl, escapedToo⟩ <;>
      cases tells <;> cases tellsToo
  · rfl
  · exact absurd escapedToo star
  · exact absurd escaped star
  · rfl

/-- When two forms name the same export and the first is no name with an escape sequence, they tell
the same text exactly when the second is none either. -/
theorem imported_eq_iff {formToo : ExportForm} {valueToo : Text} (formed : form.IsFormed)
    (formedToo : formToo.IsFormed) (tells : form.imported = .ok value)
    (tellsToo : formToo.imported = .ok valueToo)
    (regular : ∀ piece ∈ form.pieces, ¬ piece.IsMisread)
    (regularToo : ∀ piece ∈ formToo.pieces, ¬ piece.IsMisread)
    (unescaped : form.isEscaped = false) (same : form.standard? = formToo.standard?) :
    value = valueToo ↔ formToo.isEscaped = false := by
  by_cases star : form = whole
  · subst star
    obtain rfl := standard?_eq_whole_iff.mp same.symm
    cases tells
    cases tellsToo
    exact iff_of_true rfl rfl
  · have starToo : formToo ≠ whole := fun other =>
      star (standard?_eq_whole_iff.mp (same.trans (standard?_eq_whole_iff.mpr other)))
    have named := (standard?_eq_iff_isPlain formed tells regular).mpr ⟨star, unescaped⟩
    have plainToo := standard?_eq_iff_isPlain formedToo tellsToo regularToo
    rw [← same, named] at plainToo
    constructor
    · rintro rfl
      exact (plainToo.mp rfl).2
    · intro unescapedToo
      have units := Option.some.inj (plainToo.mpr ⟨starToo, unescapedToo⟩)
      exact Text.eq_of_utf16_eq (isJoined_of_imported formed tells)
        (isJoined_of_imported formedToo tellsToo) (Standard.Export.named.inj units)

theorem escapes_eq_nil_iff : form.escapes = [] ↔ form.isEscaped = false := by
  cases form with
  | name body =>
    rw [escapes, isEscaped, Standard.escapes_eq_nil_iff, List.contains_eq_mem,
      decide_eq_false_iff_not]
  | _ => exact iff_of_true rfl rfl

theorem exists_name_of_isEscaped (escaped : form.isEscaped = true) : ∃ body, form = name body := by
  cases form with
  | name body => exact ⟨body, rfl⟩
  | _ => cases escaped

/-- When two forms name the same export, they tell the same text exactly when they have the same
escape sequences. -/
theorem imported_eq_iff_escapes_eq {formToo : ExportForm} {valueToo : Text} (formed : form.IsFormed)
    (formedToo : formToo.IsFormed) (tells : form.imported = .ok value)
    (tellsToo : formToo.imported = .ok valueToo)
    (regular : ∀ piece ∈ form.pieces, ¬ piece.IsMisread)
    (regularToo : ∀ piece ∈ formToo.pieces, ¬ piece.IsMisread)
    (names : form.standard?.isSome = true) (same : form.standard? = formToo.standard?) :
    value = valueToo ↔ form.escapes = formToo.escapes := by
  cases escaped : form.isEscaped with
  | false =>
    rw [imported_eq_iff formed formedToo tells tellsToo regular regularToo escaped same,
      escapes_eq_nil_iff.mpr escaped, eq_comm (a := []), escapes_eq_nil_iff]
  | true =>
    cases escapedToo : formToo.isEscaped with
    | false =>
      rw [eq_comm, imported_eq_iff formedToo formed tellsToo tells regularToo regular escapedToo
        same.symm, escapes_eq_nil_iff.mpr escapedToo, escapes_eq_nil_iff]
    | true =>
      obtain ⟨body, rfl⟩ := exists_name_of_isEscaped escaped
      obtain ⟨bodyToo, rfl⟩ := exists_name_of_isEscaped escapedToo
      cases tells
      cases tellsToo
      rw [standard?, Option.isSome_map] at names
      have spelled : Standard.nameValue? value = Standard.nameValue? valueToo :=
        Option.map_injective (fun _ _ => Standard.Export.named.inj) same
      exact (Standard.eq_iff_escapes_eq formed formedToo names).trans (and_iff_right spelled)

end ExportForm

theorem Token.isFormed_exportForm {token : Token}
    (isWhole : tokenSize? token.body = some (token.kind, token.body.length))
    (encodes : ∀ point ∈ token.body, point.isSurrogate = false) : token.exportForm.IsFormed := by
  unfold exportForm
  split
  · rename_i literal
    rwa [literal] at isWhole
  · exact encodes

/-! ### The import of a statement -/

namespace Statement

/-- What a statement tells of its import, next to the form of the export and the code units of the
string value of the source. -/
structure Imports (statement : Statement) (form : ExportForm) (module : Text)
    (units : List Nat) : Prop where
  named : statement.form? = some form
  formed : form.IsFormed
  imported : form.imported = .ok statement.imported
  source : statement.source = some module
  imports : statement.imports? = form.standard?.map fun exported => (units, exported)
  regular : statement.IsRegular →
    units = module.utf16 ∧ ∀ piece ∈ form.pieces, ¬ piece.IsMisread

section Reads

variable {statement : Statement} {declaration : Declaration} {rest : List Token}
  {later : List Item} {tail : Text} (reads : statement.Reads declaration rest later tail)

include reads

theorem Reads.declaration?_eq : statement.declaration? = some declaration := by
  rw [declaration?, Program.ofText_eq_ok_cons_iff.mpr ⟨rest, reads.opens⟩]
  rfl

/-- The tokens of a statement are whole ones. -/
theorem Reads.isWhole_of_mem {token : Token} (member : token ∈ declaration.tokens) :
    tokenSize? token.body = some (token.kind, token.body.length) := by
  obtain ⟨-, -, spaced, -⟩ := scan_eq_ok_iff.mp reads.opens.scanned
  exact spaced.whole token (List.mem_append_left rest member)

theorem Reads.isFormed_of_mem {form : ExportForm} (member : form ∈ declaration.forms) :
    form.IsFormed := by
  rcases Declaration.mem_forms_cases member with rfl | rfl | ⟨token, exported, rfl⟩
  · trivial
  · trivial
  · have inside := Declaration.mem_tokens_of_mem_exports exported
    exact Token.isFormed_exportForm (reads.isWhole_of_mem inside) (reads.encodes_of_mem inside)

/-- The declaration of a statement names one export, of which the statement tells. -/
theorem Reads.exists_form : ∃ form, declaration.forms = [form] ∧
    form.imported = .ok statement.imported := by
  have told := Declaration.imported_of_specifiers reads.specifiers_eq
  obtain ⟨form, single, tells⟩ := List.map_eq_singleton_iff.mp told.symm
  refine ⟨form, single, tells.trans ?_⟩
  rw [imported]
  cases statement.specifier <;> rfl

end Reads

/-- Every statement tells of one import. -/
theorem IsBuilt.exists_imports {statement : Statement} (built : statement.IsBuilt) :
    ∃ form module units, statement.Imports form module units := by
  obtain ⟨declaration, rest, later, tail, reads⟩ := built.exists_reads
  obtain ⟨form, single, tells⟩ := reads.exists_form
  obtain ⟨specifiers, module, -, -, decoded, node⟩ := Declaration.node_eq_ok_iff.mp reads.node
  have sourced : declaration.source ∈ declaration.tokens :=
    List.mem_cons_of_mem _ (List.mem_append_right _ List.mem_cons_self)
  have isWhole := reads.isWhole_of_mem sourced
  rw [reads.opens.framed.source] at isWhole
  obtain ⟨units, standard, same⟩ := exists_stringValue? isWhole decoded
  have declared := reads.declaration?_eq
  refine ⟨form, module, units, ?_, reads.isFormed_of_mem ?_, tells, ?_, ?_, fun regular => ?_⟩
  · rw [form?, declared, Option.bind_some, single]
    rfl
  · rw [single]
    exact List.mem_singleton_self form
  · rw [source, node]
  · rw [imports?, declared, Option.bind_some, standard, single]
    rfl
  · have pieces := regular declaration declared
    rw [Declaration.pieces, single, List.flatMap_singleton, List.forall_mem_append] at pieces
    exact ⟨same pieces.1, pieces.2⟩

/-- A statement without escape sequences in its literals is regular. -/
theorem isRegular_of_single {statement : Statement}
    (single : (statement.declaration?.map fun declaration =>
      declaration.pieces.all fun piece => piece.written.length = 1) = some true) :
    statement.IsRegular := by
  intro declaration declared piece member misread
  rw [Option.mem_def.mp declared, Option.map_some, Option.some.injEq, List.all_eq_true] at single
  exact Piece.not_isMisread_of_single (of_decide_eq_true (single piece member)) misread

/-- A regular statement imports the export of the name that it tells exactly when the form is
plain. -/
theorem Imports.eq_iff_isPlain {statement : Statement} {form : ExportForm} {module : Text}
    {units : List Nat} (imports : statement.Imports form module units)
    (regular : statement.IsRegular) :
    statement.imports? = some (module.utf16, .named statement.imported.utf16) ↔ form.IsPlain := by
  obtain ⟨rfl, pieces⟩ := imports.regular regular
  rw [imports.imports,
    ← ExportForm.standard?_eq_iff_isPlain imports.formed imports.imported pieces,
    Option.map_eq_some_iff]
  simp only [Prod.mk.injEq, true_and, exists_eq_right]

/-- Two statements that tell the same of their imports import the same exactly when both name the
export in a plain form or neither does. In a plain form it is the export of that name. -/
theorem imports_eq_iff_of_imported_eq {first second : Statement} (built : first.IsBuilt)
    (builtToo : second.IsBuilt) (regular : first.IsRegular) (regularToo : second.IsRegular)
    (source : first.source = second.source) (imported : first.imported = second.imported) :
    ∃ form formToo, first.form? = some form ∧ second.form? = some formToo ∧
      (form.IsPlain → ∃ module, first.source = some module ∧
        first.imports? = some (module.utf16, .named first.imported.utf16)) ∧
      (first.imports? = second.imports? ↔ (form.IsPlain ↔ formToo.IsPlain)) := by
  obtain ⟨form, module, units, imports⟩ := built.exists_imports
  obtain ⟨formToo, moduleToo, unitsToo, importsToo⟩ := builtToo.exists_imports
  obtain rfl : module = moduleToo :=
    Option.some.inj (imports.source.symm.trans (source.trans importsToo.source))
  have plain := imports.eq_iff_isPlain regular
  have plainToo := importsToo.eq_iff_isPlain regularToo
  rw [← imported] at plainToo
  refine ⟨form, formToo, imports.named, importsToo.named,
    fun isPlain => ⟨module, imports.source, plain.mpr isPlain⟩, fun same => ?_, fun alike => ?_⟩
  · rw [← plain, ← plainToo, same]
  · by_cases isPlain : form.IsPlain
    · rw [plain.mpr isPlain, plainToo.mpr (alike.mp isPlain)]
    · -- both tell the same text in a form that is not plain, and so in the same form
      have tells := importsToo.imported
      rw [← imported] at tells
      obtain rfl := ExportForm.eq_of_not_isPlain imports.imported tells isPlain
        (mt alike.mpr isPlain)
      rw [imports.imports, importsToo.imports, (imports.regular regular).1,
        (importsToo.regular regularToo).1]

/-- A default import and a named import of the literal `default` tell the same and import the
same. -/
theorem imports_eq_iff_of_imported_eq_default :
    ∃ first second : Statement,
      ofValue [] (.text (text "x from 'm'")) (.ok (text "javascript")) = .ok first ∧
        ofValue [] (.text (text "\x7b 'default' as y \x7d from \"m\"")) (.ok (text "typescript")) =
            .ok second ∧
          first.imports? = second.imports? ∧
            first.imports? = some ((text "m").utf16, .named (text "default").utf16) := by
  have known : (ofValue [] (.text (text "x from 'm'")) (.ok (text "javascript"))).toOption.map
      (fun statement => (statement.source, statement.imported, statement.form?,
        statement.declaration?.map fun declaration =>
          declaration.pieces.all fun piece => piece.written.length = 1)) =
        some (some (text "m"), text "default", some .default, some true) := by
    decide +kernel
  have knownToo : (ofValue [] (.text (text "\x7b 'default' as y \x7d from \"m\""))
      (.ok (text "typescript"))).toOption.map
        (fun statement => (statement.source, statement.imported, statement.form?,
          statement.declaration?.map fun declaration =>
            declaration.pieces.all fun piece => piece.written.length = 1)) =
        some (some (text "m"), text "default", some (.literal (text "'default'")), some true) := by
    decide +kernel
  obtain ⟨first, made, told⟩ := exists_ok_of_map_toOption known
  obtain ⟨second, madeToo, toldToo⟩ := exists_ok_of_map_toOption knownToo
  simp only [Prod.mk.injEq] at told toldToo
  obtain ⟨source, imported, named, single⟩ := told
  obtain ⟨sourceToo, importedToo, namedToo, singleToo⟩ := toldToo
  obtain ⟨form, formToo, there, thereToo, plain, same⟩ :=
    imports_eq_iff_of_imported_eq (.new made) (.new madeToo) (isRegular_of_single single)
      (isRegular_of_single singleToo) (source.trans sourceToo.symm)
      (imported.trans importedToo.symm)
  obtain rfl := Option.some.inj (named.symm.trans there)
  obtain rfl := Option.some.inj (namedToo.symm.trans thereToo)
  obtain ⟨module, sourced, imports⟩ := plain ⟨nofun, rfl⟩
  obtain rfl := Option.some.inj (source.symm.trans sourced)
  refine ⟨first, second, made, madeToo, same.mpr (iff_of_true ⟨nofun, rfl⟩ ⟨nofun, rfl⟩), ?_⟩
  rw [imports, imported]

/-- The import of a whole module and that of its export of the name of a star tell the same. -/
theorem exists_imports_ne_of_imported_eq :
    ∃ first second : Statement,
      ofValue [] (.text (text "* as a from 'm'")) (.ok (text "javascript")) = .ok first ∧
        ofValue [] (.text (text "\x7b '*' as a \x7d from 'm'")) (.ok (text "javascript")) =
            .ok second ∧
          first.source = second.source ∧ first.imported = second.imported ∧
            first.imports? = some ((text "m").utf16, .whole) ∧
              second.imports? = some ((text "m").utf16, .named (text "*").utf16) := by
  have known : (ofValue [] (.text (text "* as a from 'm'")) (.ok (text "javascript"))).toOption.map
      (fun statement => (statement.source, statement.imported, statement.imports?)) =
        some (some (text "m"), text "*", some ((text "m").utf16, .whole)) := by
    decide +kernel
  have knownToo : (ofValue [] (.text (text "\x7b '*' as a \x7d from 'm'"))
      (.ok (text "javascript"))).toOption.map
        (fun statement => (statement.source, statement.imported, statement.imports?)) =
          some (some (text "m"), text "*", some ((text "m").utf16, .named (text "*").utf16)) := by
    decide +kernel
  obtain ⟨first, made, told⟩ := exists_ok_of_map_toOption known
  obtain ⟨second, madeToo, toldToo⟩ := exists_ok_of_map_toOption knownToo
  simp only [Prod.mk.injEq] at told toldToo
  obtain ⟨source, imported, imports⟩ := told
  obtain ⟨sourceToo, importedToo, importsToo⟩ := toldToo
  exact ⟨first, second, made, madeToo, source.trans sourceToo.symm,
    imported.trans importedToo.symm, imports, importsToo⟩

/-- Local names are equal exactly when they are the same identifier, written with the same escape
sequences; so two of them without escape sequences are equal when they are the same identifier. It
is the same with the imported names of equal imports: a name with an escape sequence is told as
another one. -/
theorem binding_eq_iff_and_imported_eq_iff {first second : Statement} (built : first.IsBuilt)
    (builtToo : second.IsBuilt) :
    ((Standard.nameValue? first.binding).isSome = true →
      (first.binding = second.binding ↔
        Standard.nameValue? first.binding = Standard.nameValue? second.binding ∧
          Standard.escapes first.binding = Standard.escapes second.binding)) ∧
      (CodePoint.ofChar '\\' ∉ first.binding →
        (first.binding = second.binding ↔
          Standard.nameValue? first.binding = Standard.nameValue? second.binding ∧
            CodePoint.ofChar '\\' ∉ second.binding)) ∧
      ∃ form formToo, first.form? = some form ∧ second.form? = some formToo ∧
        ((∀ piece ∈ form.pieces ++ formToo.pieces, ¬ piece.IsMisread) →
          first.imports? = second.imports? →
            (first.imports?.isSome = true →
              (first.imported = second.imported ↔ form.escapes = formToo.escapes)) ∧
            (form.isEscaped = false →
              (first.imported = second.imported ↔ formToo.isEscaped = false))) := by
  obtain ⟨declaration, rest, later, tail, reads⟩ := built.exists_reads
  obtain ⟨declarationToo, restToo, laterToo, tailToo, readsToo⟩ := builtToo.exists_reads
  obtain ⟨form, module, units, imports⟩ := built.exists_imports
  obtain ⟨formToo, moduleToo, unitsToo, importsToo⟩ := builtToo.exists_imports
  have bindings := Standard.eq_iff_escapes_eq reads.encodes_binding readsToo.encodes_binding
  refine ⟨bindings, fun unescaped => ?_, form, formToo, imports.named, importsToo.named,
    fun regular same => ?_⟩
  · have spells := Standard.nameValue?_of_unescaped unescaped
    rw [bindings (spells ▸ rfl), Standard.escapes_eq_nil_iff.mpr unescaped, eq_comm (a := []),
      Standard.escapes_eq_nil_iff]
  · obtain ⟨pieces, piecesToo⟩ := List.forall_mem_append.mp regular
    rw [imports.imports, importsToo.imports] at same
    have standard := congrArg (Option.map Prod.snd) same
    simp only [Option.map_map, Function.comp_def, Option.map_id_fun', id_eq] at standard
    refine ⟨fun known => ?_, fun unescaped => ?_⟩
    · rw [imports.imports, Option.isSome_map] at known
      exact ExportForm.imported_eq_iff_escapes_eq imports.formed importsToo.formed
        imports.imported importsToo.imported pieces piecesToo known standard
    · exact ExportForm.imported_eq_iff imports.formed importsToo.formed imports.imported
        importsToo.imported pieces piecesToo unescaped standard

/-- A text of which a statement is built, with what is told of the statement. -/
theorem exists_ofValue_of_told (content language name : Text) (form : ExportForm)
    (exported : List Nat × Standard.Export)
    (told : (ofValue [] (.text content) (.ok language)).toOption.map
      (fun statement => (statement.binding, statement.form?, statement.imports?)) =
        some (name, some form, some exported)) :
    ∃ statement, ofValue [] (.text content) (.ok language) = .ok statement ∧
      statement.binding = name ∧ statement.form? = some form ∧
        statement.imports? = some exported := by
  obtain ⟨statement, made, same⟩ := exists_ok_of_map_toOption told
  simp only [Prod.mk.injEq] at same
  exact ⟨statement, made, same⟩

/-- A name and a literal import the same export and tell the same of it. The local names are the
same identifier, and they differ because of an escape sequence. Where both texts are written with
escape sequences, they differ if these do. -/
theorem binding_eq_iff_and_imported_eq_iff_x :
    (∃ first second : Statement,
      ofValue [] (.text (text "\x7b a as x \x7d from 'm'")) (.ok (text "javascript")) = .ok first ∧
        ofValue [] (.text (text "\x7b 'a' as \\u0078 \x7d from 'm'")) (.ok (text "javascript")) =
            .ok second ∧
          first.binding ≠ second.binding ∧ first.imported = second.imported) ∧
    ∃ first second : Statement,
      ofValue [] (.text (text "\x7b \\u0061 as \\u0078 \x7d from 'm'")) (.ok (text "tsx")) =
          .ok first ∧
        ofValue [] (.text (text "\x7b \\u0061 as \\u\x7b78\x7d \x7d from \"m\""))
            (.ok (text "tsx")) = .ok second ∧
          first.binding ≠ second.binding ∧ first.imported = second.imported := by
  constructor
  · obtain ⟨first, made, binding, named, imports⟩ := exists_ofValue_of_told
      (text "\x7b a as x \x7d from 'm'") (text "javascript") (text "x") (.name (text "a"))
      ((text "m").utf16, .named (text "a").utf16) (by with_unfolding_all rfl)
    obtain ⟨second, madeToo, bindingToo, namedToo, importsToo⟩ := exists_ofValue_of_told
      (text "\x7b 'a' as \\u0078 \x7d from 'm'") (text "javascript") (text "\\u0078")
      (.literal (text "'a'")) ((text "m").utf16, .named (text "a").utf16)
      (by with_unfolding_all rfl)
    obtain ⟨-, bindings, form, formToo, there, thereToo, told⟩ :=
      binding_eq_iff_and_imported_eq_iff (.new made) (.new madeToo)
    obtain rfl := Option.some.inj (named.symm.trans there)
    obtain rfl := Option.some.inj (namedToo.symm.trans thereToo)
    refine ⟨first, second, made, madeToo, fun same => ?_, ?_⟩
    · refine ((bindings ?_).mp same).2 ?_
      · rw [binding]
        decide
      · rw [bindingToo]
        decide
    · have regular : ∀ piece ∈ (ExportForm.name (text "a")).pieces ++
          (ExportForm.literal (text "'a'")).pieces, ¬ piece.IsMisread := by
        have single : ∀ piece ∈ (ExportForm.name (text "a")).pieces ++
          (ExportForm.literal (text "'a'")).pieces, piece.written.length = 1 := by decide +kernel
        exact fun piece member => Piece.not_isMisread_of_single (single piece member)
      exact ((told regular (imports.trans importsToo.symm)).2 rfl).mpr rfl
  · obtain ⟨first, made, binding, named, imports⟩ := exists_ofValue_of_told
      (text "\x7b \\u0061 as \\u0078 \x7d from 'm'") (text "tsx") (text "\\u0078")
      (.name (text "\\u0061")) ((text "m").utf16, .named (text "a").utf16)
      (by with_unfolding_all rfl)
    obtain ⟨second, madeToo, bindingToo, namedToo, importsToo⟩ := exists_ofValue_of_told
      (text "\x7b \\u0061 as \\u\x7b78\x7d \x7d from \"m\"") (text "tsx")
      (text "\\u\x7b78\x7d") (.name (text "\\u0061"))
      ((text "m").utf16, .named (text "a").utf16) (by with_unfolding_all rfl)
    obtain ⟨bindings, -, form, formToo, there, thereToo, told⟩ :=
      binding_eq_iff_and_imported_eq_iff (.new made) (.new madeToo)
    obtain rfl := Option.some.inj (named.symm.trans there)
    obtain rfl := Option.some.inj (namedToo.symm.trans thereToo)
    have spells : Standard.nameValue? (text "\\u0078") = some [0x78] := by with_unfolding_all rfl
    have escapes : Standard.escapes (text "\\u0078") = [(0, text "u0078")] := by
      with_unfolding_all rfl
    have escapesToo : Standard.escapes (text "\\u\x7b78\x7d") = [(0, text "u\x7b78\x7d")] := by
      with_unfolding_all rfl
    refine ⟨first, second, made, madeToo, fun same => ?_, ?_⟩
    · rw [← binding] at spells escapes
      rw [← bindingToo] at escapesToo
      have alike := ((bindings (spells ▸ rfl)).mp same).2
      rw [escapes, escapesToo] at alike
      revert alike
      decide
    · exact ((told (List.forall_mem_nil _) (imports.trans importsToo.symm)).1
        (imports ▸ rfl)).mpr rfl

/-- Equal identifiers are introduced under different local names, and an export is told under a name
that is not its own. -/
theorem exists_binding_ne_and_imported_ne :
    (∃ first second : Statement,
      ofValue [] (.text (text "lab from 'm'")) (.ok (text "javascript")) = .ok first ∧
        ofValue [] (.text (text "l\\u0061b from 'n'")) (.ok (text "javascript")) = .ok second ∧
          Standard.nameValue? first.binding = Standard.nameValue? second.binding ∧
            Standard.Names second.binding (text "lab") ∧ first.binding ≠ second.binding) ∧
    ∃ first second : Statement,
      ofValue [] (.text (text "\x7b a as x \x7d from 'm'")) (.ok (text "javascript")) = .ok first ∧
        ofValue [] (.text (text "\x7b \\u0061 as x \x7d from 'm'")) (.ok (text "javascript")) =
            .ok second ∧
          first.imports? = second.imports? ∧
            first.imports? = some ((text "m").utf16, .named (text "a").utf16) ∧
              first.imported ≠ second.imported := by
  constructor
  · have known : (ofValue [] (.text (text "lab from 'm'")) (.ok (text "javascript"))).toOption.map
        binding = some (text "lab") := by
      decide +kernel
    have knownToo : (ofValue [] (.text (text "l\\u0061b from 'n'"))
        (.ok (text "javascript"))).toOption.map binding = some (text "l\\u0061b") := by
      decide +kernel
    obtain ⟨first, made, name⟩ := exists_ok_of_map_toOption known
    obtain ⟨second, madeToo, nameToo⟩ := exists_ok_of_map_toOption knownToo
    refine ⟨first, second, made, madeToo, ?_⟩
    rw [name, nameToo]
    decide +kernel
  · have known : (ofValue [] (.text (text "\x7b a as x \x7d from 'm'"))
        (.ok (text "javascript"))).toOption.map
          (fun statement => (statement.imports?, statement.imported)) =
            some (some ((text "m").utf16, .named (text "a").utf16), text "a") := by
      decide +kernel
    have knownToo : (ofValue [] (.text (text "\x7b \\u0061 as x \x7d from 'm'"))
        (.ok (text "javascript"))).toOption.map
          (fun statement => (statement.imports?, statement.imported)) =
            some (some ((text "m").utf16, .named (text "a").utf16), text "\\u0061") := by
      decide +kernel
    obtain ⟨first, made, told⟩ := exists_ok_of_map_toOption known
    obtain ⟨second, madeToo, toldToo⟩ := exists_ok_of_map_toOption knownToo
    obtain ⟨imports, imported⟩ := Prod.mk.inj told
    obtain ⟨importsToo, importedToo⟩ := Prod.mk.inj toldToo
    refine ⟨first, second, made, madeToo, imports.trans importsToo.symm, imports, ?_⟩
    rw [imported, importedToo]
    decide

end Statement

end ImportBinding
