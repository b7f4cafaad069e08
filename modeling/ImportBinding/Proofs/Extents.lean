/-
This file says of which nodes the specifiers of a declaration are told when it is read off a
tree.

Each specifier has a site in the tree, and the sites come in the order of the specifiers. The
identifiers of a specifier have the extents of the nodes at its site. Only a literal has a name
other than the text of its node, so only a literal that denotes nothing keeps the specifiers from
being told. Nodes that keep apart in bytes keep apart in code points: hence an alias is seen by
where it starts.
-/

import ImportBinding.Proofs.Offsets

namespace ImportBinding

/-! ### Identifiers -/

/-- An identifier has the extent of a node in code points, and the text of the node for a name. The
name of a literal is what it denotes. -/
structure Identifier.IsOf (content : Text) (node : Tree) (identifier : Identifier) : Prop where
  ordered : identifier.start ≤ identifier.stop
  inside : identifier.stop ≤ content.length
  front : (Text.utf8 (content.take identifier.start)).length = node.label.startByte
  bytes : (content.slice identifier.start identifier.stop).utf8 =
    (content.utf8.drop node.label.startByte).take (node.label.stopByte - node.label.startByte)
  written : node.isKind (text "string") = false →
    identifier.name = content.slice identifier.start identifier.stop
  denoted : node.isKind (text "string") = true → node.literalValue content = .ok identifier.name

namespace Tree

variable {content : Text} {node : Tree}

/-- The identifier of a node that covers a stretch of the text. -/
theorem identifier_of_covers {before stretch after : Text}
    (covers : node.label.Covers content before stretch after) :
    node.identifier content =
      (if node.isKind (text "string") then node.literalValue content else .ok stretch).map
        fun name => ⟨name, before.length, (before ++ stretch).length⟩ := by
  rw [identifier, written_of_covers covers, extent_of_covers covers]
  split
  · cases node.literalValue content <;> rfl
  · rfl

theorem isOf_of_identifier {identifier : Identifier} (lies : node.label.LiesOn content)
    (told : node.identifier content = .ok identifier) : identifier.IsOf content node := by
  obtain ⟨before, stretch, after, covers⟩ := lies
  rw [identifier_of_covers covers] at told
  obtain ⟨name, named, rfl⟩ := map_eq_ok_iff.mp told
  refine ⟨?_, covers.length_le, ?_, ?_, fun other => ?_, fun literal => ?_⟩
  · rw [List.length_append]
    exact Nat.le_add_right _ _
  · rw [covers.whole, List.take_left, covers.start]
  · rw [covers.slice_eq, covers.utf8_stretch]
  · rw [other] at named
    rw [covers.slice_eq]
    exact (Except.ok.inj named).symm
  · rw [literal] at named
    exact named

/-- A node has an identifier unless it is a literal that denotes nothing. -/
theorem exists_identifier_iff (lies : node.label.LiesOn content) :
    (∃ identifier, node.identifier content = .ok identifier) ↔
      (node.isKind (text "string") = true → ∃ value, node.literalValue content = .ok value) := by
  obtain ⟨before, stretch, after, covers⟩ := lies
  rw [identifier_of_covers covers]
  cases node.isKind (text "string") with
  | true => cases node.literalValue content <;> simp [Except.map]
  | false => simp [Except.map]

end Tree

/-- Two nodes keep apart when neither is empty and one stops before the other starts. -/
structure Label.IsApart (first second : Label) : Prop where
  nonempty : first.startByte < first.stopByte
  nonemptyToo : second.startByte < second.stopByte
  apart : first.stopByte ≤ second.startByte ∨ second.stopByte ≤ first.startByte

theorem Label.IsApart.startByte_ne {first second : Label} (apart : first.IsApart second) :
    first.startByte ≠ second.startByte := by
  obtain ⟨nonempty, nonemptyToo, apart⟩ := apart
  omega

/-! ### Sites -/

/-- What a specifier is told of: the name of a default binding, the name for a whole module, or an
entry in a list of names. -/
inductive Site where
  | default (name : Tree)
  | star (name : Tree)
  | named (entry : Tree)

namespace Tree

/-- The sites in a part of a clause. -/
def partSites (part : Tree) : List Site :=
  if part.isKind (text "identifier") then [.default part]
  else if part.isKind (text "namespace_import") then
    (part.namedChildren.filter fun child => child.isKind (text "identifier")).map .star
  else if part.isKind (text "named_imports") then
    (part.namedChildren.filter fun child => child.isKind (text "import_specifier")).map .named
  else []

/-- The sites in an import declaration. -/
def sites (tree : Tree) : List Site :=
  let clauses := tree.namedChildren.filter fun child => child.isKind (text "import_clause")
  (clauses.flatMap namedChildren).flatMap partSites

end Tree

namespace Site

/-- The nodes at a site that identifiers are told of. -/
def nodes : Site → List Tree
  | default name | star name => [name]
  | named entry =>
    (entry.inField? (text "name")).toList ++ (entry.inField? (text "alias")).toList

/-- The specifier at a site. -/
def specifier (content : Text) : Site → Except Failure Specifier
  | default name => (name.identifier content).map .default
  | star name => (name.identifier content).map .star
  | named entry => entry.namedSpecifier content

/-- What is told of a site. Without an alias the name of an export is the local name too. -/
inductive Tells (content : Text) : Site → Specifier → Prop where
  | default {name : Tree} {binding : Identifier} (is : binding.IsOf content name) :
      Tells content (.default name) (.default binding)
  | star {name : Tree} {binding : Identifier} (is : binding.IsOf content name) :
      Tells content (.star name) (.star binding)
  | bare {entry name : Tree} {exported : Identifier}
      (named : entry.inField? (text "name") = some name)
      (single : entry.inField? (text "alias") = none) (is : exported.IsOf content name) :
      Tells content (.named entry) (.named exported exported)
  | renamed {entry name changed : Tree} {imported binding : Identifier}
      (named : entry.inField? (text "name") = some name)
      (aliased : entry.inField? (text "alias") = some changed)
      (is : imported.IsOf content name) (isToo : binding.IsOf content changed) :
      Tells content (.named entry) (.named imported binding)

/-- An alias that keeps apart from the name of the export is seen by where it starts. -/
theorem Tells.isAliased_iff {content : Text} {entry : Tree} {specifier : Specifier}
    (tells : Tells content (.named entry) specifier)
    (apart : ∀ name ∈ entry.inField? (text "name"), ∀ changed ∈ entry.inField? (text "alias"),
      name.label.IsApart changed.label) :
    specifier.isAliased = true ↔ (entry.inField? (text "alias")).isSome = true := by
  cases tells with
  | bare named single is =>
    rw [single]
    exact iff_of_false (by simp [Specifier.isAliased]) Bool.false_ne_true
  | renamed named aliased is isToo =>
    rw [aliased]
    -- Fronts of equal length are one front, and so the two nodes would start at one byte.
    refine iff_of_true (bne_iff_ne.mpr fun same => ?_) rfl
    have starts := apart _ named _ aliased
    have front := is.front
    rw [same, isToo.front] at front
    exact starts.startByte_ne front.symm

/-- A specifier is told at a site that lies on the text. -/
theorem tells_of_specifier {content : Text} {site : Site} {specifier : Specifier}
    (lies : ∀ node ∈ site.nodes, node.label.LiesOn content)
    (told : site.specifier content = .ok specifier) : site.Tells content specifier := by
  cases site with
  | default name =>
    obtain ⟨binding, read, rfl⟩ := map_eq_ok_iff.mp told
    exact .default (Tree.isOf_of_identifier (lies name (List.mem_singleton_self name)) read)
  | star name =>
    obtain ⟨binding, read, rfl⟩ := map_eq_ok_iff.mp told
    exact .star (Tree.isOf_of_identifier (lies name (List.mem_singleton_self name)) read)
  | named entry =>
    rw [Site.specifier, Tree.namedSpecifier] at told
    cases named : entry.inField? (text "name") with
    | none =>
      rw [named] at told
      cases told
    | some name =>
      rw [named] at told
      obtain ⟨imported, exported, told⟩ := bind_eq_ok_iff.mp told
      have first := Tree.isOf_of_identifier (lies name (by simp [nodes, named])) exported
      cases aliased : entry.inField? (text "alias") with
      | none =>
        rw [aliased] at told
        cases told
        exact .bare named aliased first
      | some changed =>
        rw [aliased] at told
        obtain ⟨binding, changedToo, same⟩ := bind_eq_ok_iff.mp told
        cases same
        exact .renamed named aliased first
          (Tree.isOf_of_identifier (lies changed (by simp [nodes, aliased])) changedToo)

/-- There is a specifier at a site unless a literal there denotes nothing. -/
theorem exists_specifier_iff {content : Text} {site : Site}
    (lies : ∀ node ∈ site.nodes, node.label.LiesOn content)
    (hasName : ∀ entry, site = .named entry → (entry.inField? (text "name")).isSome = true) :
    (∃ specifier, site.specifier content = .ok specifier) ↔
      ∀ node ∈ site.nodes, node.isKind (text "string") = true →
        ∃ value, node.literalValue content = .ok value := by
  have each : (∀ node ∈ site.nodes, node.isKind (text "string") = true →
      ∃ value, node.literalValue content = .ok value) ↔
        ∀ node ∈ site.nodes, ∃ identifier, node.identifier content = .ok identifier :=
    forall₂_congr fun node member => (Tree.exists_identifier_iff (lies node member)).symm
  rw [each]
  cases site with
  | default name | star name =>
    simp only [nodes, specifier, List.mem_singleton, forall_eq, map_eq_ok_iff]
    constructor
    · rintro ⟨_, identifier, told, -⟩
      exact ⟨identifier, told⟩
    · rintro ⟨identifier, told⟩
      exact ⟨_, identifier, told, rfl⟩
  | named entry =>
    obtain ⟨name, named⟩ := Option.isSome_iff_exists.mp (hasName entry rfl)
    rw [specifier, Tree.namedSpecifier, named, nodes, named]
    cases aliased : entry.inField? (text "alias") with
    | none =>
      simp only [Option.toList, List.append_nil, List.mem_singleton, forall_eq, bind_eq_ok_iff]
      constructor
      · rintro ⟨_, identifier, told, -⟩
        exact ⟨identifier, told⟩
      · rintro ⟨identifier, told⟩
        exact ⟨_, identifier, told, rfl⟩
    | some changed =>
      simp only [Option.toList, List.cons_append, List.nil_append, List.forall_mem_cons,
        bind_eq_ok_iff]
      constructor
      · rintro ⟨_, imported, told, binding, toldToo, -⟩
        exact ⟨⟨imported, told⟩, ⟨binding, toldToo⟩, List.forall_mem_nil _⟩
      · rintro ⟨⟨imported, told⟩, ⟨binding, toldToo⟩, -⟩
        exact ⟨_, imported, told, binding, toldToo, rfl⟩

/-- The nodes at a site are nodes of a tree, and so is its entry, which is one for a specifier. -/
structure IsBelow (tree : Tree) (site : Site) : Prop where
  nodes : ∀ node ∈ site.nodes, node ∈ tree.subtrees
  entry : ∀ entry, site = .named entry →
    entry ∈ tree.subtrees ∧ entry.isKind (text "import_specifier") = true

end Site

/-! ### Declarations -/

namespace Tree

theorem partSpecifiers_eq (content : Text) (part : Tree) :
    part.partSpecifiers content = part.partSites.mapM (Site.specifier content) := by
  unfold partSpecifiers partSites
  split
  · rw [mapM_singleton, Site.specifier]
    cases part.identifier content <;> rfl
  · split
    · rw [List.mapM_map]
      exact congrArg (List.mapM · _) (funext fun child => bind_pure_eq_map _ Specifier.star)
    · split
      · rw [List.mapM_map]
        rfl
      · rfl

/-- The specifiers of a declaration are those at its sites. -/
theorem specifiers_eq (content : Text) (tree : Tree) :
    tree.specifiers content = tree.sites.mapM (Site.specifier content) := by
  have parts : (fun part : Tree => part.partSpecifiers content) =
      fun part => part.partSites.mapM (Site.specifier content) :=
    funext (partSpecifiers_eq content)
  rw [specifiers, sites, mapM_flatMap (Site.specifier content) partSites, parts]
  exact bind_pure_eq_map _ List.flatten

theorem mem_children_of_inField? {tree child : Tree} {field : Text}
    (found : tree.inField? field = some child) : child ∈ tree.children :=
  List.mem_of_find?_eq_some found

/-- A site is below every tree that its part is below. -/
theorem isBelow_of_mem_children {tree child : Tree} {site : Site} (member : child ∈ tree.children)
    (below : site.IsBelow child) : site.IsBelow tree where
  nodes node inSite := mem_subtrees_of_mem_children member (below.nodes node inSite)
  entry entry same := by
    obtain ⟨inChild, kind⟩ := below.entry entry same
    exact ⟨mem_subtrees_of_mem_children member inChild, kind⟩

theorem isBelow_of_mem_partSites {part : Tree} {site : Site} (member : site ∈ part.partSites) :
    site.IsBelow part := by
  unfold partSites at member
  split at member
  · obtain rfl := List.mem_singleton.mp member
    refine ⟨List.forall_mem_singleton.mpr (mem_subtrees_self part), fun entry same => ?_⟩
    cases same
  · split at member
    · obtain ⟨name, listed, rfl⟩ := List.mem_map.mp member
      have child := List.mem_of_mem_filter (List.mem_of_mem_filter listed)
      refine isBelow_of_mem_children child ⟨?_, fun entry same => ?_⟩
      · exact List.forall_mem_singleton.mpr (mem_subtrees_self name)
      · cases same
    · split at member
      · obtain ⟨entry, listed, rfl⟩ := List.mem_map.mp member
        obtain ⟨listed, kind⟩ := List.mem_filter.mp listed
        refine isBelow_of_mem_children (List.mem_of_mem_filter listed)
          ⟨fun node inEntry => ?_, fun other same => ?_⟩
        · refine mem_subtrees_of_mem_children ?_ (mem_subtrees_self node)
          rcases List.mem_append.mp inEntry with name | changed
          · exact mem_children_of_inField? (Option.mem_toList.mp name)
          · exact mem_children_of_inField? (Option.mem_toList.mp changed)
        · cases same
          exact ⟨mem_subtrees_self entry, kind⟩
      · cases member

/-- The sites of a declaration are below it. -/
theorem isBelow_of_mem_sites {tree : Tree} {site : Site} (member : site ∈ tree.sites) :
    site.IsBelow tree := by
  obtain ⟨part, inClause, inPart⟩ := List.mem_flatMap.mp member
  obtain ⟨clause, inTree, inClause⟩ := List.mem_flatMap.mp inClause
  have below := isBelow_of_mem_partSites inPart
  have below := isBelow_of_mem_children (List.mem_of_mem_filter inClause) below
  exact isBelow_of_mem_children (List.mem_of_mem_filter (List.mem_of_mem_filter inTree)) below

/-- When the nodes of a declaration cover stretches of the text and its entries have names, the
specifiers are told of its sites one by one, unless a literal there denotes nothing. On boundaries
the offset in code points grows with the offset in bytes, and an alias that keeps apart from the
name of the export is seen. -/
theorem specifiers_tell {content : Text} {tree : Tree}
    (lies : ∀ sub ∈ tree.subtrees, sub.label.LiesOn content)
    (hasName : ∀ sub ∈ tree.subtrees, sub.isKind (text "import_specifier") = true →
      (sub.inField? (text "name")).isSome = true) :
    ((∃ specifiers, tree.specifiers content = .ok specifiers) ↔
        ∀ site ∈ tree.sites, ∀ node ∈ site.nodes, node.isKind (text "string") = true →
          ∃ value, node.literalValue content = .ok value) ∧
      (∀ specifiers, tree.specifiers content = .ok specifiers →
        List.Forall₂ (Site.Tells content) tree.sites specifiers) ∧
        (∀ entry specifier, Site.Tells content (.named entry) specifier →
          (∀ name ∈ entry.inField? (text "name"), ∀ changed ∈ entry.inField? (text "alias"),
            name.label.IsApart changed.label) →
          (specifier.isAliased = true ↔ (entry.inField? (text "alias")).isSome = true)) ∧
          ∀ byte byteToo, content.IsBoundary byte → content.IsBoundary byteToo → byte < byteToo →
            ∃ offset offsetToo, offsetAt content byte = .ok offset ∧
              offsetAt content byteToo = .ok offsetToo ∧ offset < offsetToo := by
  have liesAt (site : Site) (member : site ∈ tree.sites) :
      ∀ node ∈ site.nodes, node.label.LiesOn content :=
    fun node inSite => lies node ((isBelow_of_mem_sites member).nodes node inSite)
  refine ⟨?_, fun specifiers told => ?_, fun entry specifier tells => tells.isAliased_iff,
    fun byte byteToo => offsetAt_lt_offsetAt⟩
  · rw [specifiers_eq, exists_mapM_eq_ok_iff]
    refine forall₂_congr fun site member => ?_
    refine Site.exists_specifier_iff (liesAt site member) fun entry same => ?_
    obtain ⟨inTree, kind⟩ := (isBelow_of_mem_sites member).entry entry same
    exact hasName entry inTree kind
  · rw [specifiers_eq] at told
    refine forall₂_of_mapM_eq_ok (fun site member specifier read => ?_) told
    exact Site.tells_of_specifier (liesAt site member) read

/-- An entry behind a comment, with characters of two and of four bytes. -/
def accentedEntry : Tree :=
  .node ⟨text "import_specifier", 17, 24, 0, 17, true, false, false, none⟩
    [.node ⟨text "identifier", 17, 19, 0, 17, true, false, false, some (text "name")⟩ [],
      .node ⟨text "as", 20, 22, 0, 20, false, false, false, none⟩ [],
      .node ⟨text "identifier", 23, 24, 0, 23, true, false, false, some (text "alias")⟩ []]

/-- The declaration with this entry. -/
def accented : Tree :=
  .node ⟨importKind, 8, 35, 0, 8, true, false, false, none⟩
    [.node ⟨text "import_clause", 15, 26, 0, 15, true, false, false, none⟩
      [.node ⟨text "named_imports", 15, 26, 0, 15, true, false, false, none⟩ [accentedEntry]],
      .node ⟨text "string", 32, 35, 0, 32, true, false, false, some (text "source")⟩
        [.node ⟨text "string_fragment", 33, 34, 0, 33, true, false, false, none⟩ []]]

/-- A comment takes up fewer code points than bytes, and so does a name. -/
theorem specifiers_tell_accented :
    accented.specifiers (text "/*😀*/import \x7b é as x \x7d from 'm'") =
        .ok [.named ⟨text "é", 14, 15⟩ ⟨text "x", 19, 20⟩] ∧
      Site.Tells (text "/*😀*/import \x7b é as x \x7d from 'm'") (.named accentedEntry)
        (.named ⟨text "é", 14, 15⟩ ⟨text "x", 19, 20⟩) ∧
        (Specifier.named ⟨text "é", 14, 15⟩ ⟨text "x", 19, 20⟩).isAliased = true := by
  have lies : ∀ sub ∈ accented.subtrees,
      sub.label.LiesOn (text "/*😀*/import \x7b é as x \x7d from 'm'") := by decide
  have hasName : ∀ sub ∈ accented.subtrees, sub.isKind (text "import_specifier") = true →
      (sub.inField? (text "name")).isSome = true := by decide
  have apart : ∀ name ∈ accentedEntry.inField? (text "name"),
      ∀ changed ∈ accentedEntry.inField? (text "alias"), name.label.IsApart changed.label := by
    rintro _ ⟨⟩ _ ⟨⟩
    exact ⟨by decide, by decide, .inl (by decide)⟩
  have read : accented.specifiers (text "/*😀*/import \x7b é as x \x7d from 'm'") =
      .ok [.named ⟨text "é", 14, 15⟩ ⟨text "x", 19, 20⟩] := by with_unfolding_all rfl
  obtain ⟨-, tells, seen, -⟩ := specifiers_tell lies hasName
  obtain _ | ⟨told, -⟩ := tells _ read
  exact ⟨read, told, (seen _ _ told apart).mpr rfl⟩

end Tree

end ImportBinding
