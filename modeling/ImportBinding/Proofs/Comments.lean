/-
This file says that the comments in a syntax tree have no say in what is read off it.

A comment may stand among the children of any node. Whoever walks through children asks for their
kinds or their fields and so passes comments by; only in a literal is their text looked at, and
there they denote nothing. So the readings of a tree and of the tree without its comments agree
node by node, from the literals up to the whole text.
-/

import ImportBinding.Parsing
import ImportBinding.Proofs.Extents

namespace ImportBinding

namespace Tree

/-! ### Deleting comments -/

/-- A comment. -/
def isComment (tree : Tree) : Bool := tree.isKind (text "comment")

mutual

/-- The tree without the comments below its root. -/
def withoutComments : Tree → Tree
  | node label children => node label (withoutCommentsAmong children)

/-- The trees that are no comments, each without the comments below it. -/
def withoutCommentsAmong : List Tree → List Tree
  | [] => []
  | child :: later =>
    if child.isComment then withoutCommentsAmong later
    else child.withoutComments :: withoutCommentsAmong later

end

theorem withoutCommentsAmong_eq (children : List Tree) :
    withoutCommentsAmong children =
      (children.filter fun child => !child.isComment).map withoutComments := by
  induction children with
  | nil => rfl
  | cons child later inductionHypothesis =>
    rw [withoutCommentsAmong, inductionHypothesis]
    cases comment : child.isComment with
    | true => rw [List.filter_cons_of_neg (by rw [comment]; exact Bool.false_ne_true), if_pos rfl]
    | false =>
      rw [List.filter_cons_of_pos (by rw [comment]; rfl), List.map_cons]
      exact if_neg Bool.false_ne_true

theorem label_withoutComments (tree : Tree) : tree.withoutComments.label = tree.label := by
  cases tree
  rfl

theorem isKind_withoutComments (tree : Tree) (kind : Text) :
    tree.withoutComments.isKind kind = tree.isKind kind := by
  rw [isKind, isKind, label_withoutComments]

theorem children_withoutComments (tree : Tree) : tree.withoutComments.children =
    (tree.children.filter fun child => !child.isComment).map withoutComments := by
  cases tree
  rw [withoutComments, children, withoutCommentsAmong_eq, children]

theorem namedChildren_withoutComments (tree : Tree) : tree.withoutComments.namedChildren =
    (tree.namedChildren.filter fun child => !child.isComment).map withoutComments := by
  have same : (fun child : Tree => child.label.isNamed) ∘ withoutComments =
      fun child => child.label.isNamed :=
    funext fun child => congrArg Label.isNamed (label_withoutComments child)
  rw [namedChildren, children_withoutComments, List.filter_map, same, namedChildren,
    List.filter_filter, List.filter_filter]
  exact congrArg (List.map _)
    (congrArg (List.filter · _) (funext fun child => Bool.and_comm _ _))

/-- The constructs of a kind among the children, other than comments. -/
theorem filter_isKind_withoutComments (kind : Text) (other : kind ≠ text "comment")
    (tree : Tree) : (tree.withoutComments.namedChildren.filter fun child => child.isKind kind) =
      (tree.namedChildren.filter fun child => child.isKind kind).map withoutComments := by
  have same : (fun child : Tree => child.isKind kind) ∘ withoutComments =
      fun child => child.isKind kind :=
    funext fun child => isKind_withoutComments child kind
  rw [namedChildren_withoutComments, List.filter_map, same, List.filter_filter]
  refine congrArg (List.map _) (List.filter_congr fun child _ => ?_)
  cases ofKind : child.isKind kind with
  | false => rfl
  | true =>
    have noComment : child.isComment = false :=
      decide_eq_false fun comment => other ((of_decide_eq_true ofKind).symm.trans comment)
    rw [noComment]
    rfl

theorem inField?_withoutComments {tree : Tree}
    (apart : ∀ child ∈ tree.children, child.isComment = true → child.label.field = none)
    (field : Text) :
    tree.withoutComments.inField? field = (tree.inField? field).map withoutComments := by
  have same : (fun child : Tree => decide (child.label.field = some field)) ∘ withoutComments =
      fun child => decide (child.label.field = some field) :=
    funext fun child => by rw [Function.comp_apply, label_withoutComments]
  rw [inField?, children_withoutComments, List.find?_map, same, inField?, ← List.head?_filter,
    ← List.head?_filter, List.filter_filter]
  refine congrArg (fun found => Option.map _ (List.head? found))
    (List.filter_congr fun child member => ?_)
  cases comment : child.isComment with
  | false => exact Bool.and_true _
  | true =>
    rw [apart child member comment]
    rfl

/-- No comment is left below the root. -/
theorem isComment_of_mem_withoutComments (tree : Tree) :
    ∀ sub ∈ tree.withoutComments.subtrees, ∀ child ∈ sub.children, child.isComment = false := by
  induction tree using inductionOn with
  | node label children inductionHypothesis =>
    rw [withoutComments, withoutCommentsAmong_eq, subtrees_node, List.forall_mem_cons]
    refine ⟨fun child member => ?_, fun sub member => ?_⟩
    · obtain ⟨kept, listed, rfl⟩ := List.mem_map.mp member
      have noComment := (List.mem_filter.mp listed).2
      rw [isComment, isKind_withoutComments]
      exact (Bool.not_eq_true' _).mp noComment
    · obtain ⟨other, inRest, below⟩ := List.mem_flatMap.mp member
      obtain ⟨kept, listed, rfl⟩ := List.mem_map.mp inRest
      exact inductionHypothesis kept (List.mem_of_mem_filter listed) sub below

/-! ### Comments that stand apart -/

/-- The comments in a tree stand apart: each covers a stretch of the text, and none is in a
field. -/
def CommentsStandApart (content : Text) (tree : Tree) : Prop :=
  ∀ sub ∈ tree.subtrees, sub.isComment = true →
    sub.label.LiesOn content ∧ sub.label.field = none

instance (content : Text) : DecidablePred (CommentsStandApart content) :=
  fun _ => List.decidableBAll _ _

/-- What is below a node below the root is below the root. -/
theorem mem_subtrees_trans {tree sub below : Tree} (member : sub ∈ tree.subtrees)
    (memberToo : below ∈ sub.subtrees) : below ∈ tree.subtrees := by
  induction tree using inductionOn with
  | node label children inductionHypothesis =>
    rw [subtrees_node] at member
    rcases List.mem_cons.mp member with rfl | deeper
    · exact memberToo
    · obtain ⟨child, inChildren, inChild⟩ := List.mem_flatMap.mp deeper
      exact mem_subtrees_of_mem_children inChildren
        (inductionHypothesis child inChildren inChild)

namespace CommentsStandApart

variable {content : Text} {tree : Tree} (apart : tree.CommentsStandApart content)

include apart

theorem of_mem_subtrees {sub : Tree} (member : sub ∈ tree.subtrees) :
    sub.CommentsStandApart content :=
  fun below inSub => apart below (mem_subtrees_trans member inSub)

theorem of_mem_children {child : Tree} (member : child ∈ tree.children)
    (comment : child.isComment = true) :
    child.label.LiesOn content ∧ child.label.field = none :=
  apart child (mem_subtrees_of_mem_children member (mem_subtrees_self child)) comment

theorem inField? (field : Text) :
    tree.withoutComments.inField? field = (tree.inField? field).map withoutComments :=
  inField?_withoutComments (fun _ member comment => (apart.of_mem_children member comment).2) field

end CommentsStandApart

/-! ### Literals -/

section Literal

variable {content : Text}

theorem written_withoutComments (tree : Tree) :
    tree.withoutComments.written content = tree.written content := by
  rw [written, written, label_withoutComments]

theorem extent_withoutComments (tree : Tree) :
    tree.withoutComments.extent content = tree.extent content := by
  rw [extent, extent, label_withoutComments]

theorem piece?_withoutComments (tree : Tree) :
    tree.withoutComments.piece? content = tree.piece? content := by
  rw [piece?, piece?, written_withoutComments, isKind_withoutComments, isKind_withoutComments]

/-- The text of a comment in a literal is looked at, and is no piece of the literal. -/
theorem piece?_of_isComment {tree : Tree} (comment : tree.isComment = true)
    (lies : tree.label.LiesOn content) : tree.piece? content = .ok none := by
  obtain ⟨before, stretch, after, covers⟩ := lies
  have kind : tree.label.kind = text "comment" := of_decide_eq_true comment
  have noEscape : tree.isKind (text "escape_sequence") = false := by
    rw [isKind, kind]
    rfl
  have noFragment : tree.isKind (text "string_fragment") = false := by
    rw [isKind, kind]
    rfl
  rw [piece?, written_of_covers covers, ok_bind, noEscape, noFragment]
  rfl

theorem flatten_pieceValues_cons (child : Tree) (later : List Tree) :
    (pieceValues content (child :: later)).map List.flatten = (do
      let piece ← child.piece? content
      let value ← piece.elim (.ok []) Piece.decode
      ((pieceValues content later).map List.flatten).map (value ++ ·)) := by
  rw [pieceValues]
  cases child.piece? content with
  | error failure => rfl
  | ok piece =>
    simp only [ok_bind]
    cases piece.elim (.ok []) Piece.decode with
    | error failure => rfl
    | ok value => cases pieceValues content later <;> rfl

theorem flatten_pieceValues_withoutComments {children : List Tree}
    (lies : ∀ child ∈ children, child.isComment = true → child.label.LiesOn content) :
    (pieceValues content
        ((children.filter fun child => !child.isComment).map withoutComments)).map List.flatten =
      (pieceValues content children).map List.flatten := by
  induction children with
  | nil => rfl
  | cons child later inductionHypothesis =>
    obtain ⟨liesFirst, liesLater⟩ := List.forall_mem_cons.mp lies
    rw [flatten_pieceValues_cons]
    cases comment : child.isComment with
    | true =>
      rw [List.filter_cons_of_neg (by rw [comment]; exact Bool.false_ne_true),
        inductionHypothesis liesLater, piece?_of_isComment comment (liesFirst comment)]
      cases (pieceValues content later).map List.flatten <;> rfl
    | false =>
      rw [List.filter_cons_of_pos (by rw [comment]; rfl), List.map_cons,
        flatten_pieceValues_cons, piece?_withoutComments, inductionHypothesis liesLater]

theorem literalValue_eq_map (tree : Tree) : tree.literalValue content =
    ((pieceValues content tree.namedChildren).map List.flatten).map Text.joinSurrogates := by
  rw [literalValue]
  cases pieceValues content tree.namedChildren <;> rfl

/-- A literal denotes the same without the comments in it. -/
theorem CommentsStandApart.literalValue {tree : Tree} (apart : tree.CommentsStandApart content) :
    tree.withoutComments.literalValue content = tree.literalValue content := by
  have lies (child : Tree) (member : child ∈ tree.namedChildren)
      (comment : child.isComment = true) : child.label.LiesOn content :=
    (apart.of_mem_children (List.mem_of_mem_filter member) comment).1
  rw [literalValue_eq_map, namedChildren_withoutComments,
    flatten_pieceValues_withoutComments lies, literalValue_eq_map]

theorem CommentsStandApart.identifier {tree : Tree} (apart : tree.CommentsStandApart content) :
    tree.withoutComments.identifier content = tree.identifier content := by
  rw [Tree.identifier, Tree.identifier, apart.literalValue, written_withoutComments,
    extent_withoutComments, isKind_withoutComments]

end Literal

end Tree

/-! ### Specifiers -/

/-- A site without the comments in it. -/
def Site.withoutComments : Site → Site
  | default name => .default name.withoutComments
  | star name => .star name.withoutComments
  | named entry => .named entry.withoutComments

namespace Tree

theorem partSites_withoutComments (part : Tree) :
    part.withoutComments.partSites = part.partSites.map Site.withoutComments := by
  have names := filter_isKind_withoutComments (text "identifier") (by decide) part
  have entries :=
    filter_isKind_withoutComments (text "import_specifier") (by decide) part
  rw [partSites, partSites, isKind_withoutComments, isKind_withoutComments,
    isKind_withoutComments, names, entries]
  split
  · rfl
  · split
    · rw [List.map_map, List.map_map]
      rfl
    · split
      · rw [List.map_map, List.map_map]
        rfl
      · rfl

/-- There are no sites in a comment. -/
theorem partSites_of_isComment {part : Tree} (comment : part.isComment = true) :
    part.partSites = [] := by
  have kind : part.label.kind = text "comment" := of_decide_eq_true comment
  rw [partSites, isKind, isKind, isKind, kind]
  rfl

theorem flatMap_partSites_withoutComments (parts : List Tree) :
    ((parts.filter fun part => !part.isComment).map withoutComments).flatMap partSites =
      (parts.flatMap partSites).map Site.withoutComments := by
  induction parts with
  | nil => rfl
  | cons part later inductionHypothesis =>
    cases comment : part.isComment with
    | true =>
      rw [List.filter_cons_of_neg (by rw [comment]; exact Bool.false_ne_true),
        inductionHypothesis, List.flatMap_cons, partSites_of_isComment comment, List.nil_append]
    | false =>
      rw [List.filter_cons_of_pos (by rw [comment]; rfl), List.map_cons, List.flatMap_cons,
        inductionHypothesis, partSites_withoutComments, List.flatMap_cons, List.map_append]

/-- Deleting comments neither adds nor removes a site. -/
theorem sites_withoutComments (tree : Tree) :
    tree.withoutComments.sites = tree.sites.map Site.withoutComments := by
  have clauses := filter_isKind_withoutComments (text "import_clause") (by decide) tree
  rw [sites, clauses, List.flatMap_assoc, List.flatMap_map, sites, List.flatMap_assoc,
    List.map_flatMap]
  refine congrArg (List.flatMap · _) (funext fun clause => ?_)
  rw [namedChildren_withoutComments, flatMap_partSites_withoutComments]

theorem CommentsStandApart.specifier {content : Text} {tree : Tree} {site : Site}
    (apart : tree.CommentsStandApart content) (below : site.IsBelow tree) :
    site.withoutComments.specifier content = site.specifier content := by
  have told (node : Tree) (member : node ∈ site.nodes) :
      node.withoutComments.identifier content = node.identifier content :=
    (apart.of_mem_subtrees (below.nodes node member)).identifier
  cases site with
  | default name | star name =>
    rw [Site.withoutComments, Site.specifier, told name (List.mem_singleton_self name),
      Site.specifier]
  | named entry =>
    have inEntry := apart.of_mem_subtrees (below.entry entry rfl).1
    rw [Site.withoutComments, Site.specifier, Site.specifier, namedSpecifier, namedSpecifier,
      inEntry.inField?, inEntry.inField?]
    cases named : entry.inField? (text "name") with
    | none => rfl
    | some name =>
      simp only [Option.map_some, told name (by simp [Site.nodes, named])]
      cases aliased : entry.inField? (text "alias") with
      | none => rfl
      | some changed => simp only [Option.map_some, told changed (by simp [Site.nodes, aliased])]

section Reading

variable {content : Text} {tree : Tree} (apart : tree.CommentsStandApart content)

include apart

/-- A declaration has the same specifiers without the comments in it. -/
theorem CommentsStandApart.specifiers :
    tree.withoutComments.specifiers content = tree.specifiers content := by
  have each (site : Site) (member : site ∈ tree.sites) :
      site.withoutComments.specifier content = site.specifier content :=
    apart.specifier (isBelow_of_mem_sites member)
  rw [specifiers_eq, sites_withoutComments, List.mapM_map, specifiers_eq]
  exact mapM_congr each

theorem CommentsStandApart.source :
    tree.withoutComments.source content = tree.source content := by
  rw [Tree.source, Tree.source, apart.inField?]
  cases found : tree.inField? (text "source") with
  | none => rfl
  | some literal =>
    have inLiteral := apart.of_mem_subtrees
      (mem_subtrees_of_mem_children (mem_children_of_inField? found) (mem_subtrees_self literal))
    simp only [Option.map_some, inLiteral.literalValue]

theorem CommentsStandApart.statement :
    tree.withoutComments.statement content = tree.statement content := by
  rw [Tree.statement, Tree.statement, isKind_withoutComments, extent_withoutComments,
    apart.specifiers, apart.source, label_withoutComments]

/-- A sound tree tells the same first statement without the comments in it. -/
theorem CommentsStandApart.node? (sound : tree.label.hasFault = false) :
    tree.withoutComments.node? content = tree.node? content := by
  have same : (fun child : Tree => !child.isKind (text "comment")) ∘ Tree.withoutComments =
      fun child => !child.isKind (text "comment") :=
    funext fun child => congrArg not (isKind_withoutComments child (text "comment"))
  have first : (tree.withoutComments.namedChildren.find? fun child =>
        !child.isKind (text "comment")) =
      (tree.namedChildren.find? fun child => !child.isKind (text "comment")).map
        Tree.withoutComments := by
    rw [namedChildren_withoutComments, List.find?_map, same, List.find?_filter]
    simp only [isComment, and_self, Bool.decide_eq_true]
  rw [Tree.node?, Tree.node?, label_withoutComments, sound, first]
  cases found : tree.namedChildren.find? fun child => !child.isKind (text "comment") with
  | none => rfl
  | some statement =>
    have inStatement := apart.of_mem_subtrees (mem_subtrees_of_mem_children
      (List.mem_of_mem_filter (List.mem_of_find?_eq_some found)) (mem_subtrees_self statement))
    simp only [Option.map_some, inStatement.statement, Bool.false_eq_true, if_false]

end Reading

end Tree

/-! ### Texts with recorded trees -/

theorem recordedTree?_cons (dialect : Dialect) (content : Text) (tree : Tree)
    (recordings : List Recording) :
    recordedTree? (⟨dialect.name, content, tree⟩ :: recordings) dialect content = some tree := by
  rw [recordedTree?, List.find?_cons_of_pos (by simp)]
  rfl

/-- When a tree without a fault is recorded for a text, and the comments in it cover stretches of
the text and are in no fields, then all comments can be deleted from it, and it makes no difference
to what is read. -/
theorem readStatement_withoutComments {content : Text} {tree : Tree} (dialect : Dialect)
    (recordings : List Recording) (sound : tree.label.hasFault = false)
    (apart : tree.CommentsStandApart content) :
    (∀ sub ∈ tree.withoutComments.subtrees, ∀ child ∈ sub.children, child.isComment = false) ∧
      readStatement (⟨dialect.name, content, tree.withoutComments⟩ :: recordings) dialect
          content =
        readStatement (⟨dialect.name, content, tree⟩ :: recordings) dialect content := by
  refine ⟨tree.isComment_of_mem_withoutComments, ?_⟩
  simp only [readStatement, recordedTree?_cons, apart.node? sound]

/-- A declaration with a comment wherever one may stand. -/
def commented : Tree :=
  .node ⟨text "program", 0, 48, 0, 0, true, false, false, none⟩
    [.node ⟨text "comment", 0, 6, 0, 0, true, false, false, none⟩ [],
      .node ⟨importKind, 6, 48, 0, 6, true, false, false, none⟩
        [.node ⟨text "comment", 12, 17, 0, 12, true, false, false, none⟩ [],
          .node ⟨text "import_clause", 17, 41, 0, 17, true, false, false, none⟩
            [.node ⟨text "identifier", 17, 18, 0, 17, true, false, false, none⟩ [],
              .node ⟨text "comment", 19, 24, 0, 19, true, false, false, none⟩ [],
              .node ⟨text "named_imports", 24, 41, 0, 24, true, false, false, none⟩
                [.node ⟨text "comment", 25, 30, 0, 25, true, false, false, none⟩ [],
                  .node ⟨text "import_specifier", 30, 40, 0, 30, true, false, false, none⟩
                    [.node ⟨text "identifier", 30, 31, 0, 30, true, false, false,
                        some (text "name")⟩ [],
                      .node ⟨text "comment", 31, 36, 0, 31, true, false, false, none⟩ [],
                      .node ⟨text "identifier", 39, 40, 0, 39, true, false, false,
                        some (text "alias")⟩ []]]],
          .node ⟨text "string", 45, 48, 0, 45, true, false, false, some (text "source")⟩
            [.node ⟨text "string_fragment", 46, 47, 0, 46, true, false, false, none⟩ []]]]

/-- Without its comments the declaration still has its two bindings, at their places. -/
theorem readStatement_withoutComments_commented :
    readStatement [⟨text "javascript",
        text "/*é*/import/*a*/x,/*b*/\x7b/*c*/y/*d*/as z\x7dfrom'm'", commented.withoutComments⟩]
        .javascript (text "/*é*/import/*a*/x,/*b*/\x7b/*c*/y/*d*/as z\x7dfrom'm'") =
      .ok (some ⟨importKind, 5, 47,
        [.default ⟨text "x", 16, 17⟩, .named ⟨text "y", 29, 30⟩ ⟨text "z", 38, 39⟩],
        some (text "m")⟩) := by
  have apart : commented.CommentsStandApart
      (text "/*é*/import/*a*/x,/*b*/\x7b/*c*/y/*d*/as z\x7dfrom'm'") := by decide
  refine (readStatement_withoutComments .javascript [] rfl apart).2.trans ?_
  with_unfolding_all rfl

end ImportBinding
