/-
This file says where the code points that a console shows come from.

Sanitizing replaces every glyph, and no glyph stands in what it is replaced by. Markup only shows
what is written in it, and laying out a text only adds blanks to it. What else is shown the console
brings in by itself, after the text has been sanitized: emoji in place of their codes, and in a
table what it is drawn with and the ellipsis of a word that is cut.
-/

import Mathlib.Data.List.TakeWhile
import ImportBinding.Console.Basic

namespace ImportBinding

/-! ### Glyphs -/

/-- Whether a code point is replaced on a terminal that cannot show it. -/
def CodePoint.isGlyph (point : CodePoint) : Bool := glyphs.any fun (glyph, _) => glyph = point

/-- What stands for a code point has no glyphs. -/
theorem CodePoint.not_isGlyph_of_mem_plain {point other : CodePoint}
    (member : point ∈ other.plain) : point.isGlyph = false := by
  have replaced : ∀ pair ∈ glyphs, ∀ point ∈ pair.2, point.isGlyph = false := by decide
  rw [plain] at member
  generalize found : glyphs.find? _ = first at member
  cases first with
  | none =>
    obtain rfl := List.mem_singleton.mp member
    exact List.any_eq_false.mpr fun pair among => List.find?_eq_none.mp found pair among
  | some pair => exact replaced pair (List.mem_of_find?_eq_some found) point member

/-- A text that has been sanitized has no glyphs. -/
theorem Text.not_isGlyph_of_mem_plain {point : CodePoint} {content : Text}
    (member : point ∈ content.plain) : point.isGlyph = false := by
  obtain ⟨other, -, inside⟩ := List.mem_flatMap.mp member
  exact CodePoint.not_isGlyph_of_mem_plain inside

/-! ### Emoji -/

namespace Emoji

/-- Whether a code point belongs to an emoji whose code stands in a text. -/
def Brings (content : Text) (point : CodePoint) : Prop :=
  ∃ code emoji, CodePoint.ofChar ':' :: code ++ [CodePoint.ofChar ':'] <:+: content ∧
    ofCode? code = some emoji ∧ point ∈ emoji

theorem Brings.of_infix {content whole : Text} {point : CodePoint} (brings : Brings content point)
    (inside : content <:+: whole) : Brings whole point := by
  obtain ⟨code, emoji, written, found, member⟩ := brings
  exact ⟨code, emoji, written.trans inside, found, member⟩

/-- Where codes are replaced, what is shown is written there or belongs to an emoji. -/
theorem mem_replace {point : CodePoint} {content : Text} (member : point ∈ replace content) :
    point ∈ content ∨ Brings content point := by
  fun_induction replace content with
  | case1 => exact Or.inl member
  | case2 first rest code coded inductionHypothesis =>
    obtain ⟨rfl, closed⟩ := coded
    have split : code ++ [CodePoint.ofChar ':'] ++ rest.drop (code.length + 1) = rest := by
      obtain ⟨later, behind⟩ := List.head?_eq_some_iff.mp closed
      have whole := List.prefix_iff_eq_append.mp (List.takeWhile_prefix (l := rest) isCodePart)
      rw [← List.drop_drop, behind, List.append_assoc]
      exact (congrArg _ behind).symm.trans whole
    have written : CodePoint.ofChar ':' :: code ++ [CodePoint.ofChar ':'] <+:
        CodePoint.ofChar ':' :: rest := ⟨rest.drop (code.length + 1), congrArg _ split⟩
    rcases List.mem_append.mp member with member | member
    · cases found : ofCode? code with
      | none =>
        rw [found] at member
        exact Or.inl (written.subset member)
      | some emoji =>
        rw [found] at member
        exact Or.inr ⟨code, emoji, written.isInfix, found, member⟩
    · have behind : rest.drop (code.length + 1) <:+ CodePoint.ofChar ':' :: rest :=
        (List.drop_suffix _ _).trans (List.suffix_cons _ _)
      exact (inductionHypothesis member).imp (behind.subset ·)
        fun brings => brings.of_infix behind.isInfix
  | case3 first rest code uncoded inductionHypothesis =>
    rcases List.mem_cons.mp member with rfl | member
    · exact Or.inl List.mem_cons_self
    · exact (inductionHypothesis member).imp (List.mem_cons_of_mem _)
        fun brings => brings.of_infix (List.suffix_cons _ _).isInfix

end Emoji

/-! ### Markup -/

namespace Markup

/-- The text that a stretch was read from. -/
def Stretch.source : Stretch → Text
  | .plain content => content
  | .tag count content => List.replicate count (CodePoint.ofChar '\\') ++ content

/-- The text in a stretch in which the codes of emoji are replaced. -/
def Stretch.wording : Stretch → Text
  | .plain content => dropEscapes content
  | .tag count content => if count % 2 = 1 then content else []

theorem flatMap_source_foldr (front : Text) (rest : List Stretch) :
    (front.foldr consPlain rest).flatMap Stretch.source = front ++ rest.flatMap Stretch.source := by
  have single (point : CodePoint) (later : List Stretch) :
      (consPlain point later).flatMap Stretch.source = point :: later.flatMap Stretch.source := by
    rcases later with _ | ⟨_ | _, _⟩ <;> rfl
  induction front with
  | nil => rfl
  | cons point front inductionHypothesis =>
    rw [List.foldr_cons, single, inductionHypothesis, List.cons_append]

/-- A text is put together from its stretches. -/
theorem flatMap_source_stretches (content : Text) :
    (stretches content).flatMap Stretch.source = content := by
  fun_induction stretches content with
  | case1 content count size sized inductionHypothesis =>
    have slashes : content.take count = List.replicate count (CodePoint.ofChar '\\') := by
      have run : content.takeWhile (fun point : CodePoint => point = '\\') = content.take count :=
        List.prefix_iff_eq_take.mp (List.takeWhile_prefix _)
      rw [← run]
      exact List.eq_replicate_iff.mpr ⟨rfl, fun point member => of_decide_eq_true
        (List.mem_takeWhile_imp (p := fun point : CodePoint => point = '\\') member)⟩
    rw [List.flatMap_cons, inductionHypothesis, Stretch.source, ← slashes, List.append_assoc,
      ← List.drop_drop, List.take_append_drop, List.take_append_drop]
  | case2 => rfl
  | case3 content count size unsized nonempty inductionHypothesis =>
    rw [flatMap_source_foldr, inductionHypothesis, List.take_append_drop]

/-- Escaping only adds backslashes. -/
theorem mem_escape_iff {point : CodePoint} {content : Text} (other : point ≠ '\\') :
    point ∈ escape content ↔ point ∈ content := by
  have slash (count : Nat) : point ∉ List.replicate count (CodePoint.ofChar '\\') :=
    fun member => other (List.eq_of_mem_replicate member)
  have escaped : point ∈ ((stretches content).flatMap fun stretch => match stretch with
      | .plain content => content
      | .tag count tag => List.replicate (2 * count + 1) (CodePoint.ofChar '\\') ++ tag) ↔
        point ∈ content := by
    conv => rhs; rw [← flatMap_source_stretches content]
    rw [List.mem_flatMap, List.mem_flatMap]
    refine exists_congr fun stretch => and_congr_right fun _ => ?_
    cases stretch with
    | plain content => rfl
    | tag count tag =>
      rw [Stretch.source, List.mem_append, List.mem_append, or_iff_right (slash _),
        or_iff_right (slash _)]
  rw [escape]
  split
  · exact (List.mem_append.trans (or_iff_left (slash 1))).trans escaped
  · exact escaped

theorem dropEscapes_sublist (content : Text) : (dropEscapes content).Sublist content := by
  fun_induction dropEscapes content with
  | case1 first second rest escaped inductionHypothesis =>
    exact (inductionHypothesis.cons_cons second).cons first
  | case2 first second rest unescaped inductionHypothesis =>
    exact inductionHypothesis.cons_cons first
  | case3 short => exact List.Sublist.refl short

/-- Whether a code point belongs to an emoji whose code stands in markup. -/
def Brings (markup : Text) (point : CodePoint) : Prop :=
  ∃ stretch ∈ stretches markup, Emoji.Brings stretch.wording point

/-- What markup shows is written in it or belongs to an emoji. -/
theorem mem_shown {point : CodePoint} {markup : Text} (member : point ∈ shown markup) :
    point ∈ markup ∨ Brings markup point := by
  obtain ⟨stretch, among, member⟩ := List.mem_flatMap.mp (List.mem_filter.mp member).1
  have written : point ∈ stretch.source → point ∈ markup := fun inside =>
    flatMap_source_stretches markup ▸ List.mem_flatMap.mpr ⟨stretch, among, inside⟩
  cases stretch with
  | plain content =>
    refine (Emoji.mem_replace member).imp (fun inside => ?_) fun brings => ⟨_, among, brings⟩
    exact written ((dropEscapes_sublist content).subset inside)
  | tag count tag =>
    rcases List.mem_append.mp member with member | member
    · obtain ⟨half, rfl⟩ := List.mem_replicate.mp member
      refine Or.inl (written (List.mem_append_left tag (List.mem_replicate.mpr ⟨?_, rfl⟩)))
      omega
    · split at member
      · rename_i odd
        refine (Emoji.mem_replace member).imp (fun inside => ?_) fun brings => ?_
        · exact written (List.mem_append_right _ inside)
        · exact ⟨_, among, (congrArg (Emoji.Brings · point) (if_pos odd)).mpr brings⟩
      · cases member

end Markup

/-! ### Lines -/

theorem Text.mem_of_mem_pieces {separator point : CodePoint} {content piece : Text}
    (among : piece ∈ content.pieces separator) (member : point ∈ piece) : point ∈ content := by
  fun_induction pieces separator content generalizing piece with
  | case1 =>
    obtain rfl := List.mem_singleton.mp among
    exact member
  | case2 rest inductionHypothesis =>
    rcases List.mem_cons.mp among with rfl | among
    · cases member
    · exact List.mem_cons_of_mem _ (inductionHypothesis among member)
  | case3 first rest other alone inductionHypothesis =>
    obtain rfl := List.mem_singleton.mp among
    obtain rfl := List.mem_singleton.mp member
    exact List.mem_cons_self
  | case4 first rest other piece others split inductionHypothesis =>
    rw [split] at inductionHypothesis
    rcases List.mem_cons.mp among with rfl | among
    · rcases List.mem_cons.mp member with rfl | member
      · exact List.mem_cons_self
      · exact List.mem_cons_of_mem _ (inductionHypothesis List.mem_cons_self member)
    · exact List.mem_cons_of_mem _ (inductionHypothesis (List.mem_cons_of_mem _ among) member)

namespace Flow

/-! What is laid out has no other code points than the text, but for blanks. So when all code points
of the text are of some class, which blanks are of as well, so are those of what is laid out. -/

section Allowed

variable {allowed : CodePoint → Prop} {content line : Text}

theorem allowed_spaces (blank : allowed space) (count : Nat) :
    ∀ point ∈ spaces count, allowed point :=
  fun _ member => List.eq_of_mem_replicate member ▸ blank

theorem allowed_expandParts (blank : allowed space) (column : Nat) {parts : List Text}
    (each : ∀ part ∈ parts, ∀ point ∈ part, allowed point) :
    ∀ point ∈ expandParts column parts, allowed point := by
  fun_induction expandParts column parts with
  | case1 => exact List.forall_mem_nil _
  | case2 column last => exact each last List.mem_cons_self
  | case3 column part later several column' stop inductionHypothesis =>
    obtain ⟨first, others⟩ := List.forall_mem_cons.mp each
    refine List.forall_mem_append.mpr ⟨List.forall_mem_append.mpr ⟨List.forall_mem_append.mpr
      ⟨first, List.forall_mem_singleton.mpr blank⟩, allowed_spaces blank _⟩, ?_⟩
    exact inductionHypothesis others

theorem allowed_expandTabs (blank : allowed space) (each : ∀ point ∈ line, allowed point) :
    ∀ point ∈ expandTabs line, allowed point :=
  allowed_expandParts blank 0 fun _ among _ member =>
    each _ (Text.mem_of_mem_pieces among member)

theorem allowed_join {separator : Text} {parts : List Text}
    (between : ∀ point ∈ separator, allowed point)
    (each : ∀ part ∈ parts, ∀ point ∈ part, allowed point) :
    ∀ point ∈ Text.join separator parts, allowed point := by
  induction parts with
  | nil => exact List.forall_mem_nil _
  | cons part later inductionHypothesis =>
    obtain ⟨first, others⟩ := List.forall_mem_cons.mp each
    cases later with
    | nil => simpa [Text.join, List.intercalate] using first
    | cons next later =>
      exact List.forall_mem_append.mpr
        ⟨first, List.forall_mem_append.mpr ⟨between, inductionHypothesis others⟩⟩

theorem allowed_expandAllTabs (blank : allowed space) (feed : allowed (CodePoint.ofChar '\n'))
    (each : ∀ point ∈ content, allowed point) : ∀ point ∈ expandAllTabs content, allowed point := by
  refine allowed_join (List.forall_mem_singleton.mpr feed) (List.forall_mem_map.mpr ?_)
  intro line among
  exact allowed_expandTabs blank fun point member =>
    each point (Text.mem_of_mem_pieces among member)

theorem mem_of_mem_words {word : Text} {point : CodePoint} (among : word ∈ words line)
    (member : point ∈ word) : point ∈ line := by
  fun_induction words line with
  | case1 => cases among
  | case2 line before inner rest behind nonempty inductionHypothesis =>
    rcases List.mem_cons.mp among with rfl | among
    · rcases List.mem_append.mp member with member | member
      · rcases List.mem_append.mp member with member | member
        · exact (List.takeWhile_sublist _).subset member
        · exact List.mem_of_mem_drop ((List.takeWhile_sublist _).subset member)
      · exact List.mem_of_mem_drop ((List.takeWhile_sublist _).subset member)
    · exact List.mem_of_mem_drop (List.mem_of_mem_drop (inductionHypothesis among))

theorem mem_of_mem_chopFrom {width size cells : Nat} {word part : Text} {graphemes : List Grapheme}
    {point : CodePoint} (among : part ∈ chopFrom width size cells word graphemes)
    (member : point ∈ part) : point ∈ word := by
  fun_induction chopFrom width size cells word graphemes with
  | case1 size cells word =>
    obtain rfl := List.mem_singleton.mp among
    exact member
  | case2 size cells word grapheme later full inductionHypothesis =>
    rcases List.mem_cons.mp among with rfl | among
    · exact List.mem_of_mem_take member
    · exact List.mem_of_mem_drop (inductionHypothesis among)
  | case3 size cells word grapheme later fits inductionHypothesis => exact inductionHypothesis among

/-- Whether all code points that have been laid out are of a class. -/
def Layout.Allowed (allowed : CodePoint → Prop) (layout : Layout) : Prop :=
  (∀ part ∈ layout.done, ∀ point ∈ part, allowed point) ∧ ∀ point ∈ layout.current, allowed point

theorem Layout.Allowed.startLine {layout : Layout} {word : Text} (laid : layout.Allowed allowed)
    (each : ∀ point ∈ word, allowed point) : (layout.startLine word).Allowed allowed := by
  rw [Layout.startLine]
  split
  · exact ⟨List.forall_mem_nil _, each⟩
  · exact ⟨List.forall_mem_cons.mpr ⟨laid.2, laid.1⟩, each⟩

theorem Layout.Allowed.add {layout : Layout} {word : Text} (laid : layout.Allowed allowed)
    (fold : Bool) (width : Nat) (each : ∀ point ∈ word, allowed point) :
    (layout.add fold width word).Allowed allowed := by
  rw [Layout.add]
  split
  · exact ⟨laid.1, List.forall_mem_append.mpr ⟨laid.2, each⟩⟩
  · split
    · have pieces : ∀ part ∈ chop width word, ∀ point ∈ part, allowed point :=
        fun _ among point member => each point (mem_of_mem_chopFrom among member)
      exact List.foldlRecOn _ Layout.startLine laid fun layout laid part among =>
        laid.startLine (pieces part among)
    · exact laid.startLine each

theorem allowed_breakLine (fold : Bool) (width : Nat) (each : ∀ point ∈ line, allowed point) :
    ∀ part ∈ breakLine fold width line, ∀ point ∈ part, allowed point := by
  have laid : Layout.Allowed allowed ((words line).foldl (Layout.add fold width) ⟨[], [], 0⟩) :=
    List.foldlRecOn _ _ ⟨List.forall_mem_nil _, List.forall_mem_nil _⟩
      fun layout laid word among => laid.add fold width
        fun point member => each point (mem_of_mem_words among member)
  refine List.forall_mem_append.mpr ⟨fun part among => ?_, List.forall_mem_singleton.mpr ?_⟩
  · exact laid.1 part (List.mem_reverse.mp among)
  · exact List.forall_mem_append.mpr
      ⟨laid.2, fun point member => each point (List.mem_of_mem_drop member)⟩

theorem allowed_cut (blank : allowed space) (width : Nat) (each : ∀ point ∈ line, allowed point) :
    ∀ point ∈ cut width line, allowed point :=
  List.forall_mem_append.mpr
    ⟨fun point member => each point (List.mem_of_mem_take member), allowed_spaces blank _⟩

/-- A line that is too wide may end in an ellipsis. -/
theorem allowed_fit {ellipsis : Bool} (blank : allowed space)
    (mark : ellipsis = true → allowed (CodePoint.ofChar '…')) (width : Nat)
    (each : ∀ point ∈ line, allowed point) : ∀ point ∈ fit ellipsis width line, allowed point := by
  rw [fit]
  split
  · exact each
  · split
    · exact List.forall_mem_append.mpr
        ⟨allowed_cut blank _ each, List.forall_mem_singleton.mpr (mark ‹_›)⟩
    · exact allowed_cut blank width each

/-- Where words are not cut into pieces they may end in an ellipsis. -/
theorem allowed_wrap (fold : Bool) (blank : allowed space)
    (mark : fold = false → allowed (CodePoint.ofChar '…')) (width : Nat)
    (each : ∀ point ∈ content, allowed point) :
    ∀ line ∈ wrap fold width content, ∀ point ∈ line, allowed point := by
  intro line among
  obtain ⟨whole, amongLines, among⟩ := List.mem_flatMap.mp among
  obtain ⟨part, amongParts, rfl⟩ := List.mem_map.mp among
  have expanded := allowed_expandTabs blank fun point member =>
    each point (Text.mem_of_mem_pieces amongLines member)
  have broken := allowed_breakLine fold width expanded part amongParts
  refine allowed_fit blank (fun cut => mark (by simpa using cut)) width fun point member => ?_
  exact broken point (List.mem_of_mem_take member)

end Allowed

end Flow

/-! ### Tables -/

namespace Table

/-- What a rule is drawn with. -/
def Rule.characters (rule : Rule) : List Char := [rule.left, rule.line, rule.junction, rule.right]

/-- What a box is drawn with. -/
def Box.characters (box : Box) : List Char :=
  box.top.characters ++ box.header.characters ++ box.bottom.characters ++
    [box.headerEdge, box.rowEdge]

section Allowed

variable {allowed : CodePoint → Prop} {field value : Text}

theorem allowed_padded (blank : allowed Flow.space) (width : Nat)
    (each : ∀ point ∈ value, allowed point) : ∀ point ∈ padded width value, allowed point :=
  List.forall_mem_append.mpr ⟨List.forall_mem_append.mpr ⟨each, Flow.allowed_spaces blank _⟩,
    Flow.allowed_spaces blank _⟩

theorem allowed_ruleLine {rule : Rule} (feed : allowed (CodePoint.ofChar '\n'))
    (drawn : ∀ character ∈ rule.characters, allowed (CodePoint.ofChar character))
    (first second : Nat) : ∀ point ∈ ruleLine rule first second, allowed point := by
  simp only [Rule.characters, List.forall_mem_cons] at drawn
  obtain ⟨left, line, junction, right, none⟩ := drawn
  have stroke (count : Nat) :
      ∀ character ∈ List.replicate count rule.line, allowed (CodePoint.ofChar character) :=
    fun _ member => List.eq_of_mem_replicate member ▸ line
  refine List.forall_mem_map.mpr ?_
  simp only [List.forall_mem_append, List.forall_mem_cons]
  exact ⟨⟨⟨⟨⟨left, none⟩, stroke _⟩, ⟨junction, none⟩⟩, stroke _⟩, right, feed,
    List.forall_mem_nil _⟩

theorem allowed_rowLine {edge : Char} (blank : allowed Flow.space)
    (feed : allowed (CodePoint.ofChar '\n')) (drawn : allowed (CodePoint.ofChar edge))
    (first second : Nat) (name : ∀ point ∈ field, allowed point)
    (each : ∀ point ∈ value, allowed point) :
    ∀ point ∈ rowLine edge first second field value, allowed point := by
  have gap : ∀ point ∈ text " ", allowed point := List.forall_mem_singleton.mpr blank
  have bar : ∀ point ∈ [CodePoint.ofChar edge], allowed point := List.forall_mem_singleton.mpr drawn
  have ending : ∀ point ∈ text "\n", allowed point := List.forall_mem_singleton.mpr feed
  simp only [rowLine, List.forall_mem_append]
  exact ⟨⟨⟨⟨⟨⟨⟨⟨⟨bar, gap⟩, allowed_padded blank first name⟩, gap⟩, bar⟩, gap⟩,
    allowed_padded blank second each⟩, gap⟩, bar⟩, ending⟩

theorem allowed_row {edge : Char} (blank : allowed Flow.space)
    (feed : allowed (CodePoint.ofChar '\n')) (mark : allowed (CodePoint.ofChar '…'))
    (drawn : allowed (CodePoint.ofChar edge)) (first second : Nat)
    (name : ∀ point ∈ field, allowed point) (each : ∀ point ∈ value, allowed point) :
    ∀ point ∈ row edge first second field value, allowed point := by
  have lines := Flow.allowed_wrap false blank (fun _ => mark) second each
  rw [row]
  cases wrapped : Flow.wrap false second value with
  | nil => exact allowed_rowLine blank feed drawn first second name (List.forall_mem_nil _)
  | cons line later =>
    obtain ⟨head, rest⟩ := List.forall_mem_cons.mp (wrapped ▸ lines)
    refine List.forall_mem_append.mpr
      ⟨allowed_rowLine blank feed drawn first second name head, fun point member => ?_⟩
    obtain ⟨line, among, member⟩ := List.mem_flatMap.mp member
    exact allowed_rowLine blank feed drawn first second (List.forall_mem_nil _) (rest line among)
      point member

/-- A table has no other code points than its title, its rows and the names of its columns, but for
blanks, what it is drawn with and the ellipsis of words that are cut. -/
theorem allowed_draw {box : Box} {title : Text} {rows : List (Text × Text)}
    (blank : allowed Flow.space) (feed : allowed (CodePoint.ofChar '\n'))
    (mark : allowed (CodePoint.ofChar '…'))
    (drawn : ∀ character ∈ box.characters, allowed (CodePoint.ofChar character))
    (header : ∀ point ∈ title ++ text "Field" ++ text "Value", allowed point)
    (each : ∀ row ∈ rows, ∀ point ∈ row.1 ++ row.2, allowed point) :
    ∀ point ∈ draw box title rows, allowed point := by
  simp only [Box.characters, List.forall_mem_append, List.forall_mem_cons] at drawn header
  obtain ⟨⟨⟨top, heading⟩, bottom⟩, headerEdge, rowEdge, -⟩ := drawn
  obtain ⟨⟨caption, name⟩, value⟩ := header
  have titled (width : Nat) : ∀ point ∈ titleLine width title, allowed point :=
    List.forall_mem_append.mpr ⟨allowed_padded blank width (List.forall_mem_append.mpr
      ⟨Flow.allowed_spaces blank _, caption⟩), List.forall_mem_singleton.mpr feed⟩
  simp only [draw, List.forall_mem_append]
  refine ⟨⟨⟨⟨⟨titled _, allowed_ruleLine feed top _ _⟩,
    allowed_rowLine blank feed headerEdge _ _ name value⟩, allowed_ruleLine feed heading _ _⟩,
    fun point member => ?_⟩, allowed_ruleLine feed bottom _ _⟩
  obtain ⟨row, among, member⟩ := List.mem_flatMap.mp member
  obtain ⟨name, value⟩ := List.forall_mem_append.mp (each row among)
  exact allowed_row blank feed mark rowEdge _ _ name value point member

end Allowed

end Table

end ImportBinding
