/-
This file says when a command answers for what goes wrong.

A command prints a failure and ends with the code one when it takes the failure for one of the
values that were given. While a statement is built that is every failure but one, a number too large
to be looked up as a code point. While it is renamed a refusal is the only one, although the new
text can fail to be decoded as well as the old one.
-/

import ImportBinding.Command.Basic
import ImportBinding.Proofs.Configured
import ImportBinding.Proofs.Precedence

namespace ImportBinding

/-! ### Numbers too large to be looked up -/

/-- A number decides about a declaration that cannot be decoded. -/
theorem Declaration.exists_verdict_of_isUndecodable {declaration : Declaration} {dialect : Dialect}
    (framed : declaration.IsFramed dialect) (undecodable : declaration.IsUndecodable) :
    ∃ number, declaration.verdict = .oversized number := by
  obtain ⟨failure, failed, kind⟩ := Declaration.node_of_isUndecodable framed undecodable
  have decided := Declaration.node_of_verdict framed
  cases verdict : declaration.verdict with
  | oversized number => exact ⟨number, rfl⟩
  | reserved name position =>
    rw [verdict] at decided
    rw [decided.1] at failed
    cases failed
    obtain ⟨number, same | same⟩ := kind <;> cases same
  | several names =>
    rw [verdict] at decided
    obtain ⟨node, made, -⟩ := decided
    rw [made] at failed
    cases failed
  | single =>
    rw [verdict] at decided
    obtain ⟨node, made, -⟩ := decided
    rw [made] at failed
    cases failed

namespace Statement

/-- A text without surrogates in which a number decides that is too large to be looked up as a code
point. -/
def IsTooLarge (dialect : Dialect) (content : Text) : Prop :=
  (∀ point ∈ content, point.isSurrogate = false) ∧
    ∃ program declaration number, Program.ofText dialect (normalForm content) = .ok program ∧
      program.declarations.head? = some declaration ∧ declaration.verdict = .oversized number ∧
        0x80000000 ≤ number

/-- Building fails for the number that decides about the first declaration. -/
theorem ofText_of_oversized {content : Text} {dialect : Dialect} {program : Program}
    {declaration : Declaration} {number : Nat}
    (whole : ∀ point ∈ content, point.isSurrogate = false)
    (parsed : Program.ofText dialect (normalForm content) = .ok program)
    (first : program.declarations.head? = some declaration)
    (decides : declaration.verdict = .oversized number) :
    ofText [] content dialect = .error (.ofNumber number) := by
  obtain ⟨-, _, _, _, opens⟩ := exists_opens_of_head? parsed first
  have decided := Declaration.node_of_verdict opens.framed
  have read := readStatement_of_head? (encodes_normalForm_of_forall whole) parsed first
  rw [decides] at decided
  rw [decided] at read
  exact ofText_of_isNoCodePoint read (Failure.isNoCodePoint_ofNumber number)

/-- Building fails for a number that cannot be looked up exactly when such a number decides. -/
theorem exists_ofText_eq_tooLarge_iff {content : Text} {dialect : Dialect} :
    (∃ number, ofText [] content dialect = .error (.tooLarge number)) ↔
      IsTooLarge dialect content := by
  constructor
  · rintro ⟨number, failed⟩
    by_cases half : ∃ point ∈ content, point.isSurrogate = true
    · obtain ⟨_, _, _, other⟩ := ofText_of_surrogate half
      rw [failed] at other
      cases other
    have whole : ∀ point ∈ content, point.isSurrogate = false :=
      fun point member => Bool.eq_false_iff.mpr fun same => half ⟨point, member, same⟩
    have undecodable : IsUndecodable dialect content := by
      by_contra decodable
      rcases ofText_of_not_isUndecodable decodable with ⟨_, other⟩ | ⟨_, other⟩ <;>
        rw [failed] at other <;> cases other
    obtain ⟨program, declaration, parsed, first, large⟩ := undecodable.resolve_left half
    obtain ⟨-, _, _, _, opens⟩ := exists_opens_of_head? parsed first
    obtain ⟨decisive, decides⟩ :=
      Declaration.exists_verdict_of_isUndecodable opens.framed large
    refine ⟨whole, program, declaration, decisive, parsed, first, decides, ?_⟩
    by_contra small
    have other := ofText_of_oversized whole parsed first decides
    rw [Failure.ofNumber, if_pos (Nat.lt_of_not_le small), failed] at other
    cases other
  · rintro ⟨whole, program, declaration, number, parsed, first, decides, large⟩
    have failed := ofText_of_oversized whole parsed first decides
    rw [Failure.ofNumber, if_neg (Nat.not_lt.mpr large)] at failed
    exact ⟨_, failed⟩

/-- A statement has a source. -/
theorem IsBuilt.exists_source_eq {statement : Statement} (built : statement.IsBuilt) :
    ∃ source, statement.source = some source := by
  obtain ⟨declaration, _, _, _, reads⟩ := built.exists_reads
  obtain ⟨_, source, -, -, -, node⟩ := Declaration.node_eq_ok_iff.mp reads.node
  exact ⟨source, congrArg Node.source node⟩

end Statement

/-! ### Reports -/

/-- A report answers for an outcome. A success ends with the code zero; a failure is printed behind
the given pieces, which is all that is printed, and ends with the code one. -/
def Report.Answers (report : Report) (utf8 : Bool) (before : List Text) :
    Except Failure Statement → Prop
  | .ok _ => report.ending = .ok 0
  | .error failure => report = ⟨before ++ [Console.errorLine utf8 failure.message], .ok 1⟩

/-- A report follows an outcome when it answers for it, or when it is a failure that escapes. -/
def Report.Follows (report : Report) (utf8 : Bool) (before : List Text)
    (outcome : Except Failure Statement) : Prop :=
  report.Answers utf8 before outcome ∨
    ∃ failure, outcome = .error failure ∧ report.ending = .error failure

/-- A report that follows an outcome tells by its exit code whether that is a success. -/
theorem Report.Follows.ending_eq_zero_iff {report : Report} {utf8 : Bool} {before : List Text}
    {outcome : Except Failure Statement} (follows : report.Follows utf8 before outcome) :
    report.ending = .ok 0 ↔ ∃ result, outcome = .ok result := by
  rcases follows with answers | ⟨failure, rfl, escapes⟩
  · cases outcome with
    | ok result => exact iff_of_true answers ⟨result, rfl⟩
    | error failure =>
      obtain rfl : report = ⟨_, .ok 1⟩ := answers
      exact iff_of_false (fun same => by cases same) (fun ⟨_, same⟩ => by cases same)
  · rw [escapes]
    exact iff_of_false (fun same => by cases same) (fun ⟨_, same⟩ => by cases same)

/-- A failure that escapes is not answered for. -/
theorem Report.not_answers_of_escapes {printed before : List Text} {utf8 : Bool}
    {failure : Failure} :
    ¬ Report.Answers ⟨printed, .error failure⟩ utf8 before (.error failure) :=
  fun same => by cases congrArg Report.ending same

namespace Command

/-- A failure is answered for when it is reported. -/
theorem answers_reportFailure_iff {utf8 reported : Bool} {before : List Text} {failure : Failure} :
    (reportFailure utf8 before reported failure).Answers utf8 before (.error failure) ↔
      reported = true := by
  cases reported with
  | true => exact iff_of_true rfl rfl
  | false => exact iff_of_false Report.not_answers_of_escapes Bool.false_ne_true

theorem follows_reportFailure (utf8 reported : Bool) (before : List Text) (failure : Failure) :
    (reportFailure utf8 before reported failure).Follows utf8 before (.error failure) := by
  cases reported with
  | true => exact Or.inl rfl
  | false => exact Or.inr ⟨failure, rfl, rfl⟩

/-! ### Choosing a dialect -/

/-- The dialect in which a command builds a statement: that of the given language, or else of the
configured one. -/
def chosen (settings : Settings) (language : Option Text) : Except Failure Dialect := do
  let name ← Statement.languageOf (language.elim .null .text) (Session.ask ⟨[], settings⟩).1
  dialectOf (.text name)

/-- Without a dialect for the language there is a failure that is reported. -/
theorem isReported_of_chosen {settings : Settings} {language : Option Text} {failure : Failure}
    (failed : chosen settings language = .error failure) : failure.isReported = true := by
  have unnamed : ∀ name, dialectOf (.text name) = .error failure → failure.isReported = true := by
    intro name unsupported
    rw [dialectOf] at unsupported
    split at unsupported
    · cases unsupported
    · cases unsupported
      rfl
  have configured : ((Session.ask ⟨[], settings⟩).1 >>= fun name => dialectOf (.text name)) =
      .error failure → failure.isReported = true := by
    cases yields : settings.yields with
    | true =>
      rw [Session.ask_of_yields yields]
      exact unnamed _
    | false =>
      rw [Session.ask_of_not_yields yields]
      rintro ⟨⟩
      rfl
  cases language with
  | none => exact configured failed
  | some content =>
    -- a language without letters counts as none
    cases content with
    | nil => exact configured failed
    | cons point rest => exact unnamed _ failed

/-! ### Reports of commands -/

section Reports

variable {settings : Settings} {encoding statement name : Text} {language : Option Text}

theorem build_eq : build ⟨settings, encoding, []⟩ statement language =
    chosen settings language >>= Statement.ofText [] statement := by
  rw [chosen, bind_assoc]
  rfl

/-- While a statement is built every failure is reported, unless it is for a number that is too
large to be looked up. -/
theorem isReported_of_build_iff {failure : Failure}
    (failed : build ⟨settings, encoding, []⟩ statement language = .error failure) :
    failure.isReported = true ↔
      ∀ dialect, chosen settings language = .ok dialect →
        ¬ Statement.IsTooLarge dialect statement := by
  rw [build_eq] at failed
  cases taken : chosen settings language with
  | error other =>
    rw [taken] at failed
    cases failed
    exact iff_of_true (isReported_of_chosen taken) nofun
  | ok dialect =>
    rw [taken, ok_bind] at failed
    simp only [Except.ok.injEq, forall_eq', ← Statement.exists_ofText_eq_tooLarge_iff, failed,
      Except.error.injEq, not_exists]
    rcases Statement.failure_of_ofText failed with
      ⟨refusal, rfl⟩ | ⟨number, rfl | rfl⟩ | ⟨first, start, stop, rfl⟩
    · exact iff_of_true rfl nofun
    · exact iff_of_true rfl nofun
    · exact iff_of_false Bool.false_ne_true fun every => every number rfl
    · exact iff_of_true rfl nofun

/-- A statement is not built for a number that is too large to be looked up. -/
theorem not_isTooLarge_of_build {built : Statement}
    (made : build ⟨settings, encoding, []⟩ statement language = .ok built) (dialect : Dialect)
    (taken : chosen settings language = .ok dialect) :
    ¬ Statement.IsTooLarge dialect statement := by
  intro large
  obtain ⟨number, failed⟩ := Statement.exists_ofText_eq_tooLarge_iff.mpr large
  rw [build_eq, taken, ok_bind, failed] at made
  cases made

/-- A statement that is built has a table. -/
theorem ending_parse_of_build {built : Statement} (verbose : Bool)
    (made : build ⟨settings, encoding, []⟩ statement language = .ok built) :
    (report ⟨settings, encoding, []⟩ (.parse statement language verbose)).ending = .ok 0 := by
  obtain ⟨source, sourced⟩ := Statement.IsBuilt.exists_source_eq (.new made)
  simp only [report, made, tableRows, sourced]
  rfl

theorem follows_parse (verbose : Bool) :
    (report ⟨settings, encoding, []⟩ (.parse statement language verbose)).Follows
      (isUtf8 encoding.lower) (if verbose then [statusLine encoding.lower] else [])
      (build ⟨settings, encoding, []⟩ statement language) := by
  cases made : build ⟨settings, encoding, []⟩ statement language with
  | error failure =>
    simp only [report, made]
    exact follows_reportFailure _ _ _ failure
  | ok built => exact Or.inl (ending_parse_of_build verbose made)

theorem answers_parse_iff (verbose : Bool) :
    (report ⟨settings, encoding, []⟩ (.parse statement language verbose)).Answers
        (isUtf8 encoding.lower) (if verbose then [statusLine encoding.lower] else [])
        (build ⟨settings, encoding, []⟩ statement language) ↔
      ∀ dialect, chosen settings language = .ok dialect →
        ¬ Statement.IsTooLarge dialect statement := by
  cases made : build ⟨settings, encoding, []⟩ statement language with
  | error failure =>
    simp only [report, made]
    exact answers_reportFailure_iff.trans (isReported_of_build_iff made)
  | ok built =>
    exact iff_of_true (ending_parse_of_build verbose made) (not_isTooLarge_of_build made)

theorem follows_rename :
    (report ⟨settings, encoding, []⟩ (.rename statement name language)).Follows
      (isUtf8 encoding.lower) [] (build ⟨settings, encoding, []⟩ statement language >>=
        fun built => built.rename [] (.text name)) := by
  rw [report]
  cases build ⟨settings, encoding, []⟩ statement language with
  | error failure => exact follows_reportFailure _ _ _ failure
  | ok built =>
    rw [ok_bind]
    cases done : built.rename [] (.text name) with
    | ok renamed =>
      simp only [done]
      exact Or.inl rfl
    | error failure =>
      simp only [done]
      cases failure with
      | refused refusal => exact Or.inl rfl
      | _ => exact Or.inr ⟨_, rfl, rfl⟩

theorem answers_rename_iff :
    (report ⟨settings, encoding, []⟩ (.rename statement name language)).Answers
        (isUtf8 encoding.lower) [] (build ⟨settings, encoding, []⟩ statement language >>=
          fun built => built.rename [] (.text name)) ↔
      (∀ dialect, chosen settings language = .ok dialect →
          ¬ Statement.IsTooLarge dialect statement) ∧
        ∀ built, build ⟨settings, encoding, []⟩ statement language = .ok built →
          ¬ Statement.IsUndecodable built.dialect (built.spliced name) := by
  rw [report]
  cases made : build ⟨settings, encoding, []⟩ statement language with
  | error failure =>
    refine (answers_reportFailure_iff.trans (isReported_of_build_iff made)).trans ?_
    exact (and_iff_left nofun).symm
  | ok built =>
    simp only [ok_bind, and_iff_right (not_isTooLarge_of_build made), Except.ok.injEq,
      forall_eq']
    by_cases undecodable : Statement.IsUndecodable built.dialect (built.spliced name)
    · obtain ⟨failure, failed, kind⟩ := Statement.ofText_of_isUndecodable undecodable
      have done : built.rename [] (.text name) = .error failure := failed
      refine iff_of_false ?_ (not_not.mpr undecodable)
      rw [done]
      rcases kind with ⟨number, rfl | rfl⟩ | ⟨first, start, stop, rfl⟩ <;>
        exact Report.not_answers_of_escapes
    · refine iff_of_true ?_ undecodable
      rcases Statement.ofText_of_not_isUndecodable undecodable with
        ⟨renamed, done⟩ | ⟨reason, refused⟩
      · have done : built.rename [] (.text name) = .ok renamed := done
        rw [done]
        rfl
      · have refused : built.rename [] (.text name) = .error _ := refused
        rw [refused]
        rfl

/-- A command ends with the code zero exactly when it succeeds. It answers for a failure except in
two cases: in either command, when a number that is too large to be looked up decides about the
given text, and in a rename, when the text with the new name cannot be decoded. -/
theorem answers_iff (settings : Settings) (encoding statement name : Text)
    (language : Option Text) (verbose : Bool) :
    ((report ⟨settings, encoding, []⟩ (.parse statement language verbose)).ending = .ok 0 ↔
      ∃ built, build ⟨settings, encoding, []⟩ statement language = .ok built) ∧
    ((report ⟨settings, encoding, []⟩ (.parse statement language verbose)).Answers
        (isUtf8 encoding.lower) (if verbose then [statusLine encoding.lower] else [])
        (build ⟨settings, encoding, []⟩ statement language) ↔
      ∀ dialect, chosen settings language = .ok dialect →
        ¬ Statement.IsTooLarge dialect statement) ∧
    ((report ⟨settings, encoding, []⟩ (.rename statement name language)).ending = .ok 0 ↔
      ∃ built renamed, build ⟨settings, encoding, []⟩ statement language = .ok built ∧
        built.rename [] (.text name) = .ok renamed) ∧
    ((report ⟨settings, encoding, []⟩ (.rename statement name language)).Answers
        (isUtf8 encoding.lower) [] (build ⟨settings, encoding, []⟩ statement language >>=
          fun built => built.rename [] (.text name)) ↔
      (∀ dialect, chosen settings language = .ok dialect →
          ¬ Statement.IsTooLarge dialect statement) ∧
        ∀ built, build ⟨settings, encoding, []⟩ statement language = .ok built →
          ¬ Statement.IsUndecodable built.dialect (built.spliced name)) := by
  refine ⟨(follows_parse verbose).ending_eq_zero_iff, answers_parse_iff verbose, ?_,
    answers_rename_iff⟩
  rw [follows_rename.ending_eq_zero_iff]
  constructor
  · rintro ⟨renamed, done⟩
    obtain ⟨built, made, done⟩ := bind_eq_ok_iff.mp done
    exact ⟨built, renamed, made, done⟩
  · rintro ⟨built, renamed, made, done⟩
    exact ⟨renamed, bind_eq_ok_iff.mpr ⟨built, made, done⟩⟩

/-- The number of a new name that brings its own source is no code point. The failure escapes from
the rename. -/
theorem report_rename_escapes :
    (build ⟨Settings.initial, text "utf-8", []⟩ (text "x from 'a'") none >>= fun built =>
        built.rename [] (.text (text "y from '\\u\x7b110000\x7d'; import z"))) =
      .error (.notCodePoint 0x110000) ∧
    (report ⟨Settings.initial, text "utf-8", []⟩ (.rename (text "x from 'a'")
        (text "y from '\\u\x7b110000\x7d'; import z") none)).ending =
      .error (.notCodePoint 0x110000) := by
  have taken : chosen Settings.initial none = .ok .javascript := by with_unfolding_all rfl
  have known : (Statement.ofText [] (text "x from 'a'") .javascript).toOption.map (fun built =>
      match built.rename [] (.text (text "y from '\\u\x7b110000\x7d'; import z")) with
      | .error (.notCodePoint number) => some number
      | _ => none) = some (some 0x110000) := by
    decide +kernel
  obtain ⟨built, made, told⟩ := exists_ok_of_map_toOption known
  have made : build ⟨Settings.initial, text "utf-8", []⟩ (text "x from 'a'") none = .ok built := by
    rw [build_eq, taken, ok_bind, made]
  split at told
  · rename_i number failed
    obtain rfl := Option.some.inj told
    constructor
    · rw [made, ok_bind, failed]
    · simp only [report, made, failed]
  · cases told

end Reports

end Command

end ImportBinding
