/-
This file says that a shelf of grammars cannot be told from an empty one.

A request is answered by its name alone: a sound shelf holds each grammar under the name of the
dialect that it is a grammar of. Requests that fail leave the shelf as it is, and the others only
add to it. So a grammar stays where it was put by the first request for its language, and all later
ones get the same.
-/

import ImportBinding.Proofs.Outcomes
import ImportBinding.Shelf
import Mathlib.Data.List.Induction
import Mathlib.Data.List.Nodup

namespace ImportBinding

/-! ### Dialects -/

/-- A dialect is only asked for by its own name. -/
theorem dialectOf_eq_ok_iff {given : Value} {dialect : Dialect} :
    dialectOf given = .ok dialect ↔ given = .text dialect.name := by
  constructor
  · intro found
    unfold dialectOf at found
    split at found
    · split at found
      · rename_i named
        cases found
        rw [(Dialect.ofName?_eq_some_iff _ dialect).mp named]
      · cases found
    · cases found
    · cases found
    · cases found
  · rintro rfl
    rw [dialectOf, (Dialect.ofName?_eq_some_iff _ dialect).mpr rfl]
    rfl

/-- What is told of a reader, apart from which one it is: its language, and the dialect that its
grammar is of. -/
def StatementReader.told (reader : StatementReader) : Text × Dialect :=
  (reader.language, reader.grammar.dialect)

namespace Shelf

/-! ### Sound shelves -/

/-- A shelf on which each grammar stands under the name of its own dialect, and no two under one
name. -/
structure IsSound (shelf : Shelf) : Prop where
  named : ∀ name grammar, (name, grammar) ∈ shelf.grammars → name = grammar.dialect.name
  distinct : (shelf.grammars.map Prod.fst).Nodup

theorem isSound_empty : empty.IsSound := ⟨nofun, List.nodup_nil⟩

theorem grammar?_eq_none_iff {shelf : Shelf} {name : Text} :
    shelf.grammar? name = none ↔ name ∉ shelf.grammars.map Prod.fst := by
  rw [grammar?, Option.map_eq_none_iff, List.find?_eq_none, List.mem_map]
  constructor
  · rintro missing ⟨entry, member, same⟩
    exact missing entry member (decide_eq_true same)
  · intro missing entry member same
    exact missing ⟨entry, member, of_decide_eq_true same⟩

theorem mem_of_grammar? {shelf : Shelf} {name : Text} {grammar : Grammar}
    (found : shelf.grammar? name = some grammar) : (name, grammar) ∈ shelf.grammars := by
  rw [grammar?, Option.map_eq_some_iff] at found
  obtain ⟨⟨other, _⟩, first, rfl⟩ := found
  have same := List.find?_some first
  obtain rfl : other = name := of_decide_eq_true same
  exact List.mem_of_find?_eq_some first

namespace IsSound

variable {shelf : Shelf} (sound : shelf.IsSound)

include sound

/-- There is one grammar under a name, and it stands under no other name. -/
theorem grammar_eq_iff {name other : Text} {grammar otherGrammar : Grammar}
    (member : (name, grammar) ∈ shelf.grammars)
    (memberToo : (other, otherGrammar) ∈ shelf.grammars) :
    grammar = otherGrammar ↔ name = other := by
  constructor
  · rintro rfl
    rw [sound.named _ _ member, sound.named _ _ memberToo]
  · intro same
    exact congrArg Prod.snd (List.inj_on_of_nodup_map sound.distinct member memberToo same)

/-- A grammar that is put under the name of its own dialect, where there was none. -/
theorem concat {grammar : Grammar} (free : grammar.dialect.name ∉ shelf.grammars.map Prod.fst)
    (readers : Nat) :
    IsSound ⟨shelf.grammars ++ [(grammar.dialect.name, grammar)], readers⟩ := by
  refine ⟨fun name other member => ?_, ?_⟩
  · rcases List.mem_append.mp member with member | member
    · exact sound.named name other member
    · cases List.mem_singleton.mp member
      rfl
  · rw [List.map_append, List.map_singleton]
    refine List.nodup_append.mpr ⟨sound.distinct, List.nodup_singleton _, ?_⟩
    rintro name member _ last rfl
    rw [List.mem_singleton.mp last] at member
    exact free member

/-! ### One request -/

/-- A request on a sound shelf fails without a dialect, and then leaves the shelf as it is. With a
dialect it succeeds, with a grammar that stands on the shelf already or is put there. -/
theorem reader_cases (given : Value) :
    (∃ failure, dialectOf given = .error failure ∧ shelf.reader given = (.error failure, shelf)) ∨
      ∃ grammar : Grammar, given = .text grammar.dialect.name ∧
        (shelf.reader given).1 = .ok ⟨grammar.dialect.name, grammar, shelf.readers⟩ ∧
        ((grammar.dialect.name, grammar) ∈ shelf.grammars ∧
            (shelf.reader given).2.grammars = shelf.grammars ∨
          grammar.dialect.name ∉ shelf.grammars.map Prod.fst ∧
            (shelf.reader given).2.grammars =
              shelf.grammars ++ [(grammar.dialect.name, grammar)]) := by
  cases given with
  | text name =>
    cases held : shelf.grammar? name with
    | some grammar =>
      have member := mem_of_grammar? held
      obtain rfl := sound.named _ _ member
      refine Or.inr ⟨grammar, rfl, ?_, Or.inl ⟨member, ?_⟩⟩ <;> rw [reader, load, held] <;> rfl
    | none =>
      have free := grammar?_eq_none_iff.mp held
      cases found : Dialect.ofName? name with
      | some dialect =>
        obtain rfl := (Dialect.ofName?_eq_some_iff name dialect).mp found
        refine Or.inr ⟨⟨dialect, shelf.grammars.length⟩, rfl, ?_, Or.inr ⟨free, ?_⟩⟩ <;>
          simp only [reader, load, held, found] <;> rfl
      | none =>
        refine Or.inl ⟨.unsupportedLanguage (.text name), ?_, ?_⟩
        · rw [dialectOf, found]
          rfl
        · simp only [reader, load, held, found]
          rfl
  | _ => exact Or.inl ⟨_, rfl, rfl⟩

/-- Requests keep a shelf sound. -/
theorem reader (given : Value) : (shelf.reader given).2.IsSound := by
  rcases sound.reader_cases given with
    ⟨failure, -, same⟩ | ⟨grammar, -, -, ⟨-, same⟩ | ⟨free, same⟩⟩
  · rw [same]
    exact sound
  · exact ⟨same ▸ sound.named, same ▸ sound.distinct⟩
  · have larger := sound.concat free 0
    exact ⟨same ▸ larger.named, same ▸ larger.distinct⟩

/-- What is told of the reader that answers a request depends on the request alone. -/
theorem told_reader (given : Value) :
    (shelf.reader given).1.map StatementReader.told =
      (dialectOf given).map fun dialect => (dialect.name, dialect) := by
  rcases sound.reader_cases given with ⟨failure, unknown, same⟩ | ⟨grammar, rfl, answered, -⟩
  · rw [same, unknown]
    rfl
  · rw [answered, dialectOf_eq_ok_iff.mpr rfl]
    rfl

/-- After a request the shelf holds what it held before, and the grammar of the answer. -/
theorem mem_reader_iff (given : Value) (name : Text) (grammar : Grammar) :
    (name, grammar) ∈ (shelf.reader given).2.grammars ↔
      (name, grammar) ∈ shelf.grammars ∨
        ∃ reader : StatementReader, (shelf.reader given).1 = .ok reader ∧
          reader.language = name ∧ reader.grammar = grammar := by
  rcases sound.reader_cases given with
    ⟨failure, -, same⟩ | ⟨held, -, answered, ⟨member, same⟩ | ⟨-, same⟩⟩
  · rw [same]
    exact (or_iff_left fun ⟨_, answered, _⟩ => by cases answered).symm
  · rw [same, answered]
    refine (or_iff_left_of_imp ?_).symm
    rintro ⟨_, ⟨⟩, rfl, rfl⟩
    exact member
  · rw [same, answered, List.mem_append, List.mem_singleton]
    refine or_congr_right ⟨?_, ?_⟩
    · rintro ⟨⟩
      exact ⟨_, rfl, rfl, rfl⟩
    · rintro ⟨_, ⟨⟩, rfl, rfl⟩
      rfl

end IsSound

/-! ### Requests one after another -/

/-- The shelf after some requests. -/
def after (shelf : Shelf) (requests : List Value) : Shelf :=
  requests.foldl (fun before given => (before.reader given).2) shelf

/-- The answers to some requests, in order. -/
def answers (shelf : Shelf) : List Value → List (Except Failure StatementReader)
  | [] => []
  | given :: later => (shelf.reader given).1 :: answers (shelf.reader given).2 later

theorem after_concat (shelf : Shelf) (requests : List Value) (last : Value) :
    shelf.after (requests ++ [last]) = ((shelf.after requests).reader last).2 :=
  List.foldl_concat _ _ _ _

theorem answers_concat (shelf : Shelf) (requests : List Value) (last : Value) :
    shelf.answers (requests ++ [last]) =
      shelf.answers requests ++ [((shelf.after requests).reader last).1] := by
  induction requests generalizing shelf with
  | nil => rfl
  | cons given later inductionHypothesis =>
    rw [List.cons_append, answers, inductionHypothesis]
    rfl

theorem isSound_after (requests : List Value) : (empty.after requests).IsSound := by
  induction requests using List.reverseRecOn with
  | nil => exact isSound_empty
  | append_singleton requests last inductionHypothesis =>
    rw [after_concat]
    exact inductionHypothesis.reader last

/-- The shelf holds what requests were answered with, and nothing else. -/
theorem mem_after_iff (requests : List Value) (name : Text) (grammar : Grammar) :
    (name, grammar) ∈ (empty.after requests).grammars ↔
      ∃ reader : StatementReader, .ok reader ∈ empty.answers requests ∧
        reader.language = name ∧ reader.grammar = grammar := by
  induction requests using List.reverseRecOn with
  | nil => exact iff_of_false List.not_mem_nil fun ⟨_, member, _⟩ => List.not_mem_nil member
  | append_singleton requests last inductionHypothesis =>
    rw [after_concat, (isSound_after requests).mem_reader_iff, inductionHypothesis, answers_concat]
    simp only [List.mem_append, List.mem_singleton, or_and_right, exists_or,
      eq_comm (a := Except.ok _)]

/-- What is told of the answers depends on the requests alone. -/
theorem IsSound.map_told_answers {shelf : Shelf} (sound : shelf.IsSound) (requests : List Value) :
    (shelf.answers requests).map (Except.map StatementReader.told) =
      requests.map fun given => (dialectOf given).map fun dialect => (dialect.name, dialect) := by
  induction requests generalizing shelf with
  | nil => rfl
  | cons given later inductionHypothesis =>
    rw [answers, List.map_cons, List.map_cons, sound.told_reader,
      inductionHypothesis (sound.reader given)]

/-- A reader is the answer to a request for its own language. -/
theorem getElem?_of_answers {requests : List Value} {place : Nat} {reader : StatementReader}
    (answered : (empty.answers requests)[place]? = some (.ok reader)) :
    requests[place]? = some (.text reader.language) := by
  have told := congrArg (fun all => all[place]?) (isSound_empty.map_told_answers requests)
  simp only [List.getElem?_map, answered, Option.map_some] at told
  obtain ⟨given, asked, same⟩ := Option.map_eq_some_iff.mp told.symm
  obtain ⟨dialect, found, same⟩ := map_eq_ok_iff.mp same
  have named : dialect.name = reader.language := congrArg Prod.fst same
  rw [asked, dialectOf_eq_ok_iff.mp found, named]

/-- The requests are answered one by one as they are on an empty shelf: the name of a dialect by a
reader of that dialect, and every other value by the failure that is due to it. Requests for one
name get the same grammar, and requests for others do not. The shelf holds what requests were
answered with, each grammar under the name of its own dialect, and one under each name. A further
request that fails leaves it as it is. -/
theorem map_told_answers_eq_map_dialectOf (requests : List Value) :
    (empty.answers requests).map (Except.map StatementReader.told) =
        requests.map (fun given => (dialectOf given).map fun dialect => (dialect.name, dialect)) ∧
      (empty.answers requests).map (Except.map StatementReader.told) =
        requests.map (fun given => (empty.reader given).1.map StatementReader.told) ∧
      (∀ (place placeToo : Nat) (first second : StatementReader),
        (empty.answers requests)[place]? = some (.ok first) →
          (empty.answers requests)[placeToo]? = some (.ok second) →
            (first.grammar = second.grammar ↔ requests[place]? = requests[placeToo]?)) ∧
      (∀ name grammar, (name, grammar) ∈ (empty.after requests).grammars ↔
        ∃ reader : StatementReader, .ok reader ∈ empty.answers requests ∧
          reader.language = name ∧ reader.grammar = grammar) ∧
      (∀ name grammar, (name, grammar) ∈ (empty.after requests).grammars →
        name = grammar.dialect.name) ∧
      ((empty.after requests).grammars.map Prod.fst).Nodup ∧
      ∀ given failure, ((empty.after requests).reader given).1 = .error failure →
        ((empty.after requests).reader given).2 = empty.after requests := by
  have told := isSound_empty.map_told_answers requests
  have sound := isSound_after requests
  refine ⟨told, ?_, fun place placeToo first second answered answeredToo => ?_,
    mem_after_iff requests, sound.named, sound.distinct, fun given failure failed => ?_⟩
  · simp only [told, isSound_empty.told_reader]
  · have held := (mem_after_iff requests _ _).mpr
      ⟨first, List.mem_of_getElem? answered, rfl, rfl⟩
    have heldToo := (mem_after_iff requests _ _).mpr
      ⟨second, List.mem_of_getElem? answeredToo, rfl, rfl⟩
    rw [sound.grammar_eq_iff held heldToo, getElem?_of_answers answered,
      getElem?_of_answers answeredToo, Option.some.injEq, Value.text.injEq]
  · rcases sound.reader_cases given with ⟨_, -, same⟩ | ⟨_, -, answered, -⟩
    · rw [same]
    · rw [answered] at failed
      cases failed

/-- Two requests for one language. Of those between them one asks for another language, and the
rest fail. -/
def scattered : List Value :=
  [.text (text "tsx"), .text (text "cobol"), .text (text "javascript"), .list [], .int 7,
    .text (text "tsx")]

theorem map_told_answers_eq_map_dialectOf_scattered :
    (empty.answers scattered).map (Except.map StatementReader.told) =
        [.ok (text "tsx", .tsx), .error (.unsupportedLanguage (.text (text "cobol"))),
          .ok (text "javascript", .javascript), .error .wrongKind,
          .error (.unsupportedLanguage (.int 7)), .ok (text "tsx", .tsx)] ∧
      (∃ first second third : StatementReader,
        (empty.answers scattered)[0]? = some (.ok first) ∧
          (empty.answers scattered)[2]? = some (.ok second) ∧
          (empty.answers scattered)[5]? = some (.ok third) ∧
          first.grammar = third.grammar ∧ second.grammar ≠ third.grammar ∧ first ≠ third) ∧
      (empty.after scattered).grammars =
        [(text "tsx", ⟨.tsx, 0⟩), (text "javascript", ⟨.javascript, 1⟩)] := by
  obtain ⟨told, -, shared, -⟩ := map_told_answers_eq_map_dialectOf scattered
  refine ⟨told.trans rfl, ⟨⟨text "tsx", ⟨.tsx, 0⟩, 0⟩, ⟨text "javascript", ⟨.javascript, 1⟩, 1⟩,
    ⟨text "tsx", ⟨.tsx, 0⟩, 2⟩, rfl, rfl, rfl, (shared 0 5 _ _ rfl rfl).mpr rfl, ?_, by decide⟩,
    rfl⟩
  intro same
  have sameRequest := (shared 2 5 _ _ rfl rfl).mp same
  simp [scattered, text] at sameRequest

end Shelf

end ImportBinding
