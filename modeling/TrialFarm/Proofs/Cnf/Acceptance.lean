import Mathlib.Data.List.Basic
import TrialFarm.Proofs.Cnf.Bytes
import TrialFarm.Proofs.Cnf.Written

/-!
# Which texts are formulas

Whether a text is a formula, and which one, depends on its header and on the tokens behind it, but
not on the lines that they stand in. A header may declare any number of clauses, whatever follows,
as long as there are addresses for them: where there are none the reader crashes.

## Main definitions

* `Dimacs.Declares`, `Dimacs.HeadedBy`: the counts that a line, or a text, declares.
* `Dimacs.Filled`: every zero ends a clause that holds a literal.
* `Dimacs.Fits`: what may stand behind a header.
* `Dimacs.WellFormed`: texts in the form that the format asks for.

## Main statements

* `Dimacs.readLines_ok_iff`: which lines are a formula.
* `Dimacs.parse_by_tokens`: reading looks at the header and at the tokens.
-/

namespace TrialFarm

namespace Text

theorem splitFrom_open {α : Type} (isMark : α → Bool) {piece : List α} (begun : piece ≠ [])
    (as : List α) : ∃ more rest, splitFrom isMark piece as = (piece.reverse ++ more) :: rest := by
  induction as generalizing piece with
  | nil => exact ⟨[], [], by simp [splitFrom, begun]⟩
  | cons a as ih =>
    rw [splitFrom]
    split
    · exact ⟨[], _, by rw [List.append_nil]⟩
    · obtain ⟨more, rest, same⟩ := ih (List.cons_ne_nil a piece)
      exact ⟨a :: more, rest, by simp [same]⟩

/-- A text that does not begin with a blank begins with a field. -/
theorem exists_field {c : Char} (solid : isBlank c = false) (cs : List Char) :
    ∃ more, c :: more ∈ fields (c :: cs) := by
  obtain ⟨more, rest, same⟩ := splitFrom_open isBlank (List.cons_ne_nil c []) cs
  refine ⟨more, List.mem_filter.mpr ⟨?_, rfl⟩⟩
  rw [splitFrom, if_neg (by simp [solid]), same]
  exact List.mem_cons_self

end Text

namespace Dimacs

variable {numVars declared line : Nat} {p p' : Progress} {ns ms : List Int} {n : Int}

/-! ### Numbers -/

/-- The numbers end within a clause: the last of them is a literal. -/
def MidClause (ns : List Int) : Prop := ∃ n ∈ ns.getLast?, n ≠ 0

/-- Every zero ends a clause that holds a literal. -/
def Filled (ns : List Int) : Prop :=
  ∀ before after, ns = before ++ 0 :: after → MidClause before

theorem filled_nil : Filled [] := fun before after same => by
  simp at same

/-- Numbers without an empty clause begin with numbers without one. -/
theorem Filled.of_append (filled : Filled (ns ++ ms)) : Filled ns := by
  rintro before after rfl
  exact filled before (after ++ ms) (by simp)

/-- One number more makes an empty clause only if it ends a clause that has not begun. -/
theorem filled_concat : Filled (ns ++ [n]) ↔ Filled ns ∧ (n = 0 → MidClause ns) := by
  constructor
  · intro filled
    refine ⟨filled.of_append, ?_⟩
    rintro rfl
    exact filled ns [] rfl
  · rintro ⟨filled, ends⟩ before after same
    -- The zero is the new number or stands further back.
    rcases List.append_eq_append_iff.mp same with ⟨gap, rfl, tail⟩ | ⟨gap, rfl, tail⟩
    · cases gap with
      | nil =>
        rw [List.append_nil]
        exact ends (by simpa using congrArg List.head? tail)
      | cons m gap => simp at tail
    · cases gap with
      | nil =>
        rw [List.append_nil] at ends
        exact ends (by simpa using congrArg List.head? tail.symm)
      | cons m gap =>
        obtain ⟨rfl, rfl⟩ := List.cons.inj tail
        exact filled before gap rfl

theorem Progress.Neat.midClause_iff (neat : p.Neat) : MidClause p.numbers ↔ p.current ≠ [] := by
  obtain ⟨clauses, current⟩ := p
  cases current with
  | nil =>
    cases clauses with
    | nil => simp [MidClause, numbers]
    | cons clause clauses => simp [MidClause, numbers]
  | cons lit current =>
    have literal : lit ≠ 0 := fun zero => neat.current (by simp [zero])
    simp [MidClause, numbers, literal]

/-- A token is read if it is a number in range that ends no empty clause. -/
theorem readToken_ok_iff {token : List Char} (neat : p.Neat) (filled : Filled p.numbers) :
    (∃ p', readToken numVars line p token = .ok p') ↔
      ∃ n, number? token = some n ∧ n.natAbs ≤ numVars ∧ Filled (p.numbers ++ [n]) := by
  unfold readToken number?
  cases Integer.readSigned 0x8000000000000000 0x7fffffffffffffff token with
  | error fault => simp [Except.toOption]
  | ok lit =>
    simp only [Except.toOption, Option.some.injEq, filled_concat, neat.midClause_iff, filled,
      true_and, exists_eq_left']
    by_cases zero : lit = 0
    · by_cases none : p.current = []
      · simp [zero, none]
      · simp [zero, none]
    · by_cases far : lit.natAbs > numVars
      · simp [zero, far]
      · simp [zero, far, Nat.not_lt.mp far]

theorem readTokens_ok_iff {tokens : List (List Char)} (neat : p.Neat) (filled : Filled p.numbers) :
    (∃ p', readTokens numVars line p tokens = .ok p') ↔
      (∀ token ∈ tokens, ∃ n, number? token = some n ∧ n.natAbs ≤ numVars) ∧
        Filled (p.numbers ++ tokens.filterMap number?) := by
  induction tokens generalizing p with
  | nil => simp [readTokens, filled]
  | cons token tokens ih =>
    rw [List.forall_mem_cons]
    constructor
    · rintro ⟨p', read⟩
      rw [readTokens] at read
      split at read
      · cases read
      · next p₁ first =>
        obtain ⟨n, known, near, filled₁⟩ := (readToken_ok_iff neat filled).mp ⟨p₁, first⟩
        obtain ⟨neat₁, numbers₁⟩ := readToken_spec first neat
        rw [known, Option.toList_some] at numbers₁
        obtain ⟨later, filled'⟩ := (ih neat₁ (numbers₁ ▸ filled₁)).mp ⟨p', read⟩
        rw [numbers₁, List.append_assoc] at filled'
        exact ⟨⟨⟨n, known, near⟩, later⟩, by simpa [known] using filled'⟩
    · rintro ⟨⟨⟨n, known, near⟩, later⟩, filled'⟩
      -- Numbers that are filled up to the last token are so up to the first.
      rw [List.filterMap_cons_some known, ← List.singleton_append, ← List.append_assoc] at filled'
      obtain ⟨p₁, first⟩ := (readToken_ok_iff neat filled).mpr ⟨n, known, near, filled'.of_append⟩
      obtain ⟨neat₁, numbers₁⟩ := readToken_spec first neat
      rw [known, Option.toList_some] at numbers₁
      rw [readTokens, first]
      exact (ih neat₁ (numbers₁ ▸ filled'.of_append)).mpr ⟨later, numbers₁ ▸ filled'⟩

/-! ### Lines -/

/-- The fields of lines, in order. -/
def tokensIn (lines : List (List Char)) : List (List Char) := lines.flatMap Text.fields

theorem numbersIn_eq (lines : List (List Char)) :
    numbersIn lines = (tokensIn lines).filterMap number? := by
  rw [numbersIn, tokensIn, List.filterMap_flatMap]

/-- What may stand behind a header and the numbers that were read so far. -/
structure Fits (numVars : Nat) (before : List Int) (body : List (List Char)) : Prop where
  /-- There is no further header. -/
  single : ∀ line ∈ body, line.head? ≠ some 'p'
  literals : ∀ token ∈ tokensIn body, ∃ n, number? token = some n ∧ n.natAbs ≤ numVars
  filled : Filled (before ++ numbersIn body)

theorem fits_nil (filled : Filled ns) : Fits numVars ns [] :=
  ⟨by simp, by simp [tokensIn], by simpa [numbersIn] using filled⟩

theorem fits_cons {content : List Char} {body : List (List Char)} :
    Fits numVars ns (content :: body) ↔ content.head? ≠ some 'p' ∧
      (∀ token ∈ Text.fields content, ∃ n, number? token = some n ∧ n.natAbs ≤ numVars) ∧
      Fits numVars (ns ++ (Text.fields content).filterMap number?) body := by
  have numbers : numbersIn (content :: body) =
      (Text.fields content).filterMap number? ++ numbersIn body := List.flatMap_cons
  have tokens : tokensIn (content :: body) = Text.fields content ++ tokensIn body :=
    List.flatMap_cons
  constructor
  · rintro ⟨single, literals, filled⟩
    rw [List.forall_mem_cons] at single
    rw [tokens, List.forall_mem_append] at literals
    rw [numbers, ← List.append_assoc] at filled
    exact ⟨single.1, literals.1, single.2, literals.2, filled⟩
  · rintro ⟨first, known, single, literals, filled⟩
    refine ⟨List.forall_mem_cons.mpr ⟨first, single⟩, ?_, ?_⟩
    · rw [tokens, List.forall_mem_append]
      exact ⟨known, literals⟩
    · rw [numbers, ← List.append_assoc]
      exact filled

/-- The lines after the header are read if they fit the declared variables. -/
theorem readBody_ok_iff {lines : List (List Char)} (neat : p.Neat) (filled : Filled p.numbers) :
    (∃ p', readBody numVars line p (lines.map some) = .ok p') ↔
      Fits numVars p.numbers (keep lines) := by
  induction lines generalizing line p with
  | nil => simpa [readBody, keep] using fits_nil filled
  | cons raw lines ih =>
    rw [List.map_cons, readBody]
    split
    · next content => simpa [keep_cons, content] using ih neat filled
    · next content => simpa [keep_cons, content] using ih neat filled
    · next content => simpa [keep_cons, content] using fits_nil filled
    · next content => simp [keep_cons, content, fits_cons]
    · next blank comment trailer header =>
      rw [keep_text blank comment trailer, fits_cons]
      constructor
      · rintro ⟨p', read⟩
        split at read
        · cases read
        · next p₁ tokens =>
          obtain ⟨known, filled₁⟩ := (readTokens_ok_iff neat filled).mp ⟨p₁, tokens⟩
          obtain ⟨neat₁, numbers₁⟩ := readTokens_spec tokens neat
          rw [← numbers₁] at filled₁ ⊢
          exact ⟨head?_ne_some header, known, (ih neat₁ filled₁).mp ⟨p', read⟩⟩
      · rintro ⟨-, known, fits⟩
        -- The line may be read because the numbers stay filled up to its end.
        have filled₁ := fits.filled.of_append
        obtain ⟨p₁, tokens⟩ := (readTokens_ok_iff neat filled).mpr ⟨known, filled₁⟩
        obtain ⟨neat₁, numbers₁⟩ := readTokens_spec tokens neat
        rw [← numbers₁] at filled₁ fits
        rw [tokens]
        exact (ih neat₁ filled₁).mpr fits

/-! ### Headers -/

/-- A line declares numbers of variables and clauses. -/
structure Declares (content : List Char) (numVars declared : Nat) : Prop where
  begins : content.head? = some 'p'
  fields : ∃ word vars clauses, Text.fields content = [word, ['c', 'n', 'f'], vars, clauses] ∧
    Integer.readNatural maxCount vars = .ok numVars ∧
    Integer.readNatural maxCount clauses = .ok declared

/-- A header that declares more clauses than there is room for is a capacity fault, and any other is
read. -/
theorem readHeader_eq {content : List Char} (declares : Declares content numVars declared) :
    readHeader line content =
      if maxClauses < declared then .error .capacity else .ok (numVars, declared) := by
  obtain ⟨word, vars, clauses, fields, readVars, readClauses⟩ := declares.fields
  simp [readHeader, fields, readVars, readClauses]

/-- A header is read if it declares what is read off it, and no more clauses than there is room for.
-/
theorem readHeader_ok_iff {content : List Char} (begins : content.head? = some 'p') :
    readHeader line content = .ok (numVars, declared) ↔
      Declares content numVars declared ∧ declared ≤ maxClauses := by
  constructor
  · intro read
    have declares : Declares content numVars declared := by
      refine ⟨begins, ?_⟩
      unfold readHeader at read
      split at read
      · next word format vars clauses fields =>
        split at read
        · next cnf =>
          subst cnf
          split at read
          · cases read
          · next readVars =>
            split at read
            · cases read
            · next readClauses =>
              split at read
              · cases read
              · cases read
                exact ⟨word, vars, clauses, fields, readVars, readClauses⟩
        · cases read
      · cases read
    refine ⟨declares, Nat.not_lt.mp fun many => ?_⟩
    rw [readHeader_eq declares, if_pos many] at read
    cases read
  · rintro ⟨declares, few⟩
    rw [readHeader_eq declares, if_neg (Nat.not_lt.mpr few)]

/-- Only the first line that is kept can be the header. -/
theorem readLines_cases (line : Nat) (lines : List (List Char)) :
    (readLines line (lines.map some) = .error .noHeader ∧
      ∀ content ∈ (keep lines).head?, content.head? ≠ some 'p') ∨
    ∃ content rest line', keep lines = content :: keep rest ∧ content.head? = some 'p' ∧
      readLines line (lines.map some) = (readHeader line' content).bind fun counts =>
        (readBody counts.1 line' ⟨[], []⟩ (rest.map some)).map fun p =>
          ⟨counts.1, counts.2, p.toClauses⟩ := by
  induction lines generalizing line with
  | nil => exact .inl ⟨rfl, by simp [keep]⟩
  | cons raw lines ih =>
    rw [List.map_cons, readLines]
    split
    · next blank => simpa [keep_cons, blank] using ih (line + 1)
    · next comment => simpa [keep_cons, comment] using ih (line + 1)
    · next header =>
      refine .inr
        ⟨Text.trim raw, lines, line + 1, by simp [keep_cons, header], by simp [header], ?_⟩
      cases readHeader (line + 1) (Text.trim raw) with
      | error fault => rfl
      | ok counts =>
        cases body : readBody counts.1 (line + 1) ⟨[], []⟩ (lines.map some) with
        | error fault => simp [Except.bind, Except.map, body]
        | ok p => simp [Except.bind, Except.map, body]
    · next blank comment header =>
      -- A trailer leaves no lines; anything else is kept, and is no header.
      refine .inl ⟨rfl, ?_⟩
      by_cases trailer : (Text.trim raw).head? = some '%'
      · simp [keep_cons, trailer]
      · have other : ∀ rest, Text.trim raw ≠ '%' :: rest := fun rest same => by
          simp [same] at trailer
        rw [keep_text blank comment other]
        simpa using head?_ne_some header

/-- Lines begin with a header. -/
def HeadedBy (lines : List (List Char)) (numVars declared : Nat) : Prop :=
  ∃ content ∈ lines.head?, Declares content numVars declared

/-- Lines are in the form that the format asks for. -/
structure WellFormed (lines : List (List Char)) (numVars declared : Nat) : Prop where
  header : HeadedBy lines numVars declared
  body : Fits numVars [] (lines.drop 1)

theorem wellFormed_cons {content : List Char} {body : List (List Char)} :
    WellFormed (content :: body) numVars declared ↔
      Declares content numVars declared ∧ Fits numVars [] body := by
  constructor
  · rintro ⟨⟨first, head, declares⟩, fits⟩
    cases head
    exact ⟨declares, fits⟩
  · rintro ⟨declares, fits⟩
    exact ⟨⟨content, rfl, declares⟩, fits⟩

/-- A text that declares more clauses than there is room for is a capacity fault, whatever follows.
-/
theorem readLines_capacity {lines : List (List Char)}
    (headed : HeadedBy (keep lines) numVars declared) (many : maxClauses < declared) :
    readLines line (lines.map some) = .error .capacity := by
  obtain ⟨content, first, declares⟩ := headed
  rcases readLines_cases line lines with ⟨-, none⟩ | ⟨head, rest, line', kept, -, same⟩
  · exact absurd declares.begins (none content first)
  · rw [kept] at first
    cases first
    rw [same, readHeader_eq declares, if_pos many]
    rfl

/-- Lines are read if they are well formed and no more clauses are declared than there is room for.
-/
theorem readLines_ok_iff {lines : List (List Char)} {d : Dimacs} :
    readLines line (lines.map some) = .ok d ↔
      WellFormed (keep lines) d.numVars d.declared ∧ d.declared ≤ maxClauses ∧
        d.clauses = ((numbersIn ((keep lines).drop 1)).splitOn 0).filter fun c => !c.isEmpty := by
  have neat : (⟨[], []⟩ : Progress).Neat := ⟨by simp, by simp⟩
  constructor
  · intro read
    refine and_assoc.mp ⟨?_, readLines_spec read⟩
    rcases readLines_cases line lines with ⟨none, -⟩ | ⟨content, rest, line', kept, begins, same⟩
    · rw [none] at read
      cases read
    · rw [same] at read
      cases head : readHeader line' content with
      | error fault => simp [head, Except.bind] at read
      | ok counts =>
        cases tail : readBody counts.1 line' ⟨[], []⟩ (rest.map some) with
        | error fault => simp [head, tail, Except.bind, Except.map] at read
        | ok p =>
          simp only [head, tail, Except.bind, Except.map, Except.ok.injEq] at read
          obtain ⟨declares, few⟩ := (readHeader_ok_iff begins).mp head
          have fits := (readBody_ok_iff neat filled_nil).mp ⟨p, tail⟩
          rw [kept, wellFormed_cons, ← read]
          exact ⟨⟨declares, fits⟩, few⟩
  · rintro ⟨formed, few, clauses⟩
    rcases readLines_cases line lines with ⟨-, none⟩ | ⟨content, rest, line', kept, begins, same⟩
    · obtain ⟨content, first, declares⟩ := formed.header
      exact absurd declares.begins (none content first)
    · rw [kept, wellFormed_cons] at formed
      have head : readHeader line' content = .ok (d.numVars, d.declared) :=
        (readHeader_ok_iff begins).mpr ⟨formed.1, few⟩
      have tail : ∃ p, readBody d.numVars line' ⟨[], []⟩ (rest.map some) = .ok p :=
        (readBody_ok_iff neat filled_nil).mpr formed.2
      obtain ⟨p, tail⟩ := tail
      rw [head, Except.bind, tail, Except.map] at same
      have written : p.toClauses = d.clauses := (readLines_spec same).trans clauses.symm
      rw [same, written]

/-! ### Texts -/

/-- Numbers are clauses that zeros end, and an open one. -/
theorem exists_pieces (ns : List Int) : ∃ (clauses : List (List Int)) (last : List Int),
    (∀ clause ∈ clauses, 0 ∉ clause) ∧ 0 ∉ last ∧ ns = clauses.flatMap (· ++ [0]) ++ last := by
  induction ns with
  | nil => exact ⟨[], [], by simp, by simp, rfl⟩
  | cons n ns ih =>
    obtain ⟨clauses, last, ended, open', same⟩ := ih
    by_cases zero : n = 0
    · exact ⟨[] :: clauses, last, by simpa using ended, open', by simp [zero, same]⟩
    · cases clauses with
      | nil => exact ⟨[], n :: last, by simp, by simp [Ne.symm zero, open'], by simp [same]⟩
      | cons clause clauses =>
        obtain ⟨first, later⟩ := List.forall_mem_cons.mp ended
        exact ⟨(n :: clause) :: clauses, last, by simpa [Ne.symm zero, first] using later, open',
          by simp [same]⟩

/-- A clause that is cut out of numbers is not empty and has only numbers other than zero. -/
theorem mem_cut {clause : List Int}
    (member : clause ∈ (ns.splitOn 0).filter fun clause => !clause.isEmpty) :
    clause ≠ [] ∧ 0 ∉ clause ∧ ∀ n ∈ clause, n ∈ ns := by
  obtain ⟨clauses, last, ended, open', rfl⟩ := exists_pieces ns
  rw [splitOn_flatMap clauses last ended open', List.mem_filter, List.mem_append,
    List.mem_singleton] at member
  obtain ⟨piece | rfl, holds⟩ := member
  · refine ⟨by simpa using holds, ended clause piece, fun n literal => ?_⟩
    exact List.mem_append_left _
      (List.mem_flatMap.mpr ⟨clause, piece, List.mem_append_left _ literal⟩)
  · exact ⟨by simpa using holds, open', fun n literal => List.mem_append_right _ literal⟩

theorem number?_of_header (rest : List Char) : number? ('p' :: rest) = none := rfl

/-- Lines of numbers hold no header. -/
theorem single_of_literals {body : List (List Char)}
    (literals : ∀ token ∈ tokensIn body, ∃ n, number? token = some n ∧ n.natAbs ≤ numVars) :
    ∀ content ∈ body, content.head? ≠ some 'p' := by
  intro content member begins
  obtain ⟨rest, rfl⟩ := List.head?_eq_some_iff.mp begins
  obtain ⟨more, token⟩ := Text.exists_field (c := 'p') (by decide) rest
  obtain ⟨n, known, -⟩ := literals _ (List.mem_flatMap.mpr ⟨_, member, token⟩)
  rw [number?_of_header] at known
  cases known

/-- Reading looks at the header and at the tokens behind it. A text is read exactly if it is well
formed and declares no more clauses than there are addresses for; the reader crashes at a header
that declares more. What is read are the counts of the header and the numbers, cut at the zeros, so
that another text with these counts and tokens is read as the same. All clauses hold literals and
nothing but literals of declared variables. -/
theorem parse_by_tokens (text : String) :
    parseBytes (Utf8.encode text) = parse text ∧
    (∀ d, parse text = .ok d ↔ WellFormed (keptLines text) d.numVars d.declared ∧
      d.declared ≤ maxClauses ∧ d.clauses = writtenClauses text) ∧
    (∀ numVars declared, HeadedBy (keptLines text) numVars declared → maxClauses < declared →
      parse text = .error .capacity) ∧
    (∀ d text', parse text = .ok d → HeadedBy (keptLines text') d.numVars d.declared →
      tokensIn ((keptLines text').drop 1) = tokensIn ((keptLines text).drop 1) →
      parse text' = .ok d) ∧
    (∀ d, parse text = .ok d → ∀ clause ∈ d.clauses, clause ≠ [] ∧
      ∀ n ∈ clause, n ≠ 0 ∧ n.natAbs ≤ d.numVars) := by
  have read (text : String) (d : Dimacs) : parse text = .ok d ↔
      WellFormed (keptLines text) d.numVars d.declared ∧ d.declared ≤ maxClauses ∧
        d.clauses = writtenClauses text := readLines_ok_iff
  refine ⟨parseBytes_encode text, read text, ?_, ?_, ?_⟩
  · intro numVars declared headed many
    exact readLines_capacity headed many
  · intro d text' parsed headed tokens
    obtain ⟨⟨-, fits⟩, few, clauses⟩ := (read text d).mp parsed
    have numbers : writtenNumbers text' = writtenNumbers text := by
      rw [writtenNumbers, writtenNumbers, numbersIn_eq, numbersIn_eq, tokens]
    have literals := tokens ▸ fits.literals
    -- Nothing has to be asked about further headers: their first token is no number.
    refine (read text' d).mpr ⟨⟨headed, single_of_literals literals, literals, ?_⟩, few, ?_⟩
    · rw [← writtenNumbers, numbers]
      exact fits.filled
    · rw [clauses, writtenClauses, writtenClauses, numbers]
  · intro d parsed clause member
    obtain ⟨⟨-, fits⟩, -, clauses⟩ := (read text d).mp parsed
    rw [clauses] at member
    obtain ⟨holds, unended, written⟩ := mem_cut member
    refine ⟨holds, fun n literal => ⟨fun zero => unended (zero ▸ literal), ?_⟩⟩
    have number := written n literal
    rw [writtenNumbers, numbersIn_eq, List.mem_filterMap] at number
    obtain ⟨token, place, known⟩ := number
    obtain ⟨m, known', near⟩ := fits.literals token place
    rw [known, Option.some.injEq] at known'
    exact known' ▸ near

/-- A formula of two clauses, the second of which is not ended, is the same in other lines. -/
theorem parse_by_tokens_lines :
    let text := "c two\np cnf 3 2\n1 -2 0 3\n%\nmore\n"
    let text' := "p cnf 3 2\n1\n\nc one\n  -2 0\n3"
    let d : Dimacs := ⟨3, 2, [[1, -2], [3]]⟩
    parse text = .ok d ∧ parse text' = .ok d ∧
      (∀ clause ∈ d.clauses, clause ≠ [] ∧ ∀ n ∈ clause, n ≠ 0 ∧ n.natAbs ≤ d.numVars) ∧
      parse "p cnf 1 384307168202282326" = .error .capacity := by
  intro text text' d
  obtain ⟨-, -, -, layout, sound⟩ := parse_by_tokens text
  obtain ⟨-, -, crash, -⟩ := parse_by_tokens "p cnf 1 384307168202282326"
  have parsed : parse text = .ok d := by decide
  have headed : HeadedBy (keptLines text') 3 2 :=
    ⟨"p cnf 3 2".toList, by decide, by decide, ['p'], ['3'], ['2'], by decide⟩
  have headed' : HeadedBy (keptLines "p cnf 1 384307168202282326") 1 384307168202282326 :=
    ⟨"p cnf 1 384307168202282326".toList, by decide, by decide, ['p'], ['1'],
      "384307168202282326".toList, by decide⟩
  exact ⟨parsed, layout d text' parsed headed (by decide), sound d parsed,
    crash _ _ headed' (by decide)⟩

/-- A well-formed text of one clause is not read if it declares too many. -/
theorem capacity_of_wellFormed :
    let text := "p cnf 1 18446744073709551615\n1 0\n"
    WellFormed (keptLines text) 1 18446744073709551615 ∧ parse text = .error .capacity := by
  intro text
  have headed : HeadedBy (keptLines text) 1 18446744073709551615 :=
    ⟨"p cnf 1 18446744073709551615".toList, by decide, by decide, ['p'], ['1'],
      "18446744073709551615".toList, by decide⟩
  have literal : Filled ([] ++ [1]) := filled_concat.mpr ⟨filled_nil, by simp⟩
  have filled : Filled ([1] ++ [0]) := filled_concat.mpr ⟨literal, fun _ => ⟨1, rfl, by decide⟩⟩
  have body : (keptLines text).drop 1 = ["1 0".toList] := by decide
  have fits : Fits 1 [] ((keptLines text).drop 1) := by
    rw [body]
    refine fits_cons.mpr ⟨by decide, ?_, fits_nil filled⟩
    have tokens : Text.fields "1 0".toList = [['1'], ['0']] := by decide
    rw [tokens, List.forall_mem_cons, List.forall_mem_singleton]
    exact ⟨⟨1, by decide⟩, 0, by decide⟩
  exact ⟨⟨headed, fits⟩, by decide⟩

end Dimacs

end TrialFarm
