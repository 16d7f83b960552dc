import TrialFarm.Proofs.Cnf.Acceptance
import TrialFarm.Proofs.Number.Decimal

/-!
# Printing and reading are inverse

A formula is printed as lines of words with single spaces between them. None of these lines can be
taken for a comment or for a trailer, and only the first one for a header, so that all of them
count when the text is read, and what they write is the formula.

## Main definitions

* `Text.spaced`: words on a line.
* `Dimacs.Printable`: formulas that the format can express.

## Main statements

* `Dimacs.parse_print`: a printed formula is read back.
* `Dimacs.printable_of_parse`: what is read can be printed.
* `Dimacs.print_parse_inverse`: both together, also for texts of any layout.
-/

namespace TrialFarm

namespace Text

variable {α : Type} {isMark : α → Bool} {mark : α}

/-! ### Cutting what was joined -/

theorem splitFrom_last {last : List α} (unmarked : ∀ a ∈ last, isMark a = false)
    (some : last ≠ []) : splitFrom isMark [] last = [last] := by
  have joined := splitFrom_unmarked unmarked [] []
  rw [List.append_nil] at joined
  simp [joined, splitFrom, some]

/-- Pieces that end with marks are cut where they end. -/
theorem splitFrom_ended (marked : isMark mark = true) {pieces : List (List α)}
    (unmarked : ∀ piece ∈ pieces, ∀ a ∈ piece, isMark a = false) (rest : List α) :
    splitFrom isMark [] (pieces.flatMap (· ++ [mark]) ++ rest) =
      pieces ++ splitFrom isMark [] rest := by
  induction pieces with
  | nil => rfl
  | cons piece pieces ih =>
    obtain ⟨first, later⟩ := List.forall_mem_cons.mp unmarked
    rw [List.flatMap_cons, List.append_assoc, List.append_assoc, splitFrom_unmarked first,
      List.append_nil, List.singleton_append, splitFrom, if_pos marked, List.reverse_reverse,
      ih later, List.cons_append]

/-! ### Words on a line -/

/-- A word that is not empty and has no blanks. -/
def Solid (word : List Char) : Prop := word ≠ [] ∧ ∀ c ∈ word, isBlank c = false

theorem solid_singleton {c : Char} (plain : isBlank c = false) : Solid [c] :=
  ⟨List.cons_ne_nil _ _, List.forall_mem_singleton.mpr plain⟩

theorem Solid.cons {c : Char} {word : List Char} (plain : isBlank c = false) (solid : Solid word) :
    Solid (c :: word) :=
  ⟨List.cons_ne_nil _ _, List.forall_mem_cons.mpr ⟨plain, solid.2⟩⟩

/-- Words with single spaces between them. -/
def spaced (words : List (List Char)) (last : List Char) : List Char :=
  words.flatMap (· ++ [' ']) ++ last

variable {words : List (List Char)} {last : List Char}

/-- The words on a line are its fields. -/
theorem fields_spaced (solid : ∀ word ∈ words, Solid word) (ends : Solid last) :
    fields (spaced words last) = words ++ [last] := by
  have cut : splitFrom isBlank [] (spaced words last) = words ++ [last] := by
    rw [spaced, splitFrom_ended (by decide) (fun word member => (solid word member).2),
      splitFrom_last ends.2 ends.1]
  have full : ∀ word ∈ words ++ [last], (!word.isEmpty) = true := by
    intro word member
    rcases List.mem_append.mp member with inside | final
    · simp [(solid word inside).1]
    · simp [List.mem_singleton.mp final, ends.1]
  rw [fields, cut, List.filter_eq_self.mpr full]

/-- A line of words begins with a letter of one of them. -/
theorem exists_spaced_cons (solid : ∀ word ∈ words, Solid word) (ends : Solid last) :
    ∃ c rest, spaced words last = c :: rest ∧ ∃ word ∈ words ++ [last], c ∈ word := by
  cases words with
  | nil =>
    obtain ⟨c, rest, rfl⟩ := List.exists_cons_of_ne_nil ends.1
    exact ⟨c, rest, rfl, _, List.mem_singleton_self _, List.mem_cons_self⟩
  | cons word words =>
    obtain ⟨c, rest, rfl⟩ := List.exists_cons_of_ne_nil (solid word List.mem_cons_self).1
    exact ⟨c, _, rfl, _, List.mem_cons_self, List.mem_cons_self⟩

/-- There is nothing to trim at a line of words. -/
theorem trim_spaced (solid : ∀ word ∈ words, Solid word) (ends : Solid last) :
    trim (spaced words last) = spaced words last := by
  have first : (spaced words last).dropWhile isBlank = spaced words last := by
    obtain ⟨c, rest, same, word, member, letter⟩ := exists_spaced_cons solid ends
    have plain : isBlank c = false := by
      rcases List.mem_append.mp member with inside | final
      · exact (solid word inside).2 c letter
      · exact ends.2 c (List.mem_singleton.mp final ▸ letter)
    rw [same, List.dropWhile_cons_of_neg (by simp [plain])]
  have behind : (spaced words last).reverse.dropWhile isBlank = (spaced words last).reverse := by
    obtain ⟨front, c, rfl⟩ : ∃ front c, last = front ++ [c] :=
      ⟨_, _, (List.dropLast_append_getLast ends.1).symm⟩
    have plain := ends.2 c (by simp)
    simp [spaced, plain]
  rw [trim, first, trimEnd, behind, List.reverse_reverse]

/-- A line of words is one line. -/
theorem lineFeed_not_mem_spaced (solid : ∀ word ∈ words, Solid word) (ends : Solid last) :
    ∀ c ∈ spaced words last, (c == '\n') = false := by
  have other {c : Char} (plain : isBlank c = false) : (c == '\n') = false := by
    rw [beq_eq_false_iff_ne]
    rintro rfl
    cases plain
  intro c member
  rcases List.mem_append.mp member with inside | final
  · obtain ⟨word, here, place⟩ := List.mem_flatMap.mp inside
    rcases List.mem_append.mp place with letter | space
    · exact other ((solid word here).2 c letter)
    · rw [List.mem_singleton.mp space]
      rfl
  · exact other (ends.2 c final)

theorem isBlank_of_isDigit {c : Char} (digit : c.isDigit = true) : isBlank c = false := by
  have range : 48 ≤ c.toNat ∧ c.toNat ≤ 57 := by
    rwa [Char.isDigit, Bool.and_eq_true, decide_eq_true_eq, decide_eq_true_eq] at digit
  unfold isBlank
  simp only [Bool.or_eq_false_iff, Bool.and_eq_false_iff, decide_eq_false_iff_not]
  omega

theorem solid_toDigits (n : Nat) : Solid (Nat.toDigits 10 n) :=
  ⟨Nat.toDigits_ne_nil, fun _ member =>
    isBlank_of_isDigit (Nat.isDigit_of_mem_toDigits (by decide) (by decide) member)⟩

theorem solid_toString (n : Nat) : Solid (toString n).toList := by
  rw [Integer.toList_toString]
  exact solid_toDigits n

theorem solid_toString_int (z : Int) : Solid (toString z).toList := by
  rw [Integer.toList_toString_int]
  split
  · exact solid_toDigits _
  · exact (solid_toDigits _).cons (by decide)

end Text

namespace Dimacs

open Text

variable {d : Dimacs} {clause : List Int} {clauses : List (List Int)} {ns : List Int}

/-! ### Printed lines -/

/-- The header of the printed formula. -/
def headerLine (d : Dimacs) : List Char :=
  spaced [['p'], ['c', 'n', 'f'], (toString d.numVars).toList] (toString d.clauses.length).toList

/-- The line of a clause in the printed formula. -/
def clauseLine (clause : List Int) : List Char :=
  spaced (clause.map fun lit => (toString lit).toList) ['0']

/-- A formula is printed line by line. -/
theorem toList_print (d : Dimacs) :
    d.print.toList = (headerLine d :: d.clauses.map clauseLine).flatMap (· ++ ['\n']) := by
  have clauseText (clause : List Int) :
      (printClause clause).toList = clauseLine clause ++ ['\n'] := by
    simp [printClause, clauseLine, spaced, String.toList_join, List.flatMap_map]
  simp [print, headerLine, spaced, String.toList_join, List.flatMap_map, clauseText]

/-- Formulas that the format can express: there is a literal in each clause, and every literal is a
number of 64 bits that names a declared variable. -/
structure Printable (d : Dimacs) : Prop where
  counted : d.numVars ≤ maxCount
  holds : ∀ clause ∈ d.clauses, clause ≠ []
  literals : ∀ clause ∈ d.clauses, ∀ n ∈ clause, n ≠ 0 ∧ n.natAbs ≤ d.numVars ∧
    -0x8000000000000000 ≤ n ∧ n ≤ 0x7fffffffffffffff

theorem Printable.unended (printable : d.Printable) : ∀ clause ∈ d.clauses, 0 ∉ clause :=
  fun clause member zero => (printable.literals clause member 0 zero).1 rfl

/-! ### Words of the printed lines -/

theorem solid_counts (n : Nat) :
    ∀ word ∈ [['p'], ['c', 'n', 'f'], (toString n).toList], Solid word := by
  simp only [List.forall_mem_cons, List.not_mem_nil, false_implies, implies_true, and_true]
  exact ⟨solid_singleton (by decide),
    ((solid_singleton (by decide)).cons (by decide)).cons (by decide), solid_toString n⟩

theorem solid_literals (clause : List Int) :
    ∀ word ∈ clause.map fun lit => (toString lit).toList, Solid word := by
  intro word member
  obtain ⟨lit, -, rfl⟩ := List.mem_map.mp member
  exact solid_toString_int lit

theorem solid_zero : Solid ['0'] := solid_singleton (by decide)

/-- The header is split into its four words. -/
theorem fields_headerLine (d : Dimacs) : fields (headerLine d) =
    [['p'], ['c', 'n', 'f'], (toString d.numVars).toList, (toString d.clauses.length).toList] :=
  fields_spaced (solid_counts _) (solid_toString _)

/-- The line of a clause is split into its literals and the zero. -/
theorem fields_clauseLine (clause : List Int) :
    fields (clauseLine clause) = clause.map (fun lit => (toString lit).toList) ++ [['0']] :=
  fields_spaced (solid_literals clause) solid_zero

/-- The line of a clause begins with a digit or a minus sign. -/
theorem exists_clauseLine_cons (clause : List Int) :
    ∃ c rest, clauseLine clause = c :: rest ∧ (c.isDigit = true ∨ c = '-') := by
  obtain ⟨c, rest, same, word, member, letter⟩ :=
    exists_spaced_cons (solid_literals clause) solid_zero
  refine ⟨c, rest, same, ?_⟩
  rcases List.mem_append.mp member with literal | zero
  · obtain ⟨lit, -, rfl⟩ := List.mem_map.mp literal
    rw [Integer.toList_toString_int] at letter
    have digit {c : Char} (letter : c ∈ Nat.toDigits 10 lit.natAbs) : c.isDigit = true :=
      Nat.isDigit_of_mem_toDigits (by decide) (by decide) letter
    split at letter
    · exact .inl (digit letter)
    · exact (List.mem_cons.mp letter).elim .inr fun later => .inl (digit later)
  · obtain rfl := List.mem_singleton.mp zero
    exact .inl (List.mem_singleton.mp letter ▸ by decide)

/-! ### Lines that count -/

/-- Lines without blanks at their ends that are neither comments nor trailers all count. -/
theorem keep_of_plain {lines : List (List Char)} (plain : ∀ line ∈ lines, trim line = line ∧
    ∃ c rest, line = c :: rest ∧ c ≠ 'c' ∧ c ≠ '%') : keep lines = lines := by
  induction lines with
  | nil => rfl
  | cons line lines ih =>
    obtain ⟨⟨trimmed, c, rest, rfl, comment, trailer⟩, later⟩ := List.forall_mem_cons.mp plain
    rw [keep_text, trimmed, ih later]
    · simp [trimmed]
    · simp [trimmed, comment]
    · simp [trimmed, trailer]

/-- A printed text has a header and a line for each clause. -/
theorem splitLines_print (d : Dimacs) :
    splitLines d.print.toList = headerLine d :: d.clauses.map clauseLine := by
  have unmarked : ∀ line ∈ headerLine d :: d.clauses.map clauseLine,
      ∀ c ∈ line, (c == '\n') = false := by
    refine List.forall_mem_cons.mpr
      ⟨lineFeed_not_mem_spaced (solid_counts _) (solid_toString _), fun line member => ?_⟩
    obtain ⟨clause, -, rfl⟩ := List.mem_map.mp member
    exact lineFeed_not_mem_spaced (solid_literals clause) solid_zero
  have cut : splitFrom (· == '\n') [] (List.flatMap (· ++ ['\n']) _ ++ []) = _ :=
    splitFrom_ended rfl unmarked []
  rw [List.append_nil] at cut
  rw [splitLines, toList_print, cut]
  exact List.append_nil _

/-- All lines of a printed formula count. -/
theorem keptLines_print (d : Dimacs) :
    keptLines d.print = headerLine d :: d.clauses.map clauseLine := by
  rw [keptLines, splitLines_print]
  refine keep_of_plain (List.forall_mem_cons.mpr ⟨?_, fun line member => ?_⟩)
  · exact ⟨trim_spaced (solid_counts _) (solid_toString _), 'p', _, rfl, by decide, by decide⟩
  · obtain ⟨clause, -, rfl⟩ := List.mem_map.mp member
    obtain ⟨c, rest, same, first⟩ := exists_clauseLine_cons clause
    refine ⟨trim_spaced (solid_literals clause) solid_zero, c, rest, same, ?_, ?_⟩
    · rintro rfl
      exact first.elim (by decide) (by decide)
    · rintro rfl
      exact first.elim (by decide) (by decide)

/-! ### What the printed lines write -/

/-- A number that is printed is read back. -/
theorem number?_toString {n : Int} (lower : -0x8000000000000000 ≤ n)
    (upper : n ≤ 0x7fffffffffffffff) : number? (toString n).toList = some n := by
  rw [number?, Integer.readSigned_toString lower upper]
  rfl

theorem number?_zero : number? ['0'] = some 0 := by decide

/-- The header declares the variables and the clauses that there are. -/
theorem declares_headerLine (counted : d.numVars ≤ maxCount)
    (few : d.clauses.length ≤ maxClauses) :
    Declares (headerLine d) d.numVars d.clauses.length := by
  have fits : d.clauses.length ≤ maxCount := Nat.le_trans few (by decide)
  exact ⟨rfl, ['p'], _, _, fields_headerLine d, Integer.readNatural_toString counted,
    Integer.readNatural_toString fits⟩

theorem filterMap_clauseLine (range : ∀ n ∈ clause,
    -0x8000000000000000 ≤ n ∧ n ≤ 0x7fffffffffffffff) :
    (fields (clauseLine clause)).filterMap number? = clause ++ [0] := by
  have known : ∀ n ∈ clause, number? (toString n).toList = some n := fun n literal =>
    number?_toString (range n literal).1 (range n literal).2
  have literals : (clause.map fun lit => (toString lit).toList).filterMap number? = clause :=
    calc (clause.map fun lit => (toString lit).toList).filterMap number?
      _ = clause.filterMap (number? ∘ fun lit => (toString lit).toList) := List.filterMap_map
      _ = clause.filterMap some := List.filterMap_congr known
      _ = clause := List.filterMap_some
  rw [fields_clauseLine, List.filterMap_append, literals]
  rfl

/-- The numbers of the printed lines are the clauses, each with its zero. -/
theorem numbersIn_clauseLines (range : ∀ clause ∈ clauses, ∀ n ∈ clause,
    -0x8000000000000000 ≤ n ∧ n ≤ 0x7fffffffffffffff) :
    numbersIn (clauses.map clauseLine) = clauses.flatMap (· ++ [0]) := by
  rw [numbersIn, List.flatMap_map]
  exact List.flatMap_congr fun clause member => filterMap_clauseLine (range clause member)

theorem filled_literals (filled : Filled ns) (literals : 0 ∉ clause) :
    Filled (ns ++ clause) := by
  induction clause generalizing ns with
  | nil => rwa [List.append_nil]
  | cons n clause ih =>
    rw [List.mem_cons, not_or] at literals
    rw [← List.singleton_append, ← List.append_assoc]
    exact ih (filled_concat.mpr ⟨filled, fun zero => absurd zero.symm literals.1⟩) literals.2

/-- Zeros behind clauses that hold literals end such clauses. -/
theorem filled_clauses (filled : Filled ns) (holds : ∀ clause ∈ clauses, clause ≠ [])
    (literals : ∀ clause ∈ clauses, 0 ∉ clause) :
    Filled (ns ++ clauses.flatMap (· ++ [0])) := by
  induction clauses generalizing ns with
  | nil => simpa using filled
  | cons clause clauses ih =>
    obtain ⟨some, later⟩ := List.forall_mem_cons.mp holds
    obtain ⟨first, others⟩ := List.forall_mem_cons.mp literals
    have ended : MidClause (ns ++ clause) := by
      obtain ⟨front, n, rfl⟩ : ∃ front n, clause = front ++ [n] :=
        ⟨_, _, (List.dropLast_append_getLast some).symm⟩
      refine ⟨n, by simp, fun zero => first (by simp [zero])⟩
    have closed : Filled (ns ++ clause ++ [0]) :=
      filled_concat.mpr ⟨filled_literals filled first, fun _ => ended⟩
    rw [List.flatMap_cons, ← List.append_assoc, ← List.append_assoc]
    exact ih closed later others

/-- The printed lines fit the declared variables. -/
theorem Printable.fits (printable : d.Printable) :
    Fits d.numVars [] (d.clauses.map clauseLine) := by
  have literals : ∀ token ∈ tokensIn (d.clauses.map clauseLine),
      ∃ n, number? token = some n ∧ n.natAbs ≤ d.numVars := by
    intro token member
    obtain ⟨line, place, inside⟩ := List.mem_flatMap.mp member
    obtain ⟨clause, here, rfl⟩ := List.mem_map.mp place
    rw [fields_clauseLine] at inside
    rcases List.mem_append.mp inside with literal | zero
    · obtain ⟨n, written, rfl⟩ := List.mem_map.mp literal
      obtain ⟨-, near, lower, upper⟩ := printable.literals clause here n written
      exact ⟨n, number?_toString lower upper, near⟩
    · exact ⟨0, List.mem_singleton.mp zero ▸ number?_zero, Nat.zero_le _⟩
  refine ⟨single_of_literals literals, literals, ?_⟩
  rw [numbersIn_clauseLines fun clause member n literal =>
    (printable.literals clause member n literal).2.2]
  exact filled_clauses filled_nil printable.holds printable.unended

/-- The clauses that are printed are those that the text has. -/
theorem Printable.writtenClauses_print (printable : d.Printable) :
    writtenClauses d.print = d.clauses := by
  have numbers : writtenNumbers d.print = d.clauses.flatMap (· ++ [0]) ++ [] := by
    rw [writtenNumbers, keptLines_print, List.drop_one, List.tail_cons, List.append_nil]
    exact numbersIn_clauseLines fun clause member n literal =>
      (printable.literals clause member n literal).2.2
  have full : d.clauses.filter (fun clause => !clause.isEmpty) = d.clauses :=
    List.filter_eq_self.mpr fun clause member => by simp [printable.holds clause member]
  rw [writtenClauses, numbers, splitOn_flatMap _ _ printable.unended (by simp),
    List.filter_append, full]
  exact List.append_nil _

/-! ### Reading what was printed -/

/-- A printed formula is read back, with the number of its clauses as the declared one. -/
theorem parse_print (printable : d.Printable) (few : d.clauses.length ≤ maxClauses) :
    parse d.print = .ok { d with declared := d.clauses.length } := by
  refine readLines_ok_iff.mpr ⟨?_, few, printable.writtenClauses_print.symm⟩
  change WellFormed (keptLines d.print) _ _
  rw [keptLines_print, wellFormed_cons]
  exact ⟨declares_headerLine printable.counted few, printable.fits⟩

/-- The numbers behind a header name declared variables, and 64 bits hold them. -/
theorem Fits.bounds {body : List (List Char)} {n : Int} (fits : Fits d.numVars ns body)
    (written : n ∈ numbersIn body) :
    n.natAbs ≤ d.numVars ∧ -0x8000000000000000 ≤ n ∧ n ≤ 0x7fffffffffffffff := by
  rw [numbersIn_eq, List.mem_filterMap] at written
  obtain ⟨token, place, known⟩ := written
  obtain ⟨m, known', near⟩ := fits.literals token place
  rw [known, Option.some.injEq] at known'
  refine ⟨known' ▸ near, ?_⟩
  cases done : Integer.readSigned 0x8000000000000000 0x7fffffffffffffff token with
  | error fault => simp [number?, done, Except.toOption] at known
  | ok m =>
    simp only [number?, done, Except.toOption, Option.some.injEq] at known
    exact known ▸ Integer.readSigned_bounds done

/-- What is read can be printed. -/
theorem printable_of_parse {text : String} (parsed : parse text = .ok d) : d.Printable := by
  obtain ⟨⟨⟨content, -, declares⟩, fits⟩, -, clauses⟩ := readLines_ok_iff.mp parsed
  obtain ⟨-, vars, -, -, read, -⟩ := declares.fields
  have cut : ∀ clause ∈ d.clauses, clause ≠ [] ∧ 0 ∉ clause ∧
      ∀ n ∈ clause, n ∈ numbersIn ((keep (splitLines text.toList)).drop 1) :=
    fun clause member => mem_cut (clauses ▸ member)
  refine ⟨Integer.readNatural_le read, fun clause member => (cut clause member).1, ?_⟩
  intro clause member n literal
  obtain ⟨-, unended, written⟩ := cut clause member
  exact ⟨fun zero => unended (zero ▸ literal), fits.bounds (written n literal)⟩

/-- Printing and reading are inverse. Every formula that the format can express, with no more
clauses than there are addresses for, is read from its printed text, which declares the clauses that
are there. Whatever is read from a text is such a formula, so that reading what was read and printed
changes no variable or clause, and printing it once more gives the same text. -/
theorem print_parse_inverse :
    (∀ d : Dimacs, d.Printable → d.clauses.length ≤ maxClauses →
      parse d.print = .ok { d with declared := d.clauses.length }) ∧
    (∀ text d, parse text = .ok d → d.Printable) ∧
    (∀ text d, parse text = .ok d → d.clauses.length ≤ maxClauses →
      ∃ d', parse d.print = .ok d' ∧ d'.numVars = d.numVars ∧ d'.clauses = d.clauses ∧
        d'.declared = d.clauses.length ∧ d'.print = d.print) := by
  refine ⟨fun d => parse_print, fun text d => printable_of_parse, fun text d parsed few => ?_⟩
  exact ⟨_, parse_print (printable_of_parse parsed) few, rfl, rfl, rfl, rfl⟩

/-- The formula of a text with a comment and a trailer, and the text that it is printed as. -/
theorem print_parse_inverse_text :
    let text := "c two\n p cnf 3 9\n1\n-2 0 +3\n%\nmore\n"
    let d : Dimacs := ⟨3, 9, [[1, -2], [3]]⟩
    parse text = .ok d ∧ d.print = "p cnf 3 2\n1 -2 0\n3 0\n" ∧ d.Printable ∧
      parse d.print = .ok ⟨3, 2, [[1, -2], [3]]⟩ ∧
      ∃ d', parse d.print = .ok d' ∧ d'.numVars = d.numVars ∧ d'.clauses = d.clauses ∧
        d'.declared = d.clauses.length ∧ d'.print = d.print := by
  intro text d
  obtain ⟨inverse, sound, again⟩ := print_parse_inverse
  have parsed : parse text = .ok d := by decide
  have printable := sound text d parsed
  exact ⟨parsed, by decide, printable, inverse d printable (by decide),
    again text d parsed (by decide)⟩

end Dimacs

end TrialFarm
