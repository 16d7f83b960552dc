import TrialFarm.Cnf.Dimacs

/-!
# What a text writes

The layout of a formula is of no interest: what counts of a text are its lines up to the trailer,
without blank lines and comments, and of the lines after the header only their numbers. The
clauses are these numbers, cut at the zeros.

## Main definitions

* `Dimacs.keptLines`, `Dimacs.writtenNumbers`: what counts of a text.
* `Dimacs.writtenClauses`: the clauses that a text writes.

## Main statements

* `Dimacs.clauses_of_parse`: reading a text finds the clauses that it writes.
-/

namespace TrialFarm.Dimacs

/-- The lines that count, without the blanks at their ends: those before the first line that starts
with `%`, except blank lines and comments. -/
def keep (lines : List (List Char)) : List (List Char) :=
  ((lines.map Text.trim).takeWhile fun line => line.head? != some '%').filter fun line =>
    line.head? != none && line.head? != some 'c'

/-- The lines of a text that count. The first of them is the header. -/
def keptLines (text : String) : List (List Char) := keep (Text.splitLines text.toList)

/-- The number that a field writes, if it writes one of 64 bits. -/
def number? (field : List Char) : Option Int :=
  (Integer.readSigned 0x8000000000000000 0x7fffffffffffffff field).toOption

/-- The numbers of lines, in order. -/
def numbersIn (lines : List (List Char)) : List Int :=
  lines.flatMap fun line => (Text.fields line).filterMap number?

/-- The numbers after the header. -/
def writtenNumbers (text : String) : List Int := numbersIn ((keptLines text).drop 1)

/-- The clauses that a text writes. Behind the last zero there may be one more clause. -/
def writtenClauses (text : String) : List (List Int) :=
  ((writtenNumbers text).splitOn 0).filter fun clause => !clause.isEmpty

variable {numVars line : Nat} {p p' : Progress} {ns : List Int}

/-- The numbers that were read so far. -/
def Progress.numbers (p : Progress) : List Int :=
  p.clauses.reverse.flatMap (· ++ [0]) ++ p.current.reverse

/-- Clauses are not empty, and zeros only end them. -/
structure Progress.Neat (p : Progress) : Prop where
  ended : ∀ clause ∈ p.clauses, clause ≠ [] ∧ 0 ∉ clause
  current : 0 ∉ p.current

/-- Clauses that zeros end are cut apart at the zeros. -/
theorem splitOn_flatMap (clauses : List (List Int)) (last : List Int)
    (ended : ∀ clause ∈ clauses, 0 ∉ clause) (open' : 0 ∉ last) :
    (clauses.flatMap (· ++ [0]) ++ last).splitOn 0 = clauses ++ [last] := by
  induction clauses with
  | nil => simpa using List.splitOn_eq_singleton open'
  | cons clause clauses ih =>
    have first := ended clause List.mem_cons_self
    have later := ih fun c member => ended c (List.mem_cons_of_mem clause member)
    simp only [List.flatMap_cons, List.append_assoc, List.cons_append, List.nil_append] at later ⊢
    rw [List.splitOn_append_cons_self_of_not_mem first, later]

theorem Progress.Neat.toClauses (neat : p.Neat) :
    p.toClauses = (p.numbers.splitOn 0).filter fun clause => !clause.isEmpty := by
  have ended : ∀ clause ∈ p.clauses.reverse, 0 ∉ clause := fun clause member =>
    (neat.ended clause (List.mem_reverse.mp member)).2
  have full : p.clauses.reverse.filter (fun clause => !clause.isEmpty) = p.clauses.reverse := by
    refine List.filter_eq_self.mpr fun clause member => ?_
    simp [(neat.ended clause (List.mem_reverse.mp member)).1]
  rw [numbers, splitOn_flatMap _ _ ended (by simpa using neat.current), List.filter_append, full,
    Progress.toClauses]
  by_cases none : p.current = []
  · simp [none]
  · simp [none, endClause]

/-- A token that is read adds its number to those read before. -/
theorem readToken_spec {token : List Char} (read : readToken numVars line p token = .ok p')
    (neat : p.Neat) : p'.Neat ∧ p'.numbers = p.numbers ++ (number? token).toList := by
  unfold readToken at read
  split at read
  · cases read
  · next lit found =>
    have known : number? token = some lit := by rw [number?, found]; rfl
    rw [known]
    by_cases zero : lit = 0
    · rw [if_pos zero] at read
      by_cases none : p.current.isEmpty = true
      · rw [if_pos none] at read
        cases read
      · rw [if_neg none] at read
        cases read
        refine ⟨⟨?_, by simp [Progress.endClause]⟩, ?_⟩
        · intro clause member
          rcases List.mem_cons.mp member with rfl | earlier
          · simpa [neat.current] using none
          · exact neat.ended clause earlier
        · simp [Progress.endClause, Progress.numbers, zero]
    · rw [if_neg zero] at read
      by_cases far : lit.natAbs > numVars
      · rw [if_pos far] at read
        cases read
      · rw [if_neg far] at read
        cases read
        refine ⟨⟨neat.ended, ?_⟩, by simp [Progress.numbers]⟩
        simpa [Ne.symm zero] using neat.current

theorem readTokens_spec {tokens : List (List Char)}
    (read : readTokens numVars line p tokens = .ok p') (neat : p.Neat) :
    p'.Neat ∧ p'.numbers = p.numbers ++ tokens.filterMap number? := by
  induction tokens generalizing p with
  | nil =>
    cases read
    simpa using neat
  | cons token tokens ih =>
    rw [readTokens] at read
    split at read
    · cases read
    · next p₁ first =>
      obtain ⟨neat₁, numbers₁⟩ := readToken_spec first neat
      obtain ⟨neat', numbers'⟩ := ih read neat₁
      refine ⟨neat', ?_⟩
      rw [numbers', numbers₁, List.append_assoc]
      cases found : number? token <;> simp [found]

theorem keep_cons (raw : List Char) (lines : List (List Char)) :
    keep (raw :: lines) =
      if (Text.trim raw).head? = some '%' then []
      else if (Text.trim raw).head? = none ∨ (Text.trim raw).head? = some 'c' then keep lines
      else Text.trim raw :: keep lines := by
  by_cases trailer : (Text.trim raw).head? = some '%'
  · simp [keep, trailer]
  · by_cases skipped : (Text.trim raw).head? = none ∨ (Text.trim raw).head? = some 'c'
    · rcases skipped with blank | comment
      · simp [keep, blank]
      · simp [keep, comment]
    · rw [if_neg trailer, if_neg skipped]
      rw [not_or] at skipped
      simp [keep, trailer, skipped.1, skipped.2]

theorem head?_ne_some {content : List Char} {c : Char} (other : ∀ rest, content ≠ c :: rest) :
    content.head? ≠ some c := by
  intro begins
  obtain ⟨rest, same⟩ := List.head?_eq_some_iff.mp begins
  exact other rest same

/-- A line that is neither blank nor a comment nor a trailer is kept. -/
theorem keep_text {raw : List Char} {lines : List (List Char)} (blank : Text.trim raw ≠ [])
    (comment : ∀ rest, Text.trim raw ≠ 'c' :: rest)
    (trailer : ∀ rest, Text.trim raw ≠ '%' :: rest) :
    keep (raw :: lines) = Text.trim raw :: keep lines := by
  have shown : ¬((Text.trim raw).head? = none ∨ (Text.trim raw).head? = some 'c') :=
    not_or.mpr ⟨by simpa using blank, head?_ne_some comment⟩
  rw [keep_cons, if_neg (head?_ne_some trailer), if_neg shown]

/-- Lines that are read add their numbers to those read before. -/
theorem readBody_spec {lines : List (List Char)}
    (read : readBody numVars line p (lines.map some) = .ok p') (neat : p.Neat) :
    p'.Neat ∧ p'.numbers = p.numbers ++ numbersIn (keep lines) := by
  induction lines generalizing line p with
  | nil =>
    cases read
    simpa [keep, numbersIn] using neat
  | cons raw lines ih =>
    rw [List.map_cons, readBody] at read
    split at read
    · next content => simpa [keep_cons, content] using ih read neat
    · next content => simpa [keep_cons, content] using ih read neat
    · next content =>
      cases read
      simpa [keep_cons, content, numbersIn] using neat
    · cases read
    · next blank comment trailer _ =>
      split at read
      · cases read
      · next p₁ tokens =>
        obtain ⟨neat₁, numbers₁⟩ := readTokens_spec tokens neat
        obtain ⟨neat', numbers'⟩ := ih read neat₁
        refine ⟨neat', ?_⟩
        rw [keep_text blank comment trailer, numbers', numbers₁]
        simp [numbersIn]

/-- The clauses that are read are the numbers after the header, cut apart at the zeros. -/
theorem readLines_spec {lines : List (List Char)} {d : Dimacs}
    (read : readLines line (lines.map some) = .ok d) :
    d.clauses = ((numbersIn ((keep lines).drop 1)).splitOn 0).filter fun c => !c.isEmpty := by
  induction lines generalizing line with
  | nil => cases read
  | cons raw lines ih =>
    rw [List.map_cons, readLines] at read
    rw [keep_cons]
    split at read
    · next content => simpa [content] using ih read
    · next content => simpa [content] using ih read
    · next content =>
      split at read
      · cases read
      · split at read
        · cases read
        · next body =>
          cases read
          obtain ⟨neat, numbers⟩ := readBody_spec body ⟨by simp, by simp⟩
          rw [neat.toClauses, numbers]
          simp [content, Progress.numbers]
    · cases read

/-- Reading a text finds the clauses that the text writes. -/
theorem clauses_of_parse {text : String} {d : Dimacs} (parsed : parse text = .ok d) :
    d.clauses = writtenClauses text :=
  readLines_spec parsed

end TrialFarm.Dimacs
