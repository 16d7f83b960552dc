import Mathlib.Data.List.Nodup
import Mathlib.Data.List.Perm.Subperm
import Mathlib.Logic.Function.Basic
import TrialFarm.Search.Trial

/-!
# Counts and places of clauses

A trial counts the true literals of each clause and lists the clauses without any. The list and the
table of places belong together: a clause stands at its place, and no other clause does. Both are
kept while literals become true or false one after the other.

## Main definitions

* `Places`: a list and the table of the places in it.
* `Trial.Tallied`: counts, list and table of a trial agree on the first clauses.
* `Trial.Aside`: what counting leaves alone.

## Main statements

* `Places.push`, `Places.remove`: adding to the list and taking from it.
* `Trial.Tallied.foldl_gain`, `Trial.Tallied.foldl_lose`: counting over a list of clauses.
-/

namespace TrialFarm

/-- A clause is in the list exactly at the place that the table has for it. -/
def Places (list : Array Nat) (table : Array (Option Nat)) : Prop :=
  ∀ i c : Nat, list[i]? = some c ↔ table[c]? = some (some i)

namespace Places

variable {list : Array Nat} {table : Array (Option Nat)} {c i : Nat}

theorem empty (n : Nat) : Places #[] (Array.replicate n none) := by
  intro i c
  simp [Array.getElem?_replicate]

/-- A clause is in the list when the table has a place for it. -/
theorem mem_iff (places : Places list table) : c ∈ list ↔ ∃ i, table[c]? = some (some i) := by
  simp only [Array.mem_iff_getElem?, places _ c]

theorem lt_size (places : Places list table) (member : c ∈ list) : c < table.size := by
  obtain ⟨i, found⟩ := places.mem_iff.mp member
  exact (Array.getElem?_eq_some_iff.mp found).1

/-- A clause has one place in the list. -/
theorem unique (places : Places list table) {j : Nat} (here : list[i]? = some c)
    (there : list[j]? = some c) : i = j := by
  have := (places i c).mp here
  rw [(places j c).mp there] at this
  exact (Option.some.inj (Option.some.inj this)).symm

theorem nodup (places : Places list table) : list.toList.Nodup := by
  refine List.nodup_iff_getElem?_ne_getElem?.mpr fun i j before inside same => ?_
  have there : list[j]? = some list[j] := Array.getElem?_eq_getElem inside
  have here : list[i]? = some list[j] := by simpa [← there] using same
  exact absurd (places.unique here there) (Nat.ne_of_lt before)

/-- A list of numbers below `k` in which one of them is missing is shorter than `k`. -/
theorem size_lt (places : Places list table) {k : Nat} (within : ∀ d ∈ list, d < k)
    (below : c < k) (missing : c ∉ list) : list.size < k := by
  have once : (c :: list.toList).Nodup :=
    List.nodup_cons.mpr ⟨by simpa using missing, places.nodup⟩
  have inside : (c :: list.toList) ⊆ List.range k := by
    intro d member
    rcases List.mem_cons.mp member with rfl | later
    · exact List.mem_range.mpr below
    · exact List.mem_range.mpr (within d (by simpa using later))
  have fewer := (List.subperm_of_subset once inside).length_le
  rwa [List.length_cons, Array.length_toList, List.length_range] at fewer

/-- A new clause goes to the end. -/
theorem push (places : Places list table) (inside : c < table.size) (new : c ∉ list) :
    Places (list.push c) (table.setIfInBounds c (some list.size)) := by
  intro i d
  rw [Array.getElem?_push, Array.getElem?_setIfInBounds]
  by_cases last : i = list.size
  · by_cases same : c = d
    · subst same
      simp [last, inside]
    · have absent : table[d]? ≠ some (some list.size) := fun found => by
        have := (places list.size d).mpr found
        simp at this
      simp [last, same, absent]
  · by_cases same : c = d
    · subst same
      have absent : list[i]? ≠ some c := fun found =>
        new (Array.mem_iff_getElem?.mpr ⟨i, found⟩)
      simp [last, absent, inside, Ne.symm last]
    · simp [last, same, places i d]

section Remove

variable {z : Nat}

theorem getElem?_pop (list : Array Nat) (j : Nat) :
    list.pop[j]? = if j + 1 < list.size then list[j]? else none := by
  rw [Array.getElem?_pop]
  congr 1
  simp only [eq_iff_iff]
  omega

theorem back_eq (last : list.back? = some z) : list[list.size - 1]? = some z := by
  rwa [Array.back?_eq_getElem?] at last

/-- A clause other than the last stands before it. -/
theorem succ_lt (here : list[i]? = some c) (last : list.back? = some z) (other : z ≠ c) :
    i + 1 < list.size := by
  have inside := (Array.getElem?_eq_some_iff.mp here).1
  by_contra late
  have atEnd := back_eq last
  have : i = list.size - 1 := by omega
  rw [← this, here] at atEnd
  exact other (Option.some.inj atEnd).symm

/-- A clause of the list has a place, and the list has a last clause. -/
theorem exists_place (places : Places list table) (member : c ∈ list) :
    ∃ i z, list[i]? = some c ∧ table[c]? = some (some i) ∧ list.back? = some z := by
  obtain ⟨i, here⟩ := Array.mem_iff_getElem?.mp member
  cases last : list.back? with
  | some z => exact ⟨i, z, here, (places i c).mp here, rfl⟩
  | none =>
    rw [Array.back?_eq_none_iff] at last
    simp [last] at member

/-- The last clause leaves. -/
theorem removeLast (places : Places list table) (last : list.back? = some c) :
    Places list.pop (table.setIfInBounds c none) := by
  have here := back_eq last
  intro j d
  rw [getElem?_pop, Array.getElem?_setIfInBounds]
  by_cases same : c = d
  · subst same
    have elsewhere : ¬ (j + 1 < list.size ∧ list[j]? = some c) := fun ⟨inside, found⟩ => by
      have := places.unique here found
      omega
    split
    · next inside =>
      have absent : list[j]? ≠ some c := fun found => elsewhere ⟨inside, found⟩
      simp [absent]
    · simp
  · simp only [if_neg same]
    split
    · exact places j d
    · next outside =>
      have absent : table[d]? ≠ some (some j) := fun found => by
        have found := (places j d).mpr found
        have inside := (Array.getElem?_eq_some_iff.mp found).1
        have : j = list.size - 1 := by omega
        rw [this, here] at found
        exact same (Option.some.inj found)
      simp [absent]

/-- A clause leaves and the last one takes its place. -/
theorem remove (places : Places list table) (here : list[i]? = some c)
    (last : list.back? = some z) (other : z ≠ c) :
    Places (list.pop.setIfInBounds i z)
      ((table.setIfInBounds c none).setIfInBounds z (some i)) := by
  have end' := back_eq last
  have before := succ_lt here last other
  have inTable : z < table.size := places.lt_size (Array.mem_of_back? last)
  intro j d
  rw [Array.getElem?_setIfInBounds, getElem?_pop, Array.getElem?_setIfInBounds,
    Array.getElem?_setIfInBounds]
  by_cases moved : z = d
  · subst moved
    by_cases place : i = j
    · subst place
      simp [inTable]
      omega
    · have absent : ¬ (j + 1 < list.size ∧ list[j]? = some z) := fun ⟨inside, found⟩ => by
        have := places.unique end' found
        omega
      simp [place, inTable]
      exact fun inside found => absent ⟨inside, found⟩
  · by_cases left : c = d
    · subst left
      by_cases place : i = j
      · simp [place, moved]
      · have absent : list[j]? ≠ some c := fun found => place (places.unique here found)
        simp [place, moved, absent]
    · by_cases place : i = j
      · subst place
        have absent : table[d]? ≠ some (some i) := fun found => by
          have found := (places i d).mpr found
          rw [here] at found
          exact left (Option.some.inj found)
        simp [moved, left, absent]
      · have keeps : list[j]? = some d → j + 1 < list.size := fun found => by
          by_contra late
          have inside := (Array.getElem?_eq_some_iff.mp found).1
          have : j = list.size - 1 := by omega
          rw [this, end'] at found
          exact moved (Option.some.inj found)
        simp only [if_neg place, if_neg moved, if_neg left, ← places j d]
        split
        · rfl
        · next late => simp [mt keeps late]

/-- Taking off the last clause of the list removes that clause and no other. -/
theorem mem_removeLast (places : Places list table) (last : list.back? = some c) (d : Nat) :
    d ∈ list.pop ↔ d ∈ list ∧ d ≠ c := by
  rw [(places.removeLast last).mem_iff, places.mem_iff]
  simp only [Array.getElem?_setIfInBounds]
  by_cases left : c = d
  · subst left
    simp
  · simp [left, Ne.symm left]

/-- Moving the last clause into the gap removes the clause that was there and no other. -/
theorem mem_remove (places : Places list table) (here : list[i]? = some c)
    (last : list.back? = some z) (other : z ≠ c) (d : Nat) :
    d ∈ list.pop.setIfInBounds i z ↔ d ∈ list ∧ d ≠ c := by
  have inside := Array.mem_of_back? last
  have inTable := places.lt_size inside
  obtain ⟨j, place⟩ := places.mem_iff.mp inside
  rw [(places.remove here last other).mem_iff, places.mem_iff]
  simp only [Array.getElem?_setIfInBounds, Array.size_setIfInBounds]
  by_cases moved : z = d
  · subst moved
    simpa [inTable, other] using ⟨j, (Array.getElem?_eq_some_iff.mp place).2⟩
  · by_cases left : c = d
    · subst left
      simp [moved]
    · simp [moved, left, Ne.symm left]

end Remove

end Places

namespace Trial

variable {t t' : Trial} {k k' c v : Nat} {count : Nat → Nat}

/-- The first `k` clauses are counted, and those with the count 0 are listed. -/
structure Tallied (t : Trial) (k : Nat) (count : Nat → Nat) : Prop where
  places : Places t.unsat t.unsatPos
  size : t.trueCount.size = t.unsatPos.size
  within : k ≤ t.unsatPos.size
  counted : ∀ c < k, t.trueCount[c]? = some (count c)
  listed : ∀ c, c ∈ t.unsat ↔ c < k ∧ count c = 0

/-- A list that does not hold all of the first `m` clauses has less than `m`. -/
theorem Tallied.size_lt {m : Nat} (tallied : t.Tallied k count) (within : k ≤ m) (below : c < m)
    (unlisted : ¬ (c < k ∧ count c = 0)) : t.unsat.size < m :=
  tallied.places.size_lt
    (fun d member => Nat.lt_of_lt_of_le ((tallied.listed d).mp member).1 within) below
    (mt (tallied.listed c).mp unlisted)

/-- Counts and lists are all that matters. -/
theorem Tallied.of_eq (tallied : t.Tallied k count) (counts : t'.trueCount = t.trueCount)
    (list : t'.unsat = t.unsat) (table : t'.unsatPos = t.unsatPos) : t'.Tallied k count where
  places := by rw [list, table]; exact tallied.places
  size := by rw [counts, table, tallied.size]
  within := by rw [table]; exact tallied.within
  counted := by rw [counts]; exact tallied.counted
  listed := by rw [list]; exact tallied.listed

/-- Nothing but counts and lists differs. -/
structure Aside (t t' : Trial) : Prop where
  random : t'.random = t.random
  seed : t'.seed = t.seed
  assignment : t'.assignment = t.assignment
  flips : t'.flips = t.flips
  size : t'.unsatPos.size = t.unsatPos.size

theorem Aside.refl (t : Trial) : t.Aside t := ⟨rfl, rfl, rfl, rfl, rfl⟩

theorem Aside.trans {t'' : Trial} (first : t.Aside t') (next : t'.Aside t'') : t.Aside t'' :=
  ⟨next.random.trans first.random, next.seed.trans first.seed,
    next.assignment.trans first.assignment, next.flips.trans first.flips,
    next.size.trans first.size⟩

/-- Steps that leave everything else alone do so one after the other. -/
theorem Aside.foldl {step : Trial → Nat → Trial} (one : ∀ t c, Aside t (step t c)) (t : Trial)
    (cs : List Nat) : t.Aside (cs.foldl step t) := by
  induction cs generalizing t with
  | nil => exact Aside.refl t
  | cons c cs ih => exact (one t c).trans (ih (step t c))

theorem aside_markUnsat (t : Trial) (c : Nat) : t.Aside (t.markUnsat c) :=
  ⟨rfl, rfl, rfl, rfl, by simp [markUnsat]⟩

theorem aside_markSat (t : Trial) (c : Nat) : t.Aside (t.markSat c) := by
  unfold markSat
  dsimp only
  split
  · split
    · exact ⟨rfl, rfl, rfl, rfl, by simp⟩
    · exact ⟨rfl, rfl, rfl, rfl, by simp⟩
  · exact ⟨rfl, rfl, rfl, rfl, by simp⟩

@[simp] theorem trueCount_markSat (t : Trial) (c : Nat) :
    (t.markSat c).trueCount = t.trueCount := by
  unfold markSat
  dsimp only
  split
  · split <;> rfl
  · rfl

theorem aside_enter (f : Formula) (t : Trial) (c : Nat) : t.Aside (enter f t c) := by
  unfold enter
  dsimp only
  split
  · exact ⟨rfl, rfl, rfl, rfl, (aside_markUnsat _ c).size⟩
  · exact ⟨rfl, rfl, rfl, rfl, rfl⟩
  · exact ⟨rfl, rfl, rfl, rfl, rfl⟩

theorem aside_gain (v : Nat) (t : Trial) (c : Nat) : t.Aside (gain v t c) := by
  unfold gain
  dsimp only
  split
  · exact ⟨(aside_markSat _ c).random, (aside_markSat _ c).seed, (aside_markSat _ c).assignment,
      (aside_markSat _ c).flips, (aside_markSat _ c).size⟩
  · exact ⟨rfl, rfl, rfl, rfl, rfl⟩
  · exact ⟨rfl, rfl, rfl, rfl, rfl⟩

theorem aside_lose (v : Nat) (t : Trial) (c : Nat) : t.Aside (lose v t c) := by
  unfold lose
  dsimp only
  split
  · exact ⟨rfl, rfl, rfl, rfl, (aside_markUnsat _ c).size⟩
  · exact ⟨rfl, rfl, rfl, rfl, rfl⟩
  · exact ⟨rfl, rfl, rfl, rfl, rfl⟩

/-- Beside counts and lists, a flip changes the value of its variable. -/
theorem aside_flip (f : Formula) (t : Trial) (v : UInt32) :
    Aside { t with
      assignment := t.assignment.setIfInBounds v.toNat (!t.assignment.getD v.toNat false) }
      (flip f t v) :=
  (Aside.foldl (aside_gain v.toNat) _ _).trans (Aside.foldl (aside_lose v.toNat) _ _)

/-! ### One clause -/

/-- The list stays with its table when a clause leaves. -/
theorem markSat_spec (places : Places t.unsat t.unsatPos) (member : c ∈ t.unsat) :
    Places (t.markSat c).unsat (t.markSat c).unsatPos ∧
      ∀ d, d ∈ (t.markSat c).unsat ↔ d ∈ t.unsat ∧ d ≠ c := by
  obtain ⟨i, z, here, found, last⟩ := places.exists_place member
  have place : t.unsatPos.getD c none = some i := by
    rw [Array.getD_eq_getD_getElem?, found, Option.getD_some]
  by_cases same : z = c
  · subst same
    simpa [markSat, last, place] using ⟨places.removeLast last, places.mem_removeLast last⟩
  · simpa [markSat, last, place, same] using
      ⟨places.remove here last same, places.mem_remove here last same⟩

/-- A clause gets the count `n` and nothing else changes. -/
theorem Tallied.recount {n : Nat} (tallied : t.Tallied k count) (inside : c < t.unsatPos.size)
    (reach : ∀ d, d < k' ↔ d < k ∨ d = c) (places : Places t'.unsat t'.unsatPos)
    (aside : t.Aside t') (counts : t'.trueCount = t.trueCount.setIfInBounds c n)
    (here : c ∈ t'.unsat ↔ n = 0) (others : ∀ d, d ≠ c → (d ∈ t'.unsat ↔ d ∈ t.unsat)) :
    t'.Tallied k' (Function.update count c n) where
  places := places
  size := by rw [counts, Array.size_setIfInBounds, tallied.size, aside.size]
  within := by
    rw [aside.size]
    by_contra late
    rcases (reach t.unsatPos.size).mp (by omega) with old | new
    · exact absurd tallied.within (by omega)
    · omega
  counted d below := by
    rw [counts, Array.getElem?_setIfInBounds]
    by_cases same : c = d
    · subst same
      simp [tallied.size, inside]
    · have old : d < k := by
        rcases (reach d).mp below with old | new
        · exact old
        · exact absurd new.symm same
      simp [same, Ne.symm same, tallied.counted d old]
  listed d := by
    by_cases same : d = c
    · subst same
      simp [here, (reach d).mpr (Or.inr rfl)]
    · simp [others d same, tallied.listed d, reach d, same]

theorem Tallied.getD (tallied : t.Tallied k count) (below : c < k) :
    t.trueCount.getD c 0 = count c := by
  rw [Array.getD_eq_getD_getElem?, tallied.counted c below, Option.getD_some]

theorem reach_self (below : c < k) (d : Nat) : d < k ↔ d < k ∨ d = c := by omega

theorem trueCount_gain (v : Nat) (t : Trial) (c : Nat) :
    (gain v t c).trueCount = t.trueCount.setIfInBounds c (t.trueCount.getD c 0 + 1) := by
  unfold gain
  dsimp only
  split <;> simp

/-- A clause leaves the list when its first literal becomes true. -/
theorem lists_gain (v : Nat) (t : Trial) (c : Nat) :
    (gain v t c).unsat = (if t.trueCount.getD c 0 = 0 then t.markSat c else t).unsat ∧
      (gain v t c).unsatPos = (if t.trueCount.getD c 0 = 0 then t.markSat c else t).unsatPos := by
  unfold gain
  dsimp only
  split
  · next none =>
    rw [if_pos none]
    unfold markSat
    dsimp only
    split
    · split
      · exact ⟨rfl, rfl⟩
      · exact ⟨rfl, rfl⟩
    · exact ⟨rfl, rfl⟩
  · next one =>
    rw [if_neg (by omega)]
    exact ⟨rfl, rfl⟩
  · next more _ =>
    rw [if_neg more]
    exact ⟨rfl, rfl⟩

/-- The counts stay right when a clause gains a true literal. -/
theorem Tallied.gain (tallied : t.Tallied k count) (below : c < k) :
    (gain v t c).Tallied k (Function.update count c (count c + 1)) := by
  have inside : c < t.unsatPos.size := Nat.lt_of_lt_of_le below tallied.within
  obtain ⟨list, table⟩ := lists_gain v t c
  have counts := trueCount_gain v t c
  rw [tallied.getD below] at list table counts
  have aside := aside_gain v t c
  by_cases none : count c = 0
  · have member : c ∈ t.unsat := (tallied.listed c).mpr ⟨below, none⟩
    obtain ⟨places, members⟩ := markSat_spec tallied.places member
    rw [if_pos none] at list table
    refine tallied.recount inside (reach_self below) ?_ aside counts ?_ fun d other => ?_
    · rwa [list, table]
    · simp [list, members]
    · simp [list, members, other]
  · rw [if_neg none] at list table
    refine tallied.recount inside (reach_self below) ?_ aside counts ?_ fun d _ => by rw [list]
    · rw [list, table]
      exact tallied.places
    · simp [list, tallied.listed c, none]

/-- A clause that was not listed joins the list if its new count is 0. -/
theorem Tallied.join {n : Nat} (tallied : t.Tallied k count) (inside : c < t.unsatPos.size)
    (new : c ∉ t.unsat) (reach : ∀ d, d < k' ↔ d < k ∨ d = c) (aside : t.Aside t')
    (counts : t'.trueCount = t.trueCount.setIfInBounds c n)
    (list : t'.unsat = (if n = 0 then t.markUnsat c else t).unsat)
    (table : t'.unsatPos = (if n = 0 then t.markUnsat c else t).unsatPos) :
    t'.Tallied k' (Function.update count c n) := by
  by_cases none : n = 0
  · rw [if_pos none] at list table
    refine tallied.recount inside reach ?_ aside counts ?_ fun d other => ?_
    · rw [list, table]
      exact tallied.places.push inside new
    · simp [list, markUnsat, none]
    · simp [list, markUnsat, other]
  · rw [if_neg none] at list table
    refine tallied.recount inside reach ?_ aside counts ?_ fun d _ => by rw [list]
    · rw [list, table]
      exact tallied.places
    · simp [list, new, none]

/-- What a clause that loses a true literal does to the counts and to the list. -/
theorem lists_lose (v : Nat) (t : Trial) (c : Nat) :
    (lose v t c).trueCount = t.trueCount.setIfInBounds c (t.trueCount.getD c 0 - 1) ∧
      (lose v t c).unsat = (if t.trueCount.getD c 0 - 1 = 0 then t.markUnsat c else t).unsat ∧
      (lose v t c).unsatPos =
        (if t.trueCount.getD c 0 - 1 = 0 then t.markUnsat c else t).unsatPos := by
  unfold lose
  dsimp only
  split
  · next none =>
    rw [if_pos none, none]
    exact ⟨rfl, rfl, rfl⟩
  · next one =>
    rw [if_neg (by omega)]
    exact ⟨rfl, rfl, rfl⟩
  · next more _ =>
    rw [if_neg more]
    exact ⟨rfl, rfl, rfl⟩

/-- The counts stay right when a clause loses a true literal. -/
theorem Tallied.lose (tallied : t.Tallied k count) (below : c < k) (positive : 0 < count c) :
    (lose v t c).Tallied k (Function.update count c (count c - 1)) := by
  obtain ⟨counts, list, table⟩ := lists_lose v t c
  rw [tallied.getD below] at counts list table
  refine tallied.join (Nat.lt_of_lt_of_le below tallied.within) ?_ (reach_self below)
    (aside_lose v t c) counts list table
  rw [tallied.listed c]
  omega

/-! ### Many clauses -/

theorem Tallied.congr {count' : Nat → Nat} (tallied : t.Tallied k count)
    (same : ∀ c, count c = count' c) : t.Tallied k count' :=
  funext same ▸ tallied

/-- A literal becomes true in each of the clauses. -/
theorem Tallied.foldl_gain {cs : List Nat} (tallied : t.Tallied k count)
    (below : ∀ c ∈ cs, c < k) :
    (cs.foldl (Trial.gain v) t).Tallied k fun c => count c + cs.count c := by
  induction cs generalizing t count with
  | nil => exact tallied
  | cons c cs ih =>
    have one := tallied.gain (v := v) (below c List.mem_cons_self)
    refine (ih one fun d later => below d (List.mem_cons_of_mem c later)).congr fun d => ?_
    by_cases same : d = c
    · subst same
      simp
      omega
    · simp [same, Ne.symm same]

/-- A literal becomes false in each of the clauses, which had enough true ones. -/
theorem Tallied.foldl_lose {cs : List Nat} (tallied : t.Tallied k count)
    (below : ∀ c ∈ cs, c < k) (enough : ∀ c, cs.count c ≤ count c) :
    (cs.foldl (Trial.lose v) t).Tallied k fun c => count c - cs.count c := by
  induction cs generalizing t count with
  | nil => exact tallied
  | cons c cs ih =>
    have here := enough c
    rw [List.count_cons_self] at here
    have one := tallied.lose (v := v) (below c List.mem_cons_self) (by omega)
    refine (ih one (fun d later => below d (List.mem_cons_of_mem c later)) ?_).congr ?_
    · intro d
      have there := enough d
      by_cases same : d = c
      · subst same
        simp at there ⊢
        omega
      · simpa [same, Ne.symm same] using there
    · intro d
      by_cases same : d = c
      · subst same
        simp
        omega
      · simp [same, Ne.symm same]

end Trial

end TrialFarm
