import TrialFarm.Manager.Launch
import TrialFarm.Proofs.Manager.Orders

/-!
# Bringing in workers

Workers are brought in by rounds: in each round as many as are allowed at once are announced to the
server and then launched, until none are left. A server waits for workers that were announced, so
it matters that nothing is announced ahead of the launches, and that a failure leaves at most one
announcement without its workers.

## Main definitions

* `OfficeAct`, `Office.journaled`: writes down what is done to bring in workers, and what comes of
  it.
* `Session.Rounds`: how the rounds go on.
* `Session.settled`, `Session.BreaksOff`: what is done in a round that succeeds or fails.
* `startNoted`: writes down what came of every start of a program.

## Main statements

* `Session.rounds_addChunks`, `Session.Rounds.unique`: the rounds come to one end.
* `Session.addChunks_acts`: what is done up to the first failure.
* `startEach_noted`: how many programs are started.
* `Session.workers_announced`: all of this for the workers that a session adds.
-/

namespace TrialFarm

open Wire

/-! ### Writing down what is done -/

/-- Something that was done to bring in workers, and what came of it. -/
inductive OfficeAct where
  | sent (m : ManagerMessage) (result : Except Error Unit)
  | launched (count : UInt32) (arguments : List String) (result : Except Error Unit)

section Journaled

variable {ν : Type}

/-- Writes down all messages and launches. -/
def Office.journaled (office : Office ν) : Office (ν × List OfficeAct) where
  send := fun (n, acts) m =>
    match office.send n m with
    | (n, result) => ((n, acts ++ [.sent m result]), result)
  close := fun (n, acts) => (office.close n, acts)
  launch := fun (n, acts) count arguments =>
    match office.launch n count arguments with
    | (n, result) => ((n, acts ++ [.launched count arguments result]), result)
  resolve := fun (n, _) path => office.resolve n path

/-- The office that keeps a journal works as the office itself. -/
theorem Office.journaled_mirrors (office : Office ν) :
    office.journaled.Mirrors Prod.fst office where
  send _ _ := rfl
  close _ := rfl
  launch _ _ _ := rfl
  resolve _ := rfl

/-- Writes down what came of every start. -/
def startNoted (start : ν → ν × Except Error Unit) :
    ν × List (Except Error Unit) → (ν × List (Except Error Unit)) × Except Error Unit :=
  fun (n, notes) =>
    match start n with
    | (n, result) => ((n, notes ++ [result]), result)

/-- All programs are started, or the last one that was tried was not. -/
theorem startEach_noted (start : ν → ν × Except Error Unit) (count : Nat) (n : ν)
    (notes : List (Except Error Unit)) :
    let out := startEach (startNoted start) count (n, notes)
    startEach start count n = (out.1.1, out.2) ∧
      (out.2 = .ok () ∧ out.1.2 = notes ++ List.replicate count (.ok ()) ∨
        ∃ started < count, ∃ e, out.2 = .error e ∧
          out.1.2 = notes ++ (List.replicate started (.ok ()) ++ [.error e])) := by
  induction count generalizing n notes with
  | zero => exact ⟨rfl, Or.inl ⟨rfl, (List.append_nil _).symm⟩⟩
  | succ count ih =>
    rw [startEach, startEach, startNoted]
    rcases start n with ⟨n, e | _⟩
    · exact ⟨rfl, Or.inr ⟨0, Nat.succ_pos _, e, rfl, rfl⟩⟩
    · obtain ⟨same, all | ⟨started, fewer, e, failed, noted⟩⟩ := ih n (notes ++ [.ok ()])
      · refine ⟨same, Or.inl ⟨all.1, ?_⟩⟩
        rw [List.replicate_succ, List.append_cons]
        exact all.2
      · refine ⟨same, Or.inr ⟨started + 1, Nat.succ_lt_succ fewer, e, failed, ?_⟩⟩
        rw [List.replicate_succ, List.cons_append, List.append_cons]
        exact noted

end Journaled

namespace Session

variable {ν : Type} {s : Session} {most : Nat} (office : Office ν) (arguments : List String)

/-! ### Rounds -/

/-- The rounds in which workers are brought in, from surroundings and a number of workers that are
left to the surroundings and the result at the end. -/
inductive Rounds (office : Office ν) (s : Session) (arguments : List String) (most : Nat) :
    ν → Nat → ν × Except Error Unit → Prop
  | done {n : ν} : Rounds office s arguments most n 0 (n, .ok ())
  | fails {n n' : ν} {left : Nat} {e : Error} (some : 0 < left)
      (failed : addChunk office s n arguments (min left most) = (n', .error e)) :
      Rounds office s arguments most n left (n', .error e)
  | next {n n' : ν} {left : Nat} {out : ν × Except Error Unit} (some : 0 < left)
      (added : addChunk office s n arguments (min left most) = (n', .ok ()))
      (rest : Rounds office s arguments most n' (left - min left most) out) :
      Rounds office s arguments most n left out

/-- If some workers are allowed at once, the rounds come to an end. -/
theorem rounds_addChunks (s : Session) (positive : 0 < most) (n : ν) (left : Nat) :
    Rounds office s arguments most n left (addChunks office s n arguments (chunks most left)) := by
  fun_induction chunks most left generalizing n with
  | case1 left none =>
    obtain rfl : left = 0 := by omega
    exact .done
  | case2 left some ih =>
    have some : 0 < left := by omega
    rw [addChunks]
    cases added : addChunk office s n arguments (min left most) with
    | mk n' result =>
      cases result with
      | error e => exact .fails some added
      | ok _ => exact .next some added (ih n')

variable {office arguments}

/-- The rounds come to no other end. -/
theorem Rounds.unique {n : ν} {left : Nat} {out out' : ν × Except Error Unit}
    (rounds : Rounds office s arguments most n left out)
    (others : Rounds office s arguments most n left out') : out' = out := by
  induction rounds with
  | done =>
    cases others with
    | done => rfl
    | fails some | next some => exact absurd some (Nat.lt_irrefl 0)
  | fails some failed =>
    cases others with
    | done => exact absurd some (Nat.lt_irrefl 0)
    | fails _ failed' =>
      rw [failed] at failed'
      cases failed'
      rfl
    | next _ added =>
      rw [failed] at added
      cases added
  | next some added _ ih =>
    cases others with
    | done => exact absurd some (Nat.lt_irrefl 0)
    | fails _ failed =>
      rw [added] at failed
      cases failed
    | next _ added' rest =>
      rw [added] at added'
      cases added'
      exact ih rest

/-- If none are allowed at once, the rounds never bring in all workers. -/
theorem Rounds.positive {n : ν} {left : Nat} {out : ν × Except Error Unit}
    (rounds : Rounds office s arguments most n left out) (some : 0 < left)
    (all : out.2 = .ok ()) : 0 < most := by
  induction rounds with
  | done => exact absurd some (Nat.lt_irrefl 0)
  | fails => cases all
  | next some _ _ ih =>
    refine Nat.pos_of_ne_zero fun none => ?_
    have still := ih (by omega) all
    omega

/-! ### What is done in the rounds -/

variable (office arguments)

/-- Workers are announced, and this comes of it. -/
def announcement (share : Nat) (result : Except Error Unit) : OfficeAct :=
  .sent (.addWorkers (Int32.ofNat share)) result

/-- Workers are launched, and this comes of it. -/
def launching (share : Nat) (result : Except Error Unit) : OfficeAct :=
  .launched (UInt32.ofNat share) arguments result

/-- Workers were announced and then launched. -/
def settled (share : Nat) : List OfficeAct :=
  [announcement share (.ok ()), launching arguments share (.ok ())]

/-- Workers were announced, but could not be launched, or they could not even be announced. -/
inductive BreaksOff (arguments : List String) (share : Nat) (e : Error) : List OfficeAct → Prop
  | unannounced : BreaksOff arguments share e [announcement share (.error e)]
  | unlaunched : BreaksOff arguments share e
      [announcement share (.ok ()), launching arguments share (.error e)]

/-- The acts for one chunk are to announce its workers and to launch them, up to the first that
fails. -/
theorem addChunk_acts (here : s.serverGone = false) {share : Nat} (small : share < 0x80000000)
    (n : ν) (acts : List OfficeAct) :
    let out := addChunk office.journaled s (n, acts) arguments share
    out.2 = .ok () ∧ out.1.2 = acts ++ settled arguments share ∨
      ∃ e last, out.2 = .error e ∧ BreaksOff arguments share e last ∧ out.1.2 = acts ++ last := by
  rw [addChunk, if_neg (Nat.not_le.mpr small), send_eq here]
  obtain ⟨n', result, sends⟩ : ∃ n' result,
      office.send n (.addWorkers (Int32.ofNat share)) = (n', result) := ⟨_, _, rfl⟩
  simp only [Office.journaled, sends]
  cases result with
  | error e => exact Or.inr ⟨e, _, rfl, .unannounced, rfl⟩
  | ok _ =>
    obtain ⟨n'', result, launches⟩ : ∃ n'' result,
        office.launch n' (UInt32.ofNat share) arguments = (n'', result) := ⟨_, _, rfl⟩
    simp only [launches]
    cases result with
    | error e => exact Or.inr ⟨e, _, rfl, .unlaunched, List.append_assoc _ _ _⟩
    | ok _ => exact Or.inl ⟨rfl, List.append_assoc _ _ _⟩

/-- All shares are announced and launched one after another, or those before the first one that
fails, and nothing is done after it. -/
theorem addChunks_acts (here : s.serverGone = false) {shares : List Nat}
    (small : ∀ share ∈ shares, share < 0x80000000) (n : ν) (acts : List OfficeAct) :
    let out := addChunks office.journaled s (n, acts) arguments shares
    out.2 = .ok () ∧ out.1.2 = acts ++ shares.flatMap (settled arguments) ∨
      ∃ before share after e last, shares = before ++ share :: after ∧ out.2 = .error e ∧
        BreaksOff arguments share e last ∧
        out.1.2 = acts ++ (before.flatMap (settled arguments) ++ last) := by
  induction shares generalizing n acts with
  | nil => exact Or.inl ⟨rfl, (List.append_nil _).symm⟩
  | cons share shares ih =>
    rw [List.forall_mem_cons] at small
    have first := addChunk_acts office arguments here small.1 n acts
    rw [addChunks]
    generalize addChunk office.journaled s (n, acts) arguments share = added at first ⊢
    obtain ⟨⟨n', acts'⟩, e | _⟩ := added
    · obtain ⟨all, -⟩ | ⟨e', last, failed, breaks, done⟩ := first
      · cases all
      · cases failed
        exact Or.inr ⟨[], share, shares, e, last, rfl, rfl, breaks, done⟩
    · obtain ⟨-, rfl⟩ | ⟨e', last, failed, -⟩ := first
      · rcases ih small.2 n' (acts ++ settled arguments share) with
          ⟨all, done⟩ | ⟨before, other, after, e, last, rfl, failed, breaks, done⟩
        · refine Or.inl ⟨all, ?_⟩
          rw [List.flatMap_cons, ← List.append_assoc]
          exact done
        · refine Or.inr ⟨share :: before, other, after, e, last, rfl, failed, breaks, ?_⟩
          rw [List.flatMap_cons, List.append_assoc, ← List.append_assoc acts]
          exact done
      · cases failed

/-- A session that has no solution and whose server is there brings in workers, some at a time, by
rounds that come to exactly one end. Nobody notices that it is written down what is done. If the
first share is too large a number on the wire, it is refused and nothing is done. Else there are
shares of at least one worker and at most as many as are allowed at once, which together are all
workers, and each one is announced by its number and then that many workers are launched, before the
next one is announced. This goes on to the last share, or to the first one that could not be
announced or not be launched, after which nothing is done. Starting programs one by one starts as
many as it was told to, or fails with the first one that cannot be started, and this is how workers
are launched. -/
theorem workers_announced (unsolved : s.solutionFound = false) (here : s.serverGone = false)
    (positive : 0 < s.settings.maxConnections) (n : ν) (count : UInt32) :
    let most := s.settings.maxConnections.toNat
    let out := addWorkers office.journaled s (n, []) count arguments
    addWorkers office s n count arguments = (out.1.1, out.2) ∧
    (∀ other, Rounds office.journaled s arguments most (n, []) count.toNat other ↔ other = out) ∧
    (0x80000000 ≤ min count.toNat most → out = ((n, []), .error (.rejected
      ("cannot announce " ++ toString (min count.toNat most) ++ " workers at once")))) ∧
    (min count.toNat most < 0x80000000 → ∃ shares : List Nat, shares.sum = count.toNat ∧
      (∀ share ∈ shares, 1 ≤ share ∧ share ≤ most ∧ (Int32.ofNat share).toInt = share ∧
        (UInt32.ofNat share).toNat = share) ∧
      (out.2 = .ok () ∧ out.1.2 = shares.flatMap (settled arguments) ∨
        ∃ before share after e last, shares = before ++ share :: after ∧ out.2 = .error e ∧
          BreaksOff arguments share e last ∧
          out.1.2 = before.flatMap (settled arguments) ++ last)) ∧
    (∀ (start : ν → ν × Except Error Unit) (workers : Nat),
      let out := startEach (startNoted start) workers (n, [])
      startEach start workers n = (out.1.1, out.2) ∧
        (out.2 = .ok () ∧ out.1.2 = List.replicate workers (.ok ()) ∨
          ∃ started < workers, ∃ e, out.2 = .error e ∧
            out.1.2 = List.replicate started (.ok ()) ++ [.error e])) ∧
    ∀ (d : Surroundings) (workers : UInt32) (own : List String),
      Surroundings.office.launch d workers own =
        startEach (Surroundings.start own) workers.toNat d := by
  intro most out
  have positive : 0 < most := UInt32.lt_iff_toNat_lt.mp positive
  have planned : out =
      addChunks office.journaled s (n, []) arguments (chunks most count.toNat) := by
    simp only [out, addWorkers, unsolved]
    rfl
  have rounds := rounds_addChunks office.journaled arguments s positive (n, []) count.toNat
  rw [← planned] at rounds
  refine ⟨addWorkers_mirrored office.journaled_mirrors s (n, []) count arguments,
    fun other => ⟨rounds.unique, fun same => same ▸ rounds⟩, fun large => ?_, fun small => ?_,
    fun start workers => startEach_noted start workers n [], fun _ _ _ => rfl⟩
  · rw [planned]
    exact addChunks_of_large _ s _ arguments large
  · have bounds (share : Nat) (member : share ∈ chunks most count.toNat) :=
      bounds_of_mem_chunks member
    refine ⟨chunks most count.toNat, sum_chunks positive, fun share member => ?_, ?_⟩
    · have := bounds share member
      have words : UInt32.size = 4294967296 := rfl
      exact ⟨by omega, by omega, Int32.toInt_ofNat_of_lt (by omega),
        UInt32.toNat_ofNat_of_lt' (by omega)⟩
    · rw [planned]
      refine addChunks_acts office arguments here (fun share member => ?_) n []
      have := bounds share member
      omega

/-- Of five workers two are allowed at once, and the second launch fails. So two are launched, two
more are announced, and that is all. -/
theorem workers_announced_secondLaunch :
    let e : Error := .config "cannot start worker"
    let office : Office Nat :=
      { send := fun n _ => (n, .ok ())
        close := id
        launch := fun n _ _ => if n = 1 then (n, .error e) else (n + 1, .ok ())
        resolve := fun _ path => path }
    let s := Session.start ⟨2, 1000⟩
    s.solutionFound = false ∧ s.serverGone = false ∧ 0 < s.settings.maxConnections ∧
      addWorkers office s 0 5 [] = (1, .error e) ∧
      Rounds office.journaled s [] 2 (0, []) 5
        ((1, [announcement 2 (.ok ()), launching [] 2 (.ok ()), announcement 2 (.ok ()),
          launching [] 2 (.error e)]), .error e) := by
  intro e office s
  have positive : 0 < s.settings.maxConnections := by decide
  obtain ⟨same, ends, -⟩ := workers_announced (s := s) office [] rfl rfl positive 0 5
  have plan : chunks s.settings.maxConnections.toNat (5 : UInt32).toNat = [2, 2, 1] :=
    chunks_eq Nat.zero_lt_two
  have done : addWorkers office.journaled s (0, []) 5 [] =
      ((1, [announcement 2 (.ok ()), launching [] 2 (.ok ()), announcement 2 (.ok ()),
        launching [] 2 (.error e)]), .error e) := by
    rw [addWorkers, plan]
    rfl
  rw [done] at same ends
  exact ⟨rfl, rfl, positive, same, (ends _).mpr rfl⟩

end Session

end TrialFarm
