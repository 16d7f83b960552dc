import Mathlib.Data.List.Dedup
import Mathlib.Data.List.Nodup
import TrialFarm.Worker.Problem

/-!
# Handles on problems

Jobs hold handles on problems, copy them and give them back whenever they like, while the cache has
only its table. The history beside a cache knows what it cannot know: which handle is on which
problem, and which problems there have ever been. For every history, a filename stands for at most
one problem that is alive, and the table forgets all others when it grows.

## Main definitions

* `HandleEvent`: what is done with problems and handles.
* `Lending`: a cache with its history.
* `Lending.Lives`: some handle on a problem of a file is alive.
* `Lending.Kept`: what all histories have in common.

## Main statements

* `Lending.Kept.find?_eq`, `Lending.Kept.find?_eq_none`: the cache finds exactly what is alive.
* `Lending.Kept.step`, `Lending.kept_run`: every event keeps the invariant, so every history does.
* `Lending.one_live_problem`: a filename has at most one living problem, which is handed out.
-/

namespace TrialFarm

/-- What can be done with problems and handles. -/
inductive HandleEvent where
  /-- Somebody asks for the problem of a file. -/
  | get (path : String)
  /-- Somebody copies a handle on a problem. -/
  | clone (p : Problem)
  /-- Somebody gives a handle on a problem back. -/
  | drop (p : Problem)
  deriving Repr

/-- A cache with its history. -/
structure Lending where
  cache : ProblemCache
  /-- The problem behind each living handle. -/
  held : List Problem
  /-- All problems that were ever made. -/
  made : List Problem
  /-- The filenames of the living handles when a problem was last made. -/
  filed : List String

namespace Lending

/-- Some handle on a problem of the file is alive. -/
def Lives (s : Lending) (path : String) : Prop := path ∈ s.held.map Problem.path

instance (s : Lending) (path : String) : Decidable (s.Lives path) :=
  inferInstanceAs (Decidable (path ∈ s.held.map Problem.path))

/-- The filenames with a living handle, each once. -/
def livePaths (s : Lending) : List String := (s.held.map Problem.path).dedup

/-- Nobody has asked for a problem. -/
def start : Lending := ⟨.empty, [], [], []⟩

/-- The effect of an event. Only a handle that is alive can be copied or given back. -/
def step (s : Lending) : HandleEvent → Lending
  | .get path =>
    let (p, cache) := s.cache.get path
    if s.Lives path then { s with cache := cache, held := p :: s.held }
    else ⟨cache, p :: s.held, p :: s.made, (p :: s.held).map Problem.path⟩
  | .clone p => if p ∈ s.held then { s with cache := s.cache.clone p, held := p :: s.held } else s
  | .drop p => if p ∈ s.held then { s with cache := s.cache.drop p, held := s.held.erase p } else s

/-- A cache after some events. -/
def run (events : List HandleEvent) : Lending := events.foldl step start

variable {s : Lending} {p q : Problem} {path : String}

/-- A problem that is in use is given out again. -/
theorem step_get_of_lives (lives : s.Lives path) :
    s.step (.get path) = { s with
      cache := (s.cache.get path).2
      held := (s.cache.get path).1 :: s.held } := by
  rw [step]
  exact if_pos lives

/-- A problem that is not in use is made anew. -/
theorem step_get_of_gone (gone : ¬s.Lives path) :
    s.step (.get path) = ⟨(s.cache.get path).2, (s.cache.get path).1 :: s.held,
      (s.cache.get path).1 :: s.made, ((s.cache.get path).1 :: s.held).map Problem.path⟩ := by
  rw [step]
  exact if_neg gone

theorem lives_iff : s.Lives path ↔ ∃ p ∈ s.held, p.path = path := by
  rw [Lives, List.mem_map]

/-! ### What all histories keep -/

/-- The cache knows the numbers of the problems that are held, its table lists them all, and no two
problems of the table share a filename. No number was given twice. -/
structure Kept (s : Lending) : Prop where
  handles : s.cache.handles = s.held.map Problem.number
  listed : ∀ p ∈ s.held, p ∈ s.cache.entries
  paths : (s.cache.entries.map Problem.path).Nodup
  known : ∀ p ∈ s.cache.entries, p ∈ s.made
  numbers : (s.made.map Problem.number).Nodup
  early : ∀ p ∈ s.made, p.number < s.cache.next
  filed : (s.cache.entries.map Problem.path).Perm s.filed.dedup

theorem kept_start : start.Kept :=
  ⟨rfl, by simp [start], .nil, by simp [start, ProblemCache.empty], .nil, by simp [start], .refl _⟩

namespace Kept

variable (kept : s.Kept)
include kept

/-- A number stands for one problem. -/
theorem eq_of_number (first : p ∈ s.made) (second : q ∈ s.made) (same : p.number = q.number) :
    p = q :=
  List.inj_on_of_nodup_map kept.numbers first second same

/-- A filename stands for one problem of the table. -/
theorem eq_of_path (first : p ∈ s.cache.entries) (second : q ∈ s.cache.entries)
    (same : p.path = q.path) : p = q :=
  List.inj_on_of_nodup_map kept.paths first second same

/-- The table counts a problem as alive when a handle on it is held. -/
theorem isLive_iff (inTable : p ∈ s.cache.entries) : s.cache.isLive p = true ↔ p ∈ s.held := by
  rw [ProblemCache.isLive, List.contains_iff_mem, kept.handles, List.mem_map]
  constructor
  · rintro ⟨q, held, same⟩
    exact kept.eq_of_number (kept.known q (kept.listed q held)) (kept.known p inTable) same ▸ held
  · exact fun held => ⟨p, held, rfl⟩

theorem mem_living : p ∈ s.cache.entries.filter s.cache.isLive ↔ p ∈ s.held := by
  rw [List.mem_filter]
  constructor
  · exact fun ⟨inTable, live⟩ => (kept.isLive_iff inTable).mp live
  · exact fun held => ⟨kept.listed p held, (kept.isLive_iff (kept.listed p held)).mpr held⟩

/-- The living problems of the table have the filenames that are alive. -/
theorem living_paths :
    ((s.cache.entries.filter s.cache.isLive).map Problem.path).Perm s.livePaths := by
  have once : ((s.cache.entries.filter s.cache.isLive).map Problem.path).Nodup :=
    kept.paths.sublist (List.filter_sublist.map _)
  refine (List.perm_ext_iff_of_nodup once (List.nodup_dedup _)).mpr fun path => ?_
  rw [List.mem_dedup, List.mem_map, List.mem_map]
  exact exists_congr fun p => and_congr_left fun _ => kept.mem_living

/-- The cache counts the files in use. -/
theorem live_eq : s.cache.live = s.livePaths.length := by
  rw [← kept.living_paths.length_eq, List.length_map]
  rfl

/-- What the cache finds is held and belongs to the file. -/
theorem mem_of_find? (found : s.cache.find? path = some p) : p ∈ s.held ∧ p.path = path := by
  have inTable := List.mem_of_find?_eq_some found
  have fits := List.find?_some found
  rw [Bool.and_eq_true, beq_iff_eq] at fits
  exact ⟨(kept.isLive_iff inTable).mp fits.2, fits.1⟩

/-- The cache finds what is held. -/
theorem find?_eq (held : p ∈ s.held) : s.cache.find? p.path = some p := by
  have inTable := kept.listed p held
  cases found : s.cache.find? p.path with
  | none =>
    have lost := List.find?_eq_none.mp found p inTable
    simp [(kept.isLive_iff inTable).mpr held] at lost
  | some q =>
    obtain ⟨other, same⟩ := kept.mem_of_find? found
    rw [kept.eq_of_path (kept.listed q other) inTable same]

/-- Nothing is found for a file that is not in use. -/
theorem find?_eq_none (gone : ¬s.Lives path) : s.cache.find? path = none := by
  rw [Option.eq_none_iff_forall_ne_some]
  intro p found
  exact gone (lives_iff.mpr ⟨p, kept.mem_of_find? found⟩)

/-- A problem that is held is handed out again. -/
theorem get_of_held (held : p ∈ s.held) : s.cache.get p.path = (p, s.cache.clone p) := by
  rw [ProblemCache.get, kept.find?_eq held]

/-- If nothing is alive a problem is made, and the table keeps it and what is alive. -/
theorem get_of_gone (gone : ¬s.Lives path) :
    s.cache.get path =
      (⟨s.cache.next, path⟩,
        { entries := s.cache.entries.filter s.cache.isLive ++ [⟨s.cache.next, path⟩]
          handles := s.cache.next :: s.cache.handles
          next := s.cache.next + 1 }) := by
  rw [ProblemCache.get, kept.find?_eq_none gone]

/-- A number that was never given is the next one. -/
theorem next_unused (made : q ∈ s.made) : q.number ≠ s.cache.next :=
  Nat.ne_of_lt (kept.early q made)

/-- After a problem was made the table has the filenames that are alive. -/
theorem filed_of_gone (gone : ¬s.Lives path) :
    ((s.cache.get path).2.entries.map Problem.path).Perm (s.step (.get path)).livePaths := by
  rw [step_get_of_gone gone, livePaths, kept.get_of_gone gone]
  simp only [List.map_append, List.map_cons, List.map_nil]
  rw [List.dedup_cons_of_notMem gone]
  exact (kept.living_paths.append_right _).trans List.perm_append_comm

/-! ### Every event keeps it -/

theorem clone (held : p ∈ s.held) :
    Kept { s with cache := s.cache.clone p, held := p :: s.held } := by
  refine ⟨?_, fun q member => ?_, kept.paths, kept.known, kept.numbers, kept.early, kept.filed⟩
  · rw [List.map_cons, ← kept.handles]
    rfl
  · rcases List.mem_cons.mp member with rfl | member
    · exact kept.listed q held
    · exact kept.listed q member

/-- A history stays in order when a problem is made. -/
theorem make (gone : ¬s.Lives path) : (s.step (.get path)).Kept := by
  have filed := kept.filed_of_gone gone
  rw [step_get_of_gone gone, livePaths, kept.get_of_gone gone] at filed
  rw [step_get_of_gone gone, kept.get_of_gone gone]
  refine ⟨?_, fun q member => ?_, filed.nodup_iff.mpr (List.nodup_dedup _), fun q member => ?_,
    List.nodup_cons.mpr ⟨fun member => ?_, kept.numbers⟩, fun q member => ?_, filed⟩
  · exact congrArg (s.cache.next :: ·) kept.handles
  · rcases List.mem_cons.mp member with rfl | member
    · exact List.mem_append_right _ List.mem_cons_self
    · exact List.mem_append_left _ (kept.mem_living.mpr member)
  · rcases List.mem_append.mp member with old | new
    · exact List.mem_cons_of_mem _ (kept.known q (List.mem_of_mem_filter old))
    · exact List.mem_cons.mpr (Or.inl (List.mem_singleton.mp new))
  · obtain ⟨q, made, same⟩ := List.mem_map.mp member
    exact kept.next_unused made same
  · rcases List.mem_cons.mp member with rfl | made
    · exact Nat.lt_succ_self _
    · exact Nat.lt_succ_of_lt (kept.early q made)

/-- Giving back a handle takes its number from the cache once. -/
theorem erase_number (held : p ∈ s.held) :
    (s.held.map Problem.number).erase p.number = (s.held.erase p).map Problem.number := by
  have known : ∀ q ∈ s.held, q.number = p.number → q = p := fun q member =>
    kept.eq_of_number (kept.known q (kept.listed q member)) (kept.known p (kept.listed p held))
  clear held
  generalize s.held = handles at known
  induction handles with
  | nil => rfl
  | cons q rest ih =>
    rw [List.forall_mem_cons] at known
    by_cases same : q = p
    · rw [same, List.map_cons, List.erase_cons_head, List.erase_cons_head]
    · have other : (q.number == p.number) = false := beq_false_of_ne (mt known.1 same)
      rw [List.map_cons, List.erase_cons_tail (by simp [other]),
        List.erase_cons_tail (by simpa using same), List.map_cons, ih known.2]

/-- A history stays in order when a handle is given back. -/
theorem drop (held : p ∈ s.held) :
    Kept { s with cache := s.cache.drop p, held := s.held.erase p } := by
  refine ⟨?_, fun q member => kept.listed q (List.mem_of_mem_erase member), kept.paths, kept.known,
    kept.numbers, kept.early, kept.filed⟩
  rw [← kept.erase_number held, ← kept.handles]
  rfl

theorem step (e : HandleEvent) : (s.step e).Kept := by
  cases e with
  | get path =>
    by_cases lives : s.Lives path
    · obtain ⟨p, held, rfl⟩ := lives_iff.mp lives
      rw [step_get_of_lives lives, kept.get_of_held held]
      exact kept.clone held
    · exact kept.make lives
  | clone p =>
    rw [Lending.step]
    split
    · next held => exact kept.clone held
    · exact kept
  | drop p =>
    rw [Lending.step]
    split
    · next held => exact kept.drop held
    · exact kept

end Kept

/-- Every history is in order. -/
theorem kept_run (events : List HandleEvent) : (run events).Kept :=
  List.foldlRecOn events step kept_start fun _ kept e _ => kept.step e

/-! ### One living problem for a filename -/

/-- After any events, a filename stands for at most one problem with a living handle. The cache
counts the filenames with a living handle, and its table has the filenames that were alive when a
problem was last made, each once. Whoever asks for a file gets a problem of that file: one that is
alive if there is one, and else one that was never there before, and then the table has the
filenames that are alive, each once. -/
theorem one_live_problem (events : List HandleEvent) :
    let s := run events
    (∀ p ∈ s.held, ∀ q ∈ s.held, p.path = q.path → p = q) ∧
    s.cache.live = s.livePaths.length ∧
    (s.cache.entries.map Problem.path).Perm s.filed.dedup ∧
    ∀ path, let (p, cache) := s.cache.get path
      p.path = path ∧ (p ∈ s.held ↔ s.Lives path) ∧
      (¬s.Lives path → (∀ q ∈ s.made, q.number ≠ p.number) ∧
        (cache.entries.map Problem.path).Perm (s.step (.get path)).livePaths) := by
  intro s
  have kept : s.Kept := kept_run events
  refine ⟨fun p first q second => kept.eq_of_path (kept.listed p first) (kept.listed q second),
    kept.live_eq, kept.filed, fun path => ?_⟩
  by_cases lives : s.Lives path
  · obtain ⟨p, held, rfl⟩ := lives_iff.mp lives
    rw [kept.get_of_held held]
    exact ⟨rfl, iff_of_true held lives, fun gone => absurd lives gone⟩
  · have filed := kept.filed_of_gone lives
    rw [kept.get_of_gone lives] at filed ⊢
    exact ⟨rfl, iff_of_false (fun held => lives (lives_iff.mpr ⟨_, held, rfl⟩)) lives,
      fun _ => ⟨fun q made => kept.next_unused made, filed⟩⟩

/-- The first problem of a file is given back by all who hold it, so that the next one is new. The
table forgets the first one when it takes up the next. -/
theorem one_live_problem_again :
    let s := run [.get "a", .get "b", .clone ⟨0, "a"⟩, .drop ⟨0, "a"⟩, .drop ⟨0, "a"⟩]
    s.cache.live = 1 ∧ s.cache.entries = [⟨0, "a"⟩, ⟨1, "b"⟩] ∧
      s.Lives "b" ∧ (s.cache.get "b").1 ∈ s.held ∧ ¬s.Lives "a" ∧
      (∀ q ∈ s.made, q.number ≠ (s.cache.get "a").1.number) ∧
      ((s.cache.get "a").2.entries.map Problem.path).Perm (s.step (.get "a")).livePaths := by
  intro s
  obtain ⟨-, live, -, gets⟩ := one_live_problem
    [.get "a", .get "b", .clone ⟨0, "a"⟩, .drop ⟨0, "a"⟩, .drop ⟨0, "a"⟩]
  obtain ⟨-, again, -⟩ := gets "b"
  obtain ⟨-, -, fresh⟩ := gets "a"
  have lives : s.Lives "b" := by decide
  have gone : ¬s.Lives "a" := by decide
  exact ⟨live, rfl, lives, again.mpr lives, gone, fresh gone⟩

end Lending

end TrialFarm
