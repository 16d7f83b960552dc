import TrialFarm.Proofs.Cluster.Service
import TrialFarm.Proofs.Server.Lifecycle

/-!
# Server and workers agree

Whatever happens in a cluster, the server refuses nothing that it hears from its workers, and no
worker is to run more trials than it has threads.

## Main definitions

* `Cluster.Sound`: server and sites are in accord, and nothing went wrong.

## Main statements

* `Cluster.Sound.step`, `Cluster.Sound.run`: every event keeps a cluster sound.
* `agreement_kept`: after every run nothing was refused and the threads bound what is outstanding.
-/

namespace TrialFarm

/-! ### Threads -/

namespace Site

theorem threads_carry (id : WorkerId) (s : Site) (a : Action) :
    (carry id s a).threads = s.threads := by
  cases a with
  | toWorker other m =>
    rw [carry]
    split
    · rfl
    · rfl
  | closeWorker other =>
    rw [carry]
    split
    · rfl
    · rfl
  | toManager m => rfl

/-- Actions of the server change no worker's threads. -/
theorem allThreads_carryAll (actions : List Action) (sites : List Site) :
    allThreads (carryAll actions sites) = allThreads sites := by
  have each (id : WorkerId) (s : Site) : (actions.foldl (carry id) s).threads = s.threads := by
    induction actions generalizing s with
    | nil => rfl
    | cons a actions ih => exact (ih _).trans (threads_carry id s a)
  refine allThreads_congr List.length_mapIdx fun i s' here => ?_
  rw [carryAll, List.getElem?_mapIdx] at here
  obtain ⟨s, before, rfl⟩ := Option.map_eq_some_iff.mp here
  exact ⟨s, before, each _ s⟩

theorem allThreads_modify {f : Site → Site} (same : ∀ s, (f s).threads = s.threads)
    (sites : List Site) (i : Nat) : allThreads (sites.modify i f) = allThreads sites := by
  refine allThreads_congr (List.length_modify ..) fun j s' here => ?_
  rw [List.getElem?_modify] at here
  obtain ⟨s, before, rfl⟩ := Option.map_eq_some_iff.mp here
  refine ⟨s, before, ?_⟩
  split
  · exact same s
  · rfl

theorem allThreads_set {sites : List Site} {i : Nat} {s t : Site} (here : sites[i]? = some s)
    (same : t.threads = s.threads) : allThreads (sites.set i t) = allThreads sites := by
  refine allThreads_congr List.length_set fun j s' there => ?_
  by_cases own : i = j
  · subst own
    rw [List.getElem?_set_self (List.getElem?_eq_some_iff.mp here).1] at there
    exact ⟨s, here, Option.some.inj there ▸ same⟩
  · rw [List.getElem?_set_ne own] at there
    exact ⟨s', there, rfl⟩

end Site

namespace Cluster

variable {k : Cluster} {shape : String → UInt64 × UInt64}

/-- The server's handling of an event changes no worker's threads. -/
theorem allThreads_serve (k : Cluster) (e : StateEvent) :
    Site.allThreads (k.serve e).sites = Site.allThreads k.sites := by
  unfold serve
  split
  · rfl
  · exact Site.allThreads_carryAll _ _

/-- Threads are only added by workers that join. -/
theorem allThreads_step (k : Cluster) {e : ClusterEvent} (conforms : e.Conforms shape) :
    Site.allThreads (k.step e).sites ≤ Site.allThreads k.sites + e.threads := by
  cases e with
  | submits file => exact (allThreads_serve k _).le
  | terminates => exact (allThreads_serve k _).le
  | joins settings =>
    unfold step
    dsimp only
    split
    · next c started =>
      rw [allThreads_serve]
      unfold Site.allThreads
      rw [List.map_append, List.sum_append]
      exact Nat.add_le_add_left (Site.threads_fresh started).1.le _
    · exact Nat.le_add_right _ _
  | hears i =>
    unfold step
    dsimp only
    split
    · exact Nat.le_refl _
    · next s came rest heard =>
      obtain ⟨s', here, next⟩ := Option.bind_eq_some_iff.mp heard
      obtain ⟨came', -, same⟩ := Option.map_eq_some_iff.mp next
      obtain ⟨rfl, -⟩ := Prod.mk.inj same
      rw [allThreads_serve]
      exact (Site.allThreads_set (t := { s' with toServer := rest }) here rfl).le
  | site i e =>
    exact (Site.allThreads_modify (fun s => (s.step_move conforms).threads) _ _).le
  | breaks i fromWorker fromServer =>
    exact (Site.allThreads_modify (f := fun s => s.cut fromWorker fromServer)
      (fun _ => rfl) _ _).le
  | dies i fromWorker =>
    exact (Site.allThreads_modify (f := fun s => s.kill fromWorker) (fun _ => rfl) _ _).le

/-! ### Runs -/

/-- Server and sites are in accord, everything is carried out, and nothing was refused. -/
structure Sound (shape : String → UInt64 × UInt64) (k : Cluster) : Prop where
  accord : Accord shape k.server k.sites
  prompt : k.server.Prompt
  silent : k.server.outbound = []
  faultless : k.faults = []

namespace Sound

/-- A cluster with nobody in it is sound. -/
theorem start (c : ServerConfig) : (start c).Sound shape := 
  ⟨Accord.start c, ServerState.Prompt.start c, rfl, rfl⟩

/-- An event of the server that does not fail keeps a cluster sound if its core keeps the accord. -/
theorem serve {e : StateEvent} {server' : ServerState} (faultless : k.faults = [])
    (prompt : k.server.Prompt) (done : k.server.apply e = (server', .ok ()))
    (core : ∀ s₁, k.server.Core e s₁ → Accord shape s₁ (Site.carryAll s₁.outbound k.sites)) :
    (k.serve e).Sound shape := by
  obtain ⟨s₁, happened, said⟩ := ServerState.apply_eq_ok done
  unfold Cluster.serve
  rw [done]
  obtain ⟨due, manned, reason⟩ := prompt.apply done
  exact ⟨(core s₁ happened).settle said, ⟨due, manned, reason⟩, rfl, faultless⟩

/-- Something happens at one site. -/
private theorem modify (sound : k.Sound shape) (i : Nat) {f : Site → Site}
    (threads : ∀ s, (f s).threads = s.threads)
    (honest : ∀ file? s, s.Honest file? shape → (f s).Honest file? shape)
    (enrolled : ∀ terminated h s, Site.Enrolled s terminated h → (f s).Enrolled terminated h) :
    (k.modify i f).Sound shape where
  accord := sound.accord.change i fun s here =>
    ⟨threads s, honest _ s (sound.accord.honest s (List.mem_of_getElem? here)),
      fun h => enrolled _ h s⟩
  prompt := sound.prompt
  silent := sound.silent
  faultless := sound.faultless

/-- Every event keeps a cluster sound. -/
theorem step (sound : k.Sound shape) {e : ClusterEvent} (conforms : e.Conforms shape)
    (few : Site.allThreads k.sites + e.threads < 2 ^ 32) : (k.step e).Sound shape := by
  obtain ⟨accord, prompt, silent, faultless⟩ := sound
  -- Commands of the manager lead to announcements only.
  have quiet (server : ServerState) (same : server.outbound = k.server.outbound)
      (kept : Accord shape server k.sites) :
      Accord shape server (Site.carryAll server.outbound k.sites) := by
    rwa [same, silent, Site.carryAll_nil]
  cases e with
  | submits file =>
    obtain ⟨server', done⟩ := k.server.apply_submitted file
    refine serve faultless prompt done fun s₁ core => ?_
    have kept := accord.command core rfl rfl
    cases core with
    | submit running added => exact quiet _ rfl kept
    | refuse => exact quiet _ rfl kept
  | terminates =>
    have done : k.server.apply .terminated = (k.server.terminate, .ok ()) := rfl
    refine serve faultless prompt done fun s₁ core => ?_
    have kept := accord.command core rfl rfl
    cases core with
    | terminate => exact quiet _ rfl kept
  | joins settings =>
    unfold Cluster.step
    dsimp only
    split
    · next c started =>
      have done : k.server.apply .joined = (k.server.workerJoined.2, .ok ()) := rfl
      refine serve faultless prompt done fun s₁ core => ?_
      cases core with
      | join => exact accord.join started few silent
    · exact ⟨accord, prompt, silent, faultless⟩
  | hears i =>
    unfold Cluster.step
    dsimp only
    split
    · exact ⟨accord, prompt, silent, faultless⟩
    · next s part rest heard =>
      obtain ⟨s', here, next⟩ := Option.bind_eq_some_iff.mp heard
      obtain ⟨came', came, same⟩ := Option.map_eq_some_iff.mp next
      obtain ⟨rfl, rfl⟩ := Prod.mk.inj same
      obtain ⟨server', done⟩ := accord.accepts here came
      exact serve faultless prompt done fun s₁ core => accord.hears here came silent core
  | site i e =>
    exact modify ⟨accord, prompt, silent, faultless⟩ i (fun s => (s.step_move conforms).threads)
      (fun _ s honest => honest.move (s.step_move conforms))
      fun _ _ s enrolled => enrolled.move (s.step_move conforms)
  | breaks i fromWorker fromServer =>
    exact modify ⟨accord, prompt, silent, faultless⟩ i (fun s => rfl)
      (fun _ s honest => honest.cut fromWorker fromServer)
      fun _ _ s enrolled => enrolled.cut fromWorker fromServer
  | dies i fromWorker =>
    exact modify ⟨accord, prompt, silent, faultless⟩ i (fun s => rfl)
      (fun _ s honest => honest.kill fromWorker) fun _ _ s enrolled => enrolled.kill fromWorker

/-- So does a whole run, as long as all threads together stay within a word. -/
theorem run (sound : k.Sound shape) {events : List ClusterEvent}
    (conforms : ∀ e ∈ events, e.Conforms shape)
    (few : Site.allThreads k.sites + (events.map ClusterEvent.threads).sum < 2 ^ 32) :
    (k.run events).Sound shape := by
  induction events generalizing k with
  | nil => exact sound
  | cons e events ih =>
    rw [List.map_cons, List.sum_cons] at few
    have now := conforms e List.mem_cons_self
    have more := k.allThreads_step now
    have later : ∀ e' ∈ events, e'.Conforms shape := fun e' member =>
      conforms e' (List.mem_cons_of_mem e member)
    exact ih (sound.step now (by omega)) later (by omega)

end Sound

/-- Every state that a cluster can reach is sound. -/
theorem sound_run (c : ServerConfig) {events : List ClusterEvent}
    (conforms : ∀ e ∈ events, e.Conforms shape)
    (few : (events.map ClusterEvent.threads).sum < 2 ^ 32) :
    ((start c).run events).Sound shape := by
  refine (Sound.start c).run conforms ?_
  show 0 + _ < _
  rwa [Nat.zero_add]

end Cluster

/-- After every run the server has refused nothing that came from its workers, and no worker has
more trials outstanding than threads. The run may be any in which all workers together have fewer
than 2^32 threads and all trials of one file find the same numbers of variables and clauses. -/
theorem agreement_kept (c : ServerConfig) (shape : String → UInt64 × UInt64)
    (events : List ClusterEvent) (conforms : ∀ e ∈ events, e.Conforms shape)
    (few : (events.map ClusterEvent.threads).sum < 2 ^ 32) :
    ((Cluster.start c).run events).faults = [] ∧
      ∀ id w, ((Cluster.start c).run events).server.roster.find? id = some w →
        ∃ s, ((Cluster.start c).run events).sites[id.toNat]? = some s ∧
          (w.outstanding.map fun entry => entry.2.toNat).sum ≤ s.coordinator.settings.threads := by
  have sound := Cluster.sound_run c conforms few
  refine ⟨sound.faultless, fun id w found => ?_⟩
  obtain ⟨s, here, number⟩ := sound.accord.site_of_find? found
  exact ⟨s, here, (sound.accord.enrolled _ s w here (number.symm ▸ found)).tied.fits⟩

/-- A worker with two threads joins, is granted two trials and reports the first one. -/
def oneRound : List ClusterEvent :=
  [.submits ⟨3, 10, "a.cnf"⟩, .joins ⟨2, 100, 0⟩, .site 0 (.receives none), .site 0 (.proceeds []),
    .site 0 .looks, .site 0 (.proceeds []), .hears 0, .site 0 (.receives none), .site 0 .started,
    .site 0 (.ended ⟨0, "a.cnf", 10⟩
      (.ok { (default : Outcome) with numVars := 5, numClauses := 7 }) ⟨1, 0⟩),
    .site 0 (.proceeds []), .hears 0]

/-- Then one trial is outstanding, which is no more than there are threads. -/
theorem agreement_kept_oneRound :
    ((Cluster.start .standard).run oneRound).faults = [] ∧
      ∃ w s, ((Cluster.start .standard).run oneRound).server.roster.find? 0 = some w ∧
        ((Cluster.start .standard).run oneRound).sites[0]? = some s ∧
        (w.outstanding.map fun entry => entry.2.toNat).sum = 1 ∧
        1 ≤ s.coordinator.settings.threads := by
  obtain ⟨faultless, bounded⟩ := agreement_kept .standard (fun _ => (5, 7)) oneRound
    (by simp [oneRound, ClusterEvent.Conforms, SiteEvent.Conforms]) (by decide)
  obtain ⟨s, here, fits⟩ := bounded 0 _ rfl
  exact ⟨faultless, _, s, rfl, here, rfl, fits⟩

end TrialFarm
