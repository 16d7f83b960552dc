import Mathlib.Data.List.Induction
import TrialFarm.Proofs.Rendezvous.Folders
import TrialFarm.Proofs.Rendezvous.Names

/-!
# The directory as a map

What servers publish and withdraw in a directory adds up to a map from their names to addresses:
a lookup finds what was published last, and never anything of another server.

## Main definitions

* `Posting`: one publication or withdrawal.
* `posted`, `addressOf`: what a history of postings says of a name.
* `Folder.Lists`: a directory holds the files of a map and nothing else.

## Main statements

* `Folder.Lists.publish`, `Folder.Lists.unpublish`: a posting changes the map at one name.
* `Rendezvous.watch_replicate`: in a directory that stays as it is, all looks are like one.
* `Rendezvous.directory_is_map`: a directory is the map that its history says.
-/

namespace TrialFarm

/-! ### Histories -/

/-- What a server does at its meeting point. -/
inductive Posting where
  | publish (place : Rendezvous) (addr : String)
  | unpublish (place : Rendezvous)

namespace Posting

/-- The meeting point of a posting. -/
def place : Posting → Rendezvous
  | publish place _ => place
  | unpublish place => place

/-- The address that stands published after a posting. -/
def addr? : Posting → Option String
  | publish _ addr => some addr
  | unpublish _ => none

/-- Carries out a posting of a process. -/
def carryOut (process : Nat) : Posting → Folder → Folder × Except Error Unit
  | publish place addr, f => place.publish process addr f
  | unpublish place, f => place.unpublish f

/-- Whether the names of all files of a posting are short enough for a directory. -/
def Fits (process : Nat) (f : Folder) (post : Posting) : Prop :=
  (post.place.draftName process).utf8ByteSize ≤ f.longest

instance (process : Nat) (f : Folder) (post : Posting) : Decidable (post.Fits process f) :=
  inferInstanceAs (Decidable (_ ≤ _))

/-- Whether the names of a posting fit depends on nothing of the folder but its limit. -/
theorem Fits.of_size {process : Nat} {f g : Folder} {post : Posting} (fits : post.Fits process f)
    (size : g.longest = f.longest) : post.Fits process g := by
  rw [Fits, size]
  exact fits

/-- Carries out postings one after the other. It ends in an error with the first that fails. -/
def carryOutAll (process : Nat) : List Posting → Folder → Except Error Folder
  | [], f => .ok f
  | post :: posts, f =>
    match post.carryOut process f with
    | (_, .error e) => .error e
    | (f, .ok ()) => carryOutAll process posts f

/-- One posting more is carried out after the others. -/
theorem carryOutAll_concat {process : Nat} {posts : List Posting} {post : Posting} {f g h : Folder}
    (before : carryOutAll process posts f = .ok g) (last : post.carryOut process g = (h, .ok ())) :
    carryOutAll process (posts ++ [post]) f = .ok h := by
  induction posts generalizing f with
  | nil =>
    cases before
    simp [carryOutAll, last]
  | cons first posts ih =>
    rw [carryOutAll] at before
    rw [List.cons_append, carryOutAll]
    split at before
    · cases before
    · exact ih before

end Posting

/-- What is published under a name after a history: the address of the last posting of that name,
if it was no withdrawal. -/
def posted (posts : List Posting) (name : String) : Option String :=
  (posts.filter (·.place.name = name)).getLast?.bind Posting.addr?

/-- A published address without the blanks around it, unless it is blank. -/
def proper (addr : String) : Option String :=
  let bare := Text.trim addr.toList
  if bare.isEmpty then none else some (String.ofList bare)

/-- The address to be found under a name after a history. -/
def addressOf (posts : List Posting) (name : String) : Option String :=
  (posted posts name).bind proper

namespace Rendezvous

/-- The answer to a lookup, given the address to be found if there is one. -/
def answer (r : Rendezvous) (timeout : Span) : Option String → Except Error String
  | some addr => .ok addr
  | none => .error (.disconnected
      ("no server published as " ++ r.name ++ " within " ++ timeout.shown))

end Rendezvous

/-- The last posting of a name decides its address. -/
theorem posted_concat (posts : List Posting) (post : Posting) :
    posted (posts ++ [post]) = Function.update (posted posts) post.place.name post.addr? := by
  funext name
  by_cases same : post.place.name = name
  · subst same
    simp [posted]
  · rw [Function.update_of_ne (Ne.symm same)]
    simp [posted, same]

namespace Folder

variable {f : Folder}

/-! ### Maps of addresses -/

/-- A directory holds the files that a map from names to addresses asks for, and nothing else. -/
structure Lists (f : Folder) (listing : String → Option String) : Prop where
  ordered : f.Ordered
  /-- A directory that is not there has no entries. -/
  unmade : f.made = false → f.entries = []
  published : ∀ r : Rendezvous,
    f.find? r.fileName = (listing r.name).map fun addr => .file (Utf8.encode addr)
  only : ∀ file ∈ f.names, ∃ r : Rendezvous, file = r.fileName

namespace Lists

variable {g : Folder} {listing : String → Option String} {r : Rendezvous} {process : Nat}

/-- A folder without entries lists no name. -/
theorem bare (entries : f.entries = []) : f.Lists fun _ => none where
  ordered := by simp [Ordered, entries]
  unmade _ := entries
  published r := by simp [find?, entries]
  only file member := by simp [names, entries] at member

/-- A change of the file of one name is a change of the map at that name. -/
theorem update (lists : f.Lists listing) (ordered : g.Ordered)
    (unmade : g.made = false → g.entries = []) {addr? : Option String}
    (change : g.find? = Function.update f.find? r.fileName
      (addr?.map fun addr => .file (Utf8.encode addr))) :
    g.Lists (Function.update listing r.name addr?) where
  ordered := ordered
  unmade := unmade
  published s := by
    rw [change]
    by_cases same : s.name = r.name
    · rw [Rendezvous.fileName_inj.mpr same, Function.update_self, same, Function.update_self]
    · rw [Function.update_of_ne (mt Rendezvous.fileName_inj.mp same), Function.update_of_ne same]
      exact lists.published s
  only file member := by
    by_cases own : file = r.fileName
    · exact ⟨r, own⟩
    · rw [Folder.mem_names_iff, change, Function.update_of_ne own, ← Folder.mem_names_iff] at member
      exact lists.only file member

/-- No draft is left in a folder that lists the published names. -/
theorem draft_free (lists : f.Lists listing) (r : Rendezvous) (process : Nat) :
    r.draftName process ∉ f.names := by
  intro member
  obtain ⟨s, same⟩ := lists.only _ member
  exact s.fileName_ne_draftName r process same.symm

/-- The files are those of the names in the map. -/
theorem mem_names_iff (lists : f.Lists listing) {file : String} :
    file ∈ f.names ↔ ∃ r : Rendezvous, (listing r.name).isSome ∧ file = r.fileName := by
  have held (r : Rendezvous) : r.fileName ∈ f.names ↔ (listing r.name).isSome := by
    rw [Folder.mem_names_iff, lists.published, ne_eq, Option.map_eq_none_iff,
      Option.isSome_iff_ne_none]
  constructor
  · intro member
    obtain ⟨r, rfl⟩ := lists.only file member
    exact ⟨r, (held r).mp member, rfl⟩
  · rintro ⟨r, published, rfl⟩
    exact (held r).mpr published

/-- No name is taken by a folder. -/
theorem not_folder (lists : f.Lists listing) (r : Rendezvous) :
    f.find? r.fileName ≠ some .folder := by
  rw [lists.published r]
  cases listing r.name <;> simp

/-- A folder in which something is published was made. -/
theorem made_of_published (lists : f.Lists listing) {addr : String}
    (published : listing r.name = some addr) : f.made = true := by
  cases made : f.made with
  | true => rfl
  | false =>
    have held := lists.published r
    simp [find?, lists.unmade made, published] at held

/-! ### Postings change the map at one name -/

/-- Publishing an address lists it under its name and leaves the other names as they are. -/
theorem publish (lists : f.Lists listing) (addr : String)
    (short : (r.draftName process).utf8ByteSize ≤ f.longest) :
    ∃ g, r.publish process addr f = (g, .ok ()) ∧ g.longest = f.longest ∧
      g.Lists (Function.update listing r.name (some addr)) := by
  have free : f.find? (r.draftName process) = none :=
    not_not.mp (mt Folder.mem_names_iff.mpr (lists.draft_free r process))
  have written : f.make.write (r.draftName process) (Utf8.encode addr) = _ :=
    write_eq (check_of_short rfl short) free
  have renamed := rename_eq (check_of_short rfl short)
    (check_of_short rfl (Nat.le_trans (r.size_fileName_le process) short))
    (f := f.make.put (r.draftName process) (.file (Utf8.encode addr)))
    (by rw [find?_put, Function.update_self])
    (by
      rw [find?_put, Function.update_of_ne (r.fileName_ne_draftName r process)]
      exact lists.not_folder r)
  refine ⟨f.replaced (r.draftName process) r.fileName (.file (Utf8.encode addr)), ?_, rfl, ?_⟩
  · rw [Rendezvous.publish, written]
    dsimp only
    rw [renamed]
    rfl
  · exact lists.update (lists.ordered.replaced _ _ _) (fun unmade => Bool.noConfusion unmade)
      (find?_replaced free _ _)

/-- Withdrawing a name takes it off the list, whether or not it was there. -/
theorem unpublish (lists : f.Lists listing) (short : r.fileName.utf8ByteSize ≤ f.longest) :
    ∃ g, r.unpublish f = (g, .ok ()) ∧ g.longest = f.longest ∧
      g.Lists (Function.update listing r.name none) := by
  have held := lists.published r
  cases published : listing r.name with
  | none =>
    rw [published] at held
    refine ⟨f, by rw [Rendezvous.unpublish, remove_of_gone short held], rfl, ?_⟩
    rwa [← published, Function.update_eq_self]
  | some addr =>
    rw [published] at held
    have removed := remove_eq (check_of_short (lists.made_of_published published) short) held
    refine ⟨f.erase r.fileName, by rw [Rendezvous.unpublish, removed]; rfl, rfl, ?_⟩
    refine lists.update (lists.ordered.erase _) (fun unmade => ?_) (find?_erase f r.fileName)
    exact absurd (lists.made_of_published published) (ne_true_of_eq_false unmade)

/-- A posting changes the map at its name, and nowhere else. -/
theorem carryOut (lists : f.Lists listing) {post : Posting} (fits : post.Fits process f) :
    ∃ g, post.carryOut process f = (g, .ok ()) ∧ g.longest = f.longest ∧
      g.Lists (Function.update listing post.place.name post.addr?) := by
  cases post with
  | publish r addr => exact lists.publish addr fits
  | unpublish r => exact lists.unpublish (Nat.le_trans (r.size_fileName_le process) fits)

/-- After a history, the directory is the map that the history says. -/
theorem carryOutAll {posts : List Posting} (entries : f.entries = [])
    (fits : ∀ post ∈ posts, post.Fits process f) :
    ∃ g, Posting.carryOutAll process posts f = .ok g ∧ g.longest = f.longest ∧
      g.Lists (posted posts) := by
  induction posts using List.reverseRecOn with
  | nil => exact ⟨f, rfl, rfl, bare entries⟩
  | append_singleton posts post ih =>
    rw [List.forall_mem_append, List.forall_mem_singleton] at fits
    obtain ⟨g, before, size, lists⟩ := ih fits.1
    obtain ⟨h, last, kept, updated⟩ := lists.carryOut (fits.2.of_size size)
    exact ⟨h, Posting.carryOutAll_concat before last, kept.trans size,
      posted_concat posts post ▸ updated⟩

/-! ### Lookups -/

/-- What is read at a meeting point is what the map says of its name. -/
theorem readAddr (lists : f.Lists listing) (short : r.fileName.utf8ByteSize ≤ f.longest) :
    r.readAddr f = .ok ((listing r.name).bind proper) := by
  have held := lists.published r
  cases published : listing r.name with
  | none =>
    rw [published] at held
    rw [Rendezvous.readAddr, read_of_gone short held]
    rfl
  | some addr =>
    rw [published] at held
    have read := read_eq (check_of_short (lists.made_of_published published) short) held
    rw [Files.textOf, Utf8.decode_encode] at read
    rw [Rendezvous.readAddr, read]
    rfl

/-- A lookup answers by what is listed under the name. -/
theorem lookup (lists : f.Lists listing) (short : r.fileName.utf8ByteSize ≤ f.longest)
    (timeout : Span) : r.lookup timeout f = r.answer timeout ((listing r.name).bind proper) := by
  rw [Rendezvous.lookup, lists.readAddr short]
  cases (listing r.name).bind proper <;> rfl

end Lists

end Folder

namespace Rendezvous

/-- In a directory that stays as it is, all looks are like the last one. -/
theorem watch_replicate (r : Rendezvous) (timeout : Span) (looks : Nat) (f : Folder) :
    r.watch timeout (List.replicate looks f) f = r.lookup timeout f := by
  induction looks with
  | zero => rfl
  | succ looks ih =>
    rw [List.replicate_succ, watch, ih, lookup]
    split <;> simp_all

/-- A directory in which one process publishes and withdraws, under any valid names that are short
enough for it, is the map from names to addresses that the history says. All meeting points are
those of this one directory. -/
theorem directory_is_map (process : Nat) (f : Folder) (posts : List Posting)
    (bare : f.entries = []) (fits : ∀ post ∈ posts, post.Fits process f) :
    ∃ g, Posting.carryOutAll process posts f = .ok g ∧
      -- However often it looks, a lookup finds the address of the last posting of its name.
      (∀ (r : Rendezvous) (timeout : Span) (looks : Nat), r.fileName.utf8ByteSize ≤ f.longest →
        r.watch timeout (List.replicate looks g) g =
          r.answer timeout (addressOf posts r.name)) ∧
      -- A further posting does not matter to other names.
      (∀ (post : Posting) (r : Rendezvous) (timeout : Span), post.Fits process f →
        r.fileName.utf8ByteSize ≤ f.longest → r.name ≠ post.place.name →
        ∃ h, post.carryOut process g = (h, .ok ()) ∧ r.lookup timeout h = r.lookup timeout g) ∧
      -- There is one file for each published name, and no draft.
      g.names.Nodup ∧
      (∀ file, file ∈ g.names ↔
        ∃ r : Rendezvous, (posted posts r.name).isSome ∧ file = r.fileName) ∧
      (∀ r : Rendezvous, g.find? r.fileName =
        (posted posts r.name).map fun addr => .file (Utf8.encode addr)) ∧
      (∀ (r : Rendezvous) (p : Nat), r.draftName p ∉ g.names) ∧
      -- The files of a name lie directly in the directory and are those of no other name.
      ∀ (r : Rendezvous) (p : Nat), DirectlyIn r.dir r.fileName r.path ∧
        DirectlyIn r.dir (r.draftName p) (r.draftPath p) ∧
        ∀ (s : Rendezvous) (q : Nat), s.name ≠ r.name →
          r.fileName ≠ s.fileName ∧ r.fileName ≠ s.draftName q ∧
          r.draftName p ≠ s.fileName ∧ r.draftName p ≠ s.draftName q := by
  obtain ⟨g, done, size, lists⟩ := Folder.Lists.carryOutAll bare fits
  refine ⟨g, done, ?_, ?_, lists.ordered.nodup, fun file => lists.mem_names_iff, lists.published,
    lists.draft_free, ?_⟩
  · intro r timeout looks short
    rw [watch_replicate, lists.lookup (size ▸ short)]
    rfl
  · intro post r timeout short also apart
    obtain ⟨h, last, kept, updated⟩ := lists.carryOut (short.of_size size)
    refine ⟨h, last, ?_⟩
    rw [updated.lookup (by rw [kept, size]; exact also), lists.lookup (size ▸ also),
      Function.update_of_ne apart]
  · intro r p
    refine ⟨r.entryName_fileName.directlyIn r.dir, (r.entryName_draftName p).directlyIn r.dir, ?_⟩
    intro s q apart
    exact ⟨fun same => apart (fileName_inj.mp same).symm, r.fileName_ne_draftName s q,
      (s.fileName_ne_draftName r p).symm, fun same => apart (draftName_inj.mp same).1.symm⟩

/-- The names look like each other's files, but each has its own. -/
theorem directory_is_map_lookAlikes : ∃ (a b : Rendezvous) (g : Folder),
    a.name = "a" ∧ b.name = "a.7" ∧
    Posting.carryOutAll 7 [.publish b "10.0.0.1:80", .publish a " 10.0.0.2:80\n", .unpublish b]
      Folder.missing = .ok g ∧
    a.watch .zero (List.replicate 2 g) g = .ok "10.0.0.2:80" ∧
    b.watch .zero (List.replicate 2 g) g = b.answer .zero none ∧ a.draftName 7 ∉ g.names := by
  let a : Rendezvous := ⟨"run", "a", by decide⟩
  let b : Rendezvous := ⟨"run", "a.7", by decide⟩
  obtain ⟨g, done, found, -, -, -, -, undrafted, -⟩ := directory_is_map 7 Folder.missing
    [.publish b "10.0.0.1:80", .publish a " 10.0.0.2:80\n", .unpublish b] rfl (by decide)
  refine ⟨a, b, g, rfl, rfl, done, ?_, ?_, undrafted a 7⟩
  · exact (found a .zero 2 (by decide)).trans (by rfl)
  · exact (found b .zero 2 (by decide)).trans (by rfl)

end Rendezvous

end TrialFarm
