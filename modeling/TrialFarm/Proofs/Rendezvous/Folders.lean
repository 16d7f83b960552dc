import Mathlib.Logic.Function.Basic
import TrialFarm.Proofs.Entries
import TrialFarm.Rendezvous

/-!
# Directories

A directory keeps its entries in the order of their names. Seen from outside it is a function from
names to what they stand for, and every operation that succeeds changes it at one name or two.

## Main definitions

* `Folder.Ordered`: the entries stand in order, each name once.
* `Folder.replaced`: the directory after a file was written as a draft and renamed.

## Main statements

* `Folder.find?_put`, `Folder.find?_erase`: what a change of one entry does to all names.
* `Folder.Ordered.put`, `Folder.Ordered.erase`: the order is kept.
* `Folder.write_eq`, `Folder.rename_eq`, `Folder.read_eq`, `Folder.remove_eq`: the operations where
  they succeed.
-/

namespace TrialFarm

namespace Folder

variable {f : Folder} {name file : String} {node : Node} {content : List UInt8}
  {entries : List (String × Node)}

/-! ### Entries -/

/-- An inserted entry is found under its name, and hides none of the others. -/
theorem lookup_insertEntry (entries : List (String × Node)) (other : String) :
    (insertEntry name node entries).lookup other =
      if other = name then some node else entries.lookup other := by
  induction entries with
  | nil => exact lookup_cons_ite other name node []
  | cons entry rest ih =>
    obtain ⟨held, old⟩ := entry
    rw [insertEntry]
    split
    · exact lookup_cons_ite other name node _
    · split
      · next same =>
        rw [lookup_cons_ite, lookup_cons_ite, same]
        split <;> rfl
      · next apart =>
        rw [lookup_cons_ite, ih, lookup_cons_ite]
        by_cases same : other = held
        · rw [if_pos same, if_pos same, if_neg (same ▸ Ne.symm apart)]
        · rw [if_neg same, if_neg same]

/-- An entry that is put into a folder is found there; the rest is as before. -/
theorem find?_put (f : Folder) (name : String) (node : Node) :
    (f.put name node).find? = Function.update f.find? name (some node) := by
  funext other
  rw [Function.update_apply]
  exact lookup_insertEntry f.entries other

/-- An entry that is erased is not found; the rest is as before. -/
theorem find?_erase (f : Folder) (name : String) :
    (f.erase name).find? = Function.update f.find? name none := by
  funext other
  rw [Function.update_apply]
  exact lookup_filter_ne f.entries name other

@[simp] theorem find?_make (f : Folder) : f.make.find? = f.find? := rfl

/-- The names of a folder are those under which something is found. -/
theorem mem_names_iff : name ∈ f.names ↔ f.find? name ≠ none := by
  simp [names, find?, List.lookup_eq_none_iff]

/-- The entries stand in the order of their names, each name once. -/
def Ordered (f : Folder) : Prop := f.entries.Pairwise fun entry later => entry.1 < later.1

/-- An ordered folder has each name once. -/
theorem Ordered.nodup (ordered : f.Ordered) : f.names.Nodup :=
  List.pairwise_map.mpr (ordered.imp fun before => Std.ne_of_lt before)

/-- An entry is the inserted one or was there before. -/
theorem mem_of_mem_insertEntry {entry : String × Node}
    (member : entry ∈ insertEntry name node entries) : entry = (name, node) ∨ entry ∈ entries := by
  induction entries with
  | nil => simpa [insertEntry] using member
  | cons first rest ih =>
    rw [insertEntry] at member
    split at member
    · simpa using member
    · split at member
      · rw [List.mem_cons] at member
        exact member.imp_right (List.mem_cons_of_mem first)
      · rw [List.mem_cons] at member
        rcases member with rfl | member
        · exact .inr List.mem_cons_self
        · exact (ih member).imp_right (List.mem_cons_of_mem first)

/-- Insertion keeps entries in the order of their names. -/
theorem pairwise_insertEntry (ordered : entries.Pairwise fun entry later => entry.1 < later.1) :
    (insertEntry name node entries).Pairwise fun entry later => entry.1 < later.1 := by
  induction ordered with
  | nil => exact List.pairwise_singleton _ _
  | @cons first rest before later ih =>
    rw [insertEntry]
    split
    · next smaller =>
      refine .cons (fun entry member => ?_) (.cons before later)
      rcases List.mem_cons.mp member with rfl | member
      · exact smaller
      · exact String.lt_trans smaller (before entry member)
    · next nonsmaller =>
      split
      · next same => exact .cons (fun entry member => same ▸ before entry member) later
      · next apart =>
        refine .cons (fun entry member => ?_) ih
        rcases mem_of_mem_insertEntry member with rfl | member
        · exact Std.lt_of_le_of_ne (Std.not_lt.mp nonsmaller) (Ne.symm apart)
        · exact before entry member

theorem Ordered.put (ordered : f.Ordered) (name : String) (node : Node) :
    (f.put name node).Ordered :=
  pairwise_insertEntry ordered

theorem Ordered.erase (ordered : f.Ordered) (name : String) : (f.erase name).Ordered :=
  List.Pairwise.filter _ ordered

/-! ### Operations that succeed -/

/-- A short name in a folder that was made passes the check. -/
theorem check_of_short (made : f.made = true) (short : name.utf8ByteSize ≤ f.longest) :
    f.check name = .ok () := by
  rw [check, made, if_neg (by simp), if_neg (Nat.not_lt.mpr short)]

/-- A file is written under a name that is free. -/
theorem write_eq (checked : f.check name = .ok ()) (free : f.find? name = none) :
    f.write name content = (f.put name (.file content), .ok ()) := by
  rw [write, checked, free]

/-- A file goes to its new name, and replaces the file that had it. -/
theorem rename_eq {old new : String} (checked : f.check old = .ok ())
    (also : f.check new = .ok ()) (held : f.find? old = some node)
    (free : f.find? new ≠ some .folder) :
    f.rename old new = ((f.erase old).put new node, .ok ()) := by
  simp only [rename, checked, also, held, if_neg free]

/-- A file is read as the text that its bytes encode. -/
theorem read_eq (checked : f.check name = .ok ()) (held : f.find? name = some (.file content)) :
    f.read name = Files.textOf content := by
  rw [read, checked, held]

/-- A file that is there can be removed. -/
theorem remove_eq (checked : f.check name = .ok ()) (held : f.find? name = some (.file content)) :
    f.remove name = (f.erase name, .ok ()) := by
  rw [remove, checked, held]

/-- The directory after a draft was written and then got its name. -/
def replaced (f : Folder) (draft name : String) (node : Node) : Folder :=
  ((f.make.put draft node).erase draft).put name node

theorem Ordered.replaced (ordered : f.Ordered) (draft name : String) (node : Node) :
    (f.replaced draft name node).Ordered :=
  ((Ordered.put (f := f.make) ordered draft node).erase draft).put name node

/-- Of a draft that was not there before, nothing is left. -/
theorem find?_replaced {draft : String} (free : f.find? draft = none) (name : String)
    (node : Node) :
    (f.replaced draft name node).find? = Function.update f.find? name (some node) := by
  rw [replaced, find?_put, find?_erase, find?_put, Function.update_idem, find?_make, ← free,
    Function.update_eq_self]

/-! ### Files that are not there -/

/-- A short name passes the check unless the folder was not made. -/
theorem check_of_short_cases (short : name.utf8ByteSize ≤ f.longest) :
    f.check name = .ok () ∨ f.check name = .error .noSuchFile := by
  cases made : f.made with
  | true => exact .inl (check_of_short made short)
  | false => exact .inr (by rw [check, made]; rfl)

/-- Reading a file that is not there fails, and says so. -/
theorem read_of_gone (short : name.utf8ByteSize ≤ f.longest) (gone : f.find? name = none) :
    f.read name = .error .noSuchFile := by
  rcases check_of_short_cases short with checked | checked <;> rw [read, checked, gone]

/-- Removing a file that is not there fails, says so, and changes nothing. -/
theorem remove_of_gone (short : name.utf8ByteSize ≤ f.longest) (gone : f.find? name = none) :
    f.remove name = (f, .error .noSuchFile) := by
  rcases check_of_short_cases short with checked | checked <;> rw [remove, checked, gone]

end Folder

end TrialFarm
