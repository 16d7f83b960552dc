import TrialFarm.Proofs.Number.Decimal
import TrialFarm.Rendezvous

/-!
# Names of files in a directory

Server names may hold dots, dashes and digits, and the names of the files are made from them by
putting texts before and behind. Still no two servers share a file: the name of a file tells the
server, whether it is the file with the address or a draft, and the process that wrote the draft.

## Main definitions

* `EntryName`: the names that entries of a directory can have.
* `DirectlyIn`: a path leads to a file directly in a directory.

## Main statements

* `EntryName.directlyIn`: an entry joined to a directory lies directly in it.
* `Rendezvous.entryName_fileName`, `Rendezvous.entryName_draftName`: the files of servers are
  entries.
* `Rendezvous.fileName_inj`, `Rendezvous.draftName_inj`, `Rendezvous.fileName_ne_draftName`: the
  files of servers are different.
-/

namespace TrialFarm

/-! ### Paths -/

/-- A name that an entry of a directory can have. -/
structure EntryName (file : String) : Prop where
  begun : file ≠ ""
  plain : '/' ∉ file.toList
  /-- It is not one of the two names that every directory has for itself and the one above. -/
  undotted : Files.isDots file = false

/-- A path leads to a file directly in a directory: it goes the way to the directory and then one
step more, which is the name of an entry. -/
structure DirectlyIn (dir file path : String) : Prop where
  start : path.startsWith '/' = dir.startsWith '/'
  steps : pathSteps path = pathSteps dir ++ [file]
  unclosed : path.endsWith '/' = false
  entry : EntryName file

/-- The steps of a path below a directory follow the steps of the directory. -/
theorem pathSteps_append (dir rest : String) :
    pathSteps (dir ++ "/" ++ rest) = pathSteps dir ++ pathSteps rest := by
  have chars : (dir ++ "/" ++ rest).toList = dir.toList ++ '/' :: rest.toList := by
    rw [String.toList_append, String.toList_append, List.append_assoc]
    rfl
  rw [pathSteps, chars, List.splitOn_append_cons_self, List.filter_append, List.map_append]
  rfl

namespace EntryName

variable {file : String}

/-- The name of an entry is a path of one step. -/
theorem pathSteps_eq (entry : EntryName file) : pathSteps file = [file] := by
  simp [pathSteps, List.splitOn_eq_singleton entry.plain, entry.begun]

theorem startsWith_eq (entry : EntryName file) : file.startsWith '/' = false := by
  rw [String.startsWith_char_eq_head?, beq_eq_false_iff_ne]
  exact fun first => entry.plain (List.mem_of_mem_head? first)

theorem endsWith_eq (entry : EntryName file) : file.endsWith '/' = false := by
  rw [String.endsWith_char_eq_getLast?, beq_eq_false_iff_ne]
  exact fun last => entry.plain (List.mem_of_getLast? last)

/-- What stands before the name of an entry does not change how the path ends. -/
theorem endsWith_append (entry : EntryName file) (before : String) :
    (before ++ file).endsWith '/' = false := by
  rw [← entry.endsWith_eq, String.endsWith_char_eq_getLast?, String.endsWith_char_eq_getLast?,
    String.toList_append, List.getLast?_append,
    Option.or_of_isSome (by simpa using entry.begun)]

/-- An entry joined to a directory lies directly in it. -/
theorem directlyIn (entry : EntryName file) (dir : String) :
    DirectlyIn dir file (joinPath dir file) := by
  have begins : ∀ rest, dir ≠ "" → (dir ++ rest).startsWith '/' = dir.startsWith '/' := by
    intro rest begun
    rw [String.startsWith_char_eq_head?, String.startsWith_char_eq_head?, String.toList_append,
      List.head?_append, Option.or_of_isSome (by simpa using begun)]
  by_cases bare : dir = ""
  · subst bare
    rw [joinPath, if_pos (by simp), String.empty_append]
    exact ⟨entry.startsWith_eq, by rw [entry.pathSteps_eq]; rfl, entry.endsWith_eq, entry⟩
  by_cases closed : dir.endsWith '/' = true
  · rw [joinPath, if_pos (by simp [closed])]
    refine ⟨begins file bare, ?_, entry.endsWith_append dir, entry⟩
    obtain ⟨above, rfl⟩ := String.endsWith_char_iff_exists_append.mp closed
    -- The last slash of the directory is the one before the file.
    have slash : above ++ String.singleton '/' = above ++ "/" ++ "" := by
      rw [String.append_empty]
      rfl
    rw [slash, pathSteps_append above "", String.append_empty, pathSteps_append above file,
      entry.pathSteps_eq]
    exact congrArg (· ++ [file]) (List.append_nil _).symm
  · rw [joinPath, if_neg (by simp [bare, closed])]
    refine ⟨?_, ?_, entry.endsWith_append _, entry⟩
    · rw [String.append_assoc]
      exact begins _ bare
    · rw [pathSteps_append, entry.pathSteps_eq]

/-- A text of characters of server names, not all of them dots, is the name of an entry. -/
theorem of_chars (named : ∀ c ∈ file.toList, isNameChar c = true)
    (solid : ∃ c ∈ file.toList, c ≠ '.') : EntryName file := by
  obtain ⟨c, member, other⟩ := solid
  refine ⟨?_, fun slash => absurd (named _ slash) (by decide), ?_⟩
  · rintro rfl
    cases member
  · rw [Files.isDots, Bool.or_eq_false_iff, decide_eq_false_iff_not, decide_eq_false_iff_not]
    constructor
    all_goals
      rintro rfl
      simp at member
      exact other member

end EntryName

namespace Rendezvous

variable {r s : Rendezvous} {p q : Nat}

/-! ### Names of servers -/

/-- The name of a rendezvous does not begin with a dot. -/
theorem name_begins (r : Rendezvous) : ∃ c cs, r.name.toList = c :: cs ∧ c ≠ '.' := by
  have valid := r.valid
  simp only [isServerName, Bool.and_eq_true, bne_iff_ne] at valid
  obtain ⟨⟨begun, first⟩, -⟩ := valid
  cases chars : r.name.toList with
  | nil => simp_all
  | cons c cs => exact ⟨c, cs, rfl, by simpa [chars] using first⟩

/-- The name of a rendezvous has no characters but those allowed in names. -/
theorem isNameChar_of_mem_name {c : Char} (member : c ∈ r.name.toList) : isNameChar c = true := by
  have valid := r.valid
  simp only [isServerName, Bool.and_eq_true, List.all_eq_true] at valid
  exact valid.2 c member

theorem isNameChar_of_isDigit {c : Char} (digit : c.isDigit = true) : isNameChar c = true := by
  simp [isNameChar, Char.isAlphanum, digit]

/-! ### Names of files -/

theorem toList_fileName (r : Rendezvous) :
    r.fileName.toList = r.name.toList ++ ".addr".toList := by
  rw [fileName, String.toList_append]

/-- A draft is named by a dot, the name and the number of the process. -/
theorem toList_draftName (r : Rendezvous) (p : Nat) : (r.draftName p).toList =
    '.' :: (r.name.toList ++ '.' :: (Nat.toDigits 10 p ++ ".tmp".toList)) := by
  have dot : ".".toList = ['.'] := rfl
  simp [draftName, dot]

/-- The file of a rendezvous is named as an entry of its directory. -/
theorem entryName_fileName (r : Rendezvous) : EntryName r.fileName := by
  have chars := r.toList_fileName
  refine .of_chars (fun c member => ?_) ⟨'a', by simp [chars], by decide⟩
  rw [chars, List.mem_append] at member
  rcases member with name | ending
  · exact isNameChar_of_mem_name name
  · exact List.all_eq_true.mp (by decide : ".addr".toList.all isNameChar = true) c ending

/-- The draft of a rendezvous is named as an entry of its directory. -/
theorem entryName_draftName (r : Rendezvous) (p : Nat) : EntryName (r.draftName p) := by
  have chars := r.toList_draftName p
  refine .of_chars (fun c member => ?_) ⟨'t', by simp [chars], by decide⟩
  simp only [chars, List.mem_cons, List.mem_append] at member
  rcases member with rfl | name | rfl | digit | ending
  · decide
  · exact isNameChar_of_mem_name name
  · decide
  · exact isNameChar_of_isDigit (Nat.isDigit_of_mem_toDigits (by decide) (by decide) digit)
  · exact List.all_eq_true.mp (by decide : ".tmp".toList.all isNameChar = true) c ending

/-- Names that are short enough for drafts are short enough for addresses. -/
theorem size_fileName_le (r : Rendezvous) (process : Nat) :
    r.fileName.utf8ByteSize ≤ (r.draftName process).utf8ByteSize := by
  have endings : ".addr".utf8ByteSize = 5 ∧ ".".utf8ByteSize = 1 ∧ ".tmp".utf8ByteSize = 4 :=
    ⟨rfl, rfl, rfl⟩
  simp only [fileName, draftName, String.utf8ByteSize_append]
  omega

/-- Different names have different files. -/
theorem fileName_inj : r.fileName = s.fileName ↔ r.name = s.name := by
  rw [← String.toList_inj, toList_fileName, toList_fileName, List.append_left_inj,
    String.toList_inj]

/-- Drafts begin with a dot, as no server name does. -/
theorem fileName_ne_draftName (r s : Rendezvous) (p : Nat) : r.fileName ≠ s.draftName p := by
  obtain ⟨c, cs, name, undotted⟩ := r.name_begins
  intro same
  rw [← String.toList_inj, toList_fileName, toList_draftName, name, List.cons_append] at same
  exact undotted (List.cons.inj same).1

/-- The last dot tells what stands before it and what behind it. -/
theorem append_dot_inj {as bs cs ds : List Char} (last : '.' ∉ cs) (also : '.' ∉ ds)
    (same : as ++ '.' :: cs = bs ++ '.' :: ds) : as = bs ∧ cs = ds := by
  obtain ⟨between, rfl, tail⟩ | ⟨between, rfl, tail⟩ := List.append_eq_append_iff.mp same
  all_goals cases between with
  | nil => simpa [eq_comm] using tail
  | cons c between => simp_all

/-- A server name may end in a dot and digits, but the digits behind the last dot are always the
process. -/
theorem draftName_inj : r.draftName p = s.draftName q ↔ r.name = s.name ∧ p = q := by
  have undotted : ∀ n, '.' ∉ Nat.toDigits 10 n := fun n member =>
    absurd (Nat.isDigit_of_mem_toDigits (by decide) (by decide) member) (by decide)
  constructor
  · intro same
    rw [← String.toList_inj, toList_draftName, toList_draftName, List.cons_inj_right,
      ← List.cons_append, ← List.cons_append, ← List.append_assoc, ← List.append_assoc,
      List.append_left_inj] at same
    obtain ⟨name, digits⟩ := append_dot_inj (undotted p) (undotted q) same
    exact ⟨String.toList_inj.mp name, Integer.toDigits_inj digits⟩
  · rintro ⟨name, rfl⟩
    rw [draftName, draftName, name]

end Rendezvous

end TrialFarm
