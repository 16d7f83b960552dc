/-!
# Lists of entries

Rosters, holdings of workers and directories are lists of keys with something entered for them. Here
is what a lookup makes of such a list when it grows or shrinks.

## Main statements

* `lookup_cons_ite`: looking up behind a new first entry.
* `lookup_filter_ne`: looking up when the entries of a key are gone.
-/

namespace TrialFarm

variable {κ β : Type} [DecidableEq κ]

/-- Looking up in a list that starts with an entry, as a case split on its key. -/
theorem lookup_cons_ite (key first : κ) (b : β) (rest : List (κ × β)) :
    ((first, b) :: rest).lookup key = if key = first then some b else rest.lookup key := by
  rw [List.lookup_cons]
  by_cases same : key = first
  · rw [if_pos same, same, beq_self_eq_true]
  · rw [if_neg same, beq_false_of_ne same]

/-- Striking out one key leaves the others. -/
theorem lookup_filter_ne (entries : List (κ × β)) (gone key : κ) :
    (entries.filter (fun entry => entry.1 != gone)).lookup key =
      if key = gone then none else entries.lookup key := by
  induction entries with
  | nil => simp
  | cons entry rest ih =>
    obtain ⟨first, b⟩ := entry
    by_cases struck : first = gone
    · rw [List.filter_cons_of_neg (by simp [struck]), ih, lookup_cons_ite, struck]
      by_cases same : key = gone <;> simp [same]
    · rw [List.filter_cons_of_pos (by simp [struck]), lookup_cons_ite, ih, lookup_cons_ite]
      by_cases same : key = first
      · rw [if_pos same, if_pos same, if_neg (same ▸ struck)]
      · rw [if_neg same, if_neg same]

end TrialFarm
