import Mathlib.Data.Finset.Dedup
import Mathlib.Data.Finset.Lattice.Lemmas
import Mathlib.Data.PFun
import Mathlib.Order.Bounds.Defs
import TypedLogging.Proofs.Emission.Name

namespace TypedLogging.Emission

/-- Enters a name and says whether it is new. -/
def enter (name : String) (taken : Finset String) : Bool × Finset String :=
  (decide (name ∉ taken), insert name taken)

/-- Enters the name with a number. The search ends here if it is new, and goes on with the next number
otherwise. -/
def searchStep (base : String) :
    Nat × Finset String → (String × Finset String) ⊕ (Nat × Finset String)
  | (number, taken) =>
      let (isNew, entered) := enter (numbered base number) taken
      if isNew then .inl (numbered base number, entered) else .inr (number + 1, entered)

/-- Tries numbers from `number` on until a name is new. Nothing bounds the numbers; a search that never ends
has no result. -/
def searchFrom (base : String) (number : Nat) (taken : Finset String) : Part (String × Finset String) :=
  PFun.fix (fun state => Part.some (searchStep base state)) (number, taken)

def search (base : String) (taken : Finset String) : Part (String × Finset String) :=
  let (isNew, entered) := enter base taken
  if isNew then Part.some (base, entered) else searchFrom base 2 entered

/-- Searches a name for each base; what is given out is taken for the bases behind it. -/
def searchAll : List String → Finset String → Part (List String × Finset String)
  | [], taken => Part.some ([], taken)
  | base :: rest, taken => do
    let (name, entered) ← search base taken
    let (names, all) ← searchAll rest entered
    return (name :: names, all)

variable {base : String} {number k : Nat} {taken : Finset String}

theorem searchStep_of_mem (h : numbered base number ∈ taken) :
    searchStep base (number, taken) = .inr (number + 1, taken) := by
  simp [searchStep, enter, h]

theorem searchStep_of_not_mem (h : numbered base number ∉ taken) :
    searchStep base (number, taken) =
      .inl (numbered base number, insert (numbered base number) taken) := by
  simp [searchStep, enter, h]

theorem searchFrom_of_mem (h : numbered base number ∈ taken) :
    searchFrom base number taken = searchFrom base (number + 1) taken :=
  PFun.fix_fwd_eq (Part.mem_some_iff.mpr (searchStep_of_mem h).symm)

theorem searchFrom_of_not_mem (h : numbered base number ∉ taken) :
    searchFrom base number taken =
      Part.some (numbered base number, insert (numbered base number) taken) :=
  Part.eq_some_iff.mpr (PFun.fix_stop (Part.mem_some_iff.mpr (searchStep_of_not_mem h).symm))

/-- The search passes the names that are taken and leaves them as they are. -/
theorem searchFrom_eq (hle : number ≤ k)
    (hbefore : ∀ j, number ≤ j → j < k → numbered base j ∈ taken) (hfree : numbered base k ∉ taken) :
    searchFrom base number taken = Part.some (numbered base k, insert (numbered base k) taken) := by
  obtain ⟨steps, rfl⟩ := Nat.exists_eq_add_of_le hle
  induction steps generalizing number with
  | zero => exact searchFrom_of_not_mem hfree
  | succ steps ih =>
      have hshift : number + (steps + 1) = number + 1 + steps := by omega
      rw [searchFrom_of_mem (hbefore number (Nat.le_refl _) (by omega))]
      rw [hshift] at hbefore hfree ⊢
      exact ih (by omega) (fun j hj hjk => hbefore j (by omega) hjk) hfree

theorem search_eq (base : String) (taken : List String) :
    search base taken.toFinset =
      Part.some (unique base taken, insert (unique base taken) taken.toFinset) := by
  by_cases h : base ∈ taken
  · obtain ⟨k, hle, hk, hfree, hbefore⟩ := unique_of_mem h
    have hsearch : searchFrom base 2 taken.toFinset =
        Part.some (numbered base k, insert (numbered base k) taken.toFinset) :=
      searchFrom_eq hle (fun j hj hjk => List.mem_toFinset.mpr (hbefore j hj hjk))
        (fun hmem => hfree (List.mem_toFinset.mp hmem))
    rw [hk, ← hsearch]
    simp [search, enter, h]
  · rw [unique_of_not_mem h]
    simp [search, enter, h]

theorem searchAll_eq (taken bases : List String) :
    searchAll bases taken.toFinset =
      Part.some (uniqueAll taken bases, taken.toFinset ∪ (uniqueAll taken bases).toFinset) := by
  induction bases generalizing taken with
  | nil => simp [searchAll, uniqueAll]
  | cons base rest ih =>
      have hrest := ih (unique base taken :: taken)
      rw [List.toFinset_cons] at hrest
      rw [searchAll, search_eq, uniqueAll, List.toFinset_cons, Finset.union_insert,
        ← Finset.insert_union]
      simp [hrest]

/-- The search ends with the base if it is free, and else with the least number from two on whose name is.
Names that are searched one after the other are all different, whichever numbers the bases end in. -/
theorem search_takes_first_free (base : String) (taken bases : List String) :
    search base taken.toFinset =
        Part.some (unique base taken, insert (unique base taken) taken.toFinset) ∧
      (base ∉ taken ∧ unique base taken = base ∨
        base ∈ taken ∧ ∃ number, unique base taken = numbered base number ∧
          IsLeast {k | 2 ≤ k ∧ numbered base k ∉ taken} number) ∧
      searchAll bases taken.toFinset =
        Part.some (uniqueAll taken bases, taken.toFinset ∪ (uniqueAll taken bases).toFinset) ∧
      (uniqueAll taken bases).length = bases.length ∧
      (uniqueAll taken bases).Nodup ∧ (uniqueAll taken bases).Disjoint taken := by
  obtain ⟨hnodup, hfree⟩ := uniqueAll_nodup taken bases
  refine ⟨search_eq base taken, ?_, searchAll_eq taken bases, length_uniqueAll taken bases, hnodup,
    hfree⟩
  by_cases h : base ∈ taken
  · obtain ⟨number, hle, hnumber, hfree, hbefore⟩ := unique_of_mem h
    refine .inr ⟨h, number, hnumber, ⟨hle, hfree⟩, fun k hk => ?_⟩
    by_contra hlt
    exact hk.2 (hbefore k hk.1 (Nat.lt_of_not_le hlt))
  · exact .inl ⟨h, unique_of_not_mem h⟩

example : uniqueAll [] ["tick", "tick", "tick_2", "tick"] = ["tick", "tick_2", "tick_2_2", "tick_3"] := by
  decide

end TypedLogging.Emission
