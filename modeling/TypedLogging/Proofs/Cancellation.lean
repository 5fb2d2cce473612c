import TypedLogging.Proofs.WriteOutcome

namespace TypedLogging

open Run

/-- Wherever the run is cancelled, it gives nothing but what it gives when it is never cancelled. -/
def Run.AllOrNothing {α : Type} (run : Run (StateM World) α) : Prop :=
  ∀ world : World, ∃ checks, ∀ left, (run.on (world.cancelledAfter (some left))).1 =
    if left < checks then .error cancelled else (run.on (world.cancelledAfter none)).1

theorem Run.Interruptible.allOrNothing {α : Type} {run : Run (StateM World) α}
    (h : run.Interruptible) : run.AllOrNothing := by
  obtain ⟨reading, hreading⟩ := h
  intro world
  refine ⟨(reading world.files).checks, fun left => ?_⟩
  have hcalm : (world.cancelledAfter none).Calm := rfl
  rw [hreading.on_cancelledAfter, hreading.on_of_calm hcalm]
  rfl

/-- Collecting and generating are cancelled as a whole or not at all, whichever check it is that fails,
and a cancelled run writes nothing. Declarations are checked for one by one, and none of them is
collected without the others. -/
theorem cancelled_runs (generator : Generator) :
    generator.collect.AllOrNothing ∧ generator.generate.AllOrNothing ∧
    (∀ world after : World, generator.write.on world = (.error cancelled, after) →
      after.files = world.files ∧ after.written = world.written) ∧
    ∀ (name : String) (lookup : Lookup) (declarations : List Declaration) (world : World) (left : Nat),
      ((collectAll name lookup declarations).on (world.cancelledAfter (some left))).1 =
        if left < declarations.length then .error cancelled
        else .ok (.concat (declarations.map (collect name lookup))) := by
  refine ⟨generator.interruptible_collect.allOrNothing,
    generator.interruptible_generate.allOrNothing, ?_, ?_⟩
  · intro world after h
    rw [← generator.inWorld_write_none] at h
    have hwrote := Generator.wrote_of_write h
    cases hwrote with
    | early _ _ hfiles hwritten => exact ⟨hfiles, hwritten⟩
  · intro name lookup declarations world left
    exact (follows_collectAll name lookup declarations).on_cancelledAfter world left

theorem cancelled_runs_pair : ∃ after,
    pairGenerator.write.on ((World.ofFiles .empty).cancelledAfter (some 1)) =
        (.error cancelled, after) ∧
      after.files = .empty ∧ after.written = [] := by
  have hcancelled : (pairGenerator.write.on ((World.ofFiles .empty).cancelledAfter (some 1))).1 =
      .error cancelled := by decide +kernel
  cases hon : pairGenerator.write.on ((World.ofFiles .empty).cancelledAfter (some 1)) with
  | mk result after =>
      rw [hon] at hcancelled
      cases hcancelled
      have huntouched := (cancelled_runs pairGenerator).2.2.1 _ _ hon
      exact ⟨after, rfl, huntouched⟩

end TypedLogging
