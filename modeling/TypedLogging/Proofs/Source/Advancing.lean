import TypedLogging.Proofs.Source.Orderly

namespace TypedLogging.Source.Reader

open Judged (IsSound)

variable {α β : Type} [Judged α] [Judged β] {origin : List TokenTree} {before behind : Cursor}

/-- A reader that does not end where it began. -/
class Advances (origin : List TokenTree) (reader : Reader α) : Prop where
  advances : ∀ ⦃before a behind⦄, Reached origin before.rest → reader before = some (a, behind) →
    behind.rest.length < before.rest.length

theorem Orderly.length_le {reader : Reader α} [h : Orderly origin reader] {a : α}
    (hreached : Reached origin before.rest) (hread : reader before = some (a, behind)) :
    behind.rest.length ≤ before.rest.length :=
  (h.passes hreached hread).1.suffix.length_le

section Advancing

variable {reader other : Reader α}

instance {p : Prop} [Decidable p] [hreader : Advances origin reader] [hother : Advances origin other] :
    Advances origin (if p then reader else other) := by
  split
  · exact hreader
  · exact hother

theorem Advances.bind [hreader : Orderly origin reader] [h : Advances origin reader] {next : α → Reader β}
    (hnext : ∀ a, IsSound a → Orderly origin (next a)) : Advances origin (reader >>= next) where
  advances before b behind hreached hread := by
    obtain ⟨a, between, ha, hb⟩ := bind_eq_some.mp hread
    obtain ⟨hpasses, hsound⟩ := hreader.passes hreached ha
    have := hnext a hsound
    exact (Orderly.length_le (hreached.passes hpasses) hb).trans_lt (h.advances hreached ha)

omit [Judged β] in
theorem Orderly.bind_advances [hreader : Orderly origin reader] {next : α → Reader β}
    (h : ∀ a, IsSound a → Advances origin (next a)) : Advances origin (reader >>= next) where
  advances before b behind hreached hread := by
    obtain ⟨a, between, ha, hb⟩ := bind_eq_some.mp hread
    obtain ⟨hpasses, hsound⟩ := hreader.passes hreached ha
    exact ((h a hsound).advances (hreached.passes hpasses) hb).trans_le (Orderly.length_le hreached ha)

instance {next : α → Reader β} [Orderly origin reader] [Advances origin reader]
    [h : ∀ a : {a : α // IsSound a}, Orderly origin (next a.val)] : Advances origin (reader >>= next) :=
  .bind fun a ha => h ⟨a, ha⟩

instance {next : α → Reader β} [Orderly origin reader]
    [h : ∀ a : {a : α // IsSound a}, Advances origin (next a.val)] : Advances origin (reader >>= next) :=
  Orderly.bind_advances fun a ha => h ⟨a, ha⟩

instance {next : Reader β} [Orderly origin reader] [Advances origin reader] [h : Orderly origin next] :
    Advances origin (do let _ ← reader; next) := .bind fun _ _ => h

instance {next : Reader β} [Orderly origin reader] [h : Advances origin next] :
    Advances origin (do let _ ← reader; next) := Orderly.bind_advances fun _ _ => h

instance {test : Reader Bool} [Orderly origin test] [Advances origin reader] [Advances origin other] :
    Advances origin (do if ← test then reader else other) := Orderly.bind_advances fun _ _ => inferInstance

instance {next : Cursor → Reader α} [h : ∀ c : Cursor, Advances c.rest (next c)] :
    Advances origin (get >>= next) where
  advances before _ _ hreached hread := (h before).advances (.refl hreached.lexed_rest) hread

instance (name : String) : Advances origin (word name) where
  advances before u behind _ hread := by
    obtain ⟨rest, hrest, rfl⟩ := word_eq_some hread
    rw [hrest]
    exact Nat.lt_succ_self _

instance : Advances origin anyWord where
  advances before u behind _ hread := by
    obtain ⟨rest, hrest, rfl⟩ := anyWord_eq_some hread
    rw [hrest]
    exact Nat.lt_succ_self _

instance : Advances origin ident where
  advances _ _ _ hreached hread := Advances.advances hreached (ident_eq_some hread).2

instance : Advances origin lifetime where
  advances before u behind _ hread := by
    obtain ⟨name, rest, hrest, rfl⟩ := lifetime_eq_some hread
    rw [hrest, List.length_cons, List.length_cons]
    exact Nat.lt_succ_of_lt (Nat.lt_succ_self _)

instance : Advances origin literal where
  advances before u behind _ hread := by
    rcases literal_eq_some hread with
      ⟨text, rest, hrest, rfl⟩ | ⟨name, rest, hrest, rfl⟩ | ⟨joint, text, rest, hrest, rfl⟩
    · rw [hrest]
      exact Nat.lt_succ_self _
    · rw [hrest]
      exact Nat.lt_succ_self _
    · rw [hrest, List.length_cons, List.length_cons]
      exact Nat.lt_succ_of_lt (Nat.lt_succ_self _)

theorem length_signTrees (joint : Bool) (cs : List Char) : (signTrees joint cs).length = cs.length := by
  fun_induction signTrees joint cs with
  | case1 | case2 => rfl
  | case3 c cs _ ih => rw [List.length_cons, List.length_cons, ih]

instance (text : String) [h : IsSign text] : Advances origin (skipOp text) where
  advances before u behind _ hread := by
    obtain ⟨joint, rest, hrest, rfl⟩ := skipOp_eq_some hread
    rw [hrest, List.length_append, length_signTrees]
    exact Nat.lt_add_of_pos_left (List.length_pos_iff.mpr h.nonempty)

instance (text : String) [IsSign text] : Advances origin (op text) := by
  unfold op
  infer_instance

instance (delimiter : Delimiter) : Advances origin (group delimiter reader) where
  advances before a behind _ hread := by
    obtain ⟨trees, rest, inner, hrest, -, -, rfl⟩ := group_eq_some hread
    rw [hrest]
    exact Nat.lt_succ_self _

instance [h : Advances origin reader] : Advances origin (quietly reader) where
  advances before found behind hreached hread := by
    obtain ⟨inner, hinner, -, rfl⟩ := quietly_eq_some hread
    have hquiet : Reached origin (Cursor.mk before.rest [] before.inner).rest := hreached
    have hlength := h.advances hquiet hinner
    exact hlength

instance [Orderly origin reader] [Advances origin reader] : Advances origin (silently reader) := by
  unfold silently
  infer_instance

instance [∀ origin, Orderly origin reader] [∀ origin, Advances origin reader] :
    Advances origin (verbatim reader) := by
  unfold verbatim
  infer_instance

instance (name : String) : Advances origin (skipWord name) := by
  unfold skipWord
  infer_instance

theorem Advances.exhaust {step : α → Reader (Option α)}
    [h : ∀ a : {a : α // IsSound a}, Orderly origin (step a.val)] (start : α) [hstart : Sound start]
    (hfirst : Advances origin (step start)) : Advances origin (exhaust step start) where
  advances before a behind hreached hread := by
    obtain ⟨_, _, hget, hiterate⟩ := bind_eq_some.mp hread
    cases hget
    obtain ⟨next, between, hstep, hnext⟩ := bind_eq_some.mp hiterate
    have hbetween := hfirst.advances hreached hstep
    cases next with
    | none =>
        cases hnext
        exact hbetween
    | some b =>
        obtain ⟨hpasses, hb⟩ := (h ⟨start, hstart.sound⟩).passes hreached hstep
        have : Sound b := ⟨hb b rfl⟩
        exact (Orderly.length_le (hreached.passes hpasses) hnext).trans_lt hbetween

theorem Orderly.bind_slash {next : Unit → Reader α} [h : ∀ origin, Orderly origin (next ())]
    [hnext : ∀ origin, Advances origin (next ())] : Orderly origin (skipOp "/" >>= next) where
  passes before a behind hreached hread := by
    obtain ⟨_, between, hskip, hread⟩ := bind_eq_some.mp hread
    obtain ⟨joint, rest, hrest, rfl⟩ := skipOp_eq_some hskip
    have hlexed : Lexed rest := (hrest ▸ hreached.lexed_rest).of_append
    obtain ⟨⟨⟨front, hfront, hends⟩, hwrote, hkept⟩, hsound⟩ := (h rest).passes (.refl hlexed) hread
    have hlength := (hnext rest).advances (.refl hlexed) hread
    refine ⟨⟨⟨.punct '/' joint :: front, ?_, ?_⟩, hwrote, hkept⟩, hsound⟩
    · rw [hrest, show rest = _ from hfront]
      rfl
    · cases front with
      | nil =>
          rw [show rest = behind.rest from hfront] at hlength
          exact absurd hlength (Nat.lt_irrefl _)
      | cons tree front => exact hends.cons

end Advancing

end TypedLogging.Source.Reader
