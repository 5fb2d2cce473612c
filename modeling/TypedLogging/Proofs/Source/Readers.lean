import TypedLogging.Source.Reader

namespace TypedLogging.Source.Reader

variable {α β : Type} {before behind : Cursor} {name text : String} {u : Unit} {reader : Reader α}

theorem bind_eq_some {next : α → Reader β} {b : β} :
    (reader >>= next) before = some (b, behind) ↔
      ∃ a between, reader before = some (a, between) ∧ next a between = some (b, behind) := by
  simp only [Bind.bind, StateT.bind, Option.bind_eq_some_iff, Prod.exists]

theorem guard_eq_some {p : Prop} [Decidable p] :
    (guard p : Reader Unit) before = some (u, behind) ↔ p ∧ before = behind := by
  by_cases hp : p
  · have hguard : (guard p : Reader Unit) = pure () := if_pos hp
    rw [hguard]
    constructor
    · intro h
      cases h
      exact ⟨hp, rfl⟩
    · rintro ⟨-, rfl⟩
      rfl
  · have hguard : (guard p : Reader Unit) = failure := if_neg hp
    rw [hguard]
    constructor
    · intro h
      cases h
    · rintro ⟨h, -⟩
      exact absurd h hp

theorem ahead_bind_eq_some {test : Ahead.Test} {next : Bool → Reader α} {a : α} :
    (ahead test >>= next) before = some (a, behind) ↔
      next (test before.rest) before = some (a, behind) := Iff.rfl

theorem write_eq_some {code : Code} (h : write code before = some (u, behind)) :
    behind = { before with written := code.reverse ++ before.written } := by
  cases h
  rfl

section Inside

theorem quietly_eq_some {a : α} {code : Code} (h : quietly reader before = some ((a, code), behind)) :
    ∃ inner, reader { before with written := [] } = some (a, inner) ∧ code = inner.written.reverse ∧
      behind = { inner with written := before.written } := by
  simp only [quietly, bind_eq_some] at h
  obtain ⟨_, _, hget, _, _, hclear, a', inner, hread, _, _, hget', _, _, hrestore, hpure⟩ := h
  cases hget
  cases hclear
  cases hget'
  cases hrestore
  cases hpure
  exact ⟨inner, hread, rfl, rfl⟩

theorem collecting_eq_some {a : α} {items : List Item}
    (h : collecting reader before = some ((a, items), behind)) :
    ∃ inner, reader { before with inner := [] } = some (a, inner) ∧ items = inner.inner ∧
      behind = { inner with inner := before.inner } := by
  simp only [collecting, bind_eq_some] at h
  obtain ⟨_, _, hget, _, _, hclear, a', inner, hread, _, _, hget', _, _, hrestore, hpure⟩ := h
  cases hget
  cases hclear
  cases hget'
  cases hrestore
  cases hpure
  exact ⟨inner, hread, rfl, rfl⟩

theorem attempt_eq_some {result : Option α} (h : attempt reader before = some (result, behind)) :
    (∃ a, result = some a ∧ reader before = some (a, behind)) ∨ result = none ∧ behind = before := by
  unfold attempt at h
  split at h
  next a _ hread =>
    cases h
    exact .inl ⟨a, rfl, hread⟩
  next =>
    cases h
    exact .inr ⟨rfl, rfl⟩

theorem group_eq_some {delimiter : Delimiter} {a : α} (h : group delimiter reader before = some (a, behind)) :
    ∃ trees rest inner, before.rest = .group delimiter trees :: rest ∧
      reader ⟨trees, [], before.inner⟩ = some (a, inner) ∧ inner.rest = [] ∧
      behind = ⟨rest, .group delimiter inner.written.reverse :: before.written, inner.inner⟩ := by
  unfold group at h
  obtain ⟨before, written, kept⟩ := before
  obtain ⟨_, _, hget, hread⟩ := bind_eq_some.mp h
  cases hget
  dsimp only at hread
  split at hread
  next found trees rest =>
    obtain ⟨_, _, hguard, hread⟩ := bind_eq_some.mp hread
    obtain ⟨rfl, rfl⟩ := guard_eq_some.mp hguard
    obtain ⟨_, _, hset, hread⟩ := bind_eq_some.mp hread
    cases hset
    obtain ⟨⟨_, body⟩, _, hquietly, hread⟩ := bind_eq_some.mp hread
    obtain ⟨inner, hinner, rfl, rfl⟩ := quietly_eq_some hquietly
    obtain ⟨_, _, hget, hread⟩ := bind_eq_some.mp hread
    cases hget
    obtain ⟨_, _, hempty, hread⟩ := bind_eq_some.mp hread
    obtain ⟨hend, rfl⟩ := guard_eq_some.mp hempty
    cases hread
    exact ⟨trees, rest, inner, rfl, hinner, List.isEmpty_iff.mp hend, rfl⟩
  next => cases hread

end Inside

section Tokens

theorem word_eq_some (h : word name before = some (u, behind)) :
    ∃ rest, before.rest = .ident name :: rest ∧ behind = ⟨rest, .word name :: before.written, before.inner⟩ := by
  unfold word at h
  obtain ⟨before, written, kept⟩ := before
  obtain ⟨_, _, hget, hread⟩ := bind_eq_some.mp h
  cases hget
  dsimp only at hread
  split at hread
  next found rest =>
    obtain ⟨_, _, hguard, hread⟩ := bind_eq_some.mp hread
    obtain ⟨rfl, rfl⟩ := guard_eq_some.mp hguard
    cases hread
    exact ⟨rest, rfl, rfl⟩
  next => cases hread

theorem anyWord_eq_some (h : anyWord before = some (name, behind)) :
    ∃ rest, before.rest = .ident name :: rest ∧ behind = ⟨rest, .word name :: before.written, before.inner⟩ := by
  unfold anyWord at h
  obtain ⟨before, written, kept⟩ := before
  obtain ⟨_, _, hget, hread⟩ := bind_eq_some.mp h
  cases hget
  dsimp only at hread
  split at hread
  next found rest =>
    cases hread
    exact ⟨rest, rfl, rfl⟩
  next => cases hread

theorem ident_eq_some (h : ident before = some (name, behind)) :
    isReserved name = false ∧ anyWord before = some (name, behind) := by
  obtain ⟨_, _, hguard, hword⟩ := bind_eq_some.mp (ahead_bind_eq_some.mp h)
  obtain ⟨hahead, rfl⟩ := guard_eq_some.mp hguard
  obtain ⟨rest, hrest, -⟩ := anyWord_eq_some hword
  rw [hrest] at hahead
  exact ⟨(Bool.not_eq_true' _).mp hahead, hword⟩

theorem optionalWord_eq_some {found : Bool} (h : optionalWord name before = some (found, behind)) :
    found = true ∧ word name before = some ((), behind) ∨ found = false ∧ behind = before := by
  rw [optionalWord, ahead_bind_eq_some] at h
  cases hfound : Ahead.word name before.rest with
  | true =>
      rw [hfound] at h
      obtain ⟨_, _, hword, hpure⟩ := bind_eq_some.mp h
      cases hpure
      exact .inl ⟨rfl, hword⟩
  | false =>
      rw [hfound] at h
      cases h
      exact .inr ⟨rfl, rfl⟩

theorem lifetime_eq_some (h : lifetime before = some (u, behind)) :
    ∃ name rest, before.rest = .punct '\'' true :: .ident name :: rest ∧
      behind = ⟨rest, .word ("'" ++ name) :: before.written, before.inner⟩ := by
  unfold lifetime at h
  obtain ⟨before, written, kept⟩ := before
  obtain ⟨_, _, hget, hread⟩ := bind_eq_some.mp h
  cases hget
  dsimp only at hread
  split at hread
  next name rest =>
    cases hread
    exact ⟨name, rest, rfl, rfl⟩
  next => cases hread

theorem optionalLabel_eq_some {label : Option String} (h : optionalLabel before = some (label, behind)) :
    (∃ name rest, before.rest = .punct '\'' true :: .ident name :: rest ∧ label = some ("'" ++ name) ∧
      behind = { before with rest := rest }) ∨ label = none ∧ behind = before := by
  unfold optionalLabel at h
  obtain ⟨before, written, kept⟩ := before
  obtain ⟨_, _, hget, hread⟩ := bind_eq_some.mp h
  cases hget
  dsimp only at hread
  split at hread
  next name rest =>
    cases hread
    exact .inl ⟨name, rest, rfl, rfl, rfl⟩
  next =>
    cases hread
    exact .inr ⟨rfl, rfl⟩

theorem minus_of_literal? {head : TokenTree} {rest : List TokenTree} {found : Literal}
    (h : Ahead.literal? (head :: .literal text :: rest) = some found)
    (hliteral : ∀ text, head = .literal text → False) (hident : ∀ name, head = .ident name → False) :
    ∃ joint, head = .punct '-' joint := by
  unfold Ahead.literal? at h
  split at h
  next heq => cases heq; exact absurd rfl (hliteral _)
  next heq => cases heq; exact absurd rfl (hident _)
  next heq => cases heq; exact absurd rfl (hident _)
  next joint _ _ heq => cases heq; exact ⟨joint, rfl⟩
  next => cases h

theorem literal_eq_some {found : Literal} (h : literal before = some (found, behind)) :
    (∃ text rest, before.rest = .literal text :: rest ∧
      behind = ⟨rest, .word text :: before.written, before.inner⟩) ∨
    (∃ name rest, before.rest = .ident name :: rest ∧
      behind = ⟨rest, .word name :: before.written, before.inner⟩) ∨
    ∃ joint text rest, before.rest = .punct '-' joint :: .literal text :: rest ∧
      behind = ⟨rest, .word text :: .word "-" :: before.written, before.inner⟩ := by
  unfold literal at h
  obtain ⟨before, written, kept⟩ := before
  obtain ⟨_, _, hget, hread⟩ := bind_eq_some.mp h
  cases hget
  dsimp only at hread
  generalize hahead : Ahead.literal? before = result at hread
  split at hread
  next text rest =>
    cases hread
    exact .inl ⟨text, rest, rfl, rfl⟩
  next name rest =>
    cases hread
    exact .inr (.inl ⟨name, rest, rfl, rfl⟩)
  next head text rest hliteral hident =>
    cases hread
    obtain ⟨joint, rfl⟩ := minus_of_literal? hahead hliteral hident
    exact .inr (.inr ⟨joint, text, rest, rfl, rfl⟩)
  next => cases hread

theorem rawGroup_eq_some {delimiter : Delimiter} {trees : List TokenTree}
    (h : rawGroup before = some ((delimiter, trees), behind)) :
    ∃ rest, before.rest = .group delimiter trees :: rest ∧
      behind = ⟨rest, .group delimiter (Code.ofTrees trees) :: before.written, before.inner⟩ := by
  unfold rawGroup at h
  obtain ⟨before, written, kept⟩ := before
  obtain ⟨_, _, hget, hread⟩ := bind_eq_some.mp h
  cases hget
  dsimp only at hread
  split at hread
  next found inner rest =>
    cases hread
    exact ⟨rest, rfl, rfl⟩
  next => cases hread

def signTrees (joint : Bool) : List Char → List TokenTree
  | [] => []
  | [c] => [.punct c joint]
  | c :: cs => .punct c true :: signTrees joint cs

theorem dropPuncts_eq_some {cs : List Char} {trees rest : List TokenTree}
    (h : dropPuncts cs trees = some rest) : ∃ joint, trees = signTrees joint cs ++ rest := by
  fun_induction dropPuncts cs trees with
  | case1 =>
      cases h
      exact ⟨false, rfl⟩
  | case2 c joint rest =>
      cases h
      exact ⟨joint, rfl⟩
  | case4 c cs trees hcs ih =>
      obtain ⟨joint, rfl⟩ := ih h
      obtain ⟨d, cs, rfl⟩ := List.exists_cons_of_ne_nil hcs
      exact ⟨joint, rfl⟩
  | case3 | case5 | case6 => cases h

theorem skipOp_eq_some (h : skipOp text before = some (u, behind)) :
    ∃ joint rest, before.rest = signTrees joint text.toList ++ rest ∧ behind = { before with rest := rest } := by
  obtain ⟨_, _, hget, h⟩ := bind_eq_some.mp h
  cases hget
  cases hdrop : dropPuncts text.toList before.rest with
  | none =>
      rw [hdrop] at h
      cases h
  | some rest =>
      rw [hdrop] at h
      cases h
      obtain ⟨joint, hrest⟩ := dropPuncts_eq_some hdrop
      exact ⟨joint, rest, hrest, rfl⟩

theorem optionalOp_eq_some {found : Bool} (h : optionalOp text before = some (found, behind)) :
    found = true ∧ op text before = some ((), behind) ∨ found = false ∧ behind = before := by
  rw [optionalOp, ahead_bind_eq_some] at h
  cases hfound : Ahead.op text before.rest with
  | true =>
      rw [hfound] at h
      obtain ⟨_, _, hop, hpure⟩ := bind_eq_some.mp h
      cases hpure
      exact .inl ⟨rfl, hop⟩
  | false =>
      rw [hfound] at h
      cases h
      exact .inr ⟨rfl, rfl⟩

end Tokens

section Loops

/-- What holds where a loop ends, and before every step of it if it holds behind that step, holds of
the whole loop. -/
theorem iterate_induction {step : α → Reader (Option α)} {motive : α → Cursor → α → Cursor → Prop}
    (hstop : ∀ {a before behind}, step a before = some (none, behind) → motive a before a behind)
    (hnext : ∀ {a before b between c behind}, step a before = some (some b, between) →
      motive b between c behind → motive a before c behind)
    {fuel : Nat} {a c : α} (h : iterate step fuel a before = some (c, behind)) :
    motive a before c behind := by
  induction fuel generalizing a before with
  | zero => cases h
  | succ fuel ih =>
      obtain ⟨next, between, hstep, h⟩ := bind_eq_some.mp h
      cases next with
      | none =>
          cases h
          exact hstop hstep
      | some b => exact hnext hstep (ih h)

theorem exhaust_induction {step : α → Reader (Option α)} {motive : α → Cursor → α → Cursor → Prop}
    (hstop : ∀ {a before behind}, step a before = some (none, behind) → motive a before a behind)
    (hnext : ∀ {a before b between c behind}, step a before = some (some b, between) →
      motive b between c behind → motive a before c behind)
    {a c : α} (h : exhaust step a before = some (c, behind)) : motive a before c behind := by
  obtain ⟨_, _, hget, h⟩ := bind_eq_some.mp h
  cases hget
  exact iterate_induction hstop hnext h

end Loops

end TypedLogging.Source.Reader
