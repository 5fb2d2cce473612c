import TypedLogging.Proofs.Text.Words

namespace TypedLogging.Text

/-- Behind every underscore stands a character that is none. -/
def IsSeamless (text : List Char) : Prop :=
  ∀ before behind, text = before ++ '_' :: behind → ∃ c rest, behind = c :: rest ∧ c ≠ '_'

theorem exists_cons_joinWith (separator : List Char) {word : List Char} (hne : word ≠ [])
    (hfree : '_' ∉ word) (rest : List (List Char)) :
    ∃ c more, joinWith separator (word :: rest) = c :: more ∧ c ≠ '_' := by
  obtain ⟨c, word, rfl⟩ := List.exists_cons_of_ne_nil hne
  have hhead : (joinWith separator ((c :: word) :: rest)).head? = some c := head?_joinWith hne rest
  obtain ⟨more, hmore⟩ := List.head?_eq_some_iff.mp hhead
  refine ⟨c, more, hmore, ?_⟩
  rintro rfl
  exact hfree List.mem_cons_self

theorem isSeamless_joinWith {words : List (List Char)} (h : Joinable words) :
    IsSeamless (joinWith ['_'] words) := by
  induction words with
  | nil =>
      intro before behind he
      cases before <;> cases he
  | cons word rest ih =>
      intro before behind he
      have hfree : '_' ∉ word := (h word List.mem_cons_self).2
      cases rest with
      | nil =>
          rw [joinWith] at he
          exact absurd (he ▸ List.mem_append_cons_self) hfree
      | cons next more =>
          have hnext := h next (List.mem_cons_of_mem _ List.mem_cons_self)
          have hjoined := exists_cons_joinWith ['_'] hnext.1 hnext.2 more
          rw [joinWith_cons_cons, List.append_assoc] at he
          rcases List.append_eq_append_iff.mp he with ⟨between, -, hlater⟩ | ⟨between, hword, hlater⟩
          · cases between with
            | nil =>
                obtain ⟨-, rfl⟩ := List.cons.inj hlater
                exact hjoined
            | cons c between =>
                obtain ⟨-, hlater⟩ := List.cons.inj hlater
                exact ih (fun other hother => h other (List.mem_cons_of_mem _ hother)) _ _ hlater
          · cases between with
            | nil =>
                obtain ⟨-, rfl⟩ := List.cons.inj hlater
                exact hjoined
            | cons c between =>
                obtain ⟨rfl, -⟩ := List.cons.inj hlater
                exact absurd (hword ▸ List.mem_append_cons_self) hfree

theorem isSeamless_snakeCase (text : List Char) : IsSeamless (snakeCase text) :=
  isSeamless_joinWith (joinable_lowerWords text)

theorem IsSeamless.ne_append_seam {text : List Char} (h : IsSeamless text)
    (before behind : List Char) : text ≠ before ++ '_' :: '_' :: behind := by
  intro he
  obtain ⟨c, rest, hcons, hne⟩ := h before _ he
  exact hne (List.cons.inj hcons).1.symm

theorem IsSeamless.eq_nil_of_seam {text more first second : List Char}
    (h : IsSeamless (text ++ more)) (he : '_' :: '_' :: first = more ++ '_' :: '_' :: second) :
    more = [] := by
  cases more with
  | nil => rfl
  | cons c more =>
      obtain ⟨rfl, hbehind⟩ := List.cons.inj he
      cases more with
      | nil =>
          obtain ⟨d, rest, hcons, -⟩ := h text [] rfl
          cases hcons
      | cons d more =>
          obtain ⟨rfl, -⟩ := List.cons.inj hbehind
          exact absurd rfl (h.ne_append_seam text more)

theorem IsSeamless.seam_inj {first second behind behind' : List Char} (hfirst : IsSeamless first)
    (hsecond : IsSeamless second)
    (he : first ++ '_' :: '_' :: behind = second ++ '_' :: '_' :: behind') :
    first = second ∧ behind = behind' := by
  rcases List.append_eq_append_iff.mp he with ⟨more, rfl, hseam⟩ | ⟨more, rfl, hseam⟩
  · obtain rfl := hsecond.eq_nil_of_seam hseam
    simpa using hseam
  · obtain rfl := hfirst.eq_nil_of_seam hseam
    simpa [eq_comm] using hseam

/-- The parts between the seams, empty ones among them, are got back from the joined text. -/
theorem joinWith_seam_inj {first second : List (List Char)} (hne : first ≠ []) (hne' : second ≠ [])
    (hfirst : ∀ part ∈ first, IsSeamless part) (hsecond : ∀ part ∈ second, IsSeamless part)
    (he : joinWith ['_', '_'] first = joinWith ['_', '_'] second) : first = second := by
  induction first generalizing second with
  | nil => exact absurd rfl hne
  | cons part rest ih =>
      rw [List.forall_mem_cons] at hfirst
      obtain ⟨part', rest', rfl⟩ := List.exists_cons_of_ne_nil hne'
      rw [List.forall_mem_cons] at hsecond
      cases rest with
      | nil =>
          cases rest' with
          | nil => exact congrArg (fun part => [part]) he
          | cons next' more' =>
              rw [joinWith_cons_cons, List.append_assoc] at he
              exact absurd he (hfirst.1.ne_append_seam _ _)
      | cons next more =>
          cases rest' with
          | nil =>
              rw [joinWith_cons_cons, List.append_assoc] at he
              exact absurd he.symm (hsecond.1.ne_append_seam _ _)
          | cons next' more' =>
              rw [joinWith_cons_cons, joinWith_cons_cons, List.append_assoc, List.append_assoc] at he
              obtain ⟨rfl, hrest⟩ := hfirst.1.seam_inj hsecond.1 he
              rw [ih (by simp) (by simp) hfirst.2 hsecond.2 hrest]

end TypedLogging.Text
