import TypedLogging.Proofs.Source.Grammar.Level
import TypedLogging.Proofs.Source.Reading

namespace TypedLogging.Source

open Lexer (IsIdent)
open Reader

/-- A visibility is written as nothing, as `pub`, or as `pub` and something in parentheses. -/
inductive IsVisibility : Code → Prop
  | inherited : IsVisibility []
  | plain : IsVisibility [.word "pub"]
  | restricted {body : Code} (h : body.Legible) : IsVisibility [.word "pub", .group .paren body]

section Reading

variable {trees : List TokenTree} {behind : Cursor} {isWritten : Bool} {text : String} {code : Code}

theorem isVisibility_of_read (hlexed : Lexed trees)
    (h : Grammar.visibility ⟨trees, [], []⟩ = some (isWritten, behind)) :
    IsVisibility behind.written.reverse := by
  obtain ⟨found, between, hpub, h⟩ := bind_eq_some.mp h
  have hreached : Reached trees between.rest :=
    Reached.passes (.refl hlexed) (Orderly.passes (.refl hlexed) hpub).1
  rcases optionalWord_eq_some hpub with ⟨rfl, hword⟩ | ⟨rfl, rfl⟩
  · obtain ⟨rest, -, rfl⟩ := word_eq_some hword
    obtain ⟨_, _, hattempt, hpure⟩ := bind_eq_some.mp h
    cases hpure
    rcases attempt_eq_some hattempt with ⟨_, -, hrestriction⟩ | ⟨-, rfl⟩
    · obtain ⟨-, _, body, -, -, hbody, hwrote, -⟩ := Orderly.of_group hreached hrestriction
      rw [hwrote]
      exact .restricted hbody
    · exact .plain
  · cases h
    exact .inherited

theorem isVisibility_of_text (h : visibilityOfText? text = some code) : IsVisibility code := by
  simp only [visibilityOfText?, parseText, parseTrees, Option.map_eq_some_iff,
    Option.bind_eq_bind, Option.bind_eq_some_iff] at h
  obtain ⟨⟨isWritten, _⟩, ⟨trees, hlex, hrun⟩, rfl⟩ := h
  unfold run at hrun
  split at hrun
  next hread =>
    cases hrun
    exact isVisibility_of_read (lexed_of_lex hlex) hread
  next => cases hrun

end Reading

section Trees

variable {visible : Code} {rest : List TokenTree}

theorem legible_pub : Code.Legible [.word "pub"] := legible_of_isIdent (by decide +kernel)

theorem IsVisibility.legible (h : IsVisibility visible) : visible.Legible := by
  cases h with
  | inherited => exact ⟨_, Code.gives_nil⟩
  | plain => exact legible_pub
  | restricted hbody => exact legible_pub.append (hbody.group .paren)

theorem IsVisibility.not_constant (h : IsVisibility visible) :
    ¬Code.trees (words ["pub", "const"]) <+: visible.trees ++ .ident "fn" :: rest := by
  have hconstant : Code.trees (words ["pub", "const"]) = [.ident "pub", .ident "const"] := by decide +kernel
  have hpub : Code.trees [.word "pub"] = [.ident "pub"] := by decide +kernel
  rw [hconstant]
  cases h with
  | inherited => simp [Code.trees_nil]
  | plain => simp [hpub]
  | @restricted body hbody =>
      have htrees : Code.trees [.word "pub", .group .paren body] = [.ident "pub", .group .paren body.trees] := by
        rw [← List.singleton_append, Code.trees_append legible_pub (hbody.group .paren), hpub,
          Code.trees_group hbody]
        rfl
      simp [htrees]

end Trees

end TypedLogging.Source
