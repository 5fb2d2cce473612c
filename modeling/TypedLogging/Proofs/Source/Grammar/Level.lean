import TypedLogging.Proofs.Source.Grammar.Item
import TypedLogging.Source.Parse

namespace TypedLogging.Source

open Reader
open Judged (IsSound)

namespace Grammar

instance isOrderly_next {below : Grammar} [IsOrderly below] : IsOrderly {
    expr := exprOf below
    unary := unaryOf below
    early := earlyOf below
    climb := climbOf below
    type := typeOf below
    bound := boundOf below
    param := paramOf below
    pattern := patternOf below
    fields := fieldsOf below
    statements := statementsOf below
    item := itemOf below
    useTree := useTreeOf below } := by
  constructor <;> intros <;> infer_instance

theorem isOrderly_level (n : Nat) : IsOrderly (level n) := by
  induction n with
  | zero =>
      constructor <;> intros <;>
        first | exact inferInstanceAs (Orderly _ failure) | exact ⟨fun _ _ _ _ h => nomatch h⟩
  | succ n ih => exact isOrderly_next

end Grammar

section Texts

variable {α : Type} [Judged α] {a : α} {code : Code} {trees : List TokenTree} {text : String} {file : File}

theorem sound_of_parseTrees {reader : Grammar → Reader α}
    (horderly : ∀ g [Grammar.IsOrderly g] origin, Orderly origin (reader g)) (hlexed : Lexed trees)
    (h : parseTrees reader trees = some (a, code)) : IsSound a ∧ code.Legible := by
  have := Grammar.isOrderly_level (Grammar.levelFor trees)
  unfold parseTrees run at h
  split at h
  next hread =>
    cases h
    obtain ⟨⟨-, ⟨code, hcode, hwrote⟩, -⟩, hsound⟩ := (horderly _ trees).passes (.refl hlexed) hread
    dsimp only at hwrote
    rw [hwrote, List.append_nil, List.reverse_reverse]
    exact ⟨hsound, hcode⟩
  next => cases h

theorem sound_of_parseText {reader : Grammar → Reader α}
    (horderly : ∀ g [Grammar.IsOrderly g] origin, Orderly origin (reader g))
    (h : parseText reader text = some (a, code)) : IsSound a ∧ code.Legible := by
  obtain ⟨trees, hlex, hparse⟩ := Option.bind_eq_some_iff.mp h
  exact sound_of_parseTrees horderly (lexed_of_lex hlex) hparse

theorem legible_of_typeOfText? (h : typeOfText? text = some code) : code.Legible := by
  obtain ⟨⟨shape, _⟩, hparse, rfl⟩ := Option.map_eq_some_iff.mp h
  exact (sound_of_parseText (fun _ _ _ => inferInstance) hparse).2

theorem legible_of_pathOfText? (h : pathOfText? text = some code) : code.Legible := by
  obtain ⟨⟨path, _⟩, hparse, rfl⟩ := Option.map_eq_some_iff.mp h
  exact (sound_of_parseText (fun _ _ _ => inferInstance) hparse).2

theorem isItemName_of_file (h : File.ofText? text = some file) :
    ∀ found ∈ file.types, IsItemName found.item.name := by
  simp only [File.ofText?, Option.bind_eq_bind, Option.bind_eq_some_iff] at h
  obtain ⟨⟨items, _⟩, hparse, hfile⟩ := h
  cases hfile
  exact areNamed_items.mpr (sound_of_parseText (fun _ _ _ => inferInstance) hparse).1

end Texts

end TypedLogging.Source
