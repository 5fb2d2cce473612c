import TypedLogging.Proofs.Source.Identifiers
import TypedLogging.Text.PathText

namespace TypedLogging.Source

open Text Lexer

def identsOf (trees : List TokenTree) : List String :=
  trees.filterMap fun
    | .ident name => some name
    | _ => none

namespace Lexer

variable {outer : List (Delimiter × List TokenTree)} {trees leaves result : List TokenTree}
  {fuel : Nat} {text behind : List Char} {name : String}

/-- The trees outside of all open groups. -/
def outermost : List (Delimiter × List TokenTree) → List TokenTree → List TokenTree
  | [], trees => trees
  | (_, before) :: outer, _ => outermost outer before

theorem outermost_append (outer : List (Delimiter × List TokenTree)) (more trees : List TokenTree) :
    outermost outer trees <:+ outermost outer (more ++ trees) := by
  cases outer with
  | nil => exact List.suffix_append more trees
  | cons opened outer => exact List.suffix_refl _

/-- Trees that have been read stay. -/
theorem assemble?_keeps (h : assemble? outer trees fuel text = some result) :
    (outermost outer trees).reverse <+: result := by
  fun_induction assemble? outer trees fuel text with
  | case1 outer trees _ hempty =>
      cases h
      rw [List.isEmpty_iff.mp hempty]
      exact List.prefix_refl _
  | case2 | case3 | case4 | case7 | case9 => cases h
  | case5 outer trees fuel text _ leaves rest _ ih =>
      exact (List.reverse_prefix.mpr (outermost_append outer leaves.reverse trees)).trans (ih h)
  | case6 outer trees fuel text _ delimiter rest _ ih => exact ih h
  | case8 trees fuel text _ rest delimiter before further _ ih =>
      exact (List.reverse_prefix.mpr (outermost_append further [_] before)).trans (ih h)

theorem assemble?_leaves (hlexeme : lexeme? text = some (.leaves leaves, behind)) (hne : text ≠ []) :
    assemble? outer trees (fuel + 1) text = assemble? outer (leaves.reverse ++ trees) fuel behind := by
  rw [assemble?, hlexeme]
  exact hne

end Lexer

section Lexed

variable {trees : List TokenTree} {text name : String}

theorem dropByteOrderMark_of_isPathChar {text : List Char} (h : ∀ c ∈ text, isPathChar c = true) :
    dropByteOrderMark text = text := by
  cases text with
  | nil => rfl
  | cons c rest =>
      have hc : c ≠ byteOrderMark := by
        rintro rfl
        exact absurd (h byteOrderMark List.mem_cons_self) (by decide +kernel)
      rw [dropByteOrderMark, if_neg hc]

theorem exists_leaf_of_assemble? {trees result : List TokenTree} {fuel : Nat} {text : List Char}
    (h : assemble? [] trees fuel text = some result) (hchars : ∀ c ∈ text, isPathChar c = true)
    (hne : text ≠ []) : ∃ tree behind rest, leaf? text = some (tree, behind) ∧
      assemble? [] (tree :: trees) rest behind = some result := by
  cases text with
  | nil => exact absurd rfl hne
  | cons c text =>
      cases fuel with
      | zero => cases h
      | succ fuel =>
          have hlexeme := lexeme?_of_isPathChar (hchars c List.mem_cons_self) text
          cases hleaf : leaf? (c :: text) with
          | none =>
              rw [hleaf] at hlexeme
              rw [assemble?, hlexeme] at h
              · cases h
              · exact List.cons_ne_nil _ _
          | some found =>
              obtain ⟨tree, behind⟩ := found
              rw [hleaf] at hlexeme
              rw [assemble?_leaves hlexeme hne] at h
              exact ⟨tree, behind, fuel, rfl, h⟩

theorem eq_of_lex_ident (h : lex text = some [.ident name])
    (hchars : ∀ c ∈ text.toList, isPathChar c = true) : text = name := by
  rw [lex, lexChars, dropByteOrderMark_of_isPathChar hchars] at h
  have hne : text.toList ≠ [] := by
    intro hempty
    rw [hempty] at h
    cases h
  obtain ⟨tree, behind, fuel, hleaf, h⟩ := exists_leaf_of_assemble? h hchars hne
  obtain rfl : tree = .ident name := by simpa [outermost] using assemble?_keeps h
  have htext := (isIdent_of_ident? (ident?_of_leaf? hleaf)).2
  have hbehind : behind = [] := by
    by_contra hmore
    have hrest : ∀ c ∈ behind, isPathChar c = true := fun c hc =>
      hchars c (htext ▸ List.mem_append_right _ hc)
    obtain ⟨second, _, _, -, h⟩ := exists_leaf_of_assemble? h hrest hmore
    have hlength := (assemble?_keeps h).length_le
    simp [outermost] at hlength
  rw [hbehind, List.append_nil] at htext
  exact String.toList_injective htext

def segmentText (name : String) : List Char := ':' :: ':' :: name.toList

def segmentTrees (name : String) : List TokenTree :=
  [.punct ':' true, .punct ':' false, .ident name]

def pathTrees : List String → List TokenTree
  | [] => []
  | name :: rest => .ident name :: rest.flatMap segmentTrees

theorem identsOf_pathTrees (names : List String) : identsOf (pathTrees names) = names := by
  cases names with
  | nil => rfl
  | cons name rest =>
      have hrest : identsOf (rest.flatMap segmentTrees) = rest := by
        induction rest with
        | nil => rfl
        | cons next rest ih => exact congrArg (next :: ·) ih
      exact congrArg (name :: ·) hrest

theorem mem_pathTrees {names : List String} {tree : TokenTree} (h : tree ∈ pathTrees names) :
    (∃ name, tree = .ident name) ∨ ∃ joint, tree = .punct ':' joint := by
  cases names with
  | nil => cases h
  | cons name rest =>
      rcases List.mem_cons.mp h with rfl | h
      · exact .inl ⟨name, rfl⟩
      · obtain ⟨next, -, hnext⟩ := List.mem_flatMap.mp h
        simp only [segmentTrees, List.mem_cons, List.not_mem_nil, or_false] at hnext
        rcases hnext with rfl | rfl | rfl
        · exact .inr ⟨true, rfl⟩
        · exact .inr ⟨false, rfl⟩
        · exact .inl ⟨next, rfl⟩

theorem toList_joinPath_cons (name : String) (rest : List String) :
    (joinPath (name :: rest)).toList = name.toList ++ rest.flatMap segmentText := by
  rw [joinPath, String.toList_intercalate]
  induction rest generalizing name with
  | nil => simp
  | cons next rest ih =>
      rw [List.map_cons, List.map_cons, List.intercalate_cons_cons, ← List.map_cons, ih,
        List.flatMap_cons]
      simp [segmentText]

theorem joinPath_singleton (name : String) : joinPath [name] = name := by
  rw [← String.toList_inj, toList_joinPath_cons, List.flatMap_nil, List.append_nil]

theorem toList_joinPath_concat {names : List String} (hne : names ≠ []) (last : String) :
    (joinPath (names ++ [last])).toList = (joinPath names).toList ++ segmentText last := by
  obtain ⟨name, rest, rfl⟩ := List.exists_cons_of_ne_nil hne
  rw [List.cons_append, toList_joinPath_cons, toList_joinPath_cons, List.flatMap_append,
    List.flatMap_singleton, List.append_assoc]

theorem stopsIdent_segments (rest : List String) : StopsIdent (rest.flatMap segmentText) := by
  cases rest with
  | nil => exact fun d hd => nomatch hd
  | cons next rest =>
      intro d hd
      obtain rfl : ':' = d := Option.some.inj hd
      decide

theorem assemble?_segments {rest : List String} (h : ∀ name ∈ rest, IsIdent name)
    (trees : List TokenTree) {fuel : Nat} (hfuel : (rest.flatMap segmentText).length ≤ fuel) :
    assemble? [] trees fuel (rest.flatMap segmentText) =
      some (trees.reverse ++ rest.flatMap segmentTrees) := by
  induction rest generalizing trees fuel with
  | nil => simp [assemble?]
  | cons next rest ih =>
      rw [List.forall_mem_cons] at h
      have hnext := lexeme?_of_ident? (ident?_append h.1 (stopsIdent_segments rest))
      obtain ⟨c, more, hname, hstart⟩ := h.1.spells.head
      have hcolons : ∀ behind, lexeme? (':' :: ':' :: behind) =
          some (.leaves [.punct ':' true], ':' :: behind) := fun behind => lexeme?_colon _
      have hcolon : lexeme? (':' :: (next.toList ++ rest.flatMap segmentText)) =
          some (.leaves [.punct ':' false], next.toList ++ rest.flatMap segmentText) := by
        rw [lexeme?_colon, hname, List.cons_append, punctEnd?_eq_none hstart]
        rfl
      rw [List.flatMap_cons, List.length_append, segmentText, List.length_cons, List.length_cons,
        hname, List.length_cons] at hfuel
      obtain ⟨left, rfl⟩ : ∃ left, fuel = left + 3 := ⟨fuel - 3, by omega⟩
      rw [List.flatMap_cons, segmentText, List.cons_append, List.cons_append,
        assemble?_leaves (hcolons _) (List.cons_ne_nil _ _),
        assemble?_leaves hcolon (List.cons_ne_nil _ _), assemble?_leaves hnext (by simp [hname]),
        ih h.2 _ (by omega), List.flatMap_cons]
      simp [segmentTrees]

theorem isPathChar_of_mem_joinPath {names : List String} (h : ∀ name ∈ names, IsIdent name) :
    ∀ c ∈ (joinPath names).toList, isPathChar c = true := by
  have hname : ∀ name ∈ names, ∀ c ∈ name.toList, isPathChar c = true :=
    fun name hname c hc => ((h name hname).spells.chars c hc).1
  cases names with
  | nil => exact fun c hc => nomatch hc
  | cons name rest =>
      intro c hc
      rw [toList_joinPath_cons, List.mem_append, List.mem_flatMap] at hc
      rcases hc with hc | ⟨next, hnext, hc⟩
      · exact hname name List.mem_cons_self c hc
      · rw [segmentText, List.mem_cons, List.mem_cons, ← or_assoc, or_self] at hc
        rcases hc with rfl | hc
        · decide
        · exact hname next (List.mem_cons_of_mem _ hnext) c hc

theorem lex_joinPath {names : List String} (h : ∀ name ∈ names, IsIdent name) :
    lex (joinPath names) = some (pathTrees names) := by
  have hchars := isPathChar_of_mem_joinPath h
  rw [lex, lexChars, dropByteOrderMark_of_isPathChar hchars]
  cases names with
  | nil => rfl
  | cons name rest =>
      rw [List.forall_mem_cons] at h
      have hname := lexeme?_of_ident? (ident?_append h.1 (stopsIdent_segments rest))
      obtain ⟨c, more, hhead, -⟩ := h.1.spells.head
      rw [toList_joinPath_cons]
      obtain ⟨left, hleft⟩ : ∃ left, (name.toList ++ rest.flatMap segmentText).length = left + 1 :=
        ⟨_, by rw [hhead, List.cons_append, List.length_cons]⟩
      rw [hleft, assemble?_leaves hname (by simp [hhead]), assemble?_segments h.2]
      · rfl
      · rw [hhead, List.cons_append, List.length_cons, List.length_append] at hleft
        omega

end Lexed

end TypedLogging.Source
