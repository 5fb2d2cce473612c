import TypedLogging.Proofs.Source.Lexed

namespace TypedLogging.Source

open Text Lexer

mutual

/-- A tree without a record of what punctuation stands side by side. -/
def TokenTree.spaced : TokenTree → TokenTree
  | .ident name => .ident name
  | .punct char _ => .punct char false
  | .literal text => .literal text
  | .group delimiter trees => .group delimiter (spacedTrees trees)

def spacedTrees : List TokenTree → List TokenTree
  | [] => []
  | tree :: rest => tree.spaced :: spacedTrees rest

end

/-- The text is read as the trees, punctuation side by side or not. -/
def ReadsAs (text : List Char) (trees : List TokenTree) : Prop :=
  ∃ found, Reads text found ∧ spacedTrees found = trees

/-- The code is read back as the trees, whatever code follows. -/
def Code.Gives (code : Code) (trees : List TokenTree) : Prop :=
  ∀ ⦃more rest⦄, ReadsAs (Code.text more).toList rest →
    ReadsAs (Code.text (code ++ more)).toList (trees ++ rest)

def Code.Legible (code : Code) : Prop := ∃ trees, code.Gives trees

section Spacing

variable {trees more : List TokenTree}

theorem spacedTrees_append : spacedTrees (trees ++ more) = spacedTrees trees ++ spacedTrees more := by
  induction trees with
  | nil => rfl
  | cons tree rest ih => rw [List.cons_append, spacedTrees, spacedTrees, ih, List.cons_append]

theorem readsAs_of_reads {text : List Char} (h : Reads text trees) : ReadsAs text (spacedTrees trees) :=
  ⟨trees, h, rfl⟩

theorem readsAs_nil : ReadsAs [] [] := ⟨[], reads_nil, rfl⟩

theorem trees_of_reads_nil (h : Reads [] trees) : trees = [] := by
  have hend : assemble? [] (trees.reverse ++ []) 0 [] = some trees := by simp [assemble?]
  have hread := h.read stops_nil hend
  simpa [assemble?, eq_comm] using hread

theorem trees_of_readsAs_nil (h : ReadsAs [] trees) : trees = [] := by
  obtain ⟨found, hreads, rfl⟩ := h
  rw [trees_of_reads_nil hreads]
  rfl

theorem ReadsAs.gap {front text gap : List Char} {c : Char} (hfront : ReadsAs front trees)
    (hgap : Skips (c :: gap)) (hc : c ∈ stops) (htext : ReadsAs text more) :
    ReadsAs (front ++ (c :: gap ++ text)) (trees ++ more) := by
  obtain ⟨found, hreads, rfl⟩ := hfront
  obtain ⟨further, hfurther, rfl⟩ := htext
  exact ⟨found ++ further, hreads.gap hgap hc hfurther, spacedTrees_append⟩

theorem ReadsAs.blank {front text : List Char} (hfront : ReadsAs front trees) (htext : ReadsAs text more) :
    ReadsAs (front ++ ' ' :: text) (trees ++ more) :=
  hfront.gap skips_blank (by decide) htext

theorem ReadsAs.behind {gap text : List Char} (h : ReadsAs text trees) (hgap : Skips gap)
    (hbegins : ¬['/', '*'] <+: gap ++ text) : ReadsAs (gap ++ text) trees := by
  obtain ⟨found, hreads, rfl⟩ := h
  refine ⟨found, ⟨hbegins, fun _ _ _ _ _ hstops hresult => ?_⟩, rfl⟩
  rw [List.length_append, List.append_assoc, Nat.add_assoc]
  exact hgap (hreads.read hstops hresult)

theorem ReadsAs.group {body : String} (h : ReadsAs body.toList trees) (delimiter : Delimiter) :
    ReadsAs (delimiter.surround body).toList [.group delimiter trees] := by
  obtain ⟨found, hreads, rfl⟩ := h
  exact ⟨_, hreads.group delimiter, rfl⟩

end Spacing

section Codes

variable {code more body : Code} {trees rest : List TokenTree} {text : String} {c : Char}

theorem Code.gives_nil : Code.Gives [] [] := fun _ _ h => h

theorem Code.Gives.append (h : code.Gives trees) (hmore : more.Gives rest) :
    Code.Gives (code ++ more) (trees ++ rest) := by
  intro further final hfurther
  rw [List.append_assoc, List.append_assoc]
  exact h (hmore hfurther)

theorem Code.Gives.readsAs (h : code.Gives trees) : ReadsAs (Code.text code).toList trees := by
  have hread := @h [] [] readsAs_nil
  rwa [List.append_nil, List.append_nil] at hread

theorem Code.Legible.append (h : code.Legible) (hmore : more.Legible) : Code.Legible (code ++ more) :=
  let ⟨_, hcode⟩ := h
  let ⟨_, hmore⟩ := hmore
  ⟨_, hcode.append hmore⟩

theorem Code.text_cons_word (text : String) {more : Code} (hne : more ≠ []) :
    Code.text (.word text :: more) = text ++ " " ++ Code.text more := by
  obtain ⟨piece, more, rfl⟩ := List.exists_cons_of_ne_nil hne
  rw [Code.text]
  · rfl
  · simp

theorem Code.text_cons_group (delimiter : Delimiter) (body : Code) {more : Code} (hne : more ≠ []) :
    Code.text (.group delimiter body :: more) =
      delimiter.surround (Code.text body) ++ " " ++ Code.text more := by
  obtain ⟨piece, more, rfl⟩ := List.exists_cons_of_ne_nil hne
  rw [Code.text]
  · rfl
  · simp

theorem Code.text_cons_glued (text : String) (more : Code) :
    Code.text (.glued text :: more) = text ++ Code.text more := by
  cases more with
  | nil => simp [Code.text, Piece.text]
  | cons piece more => rw [Code.text]; simp

theorem exists_text_word (text : String) (more : Code) :
    ∃ tail, (Code.text (.word text :: more)).toList = text.toList ++ tail ∧
      ∀ behind, Stops behind → Stops (tail ++ behind) := by
  cases more with
  | nil => exact ⟨[], by simp [Code.text, Piece.text], fun behind h => h⟩
  | cons piece more =>
      refine ⟨' ' :: (Code.text (piece :: more)).toList, ?_, fun _ _ => stops_cons.mpr (by decide)⟩
      rw [Code.text_cons_word text (List.cons_ne_nil piece more)]
      simp

theorem exists_text_cons (piece : Piece) (more : Code) :
    ∃ tail, (Code.text (piece :: more)).toList = (Piece.text piece).toList ++ tail := by
  cases piece with
  | word text =>
      obtain ⟨tail, htail, -⟩ := exists_text_word text more
      exact ⟨tail, by rw [htail, Piece.text]⟩
  | glued text => exact ⟨(Code.text more).toList, by rw [Code.text_cons_glued, Piece.text]; simp⟩
  | group delimiter body =>
      cases more with
      | nil => exact ⟨[], by simp [Code.text]⟩
      | cons piece more =>
          refine ⟨' ' :: (Code.text (piece :: more)).toList, ?_⟩
          rw [Code.text_cons_group delimiter body (List.cons_ne_nil piece more), Piece.text]
          simp

theorem Code.gives_word (h : ReadsAs text.toList trees) : Code.Gives [.word text] trees := by
  intro more rest hmore
  cases more with
  | nil =>
      rw [trees_of_readsAs_nil hmore, List.append_nil]
      simpa [Code.text, Piece.text] using h
  | cons piece more =>
      rw [List.singleton_append, Code.text_cons_word text (List.cons_ne_nil piece more)]
      simpa using h.blank hmore

theorem Code.gives_group (h : body.Gives trees) (delimiter : Delimiter) :
    Code.Gives [.group delimiter body] [.group delimiter trees] := by
  have hgroup := h.readsAs.group delimiter
  intro more rest hmore
  cases more with
  | nil =>
      rw [trees_of_readsAs_nil hmore]
      exact hgroup
  | cons piece more =>
      rw [List.singleton_append, Code.text_cons_group delimiter body (List.cons_ne_nil piece more)]
      simpa using hgroup.blank hmore

theorem Code.Legible.group (h : body.Legible) (delimiter : Delimiter) :
    Code.Legible [.group delimiter body] :=
  let ⟨_, hbody⟩ := h
  ⟨_, Code.gives_group hbody delimiter⟩

theorem Code.Gives.glued (h : code.Gives trees) (hc : c ∈ punctuation) (hquote : c ≠ '\'')
    (hcomment : c = '/' → ∀ more, ∀ d ∈ (Code.text (code ++ more)).toList.head?, d ≠ '/' ∧ d ≠ '*') :
    Code.Gives (.glued (String.singleton c) :: code) (.punct c false :: trees) := by
  intro more rest hmore
  obtain ⟨found, hreads, hfound⟩ := h hmore
  rw [List.cons_append, Code.text_cons_glued, String.toList_append, String.toList_singleton]
  exact ⟨_, hreads.glued hc hquote fun hslash => hcomment hslash more, congrArg _ hfound⟩

theorem Code.Gives.quote (h : Code.Gives (.word text :: code) trees)
    (hstands : ∀ behind, Stops behind → apostropheStands (text.toList ++ behind) = true) :
    Code.Gives (.glued (String.singleton '\'') :: .word text :: code) (.punct '\'' false :: trees) := by
  intro more rest hmore
  obtain ⟨found, hreads, hfound⟩ := h hmore
  obtain ⟨tail, htail, hstops⟩ := exists_text_word text (code ++ more)
  rw [List.cons_append, Code.text_cons_glued, String.toList_append, String.toList_singleton]
  refine ⟨_, hreads.lifetime fun behind hbehind => ?_, congrArg _ hfound⟩
  rw [List.cons_append, htail, List.append_assoc]
  exact hstands _ (hstops behind hbehind)

end Codes

section Words

variable {name text : String}

theorem legible_of_isIdent (h : IsIdent name) : Code.Legible [.word name] :=
  ⟨_, Code.gives_word (readsAs_of_reads (reads_ident h))⟩

theorem legible_of_isLiteral (h : IsLiteral text) : Code.Legible [.word text] :=
  ⟨_, Code.gives_word (readsAs_of_reads h.reads)⟩

theorem legible_of_isOperator (h : isOperator text.toList = true) : Code.Legible [.word text] :=
  ⟨_, Code.gives_word (readsAs_of_reads (reads_operator h))⟩

theorem legible_lifetime (h : IsIdent name) : Code.Legible [.word ("'" ++ name)] :=
  ⟨_, Code.gives_word (readsAs_of_reads (by simpa using reads_lifetime h))⟩

end Words

/-- Whether what stands right behind the tree belongs to it. -/
def TokenTree.isOpen : TokenTree → Bool
  | .punct '/' joint => joint
  | .punct '\'' _ => true
  | _ => false

/-- The trees do not end in the middle of what belongs together. -/
def EndsWell (trees : List TokenTree) : Prop := ∀ tree ∈ trees.getLast?, tree.isOpen = false

section Trees

variable {tree : TokenTree} {trees front rest : List TokenTree} {c : Char}

theorem endsWell_nil : EndsWell [] := fun _ h => nomatch h

theorem endsWell_singleton (h : tree.isOpen = false) : EndsWell [tree] := by
  intro last hlast
  cases hlast
  exact h

theorem EndsWell.append (hfront : EndsWell front) (hrest : EndsWell rest) : EndsWell (front ++ rest) := by
  intro tree htree
  rw [List.getLast?_append] at htree
  cases hlast : rest.getLast? with
  | none =>
      rw [hlast] at htree
      exact hfront tree htree
  | some last =>
      rw [hlast] at htree
      cases htree
      exact hrest tree hlast

theorem EndsWell.tail (h : EndsWell (tree :: front)) : EndsWell front := by
  intro last hlast
  refine h last ?_
  rw [List.getLast?_cons, hlast]
  rfl

theorem EndsWell.cons {next : TokenTree} (h : EndsWell (next :: rest)) : EndsWell (tree :: next :: rest) :=
  fun last hlast => h last (by rwa [List.getLast?_cons_cons] at hlast)

theorem isOpen_punct {joint : Bool} (hquote : c ≠ '\'') (hslash : c = '/' → joint = false) :
    (TokenTree.punct c joint).isOpen = false := by
  unfold TokenTree.isOpen
  split
  next heq =>
    cases heq
    exact hslash rfl
  next heq =>
    cases heq
    exact absurd rfl hquote
  next => rfl

theorem Lexed.endsWell (h : Lexed trees) : EndsWell trees := by
  induction h with
  | nil => exact endsWell_nil
  | ident _ _ ih | literal _ _ ih | group _ _ _ ih => exact (endsWell_singleton rfl).append ih
  | punct _ hquote hslash _ ih => exact (endsWell_singleton (isOpen_punct hquote hslash)).append ih
  | slash _ _ _ ih | lifetime _ ih | quote _ _ ih => exact ih.cons

theorem start_of_text (h : tree.start? = some c) (trees : List TokenTree) (more : Code) :
    (Code.text (Code.ofTrees (tree :: trees) ++ more)).toList.head? = some c := by
  obtain ⟨piece, code, hcode, hpiece⟩ : ∃ piece code, Code.ofTrees (tree :: trees) = piece :: code ∧
      (Piece.text piece).toList.head? = some c := by
    cases tree with
    | ident name => exact ⟨.word name, _, by rw [Code.ofTrees], by rw [Piece.text]; exact h⟩
    | literal text => exact ⟨.word text, _, by rw [Code.ofTrees], by rw [Piece.text]; exact h⟩
    | punct d joint =>
        cases h
        cases joint with
        | true => exact ⟨.glued (String.singleton c), _, by rw [Code.ofTrees], by simp [Piece.text]⟩
        | false => exact ⟨.word (String.singleton c), _, by rw [Code.ofTrees], by simp [Piece.text]⟩
    | group delimiter inner =>
        refine ⟨.group delimiter (Code.ofTrees inner), _, by rw [Code.ofTrees], ?_⟩
        rw [Piece.text, ← h, TokenTree.start?]
        cases delimiter with
        | brace => simp only [Delimiter.surround]; split <;> simp
        | _ => simp [Delimiter.surround]
  obtain ⟨tail, htail⟩ := exists_text_cons piece (code ++ more)
  rw [hcode, List.cons_append, htail, List.head?_append, hpiece]
  rfl

theorem gives_ofTrees_nil : (Code.ofTrees []).Gives (spacedTrees []) := by
  rw [Code.ofTrees, spacedTrees]
  exact Code.gives_nil

theorem gives_sign (hc : c ∈ punctuation) (hquote : c ≠ '\'') :
    Code.Gives [.word (String.singleton c)] [.punct c false] := by
  refine Code.gives_word ⟨operatorTrees [c], ?_, rfl⟩
  rw [String.toList_singleton]
  exact reads_operator (by simp [isOperator, hc, hquote])

/-- Trees from the front of a text are read back as they were. -/
theorem gives_ofTrees (h : Lexed (front ++ rest)) (hends : EndsWell front) :
    (Code.ofTrees front).Gives (spacedTrees front) := by
  generalize htrees : front ++ rest = trees at h
  induction h generalizing front rest with
  | nil =>
      obtain ⟨rfl, -⟩ := List.append_eq_nil_iff.mp htrees
      exact gives_ofTrees_nil
  | ident h _ ih =>
      cases front with
      | nil => exact gives_ofTrees_nil
      | cons tree front =>
          cases htrees
          rw [Code.ofTrees, spacedTrees]
          exact (Code.gives_word (readsAs_of_reads (reads_ident h))).append (ih hends.tail rfl)
  | literal h _ ih =>
      cases front with
      | nil => exact gives_ofTrees_nil
      | cons tree front =>
          cases htrees
          rw [Code.ofTrees, spacedTrees]
          exact (Code.gives_word (readsAs_of_reads h.reads)).append (ih hends.tail rfl)
  | @group delimiter inner further hinner _ ihinner ih =>
      cases front with
      | nil => exact gives_ofTrees_nil
      | cons tree front =>
          cases htrees
          have hgroup := @ihinner _ [] hinner.endsWell (List.append_nil _)
          rw [Code.ofTrees, spacedTrees]
          exact (Code.gives_group hgroup delimiter).append (ih hends.tail rfl)
  | @punct c joint further hc hquote hslash _ ih =>
      cases front with
      | nil => exact gives_ofTrees_nil
      | cons tree front =>
          cases htrees
          have hrest := ih hends.tail rfl
          cases joint with
          | true =>
              rw [Code.ofTrees, spacedTrees]
              exact hrest.glued hc hquote fun h => absurd (hslash h) (by simp)
          | false =>
              rw [Code.ofTrees, spacedTrees]
              exact (gives_sign hc hquote).append hrest
  | slash hnext hcomment _ ih =>
      cases front with
      | nil => exact gives_ofTrees_nil
      | cons tree front =>
          cases front with
          | nil =>
              cases htrees
              exact absurd (hends _ rfl) (by decide)
          | cons next front =>
              cases htrees
              rw [Code.ofTrees, spacedTrees]
              refine (ih hends.tail rfl).glued (by decide) (by decide) fun _ more d hd => ?_
              rw [start_of_text hnext] at hd
              cases hd
              exact hcomment
  | lifetime hlexed ih =>
      cases front with
      | nil => exact gives_ofTrees_nil
      | cons tree front =>
          cases front with
          | nil =>
              cases htrees
              exact absurd (hends _ rfl) (by decide)
          | cons next front =>
              cases htrees
              have hrest := ih hends.tail rfl
              rw [Code.ofTrees] at hrest
              rw [Code.ofTrees, Code.ofTrees, spacedTrees]
              exact hrest.quote fun behind hstops =>
                apostropheStands_of_names (.of_stops hlexed.isIdent.spells hstops.stopsIdent)
  | quote hstands _ ih =>
      cases front with
      | nil => exact gives_ofTrees_nil
      | cons tree front =>
          cases front with
          | nil =>
              cases htrees
              exact absurd (hends _ rfl) (by decide)
          | cons next front =>
              cases htrees
              have hrest := ih hends.tail rfl
              rw [Code.ofTrees] at hrest
              rw [Code.ofTrees, Code.ofTrees, spacedTrees]
              exact hrest.quote hstands

end Trees

end TypedLogging.Source
