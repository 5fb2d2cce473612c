import TypedLogging.Proofs.Source.Extent
import TypedLogging.Proofs.Source.Lexing

namespace TypedLogging.Source

open Text Lexer

/-- Wherever the text stands before something that stops a token, it is read as the trees. -/
structure Reads (text : List Char) (trees : List TokenTree) : Prop where
  begins : ¬['/', '*'] <+: text
  read : ∀ ⦃outer before behind fuel result⦄, Stops behind →
    assemble? outer (trees.reverse ++ before) fuel behind = some result →
      assemble? outer before (text.length + fuel) (text ++ behind) = some result

/-- Nothing is read of the text, whatever stands behind it. -/
def Skips (text : List Char) : Prop :=
  ∀ ⦃outer before behind fuel result⦄, assemble? outer before fuel behind = some result →
    assemble? outer before (text.length + fuel) (text ++ behind) = some result

section Composing

variable {outer : List (Delimiter × List TokenTree)} {before trees more result : List TokenTree}
  {fuel : Nat} {c : Char} {text front behind : List Char} {delimiter : Delimiter}

theorem assemble?_opened (h : lexeme? text = some (.opened delimiter, behind)) (hne : text ≠ []) :
    assemble? outer before (fuel + 1) text = assemble? ((delimiter, before) :: outer) [] fuel behind := by
  rw [assemble?, h]
  exact hne

theorem assemble?_closed (h : lexeme? text = some (.closed delimiter, behind)) (hne : text ≠ []) :
    assemble? ((delimiter, before) :: outer) trees (fuel + 1) text =
      assemble? outer (.group delimiter trees.reverse :: before) fuel behind := by
  rw [assemble?, h]
  · exact if_pos rfl
  · exact hne

theorem assemble?_succ (h : assemble? outer before fuel text = some result) :
    assemble? outer before (fuel + 1) text = some result := by
  fun_induction assemble? outer before fuel text with
  | case1 outer trees fuel hempty =>
      rw [assemble?, if_pos hempty]
      exact h
  | case2 | case3 | case4 | case7 | case9 => cases h
  | case5 outer trees fuel text hne leaves rest hlexeme ih =>
      rw [assemble?_leaves hlexeme hne]
      exact ih h
  | case6 outer trees fuel text hne delimiter rest hlexeme ih =>
      rw [assemble?_opened hlexeme hne]
      exact ih h
  | case8 trees fuel text hne rest delimiter before further hlexeme ih =>
      rw [assemble?_closed hlexeme hne]
      exact ih h

theorem assemble?_add (h : assemble? outer before fuel text = some result) (more : Nat) :
    assemble? outer before (more + fuel) text = some result := by
  induction more with
  | zero => rwa [Nat.zero_add]
  | succ more ih =>
      rw [Nat.add_right_comm]
      exact assemble?_succ ih

theorem reads_nil : Reads [] [] where
  begins h := by simp at h
  read outer before behind fuel result _ h := by simpa using h

theorem Skips.append (hfront : Skips front) (htext : Skips text) : Skips (front ++ text) := by
  intro outer before behind fuel result h
  rw [List.length_append, List.append_assoc, Nat.add_assoc]
  exact hfront (htext h)

theorem skips_gap (h : ∀ behind, gap? (c :: text ++ behind) = some behind) : Skips (c :: text) := by
  intro outer before behind fuel result hbehind
  have hlexeme : lexeme? (c :: text ++ behind) = some (.leaves [], behind) := by
    rw [lexeme?.eq_def, h]
  rw [List.length_cons, Nat.add_right_comm, assemble?_leaves hlexeme (by simp)]
  exact assemble?_add hbehind text.length

theorem skips_blank : Skips [' '] := skips_gap fun behind => by
  simp [gap?, isPlainLineComment, isPlainBlockComment, startsWith, isGapChar, isBlank, inRanges,
    blankRanges]

theorem skips_break : Skips ['\n'] := skips_gap fun behind => by
  simp [gap?, isPlainLineComment, isPlainBlockComment, startsWith, isGapChar, isBlank, inRanges,
    blankRanges]

theorem splitLine_append {line : List Char} (h : '\n' ∉ line) (behind : List Char) :
    (splitLine (line ++ '\n' :: behind)).2 = '\n' :: behind := by
  induction line with
  | nil => rfl
  | cons c rest ih =>
      rw [List.mem_cons, not_or] at h
      rw [List.cons_append]
      unfold splitLine
      split
      next heq => cases heq
      next heq => exact absurd (List.cons.inj heq).1.symm h.1
      next further heq =>
        cases rest with
        | nil => exact congrArg (List.cons '\n') (List.cons.inj (List.cons.inj heq).2).2.symm
        | cons d more => exact absurd (List.cons.inj (List.cons.inj heq).2).1.symm fun he => h.2 (he ▸ List.mem_cons_self)
      next heq =>
        cases heq
        exact ih h.2

theorem skips_comment {line : List Char} (h : '\n' ∉ line) : Skips ("// ".toList ++ line ++ ['\n']) := by
  intro outer before behind fuel result hbehind
  have htext : "// ".toList ++ line ++ ['\n'] ++ behind = '/' :: '/' :: ' ' :: (line ++ '\n' :: behind) := by
    simp
  have hlexeme : lexeme? ('/' :: '/' :: ' ' :: (line ++ '\n' :: behind)) =
      some (.leaves [], '\n' :: behind) := by
    have hline : '\n' ∉ '/' :: '/' :: ' ' :: line := by simpa using h
    have hsplit := splitLine_append hline behind
    simp only [List.cons_append] at hsplit
    rw [lexeme?.eq_def, gap?, if_pos (by simp [isPlainLineComment, startsWith, List.isPrefixOf]), hsplit]
  have hlength : ("// ".toList ++ line ++ ['\n']).length + fuel =
      line.length + 2 + (['\n'].length + fuel) + 1 := by
    simp
    omega
  rw [hlength, htext, assemble?_leaves hlexeme (by simp)]
  exact assemble?_add (skips_break hbehind) _

theorem begins_append (h : ¬['/', '*'] <+: front) (hc : c ∈ stops) : ¬['/', '*'] <+: front ++ c :: text := by
  have hstops : '/' ∉ stops ∧ '*' ∉ stops := by decide
  intro hcomment
  match front with
  | [] => exact hstops.1 ((List.cons_prefix_cons.mp hcomment).1 ▸ hc)
  | [d] =>
      have hsecond := (List.cons_prefix_cons.mp hcomment).2
      exact hstops.2 ((List.cons_prefix_cons.mp hsecond).1 ▸ hc)
  | d :: e :: more => exact h (by simpa using hcomment)

theorem Reads.gap {gap : List Char} (hfront : Reads front trees) (hgap : Skips (c :: gap))
    (hc : c ∈ stops) (htext : Reads text more) : Reads (front ++ (c :: gap ++ text)) (trees ++ more) where
  begins := begins_append hfront.begins hc
  read outer before behind fuel result hbehind h := by
    rw [List.length_append, List.length_append, List.append_assoc, List.append_assoc, Nat.add_assoc,
      Nat.add_assoc]
    refine hfront.read (stops_cons.mpr hc) (hgap (htext.read hbehind ?_))
    simpa using h

theorem reads_lexeme (hhead : c ≠ '/')
    (h : ∀ ⦃behind⦄, Stops behind → lexeme? (c :: text ++ behind) = some (.leaves trees, behind)) :
    Reads (c :: text) trees where
  begins hcomment := hhead (List.cons_prefix_cons.mp hcomment).1.symm
  read outer before behind fuel result hstops hbehind := by
    rw [List.length_cons, Nat.add_right_comm, assemble?_leaves (h hstops) (by simp)]
    exact assemble?_add hbehind text.length

theorem no_gap_bracket (hc : c ∈ "()[]\x7b\x7d".toList) (text : List Char) :
    gap? (c :: text) = none ∧ docComment? (c :: text) = none := by
  have hbrackets : ∀ c ∈ "()[]\x7b\x7d".toList, isGapChar c = false ∧ c ≠ '/' := by decide
  obtain ⟨hgap, hslash⟩ := hbrackets c hc
  exact ⟨gap?_eq_none hgap fun h => absurd h hslash, docComment?_eq_none fun h => absurd h hslash⟩

theorem lexeme?_paren (h : ¬['/', '*'] <+: text) :
    lexeme? ('(' :: text) = some (.opened .paren, text) := by
  have hmark : startsWith errorMark ('(' :: text) = false := by
    rw [startsWith, Bool.eq_false_iff, ne_eq, List.isPrefixOf_iff_prefix]
    intro hmark
    have hcomment : ['(', '/', '*'] <+: '(' :: text := List.IsPrefix.trans (by decide) hmark
    exact h (List.cons_prefix_cons.mp hcomment).2
  have hnone := no_gap_bracket (c := '(') (by decide) text
  rw [lexeme?, hnone.1, hnone.2]
  dsimp only
  rw [hmark, if_neg Bool.false_ne_true]

theorem reads_group {opening closing : Char} {inner : List Char} (hhead : opening ≠ '/')
    (hbegins : ∀ behind, ¬['/', '*'] <+: inner ++ closing :: behind)
    (hopening : ∀ ⦃text⦄, ¬['/', '*'] <+: text →
      lexeme? (opening :: text) = some (.opened delimiter, text))
    (hclosing : ∀ text, lexeme? (closing :: text) = some (.closed delimiter, text))
    (hinner : ∀ ⦃outer fuel behind result⦄,
      assemble? outer trees.reverse fuel (closing :: behind) = some result →
        assemble? outer [] (inner.length + fuel) (inner ++ closing :: behind) = some result) :
    Reads (opening :: inner ++ [closing]) [.group delimiter trees] where
  begins hcomment := hhead (List.cons_prefix_cons.mp hcomment).1.symm
  read outer before behind fuel result hstops h := by
    have hlength : (opening :: inner ++ [closing]).length + fuel = inner.length + (fuel + 1) + 1 := by
      simp
      omega
    have htext : opening :: inner ++ [closing] ++ behind = opening :: (inner ++ closing :: behind) := by
      simp
    rw [hlength, htext, assemble?_opened (hopening (hbegins behind)) (by simp)]
    refine hinner ?_
    rw [assemble?_closed (hclosing behind) (by simp), List.reverse_reverse]
    exact h

theorem Reads.group {body : String} (h : Reads body.toList trees) (delimiter : Delimiter) :
    Reads (delimiter.surround body).toList [.group delimiter trees] := by
  have hread : ∀ ⦃outer fuel rest result⦄, Stops rest → assemble? outer trees.reverse fuel rest = some result →
      assemble? outer [] (body.toList.length + fuel) (body.toList ++ rest) = some result := by
    intro outer fuel rest result hstops hrest
    exact h.read hstops (by simpa using hrest)
  have hparen : (Delimiter.paren.surround body).toList = '(' :: body.toList ++ [')'] := by
    simp [Delimiter.surround]
  have hbracket : (Delimiter.bracket.surround body).toList = '[' :: body.toList ++ [']'] := by
    simp [Delimiter.surround]
  have hbrace : (Delimiter.brace.surround body).toList =
      '\x7b' :: (if body = "" then [' '] else ' ' :: body.toList ++ [' ']) ++ ['\x7d'] := by
    rw [Delimiter.surround]
    split <;> simp
  cases delimiter with
  | paren =>
      rw [hparen]
      refine reads_group (by decide) (fun behind => begins_append h.begins (by decide))
        (fun text htext => lexeme?_paren htext) (fun text => ?_)
        fun _ _ _ _ hclosed => hread (stops_cons.mpr (by decide)) hclosed
      rw [lexeme?, (no_gap_bracket (by decide) text).1, (no_gap_bracket (by decide) text).2]
  | bracket =>
      rw [hbracket]
      refine reads_group (by decide) (fun behind => begins_append h.begins (by decide))
        (fun text _ => ?_) (fun text => ?_)
        fun _ _ _ _ hclosed => hread (stops_cons.mpr (by decide)) hclosed
      all_goals rw [lexeme?, (no_gap_bracket (by decide) text).1, (no_gap_bracket (by decide) text).2]
  | brace =>
      rw [hbrace]
      refine reads_group (by decide) (fun behind => ?_) (fun text _ => ?_) (fun text => ?_)
        fun outer fuel behind result hclosed => ?_
      · split <;> simp
      · rw [lexeme?, (no_gap_bracket (by decide) text).1, (no_gap_bracket (by decide) text).2]
      · rw [lexeme?, (no_gap_bracket (by decide) text).1, (no_gap_bracket (by decide) text).2]
      · have hblank := hread (stops_cons.mpr (by decide)) (skips_blank hclosed)
        split
        next hempty =>
          subst hempty
          simpa using hblank
        next =>
          have hlength : (' ' :: body.toList ++ [' ']).length + fuel =
              1 + (body.toList.length + (1 + fuel)) := by
            simp
            omega
          rw [hlength, List.cons_append, List.cons_append, List.append_assoc]
          exact skips_blank hblank

end Composing

theorem reads_ident {name : String} (h : IsIdent name) : Reads name.toList [.ident name] := by
  obtain ⟨c, more, hname, hstart⟩ := h.spells.head
  have hhead : c ≠ '/' := by
    rintro rfl
    exact absurd hstart (by decide)
  have hlexeme : ∀ ⦃behind⦄, Stops behind →
      lexeme? (name.toList ++ behind) = some (.leaves [.ident name], behind) :=
    fun behind hstops => lexeme?_of_ident? (ident?_append h hstops.stopsIdent)
  rw [hname] at hlexeme ⊢
  exact reads_lexeme hhead hlexeme

end TypedLogging.Source
