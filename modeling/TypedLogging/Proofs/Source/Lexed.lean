import TypedLogging.Proofs.Source.Tokens

namespace TypedLogging.Source

open Text Lexer

/-- The character that the text of a tree begins with. -/
def TokenTree.start? : TokenTree → Option Char
  | .ident name => name.toList.head?
  | .punct char _ => some char
  | .literal text => text.toList.head?
  | .group delimiter _ => (delimiter.surround "").toList.head?

/-- Trees that may come out of a text. What a slash or an apostrophe stands in front of is part of it:
a comment must not begin, and a name must. -/
inductive Lexed : List TokenTree → Prop
  | nil : Lexed []
  | ident {name : String} {rest : List TokenTree} (h : IsIdent name) (hrest : Lexed rest) :
    Lexed (.ident name :: rest)
  | literal {text : String} {rest : List TokenTree} (h : IsLiteral text) (hrest : Lexed rest) :
    Lexed (.literal text :: rest)
  | group {delimiter : Delimiter} {inner rest : List TokenTree} (hinner : Lexed inner)
    (hrest : Lexed rest) : Lexed (.group delimiter inner :: rest)
  | punct {c : Char} {joint : Bool} {rest : List TokenTree} (hc : c ∈ punctuation)
    (hquote : c ≠ '\'') (hslash : c = '/' → joint = false) (hrest : Lexed rest) :
    Lexed (.punct c joint :: rest)
  | slash {next : TokenTree} {rest : List TokenTree} {c : Char} (hnext : next.start? = some c)
    (hcomment : c ≠ '/' ∧ c ≠ '*') (hrest : Lexed (next :: rest)) :
    Lexed (.punct '/' true :: next :: rest)
  | lifetime {name : String} {rest : List TokenTree} (hrest : Lexed (.ident name :: rest)) :
    Lexed (.punct '\'' true :: .ident name :: rest)
  | quote {text : String} {rest : List TokenTree}
    (hstands : ∀ behind, Stops behind → apostropheStands (text.toList ++ behind) = true)
    (hrest : Lexed (.literal text :: rest)) : Lexed (.punct '\'' true :: .literal text :: rest)

section Parts

variable {tree : TokenTree} {front rest inner : List TokenTree} {name : String}

theorem Lexed.tail (h : Lexed (tree :: rest)) : Lexed rest := by
  cases h <;> assumption

theorem Lexed.of_append (h : Lexed (front ++ rest)) : Lexed rest := by
  induction front with
  | nil => exact h
  | cons tree front ih => exact ih h.tail

theorem Lexed.of_group {delimiter : Delimiter} (h : Lexed (.group delimiter inner :: rest)) :
    Lexed inner := by
  cases h with
  | group hinner => exact hinner

theorem Lexed.isIdent (h : Lexed (.ident name :: rest)) : IsIdent name := by
  cases h with
  | ident h => exact h

theorem Lexed.isIdent_of_mem (h : Lexed rest) (hname : .ident name ∈ rest) : IsIdent name := by
  obtain ⟨before, behind, rfl⟩ := List.append_of_mem hname
  exact h.of_append.isIdent

theorem Lexed.isLiteral {text : String} (h : Lexed (.literal text :: rest)) : IsLiteral text := by
  cases h with
  | literal h => exact h

end Parts

/-- The trees can follow where the text begins, whatever stands in front. -/
structure Fits (text : List Char) (trees : List TokenTree) : Prop where
  lexed : Lexed trees
  named : apostropheStands text = true → Lexed (.punct '\'' true :: trees)
  joined : (punctEnd? ('/' :: text)).isSome → (punctEnd? text).isSome → Lexed (.punct '/' true :: trees)

section Lexemes

variable {c : Char} {text rest : List Char} {tree : TokenTree} {trees leaves : List TokenTree}
  {lexeme : Lexeme} {delimiter : Delimiter}

theorem Fits.of_lexed (h : Lexed trees) (hname : ∀ c ∈ text.head?, startsIdentifier c = false)
    (hpunct : ∀ c ∈ text.head?, c ∈ punctuation → c = '/') : Fits text trees := by
  refine ⟨h, fun hstands => ?_, fun hslash hjoint => ?_⟩
  · obtain ⟨word, behind, rfl, hspells, -⟩ := exists_name hstands
    obtain ⟨c, more, rfl, hstart⟩ := hspells.head
    rw [hname c rfl] at hstart
    cases hstart
  · obtain ⟨⟨d, behind⟩, hend⟩ := Option.isSome_iff_exists.mp hjoint
    obtain ⟨rfl, hd, -⟩ := of_punctEnd? hend
    obtain ⟨⟨e, behind⟩, hend⟩ := Option.isSome_iff_exists.mp hslash
    obtain ⟨htext, -, hcomment⟩ := of_punctEnd? hend
    cases htext
    exact absurd (hpunct d rfl hd) (hcomment rfl d rfl).1

/-- What a lexeme is, by how the text begins. -/
inductive Begins (text rest : List Char) : Lexeme → Prop
  | gap (h : gap? text = some rest) : Begins text rest (.leaves [])
  | doc {comment : DocComment} (h : docComment? text = some (comment, rest)) :
    Begins text rest (.leaves comment.trees)
  | opened {c : Char} (delimiter : Delimiter) (htext : text = c :: rest) (hc : c ∈ "()[]\x7b\x7d".toList) :
    Begins text rest (.opened delimiter)
  | closed {c : Char} (delimiter : Delimiter) (htext : text = c :: rest) (hc : c ∈ "()[]\x7b\x7d".toList) :
    Begins text rest (.closed delimiter)
  | errorMark (htext : text = errorMark.toList ++ rest) : Begins text rest (.leaves [.literal errorMark])
  | leaf {tree : TokenTree} (h : leaf? text = some (tree, rest)) : Begins text rest (.leaves [tree])

theorem begins_of_lexeme? (h : lexeme? text = some (lexeme, rest)) : Begins text rest lexeme := by
  rw [lexeme?.eq_def] at h
  split at h
  next hgap =>
    cases h
    exact .gap hgap
  next =>
    split at h
    next hdoc =>
      cases h
      exact .doc hdoc
    next =>
      split at h
      next text =>
        split at h
        next hmark =>
          cases h
          obtain ⟨more, hmore⟩ := List.isPrefixOf_iff_prefix.mp hmark
          rw [← hmore]
          refine .errorMark ?_
          rw [String.length, List.drop_left]
        next =>
          cases h
          exact .opened _ rfl (by decide)
      iterate 2
        cases h
        exact .opened _ rfl (by decide)
      iterate 3
        cases h
        exact .closed _ rfl (by decide)
      obtain ⟨⟨tree, behind⟩, hleaf, h⟩ := Option.bind_eq_some_iff.mp h
      cases h
      exact .leaf hleaf

theorem start_of_gap? (h : gap? text = some rest) :
    ∀ c ∈ text.head?, isGapChar c = true ∨ c = '/' := by
  intro c hc
  obtain ⟨more, rfl⟩ := List.head?_eq_some_iff.mp hc
  by_contra hother
  rw [not_or] at hother
  rw [gap?_eq_none (Bool.eq_false_iff.mpr hother.1) fun hslash => absurd hslash hother.2] at h
  cases h

theorem start_of_docComment? {comment : DocComment} (h : docComment? text = some (comment, rest)) :
    ∀ c ∈ text.head?, c = '/' := by
  intro c hc
  obtain ⟨more, rfl⟩ := List.head?_eq_some_iff.mp hc
  by_contra hslash
  rw [docComment?_eq_none fun h => absurd h hslash] at h
  cases h

theorem Fits.of_char (h : Lexed trees) (hname : startsIdentifier c = false)
    (hpunct : c ∈ punctuation → c = '/') : Fits (c :: rest) trees :=
  .of_lexed h (fun _ hd => (Option.some.inj hd).symm ▸ hname) fun _ hd => (Option.some.inj hd).symm ▸ hpunct

theorem Fits.of_token (h : Lexed (tree :: trees)) (hstart : tree.start? = text.head?)
    (hname : apostropheStands text = true → Lexed (.punct '\'' true :: tree :: trees)) :
    Fits text (tree :: trees) where
  lexed := h
  named := hname
  joined hslash hjoint := by
    obtain ⟨⟨c, rest⟩, hend⟩ := Option.isSome_iff_exists.mp hjoint
    obtain ⟨rfl, -, -⟩ := of_punctEnd? hend
    obtain ⟨⟨d, behind⟩, hend⟩ := Option.isSome_iff_exists.mp hslash
    obtain ⟨htext, -, hcomment⟩ := of_punctEnd? hend
    cases htext
    exact .slash hstart (hcomment rfl c rfl) h

theorem not_takes_of_spells {word token : List Char} (h : Spells word) (hbegin : token <+: word) :
    ¬Takes literalEnd? token := by
  intro htakes
  have hend := htakes stops_nil
  have hbegins := h.begins
  obtain ⟨c, more, hword, hstart⟩ := h.head
  cases token with
  | nil => cases hend
  | cons d token =>
      obtain ⟨further, rfl⟩ := hbegin
      cases hword
      rw [List.append_nil, literalEnd?_eq_none hstart] at hend
      · cases hend
      · rw [List.any_eq_false] at hbegins ⊢
        exact fun start hmem hfront => hbegins start hmem (startsWith_append hfront further)

/-- A literal that begins with a name goes on behind it. -/
theorem apostropheStands_literal {token behind : List Char} (htakes : Takes literalEnd? token)
    (h : apostropheStands (token ++ rest) = true) : apostropheStands (token ++ behind) = true := by
  obtain ⟨word, after, htext, hnames⟩ := exists_name h
  rcases List.append_eq_append_iff.mp htext with ⟨more, rfl, -⟩ | ⟨more, rfl, rfl⟩
  · exact absurd htakes (not_takes_of_spells hnames.1 (List.prefix_append token more))
  · cases more with
    | nil =>
        rw [List.append_nil] at htakes
        exact absurd htakes (not_takes_of_spells hnames.1 (List.prefix_refl word))
    | cons d more =>
        rw [List.append_assoc]
        exact apostropheStands_of_names (hnames.congr rfl)

theorem starts_of_punctuation (h : c ∈ punctuation) : startsIdentifier c = false :=
  Bool.eq_false_iff.mpr fun hstart => not_mem_punctuation (isWordChar_of_starts hstart) h

theorem apostropheStands_eq_false (h : startsIdentifier c = false) :
    apostropheStands (c :: rest) = false := by
  refine Bool.eq_false_iff.mpr fun hstands => ?_
  obtain ⟨word, behind, htext, hnames⟩ := exists_name hstands
  obtain ⟨d, more, rfl, hstart⟩ := hnames.1.head
  cases htext
  rw [h] at hstart
  cases hstart

theorem Fits.of_leaf (h : leaf? text = some (tree, rest)) (hfits : Fits rest trees) :
    Fits text (tree :: trees) := by
  rw [leaf?] at h
  split at h
  next behind hend =>
    cases h
    obtain ⟨token, rfl, htakes⟩ := literalEnd?_local hend
    rw [consumed_append]
    have hlexed := Lexed.literal (isLiteral_of_takes htakes) hfits.lexed
    refine .of_token hlexed ?_ fun hstands => ?_
    · cases token with
      | nil => cases htakes stops_nil
      | cons c token => simp [TokenTree.start?]
    · refine .quote (fun behind _ => ?_) hlexed
      rw [String.toList_ofList]
      exact apostropheStands_literal htakes hstands
  next =>
    split at h
    next found hpunct =>
      cases h
      simp only [punct?, Option.bind_eq_bind, Option.bind_eq_some_iff] at hpunct
      obtain ⟨⟨c, behind⟩, hend, hfound⟩ := hpunct
      obtain ⟨rfl, hc, hcomment⟩ := of_punctEnd? hend
      have hstands : apostropheStands (c :: behind) = false :=
        apostropheStands_eq_false (starts_of_punctuation hc)
      split at hfound
      next hquote =>
        obtain ⟨_, hguard, hpure⟩ := Option.bind_eq_some_iff.mp hfound
        cases hpure
        obtain rfl := hquote
        refine .of_token (hfits.named ?_) rfl fun h => absurd (hstands ▸ h) Bool.false_ne_true
        simpa using hguard
      next hquote =>
        cases hfound
        refine .of_token ?_ rfl fun h => absurd (hstands ▸ h) Bool.false_ne_true
        by_cases hslash : c = '/' ∧ (punctEnd? behind).isSome = true
        · obtain ⟨rfl, hjoint⟩ := hslash
          rw [hjoint]
          exact hfits.joined (by rw [hend]; rfl) hjoint
        · exact .punct hc hquote (fun h => Bool.eq_false_iff.mpr fun hjoint => hslash ⟨h, hjoint⟩) hfits.lexed
    next =>
      split at h
      next name behind hident =>
        cases h
        obtain ⟨hname, rfl⟩ := isIdent_of_ident? hident
        have hlexed := Lexed.ident hname hfits.lexed
        refine .of_token hlexed ?_ fun _ => .lifetime hlexed
        obtain ⟨c, more, hc, -⟩ := hname.spells.head
        simp [TokenTree.start?, hc]
      next =>
        split at h
        next hmark =>
          cases h
          obtain ⟨more, rfl⟩ := List.isPrefixOf_iff_prefix.mp hmark
          exact .of_char (.literal isLiteral_errorMark hfits.lexed) (by decide) (by decide)
        next => cases h

theorem lexed_comment (comment : DocComment) (h : Lexed trees) : Lexed (comment.trees ++ trees) := by
  have hheld : Lexed [.ident "doc", .punct '=' false, .literal (quoted (String.ofList comment.text))] :=
    .ident (by decide) (.punct (by decide) (by decide) nofun (.literal (isLiteral_quoted _) .nil))
  rw [DocComment.trees, List.append_assoc]
  refine .punct (by decide) (by decide) nofun ?_
  split
  · exact .punct (by decide) (by decide) nofun (.group hheld h)
  · exact .group hheld h

theorem Fits.of_begins (h : Begins text rest (.leaves leaves)) (hfits : Fits rest trees) :
    Fits text (leaves ++ trees) := by
  cases h with
  | gap h =>
      refine .of_lexed hfits.lexed (fun c hc => ?_) fun c hc hpunct => ?_
      · rcases start_of_gap? h c hc with hgap | rfl
        · exact Bool.eq_false_iff.mpr fun hstart =>
            Bool.eq_false_iff.mp (isGapChar_of_isWordChar (isWordChar_of_starts hstart)) hgap
        · decide
      · have hplain : ∀ c ∈ punctuation, isGapChar c = false := by decide
        exact (start_of_gap? h c hc).resolve_left (Bool.eq_false_iff.mp (hplain c hpunct))
  | doc h =>
      exact .of_lexed (lexed_comment _ hfits.lexed)
        (fun c hc => start_of_docComment? h c hc ▸ by decide) fun c hc _ => start_of_docComment? h c hc
  | errorMark htext =>
      subst htext
      exact .of_char (.literal isLiteral_errorMark hfits.lexed) (by decide) (by decide)
  | leaf h => exact .of_leaf h hfits

/-- The trees before the text that is left, last tree first. -/
def Pending (before : List TokenTree) (text : List Char) : Prop :=
  ∀ trees, Fits text trees → Lexed (before.reverse ++ trees)

theorem Pending.lexed {before : List TokenTree} (h : Pending before (c :: rest))
    (hc : c ∈ "()[]\x7b\x7d".toList) (htrees : Lexed trees) : Lexed (before.reverse ++ trees) := by
  have hbrackets : ∀ c ∈ "()[]\x7b\x7d".toList, startsIdentifier c = false ∧ c ∉ punctuation := by decide
  exact h trees (.of_char htrees (hbrackets c hc).1 fun hpunct => absurd hpunct (hbrackets c hc).2)

theorem lexed_of_assemble? {outer : List (Delimiter × List TokenTree)} {before result : List TokenTree}
    {fuel : Nat} (h : assemble? outer before fuel text = some result) (hbefore : Pending before text)
    (houter : ∀ opened ∈ outer, ∀ trees, Lexed trees → Lexed (opened.2.reverse ++ trees)) :
    Lexed result := by
  -- the text ends in `case1`; behind it come leaves, an opened group and a closed one
  fun_induction assemble? outer before fuel text with
  | case1 =>
      cases h
      rw [← List.append_nil (List.reverse _)]
      exact hbefore [] (.of_lexed .nil (fun c h => absurd h (Option.not_mem_none c))
        fun c h => absurd h (Option.not_mem_none c))
  | case2 | case3 | case4 | case7 | case9 => cases h
  | case5 outer trees fuel text _ leaves rest hlexeme ih =>
      refine ih h (fun further hfits => ?_) houter
      rw [List.reverse_append, List.reverse_reverse, List.append_assoc]
      exact hbefore _ (.of_begins (begins_of_lexeme? hlexeme) hfits)
  | case6 outer trees fuel text _ delimiter rest hlexeme ih =>
      cases begins_of_lexeme? hlexeme with
      | opened _ htext hc =>
          subst htext
          refine ih h (fun further hfits => hfits.lexed) (List.forall_mem_cons.mpr ⟨fun more hmore => ?_, houter⟩)
          exact hbefore.lexed hc hmore
  | case8 trees fuel text _ rest delimiter before further hlexeme ih =>
      cases begins_of_lexeme? hlexeme with
      | closed _ htext hc =>
          subst htext
          rw [List.forall_mem_cons] at houter
          have hinner : Lexed trees.reverse := by
            rw [← List.append_nil trees.reverse]
            exact hbefore.lexed hc .nil
          refine ih h (fun more hfits => ?_) houter.2
          rw [List.reverse_cons, List.append_assoc]
          exact houter.1 _ (.group hinner hfits.lexed)

theorem lexed_of_lex {text : String} (h : lex text = some trees) : Lexed trees :=
  lexed_of_assemble? h (fun _ hfits => hfits.lexed) (List.forall_mem_nil _)

end Lexemes

end TypedLogging.Source
