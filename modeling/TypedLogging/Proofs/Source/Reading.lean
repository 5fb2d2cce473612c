import TypedLogging.Proofs.Source.Legible
import TypedLogging.Proofs.Source.Literals

namespace TypedLogging.Source

open Text Lexer

mutual

def TokenTree.same : TokenTree → TokenTree → Bool
  | .ident name, .ident other => name = other
  | .punct char joint, .punct other also => char = other && joint = also
  | .literal text, .literal other => text = other
  | .group delimiter trees, .group other more => delimiter = other && sameTrees trees more
  | _, _ => false

def sameTrees : List TokenTree → List TokenTree → Bool
  | [], [] => true
  | tree :: rest, other :: more => tree.same other && sameTrees rest more
  | _, _ => false

end

mutual

theorem TokenTree.same_iff (tree other : TokenTree) : tree.same other = true ↔ tree = other := by
  cases tree <;> cases other <;> simp [TokenTree.same]
  next trees _ more => simp [sameTrees_iff trees more]

theorem sameTrees_iff (trees other : List TokenTree) : sameTrees trees other = true ↔ trees = other := by
  cases trees <;> cases other <;> simp [sameTrees]
  next tree rest other more => rw [TokenTree.same_iff tree other, sameTrees_iff rest more]

end

instance : DecidableEq TokenTree := fun tree other => decidable_of_iff _ (tree.same_iff other)

/-- The trees of a text, punctuation side by side or not. -/
def readText? (text : String) : Option (List TokenTree) := (lex text).map spacedTrees

def Code.trees (code : Code) : List TokenTree := (readText? (Code.text code)).getD []

section Texts

variable {text : List Char} {trees : List TokenTree} {code more : Code}

theorem not_reads_mark : ¬Reads (byteOrderMark :: text) trees := by
  intro h
  have hmark : byteOrderMark ∉ quoteStarts ∧ isAsciiDigit byteOrderMark = false ∧
      byteOrderMark ∉ punctuation ∧ startsIdentifier byteOrderMark = false := by decide +kernel
  have hliteral : literalEnd? (byteOrderMark :: text) = none := by
    refine Option.eq_none_iff_forall_ne_some.mpr fun rest hend => ?_
    rcases begins_of_literalEnd? hend with hstart | hdigit
    · exact hmark.1 hstart
    · rw [hmark.2.1] at hdigit
      cases hdigit
  have hpunct : punct? (byteOrderMark :: text) = none := by
    refine Option.eq_none_iff_forall_ne_some.mpr fun found hend => ?_
    simp only [punct?, Option.bind_eq_bind, Option.bind_eq_some_iff] at hend
    obtain ⟨⟨c, rest⟩, hend, -⟩ := hend
    obtain ⟨htext, hc, -⟩ := of_punctEnd? hend
    cases htext
    exact hmark.2.2.1 hc
  have hident : ident? (byteOrderMark :: text) = none := by
    refine Option.eq_none_iff_forall_ne_some.mpr fun found hend => ?_
    obtain ⟨c, more, hname, hstart⟩ := (isIdent_of_ident? hend).1.spells.head
    have htext := (isIdent_of_ident? hend).2
    rw [hname] at htext
    cases htext
    rw [hmark.2.2.2] at hstart
    cases hstart
  have hleaf : leaf? (byteOrderMark :: text) = none := by
    rw [leaf?, hliteral, hpunct, hident]
    rfl
  have hlexeme : lexeme? (byteOrderMark :: text) = none := by
    rw [lexeme?_eq_leaf? (by decide) (by decide) fun hslash => absurd hslash (by decide), hleaf]
    rfl
  have hend : assemble? [] (trees.reverse ++ []) 0 [] = some trees := by simp [assemble?]
  have hread := h.read stops_nil hend
  rw [List.append_nil, List.length_cons, Nat.add_right_comm, assemble?, hlexeme] at hread
  cases hread
  simp

theorem lex_of_reads {text : String} (h : Reads text.toList trees) : lex text = some trees := by
  have hend : assemble? [] (trees.reverse ++ []) 0 [] = some trees := by simp [assemble?]
  have hread := h.read stops_nil hend
  have hmark : dropByteOrderMark text.toList = text.toList := by
    cases htext : text.toList with
    | nil => rfl
    | cons c rest =>
        refine if_neg ?_
        rintro rfl
        exact not_reads_mark (htext ▸ h)
  rw [lex, lexChars, hmark]
  simpa using hread

theorem readText?_of_readsAs {text : String} (h : ReadsAs text.toList trees) :
    readText? text = some trees := by
  obtain ⟨found, hreads, rfl⟩ := h
  rw [readText?, lex_of_reads hreads]
  rfl

theorem Code.Gives.trees_eq (h : code.Gives trees) : code.trees = trees := by
  rw [Code.trees, readText?_of_readsAs h.readsAs]
  rfl

theorem Code.Legible.gives (h : code.Legible) : code.Gives code.trees := by
  obtain ⟨trees, htrees⟩ := h
  rwa [htrees.trees_eq]

theorem Code.trees_nil : Code.trees [] = [] := Code.gives_nil.trees_eq

theorem Code.trees_append (h : code.Legible) (hmore : more.Legible) :
    Code.trees (code ++ more) = code.trees ++ more.trees := (h.gives.append hmore.gives).trees_eq

theorem Code.trees_group (h : code.Legible) (delimiter : Delimiter) :
    Code.trees [.group delimiter code] = [.group delimiter code.trees] :=
  (Code.gives_group h.gives delimiter).trees_eq

end Texts

/-- Reads trees from the front and leaves the ones behind them. -/
abbrev Reading := StateT (List TokenTree) Option

namespace Reading

variable {α β : Type}

def expect (code : Code) : Reading Unit := fun trees =>
  if code.trees <+: trees then some ((), trees.drop code.trees.length) else none

def name : Reading String
  | .ident name :: rest => some (name, rest)
  | _ => none

def literal : Reading Literal
  | .literal text :: rest => some (.ofText text, rest)
  | _ => none

def string : Reading String := do
  let .string value ← literal | failure
  return value

def natural : Reading Int := do
  let .integer numeral _ ← literal | failure
  return numeral.magnitude

def integer : Reading Int :=
  (do
    expect (words ["-"])
    let magnitude ← natural
    return -magnitude) <|> natural

def remaining : Reading (List TokenTree) := fun trees => some (trees, [])

def group (delimiter : Delimiter) (reading : Reading α) : Reading α
  | .group found trees :: rest =>
    match reading.run trees with
    | some (a, []) => if found = delimiter then some (a, rest) else none
    | _ => none
  | _ => none

def manyOf (reading : Reading α) : Nat → Reading (List α)
  | 0, trees => some ([], trees)
  | fuel + 1, trees =>
    match reading.run trees with
    | some (a, rest) => (manyOf reading fuel rest).map fun (found, behind) => (a :: found, behind)
    | none => some ([], trees)

/-- Nothing where nothing is left. -/
def orEnd (reading : Reading α) : Reading (Option α)
  | [] => some (none, [])
  | trees => (some <$> reading).run trees

def many (reading : Reading α) : Reading (List α) := fun trees => manyOf reading trees.length trees

end Reading

open Reading

/-- Before these trees the code is read as the value. -/
structure Code.Tells {α : Type} (code : Code) (behind : List TokenTree) (reading : Reading α) (a : α) :
    Prop where
  legible : code.Legible
  run_eq : reading.run (code.trees ++ behind) = some (a, behind)

section Telling

variable {α β ι : Type} {code more : Code} {behind : List TokenTree} {reading other : Reading α} {a : α}
  {b : β}

theorem Code.tells_pure (a : α) : Code.Tells [] behind (pure a) a where
  legible := ⟨_, Code.gives_nil⟩
  run_eq := by
    rw [Code.trees_nil]
    rfl

theorem Code.Tells.bind {next : α → Reading β} (h : code.Tells (more.trees ++ behind) reading a)
    (hmore : more.Tells behind (next a) b) : Code.Tells (code ++ more) behind (reading >>= next) b where
  legible := h.legible.append hmore.legible
  run_eq := by
    rw [Code.trees_append h.legible hmore.legible, List.append_assoc, StateT.run_bind, h.run_eq]
    exact hmore.run_eq

theorem Code.Tells.map (h : code.Tells behind reading a) (f : α → β) :
    code.Tells behind (reading >>= fun a => pure (f a)) (f a) where
  legible := h.legible
  run_eq := by
    rw [StateT.run_bind, h.run_eq]
    rfl

theorem Code.tells_expect (h : code.Legible) : code.Tells behind (expect code) () where
  legible := h
  run_eq := by
    rw [StateT.run, expect, if_pos (List.prefix_append code.trees behind), List.drop_left]

theorem expect_eq_none {trees : List TokenTree} (h : ¬code.trees <+: trees) :
    (expect code).run trees = none := if_neg h

theorem prefix_of_expect {next : Unit → Reading α} {trees : List TokenTree} {found : α × List TokenTree}
    (h : (expect code >>= next).run trees = some found) : code.trees <+: trees := by
  by_contra hprefix
  rw [StateT.run_bind, expect_eq_none hprefix] at h
  cases h

theorem Code.tells_remaining (h : code.Legible) : code.Tells [] remaining code.trees where
  legible := h
  run_eq := by
    rw [List.append_nil]
    rfl

theorem Code.Tells.group (h : code.Tells [] reading a) (delimiter : Delimiter) :
    Code.Tells [.group delimiter code] behind (Reading.group delimiter reading) a where
  legible := h.legible.group delimiter
  run_eq := by
    have hrun := h.run_eq
    rw [List.append_nil] at hrun
    rw [Code.trees_group h.legible, List.singleton_append, StateT.run, Reading.group, hrun]
    exact if_pos rfl

theorem Code.Tells.orElse (h : code.Tells behind reading a)
    (hother : other.run (code.trees ++ behind) = none) : code.Tells behind (other <|> reading) a where
  legible := h.legible
  run_eq := by
    rw [StateT.run_orElse, hother]
    exact h.run_eq

theorem Code.Tells.orElse_left (h : code.Tells behind reading a) :
    code.Tells behind (reading <|> other) a where
  legible := h.legible
  run_eq := by
    rw [StateT.run_orElse, h.run_eq]
    rfl

theorem Code.Tells.ne_nil (h : code.Tells behind reading a) (hempty : reading.run [] = none) :
    code.trees ++ behind ≠ [] := by
  intro hnil
  have hrun := h.run_eq
  rw [hnil, hempty] at hrun
  cases hrun

theorem Code.tells_end : Code.Tells [] [] (orEnd reading) none where
  legible := ⟨_, Code.gives_nil⟩
  run_eq := by
    rw [Code.trees_nil]
    rfl

theorem Code.Tells.orEnd (h : code.Tells behind reading a) (hempty : reading.run [] = none) :
    code.Tells behind (Reading.orEnd reading) (some a) where
  legible := h.legible
  run_eq := by
    obtain ⟨tree, rest, htrees⟩ := List.exists_cons_of_ne_nil (h.ne_nil hempty)
    have hrun := h.run_eq
    rw [htrees] at hrun ⊢
    change (some <$> reading).run (tree :: rest) = _
    rw [StateT.run_map, hrun]
    rfl

theorem Code.legible_flatMap {items : List ι} {codes : ι → Code} (h : ∀ item ∈ items, (codes item).Legible) :
    Code.Legible (items.flatMap codes) := by
  induction items with
  | nil => exact ⟨_, Code.gives_nil⟩
  | cons item rest ih =>
      rw [List.forall_mem_cons] at h
      rw [List.flatMap_cons]
      exact h.1.append (ih h.2)

theorem manyOf_eq_some {items : List ι} {codes : ι → Code} {values : ι → α} {fuel : Nat}
    (hitems : ∀ item ∈ items, ∀ behind, (codes item).Tells behind reading (values item))
    (hempty : reading.run [] = none) (hbehind : reading.run behind = none)
    (hfuel : (Code.trees (items.flatMap codes)).length ≤ fuel) :
    manyOf reading fuel (Code.trees (items.flatMap codes) ++ behind) = some (items.map values, behind) := by
  induction items generalizing fuel with
  | nil =>
      rw [List.flatMap_nil, Code.trees_nil, List.nil_append]
      cases fuel with
      | zero => rfl
      | succ fuel => rw [manyOf, hbehind]; rfl
  | cons item rest ih =>
      rw [List.forall_mem_cons] at hitems
      have hfirst := hitems.1 (Code.trees (rest.flatMap codes) ++ behind)
      have hrest := Code.legible_flatMap fun other hother => (hitems.2 other hother []).legible
      have hpos := (hitems.1 []).ne_nil hempty
      rw [List.append_nil] at hpos
      have hlength := List.length_pos_iff.mpr hpos
      rw [List.flatMap_cons, Code.trees_append hfirst.legible hrest, List.length_append] at hfuel
      obtain ⟨fuel, rfl⟩ : ∃ more, fuel = more + 1 := ⟨fuel - 1, by omega⟩
      rw [List.flatMap_cons, Code.trees_append hfirst.legible hrest, List.append_assoc, manyOf,
        hfirst.run_eq]
      dsimp only
      rw [ih hitems.2 (by omega)]
      rfl

theorem Code.tells_many {items : List ι} {codes : ι → Code} {values : ι → α}
    (hitems : ∀ item ∈ items, ∀ behind, (codes item).Tells behind reading (values item))
    (hempty : reading.run [] = none) (hbehind : reading.run behind = none) :
    Code.Tells (items.flatMap codes) behind (many reading) (items.map values) where
  legible := Code.legible_flatMap fun item hitem => (hitems item hitem []).legible
  run_eq := by
    refine manyOf_eq_some hitems hempty hbehind ?_
    rw [List.length_append]
    omega

end Telling

section Words

variable {name text : String} {texts : List String} {behind : List TokenTree}

/-- An operator or a name. -/
def IsSpelled (text : String) : Prop := isOperator text.toList = true ∨ IsIdent text

instance : Decidable (IsSpelled text) := inferInstanceAs (Decidable (_ ∨ _))

theorem IsSpelled.legible (h : IsSpelled text) : Code.Legible [.word text] :=
  h.elim legible_of_isOperator legible_of_isIdent

theorem legible_words (h : ∀ text ∈ texts, IsSpelled text) : Code.Legible (words texts) := by
  induction texts with
  | nil => exact ⟨_, Code.gives_nil⟩
  | cons text rest ih =>
      rw [List.forall_mem_cons] at h
      exact h.1.legible.append (ih h.2)

theorem trees_name (h : IsIdent name) : Code.trees [.word name] = [.ident name] :=
  (Code.gives_word (readsAs_of_reads (reads_ident h))).trees_eq

theorem trees_literal (h : IsLiteral text) : Code.trees [.word text] = [.literal text] :=
  (Code.gives_word (readsAs_of_reads h.reads)).trees_eq

theorem tells_name (h : IsIdent name) : Code.Tells [.word name] behind Reading.name name where
  legible := IsSpelled.legible (.inr h)
  run_eq := by
    rw [trees_name h]
    rfl

theorem tells_literal (h : IsLiteral text) : Code.Tells [.word text] behind literal (.ofText text) where
  legible := ⟨_, Code.gives_word (readsAs_of_reads h.reads)⟩
  run_eq := by
    rw [trees_literal h]
    rfl

theorem tells_string (text : String) : Code.Tells [.word (quoted text)] behind string text := by
  have h : Code.Tells [.word (quoted text)] behind literal _ := tells_literal (isLiteral_quoted text)
  rw [Literal.ofText_quoted] at h
  exact ⟨h.legible, by rw [string, StateT.run_bind, h.run_eq]; rfl⟩

theorem tells_natural (n : Nat) : Code.Tells [.word (toString n)] behind natural (n : Int) := by
  have h : Code.Tells [.word (toString n)] behind literal _ := tells_literal (isLiteral_natural n)
  rw [Literal.ofText_natural] at h
  exact ⟨h.legible, by rw [natural, StateT.run_bind, h.run_eq]; rfl⟩

theorem tells_nonneg (n : Nat) : Code.Tells [.word (toString n)] behind integer (n : Int) := by
  refine (tells_natural n).orElse ?_
  have hminus : Code.trees (words ["-"]) = [.punct '-' false] := by decide +kernel
  rw [StateT.run_bind, trees_literal (isLiteral_natural n), expect_eq_none (by simp [hminus])]
  rfl

theorem tells_neg (n : Nat) : Code.Tells (words ["-", toString n]) behind integer (-n : Int) := by
  have hminus : Code.Legible (words ["-"]) := legible_words (by decide)
  exact .orElse_left ((Code.tells_expect hminus).bind ((tells_natural n).map _))

end Words

end TypedLogging.Source
