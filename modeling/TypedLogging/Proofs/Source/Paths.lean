import TypedLogging.Proofs.Source.Lexing
import TypedLogging.Proofs.Source.Readers
import TypedLogging.Source.Grammar.Generic

namespace TypedLogging.Source

namespace Reader

variable {before behind : Cursor} {name : String}

theorem rest_of_anyWord (h : anyWord before = some (name, behind)) :
    before.rest = .ident name :: behind.rest := by
  obtain ⟨rest, hrest, rfl⟩ := anyWord_eq_some h
  exact hrest

theorem rest_of_ident (h : ident before = some (name, behind)) :
    before.rest = .ident name :: behind.rest ∧ isReserved name = false :=
  ⟨rest_of_anyWord (ident_eq_some h).2, (ident_eq_some h).1⟩

theorem rest_of_skipColons {u : Unit} (h : skipOp "::" before = some (u, behind)) :
    ∃ joint, before.rest = .punct ':' true :: .punct ':' joint :: behind.rest := by
  obtain ⟨joint, rest, hrest, rfl⟩ := skipOp_eq_some h
  exact ⟨joint, hrest⟩

theorem rest_of_optionalColons {found : Bool} (h : optionalOp "::" before = some (found, behind)) :
    behind = before ∨
      ∃ joint, before.rest = .punct ':' true :: .punct ':' joint :: behind.rest := by
  rcases optionalOp_eq_some h with ⟨-, hop⟩ | ⟨-, rfl⟩
  · obtain ⟨_, between, hskip, hwrite⟩ := bind_eq_some.mp hop
    obtain ⟨joint, hrest⟩ := rest_of_skipColons hskip
    rw [write_eq_some hwrite]
    exact .inr ⟨joint, hrest⟩
  · exact .inl rfl

end Reader

open Reader

/-- What was read as segments: identifiers if none has arguments, and an angle otherwise. -/
structure SegmentsRead (before : List TokenTree) (segments : List Segment)
    (behind : List TokenTree) : Prop where
  plain : segments.all (·.arguments.isNone) = true →
    ∃ consumed, before = consumed ++ behind ∧ identsOf consumed = segments.map (·.name)
  angled : segments.all (·.arguments.isNone) = false → ∃ joint, .punct '<' joint ∈ before

namespace SegmentsRead

variable {before between behind : List TokenTree} {first second : List Segment}

theorem append (hfirst : SegmentsRead before first between)
    (hsecond : SegmentsRead between second behind) : SegmentsRead before (first ++ second) behind := by
  constructor
  · intro h
    rw [List.all_append, Bool.and_eq_true] at h
    obtain ⟨consumed, rfl, hidents⟩ := hfirst.plain h.1
    obtain ⟨consumed', rfl, hidents'⟩ := hsecond.plain h.2
    refine ⟨consumed ++ consumed', (List.append_assoc _ _ _).symm, ?_⟩
    rw [List.map_append, ← hidents, ← hidents', identsOf, List.filterMap_append]
    rfl
  · intro h
    rw [List.all_append, Bool.and_eq_false_iff] at h
    cases hplain : first.all (·.arguments.isNone) with
    | false => exact hfirst.angled hplain
    | true =>
        obtain ⟨consumed, rfl, -⟩ := hfirst.plain hplain
        obtain ⟨joint, hjoint⟩ := hsecond.angled (h.resolve_left (by simp [hplain]))
        exact ⟨joint, List.mem_append_right _ hjoint⟩

theorem nil (behind : List TokenTree) : SegmentsRead behind [] behind :=
  ⟨fun _ => ⟨[], rfl, rfl⟩, fun h => by cases h⟩

theorem colons (joint : Bool) (behind : List TokenTree) :
    SegmentsRead (.punct ':' true :: .punct ':' joint :: behind) [] behind :=
  ⟨fun _ => ⟨[.punct ':' true, .punct ':' joint], rfl, rfl⟩, fun h => by cases h⟩

end SegmentsRead

section Paths

variable {g : Grammar} {before behind : Cursor} {trees : List TokenTree} {code : Code}

theorem mem_of_op_angle {trees : List TokenTree} (h : Ahead.op "<" trees = true) :
    ∃ joint, .punct '<' joint ∈ trees := by
  cases trees with
  | nil => cases h
  | cons tree rest =>
      cases tree with
      | punct d joint =>
          obtain rfl : '<' = d := eq_of_beq h
          exact ⟨joint, List.mem_cons_self⟩
      | _ => cases h

theorem mem_of_mem_skip {trees : List TokenTree} {tree : TokenTree} (h : tree ∈ Ahead.skip trees) :
    tree ∈ trees := by
  unfold Ahead.skip at h
  split at h
  · exact List.mem_cons_of_mem _ (List.mem_cons_of_mem _ h)
  · exact List.mem_cons_of_mem _ h
  · exact h

def angledAhead : Ahead.Test := fun trees =>
  !false && Ahead.op "<" trees && !Ahead.op "<=" trees
    || Ahead.op "::" trees && Ahead.third (Ahead.op "<") trees

theorem mem_of_angledAhead {trees : List TokenTree} (h : angledAhead trees = true) :
    ∃ joint, .punct '<' joint ∈ trees := by
  simp only [angledAhead, Bool.or_eq_true, Bool.and_eq_true] at h
  rcases h with ⟨⟨-, h⟩, -⟩ | ⟨-, h⟩
  · exact mem_of_op_angle h
  · obtain ⟨joint, hjoint⟩ := mem_of_op_angle h
    exact ⟨joint, mem_of_mem_skip (mem_of_mem_skip hjoint)⟩

theorem isNone_of_angledArguments {arguments : SegmentArguments}
    (h : g.angledArguments before = some (arguments, behind)) : arguments.isNone = false := by
  obtain ⟨⟨⟨opening, body⟩, _⟩, _, -, h⟩ := bind_eq_some.mp h
  cases h
  rfl

def segmentBehind (g : Grammar) (name : String) : Reader Segment := do
  let angled ← ahead angledAhead
  return ⟨name, ← if angled then g.angledArguments else pure .none⟩

theorem segmentsRead_behind {name : String} {between : Cursor} {segment : Segment}
    (hname : before.rest = .ident name :: between.rest)
    (h : segmentBehind g name between = some (segment, behind)) :
    SegmentsRead before.rest [segment] behind.rest := by
  rw [segmentBehind, ahead_bind_eq_some] at h
  split at h
  next hangled =>
    obtain ⟨arguments, _, harguments, h⟩ := bind_eq_some.mp h
    cases h
    have hnone := isNone_of_angledArguments harguments
    refine ⟨fun hplain => ?_, fun _ => ?_⟩
    · simp [hnone] at hplain
    · obtain ⟨joint, hjoint⟩ := mem_of_angledAhead hangled
      exact ⟨joint, hname ▸ List.mem_cons_of_mem _ hjoint⟩
  next =>
    cases h
    refine ⟨fun _ => ⟨[.ident name], hname, rfl⟩, fun hplain => ?_⟩
    cases hplain

theorem segmentsRead_segment {segment : Segment}
    (h : g.segment false before = some (segment, behind)) :
    SegmentsRead before.rest [segment] behind.rest := by
  rw [Grammar.segment, ahead_bind_eq_some] at h
  split at h
  next =>
    obtain ⟨name, between, hword, h⟩ := bind_eq_some.mp h
    cases h
    refine ⟨fun _ => ⟨[.ident name], rest_of_anyWord hword, rfl⟩, fun hplain => ?_⟩
    cases hplain
  next =>
    rw [ahead_bind_eq_some] at h
    split at h
    next =>
      obtain ⟨name, between, hword, h⟩ := bind_eq_some.mp h
      exact segmentsRead_behind (rest_of_anyWord hword) h
    next =>
      obtain ⟨name, between, hident, h⟩ := bind_eq_some.mp h
      exact segmentsRead_behind (rest_of_ident hident).1 h

theorem segmentsRead_further {path found : Path}
    (h : g.furtherSegments false path before = some (found, behind)) :
    ∃ more, found.segments = path.segments ++ more ∧ SegmentsRead before.rest more behind.rest := by
  refine exhaust_induction (motive := fun path before found behind => ∃ more,
    found.segments = path.segments ++ more ∧ SegmentsRead before.rest more behind.rest) ?_ ?_ h
  · intro path before behind hstep
    rw [ahead_bind_eq_some] at hstep
    split at hstep
    next =>
      simp only [bind_eq_some] at hstep
      obtain ⟨_, _, -, _, _, -, hpure⟩ := hstep
      cases hpure
    next =>
      cases hstep
      exact ⟨[], (List.append_nil _).symm, .nil _⟩
  · intro path before next between found behind hstep ih
    obtain ⟨more, hfound, hmore⟩ := ih
    rw [ahead_bind_eq_some] at hstep
    split at hstep
    next =>
      simp only [bind_eq_some] at hstep
      obtain ⟨_, _, hskip, segment, _, hsegment, hpure⟩ := hstep
      cases hpure
      obtain ⟨joint, hcolons⟩ := rest_of_skipColons hskip
      refine ⟨segment :: more, by rw [hfound, List.append_assoc]; rfl, ?_⟩
      rw [hcolons]
      exact (SegmentsRead.colons joint _).append ((segmentsRead_segment hsegment).append hmore)
    next => cases hstep

theorem segmentsRead_path {path : Path} (h : run (g.path false) trees = some (path, code)) :
    SegmentsRead trees path.segments [] ∧ path.segments ≠ [] := by
  unfold run at h
  split at h
  next result written hread =>
    cases h
    obtain ⟨_, between, hpath, hread⟩ := bind_eq_some.mp hread
    obtain ⟨⟨path, _⟩, _, hquietly, hpure⟩ := bind_eq_some.mp hpath
    cases hpure
    obtain ⟨_, _, hwrite, hpure⟩ := bind_eq_some.mp hread
    obtain ⟨inner, hinner, -, rfl⟩ := quietly_eq_some hquietly
    have hrest := congrArg Cursor.rest (write_eq_some hwrite)
    cases hpure
    replace hrest : inner.rest = [] := hrest.symm
    simp only [bind_eq_some] at hinner
    obtain ⟨leading, _, hleading, first, _, hfirst, hfurther⟩ := hinner
    obtain ⟨more, hsegments, hmore⟩ := segmentsRead_further hfurther
    have hread := (segmentsRead_segment hfirst).append hmore
    rw [hrest] at hread
    rw [hsegments]
    refine ⟨?_, List.cons_ne_nil first more⟩
    rcases rest_of_optionalColons hleading with rfl | ⟨joint, hcolons⟩
    · exact hread
    · rw [show trees = _ from hcolons]
      exact (SegmentsRead.colons joint _).append hread
  next => cases h

theorem trees_of_ident {name : String} (h : run ident trees = some (name, code)) :
    trees = [.ident name] ∧ isReserved name = false := by
  unfold run at h
  split at h
  next hread =>
    cases h
    exact rest_of_ident hread
  next => cases h

theorem names_of_path {path : Path} (h : run (g.path false) trees = some (path, code))
    (hplain : path.isPlain = true) : path.names = identsOf trees := by
  obtain ⟨consumed, rfl, hidents⟩ := (segmentsRead_path h).1.plain hplain
  rw [List.append_nil, hidents]
  rfl

theorem isPlain_of_path {path : Path} (h : run (g.path false) trees = some (path, code))
    (hangle : ∀ joint, .punct '<' joint ∉ trees) : path.isPlain = true := by
  by_contra hplain
  obtain ⟨joint, hjoint⟩ := (segmentsRead_path h).1.angled (Bool.not_eq_true _ ▸ hplain)
  exact hangle joint hjoint

theorem mem_of_optionalColons {found : Bool} (h : optionalOp "::" before = some (found, behind))
    {tree : TokenTree} (htree : tree ∈ behind.rest) : tree ∈ before.rest := by
  rcases rest_of_optionalColons h with rfl | ⟨joint, hcolons⟩
  · exact htree
  · rw [hcolons]
    exact List.mem_cons_of_mem _ (List.mem_cons_of_mem _ htree)

theorem mem_of_plainPath {path : Path} (h : Grammar.plainPath before = some (path, behind)) :
    path.isPlain = true ∧ ∀ name ∈ path.names, .ident name ∈ before.rest := by
  obtain ⟨leading, between, hleading, h⟩ := bind_eq_some.mp h
  obtain ⟨⟨names, trailing⟩, _, hnames, h⟩ := bind_eq_some.mp h
  obtain ⟨_, _, -, hpure⟩ := bind_eq_some.mp h
  cases hpure
  have hread : ∀ name ∈ names, name ∈ [] ∨ .ident name ∈ between.rest := by
    refine exhaust_induction (motive := fun start before found behind =>
      ∀ name ∈ found.1, name ∈ start.1 ∨ .ident name ∈ before.rest) ?_ ?_ hnames
    · rintro ⟨names, more⟩ before behind -
      exact fun name hname => .inl hname
    · rintro ⟨names, more⟩ before next between found behind hstep ih name hname
      rw [ahead_bind_eq_some] at hstep
      split at hstep
      next => cases hstep
      next =>
        obtain ⟨word, _, hword, hstep⟩ := bind_eq_some.mp hstep
        obtain ⟨_, _, hcolons, hpure⟩ := bind_eq_some.mp hstep
        cases hpure
        rw [rest_of_anyWord hword, List.mem_cons]
        rcases ih name hname with hname | hname
        · rcases List.mem_cons.mp hname with rfl | hname
          · exact .inr (.inl rfl)
          · exact .inl hname
        · exact .inr (.inr (mem_of_optionalColons hcolons hname))
  constructor
  · simp [Path.isPlain, SegmentArguments.isNone]
  · intro name hname
    have hmem : name ∈ names := by simpa [Path.names] using hname
    exact mem_of_optionalColons hleading ((hread name hmem).resolve_left List.not_mem_nil)

theorem mem_of_attributePath {path : Path} (h : Grammar.attributePath before = some (path, behind)) :
    path.isPlain = true ∧ ∀ name ∈ path.names, .ident name ∈ before.rest := by
  rw [Grammar.attributePath, ahead_bind_eq_some] at h
  split at h
  next =>
    obtain ⟨word, _, hword, hpure⟩ := bind_eq_some.mp h
    cases hpure
    refine ⟨rfl, fun name hname => ?_⟩
    rw [List.mem_singleton.mp hname, rest_of_anyWord hword]
    exact List.mem_cons_self
  next => exact mem_of_plainPath h

theorem attributePath_ident {name : String} (h : isReserved name = false) :
    run Grammar.attributePath [.ident name] =
      some (⟨false, [⟨name, .none⟩]⟩, [.word name]) := by
  have hunsafe : Ahead.word "unsafe" [.ident name] = false := by
    rw [Ahead.word, beq_eq_false_iff_ne]
    rintro rfl
    exact absurd h (by decide)
  have hahead : Grammar.plainSegmentAhead [.ident name] = true := by
    rw [Grammar.plainSegmentAhead, Ahead.ident, h]
    rfl
  have hpath : Grammar.plainPath ⟨[.ident name], [], []⟩ =
      some (⟨false, [⟨name, .none⟩]⟩, ⟨[], [.word name], []⟩) := by
    refine bind_eq_some.mpr ⟨false, ⟨[.ident name], [], []⟩, rfl,
      bind_eq_some.mpr ⟨([name], false), ⟨[], [.word name], []⟩, ?_, rfl⟩⟩
    refine bind_eq_some.mpr ⟨_, _, rfl,
      bind_eq_some.mpr ⟨some ([name], false), ⟨[], [.word name], []⟩, ?_, rfl⟩⟩
    rw [ahead_bind_eq_some, hahead]
    rfl
  have hread : Grammar.attributePath ⟨[.ident name], [], []⟩ =
      some (⟨false, [⟨name, .none⟩]⟩, ⟨[], [.word name], []⟩) := by
    rw [Grammar.attributePath, ahead_bind_eq_some, hunsafe]
    exact hpath
  rw [run, hread]
  rfl

end Paths

end TypedLogging.Source
