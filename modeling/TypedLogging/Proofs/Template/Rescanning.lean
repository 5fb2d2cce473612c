import TypedLogging.Proofs.Template.Rewriting

namespace TypedLogging.Template

open Text

/-- The alias of a group in braces that is a placeholder with a type. -/
def typedAlias? (group : Placeholder) : Option String :=
  (splitBody .typed group.aliasName.toList).map fun (name, _) => String.ofList name

/-- What stands in the braces of a group once types are dropped. -/
def shownAlias (group : Placeholder) : String := (typedAlias? group).getD group.aliasName

theorem placeholderAt_typed (before text : List Char) :
    (placeholderAt .typed before text).map (·.aliasName) =
      (placeholderAt .bare before text).bind typedAlias? := by
  cases text with
  | nil => rfl
  | cons c rest =>
      simp only [placeholderAt]
      split
      next =>
        cases bodyAhead rest with
        | none => rfl
        | some body =>
            cases body with
            | nil => rfl
            | cons d body =>
                simp only [Option.bind_some, splitBody, Option.map_some, typedAlias?,
                  String.toList_ofList, Option.map_map]
                rfl
      next => rfl

theorem map_placeholders_typed (before text : List Char) :
    (placeholders .typed before text).map (·.aliasName) =
      (placeholders .bare before text).filterMap typedAlias? := by
  induction text generalizing before with
  | nil => rfl
  | cons c rest ih =>
      have hat := placeholderAt_typed before (c :: rest)
      rw [placeholders, placeholders, List.map_append, List.filterMap_append, ih]
      congr 1
      cases hbare : placeholderAt .bare before (c :: rest) with
      | none =>
          rw [hbare, Option.bind_none, Option.map_eq_none_iff] at hat
          rw [hat]
          rfl
      | some group =>
          rw [hbare, Option.bind_some] at hat
          rw [Option.toList_some, List.filterMap_cons, List.filterMap_nil, ← hat]
          cases placeholderAt .typed before (c :: rest) <;> rfl

theorem bodyAhead_cons (c : Char) (rest : List Char) :
    bodyAhead (c :: rest) =
      if c = '\x7d' then some [] else if c = '\x7b' then none else (bodyAhead rest).map (c :: ·) := by
  by_cases hclose : c = '\x7d'
  · simp [bodyAhead, hclose, isBrace]
  · by_cases hopen : c = '\x7b'
    · simp [bodyAhead, hopen, isBrace]
    · have hc : isBrace c = false := isBrace_eq_false.mpr ⟨hopen, hclose⟩
      simp only [bodyAhead, hc, List.takeWhile_cons, Bool.not_false, if_true, List.length_cons,
        List.drop_succ_cons, if_neg hclose, if_neg hopen]
      split <;> rfl

namespace Rewrites

variable {before written raw text : List Char} {slots : List Slot}

theorem bodyAhead_eq (h : Rewrites before written raw text slots) :
    bodyAhead text = bodyAhead raw := by
  induction h with
  | done => rfl
  | keep _ _ ih => rw [bodyAhead_cons, bodyAhead_cons, ih]
  | field => simp [enclosed, bodyAhead_cons]

theorem map_placeholderAt (hrun : openRun before = openRun written) {c : Char}
    (hahead : bodyAhead text = bodyAhead raw) :
    (placeholderAt .bare written (c :: text)).map (·.aliasName) =
      (placeholderAt .bare before (c :: raw)).map (·.aliasName) := by
  simp only [placeholderAt, hrun, hahead]
  split
  next =>
    cases bodyAhead raw with
    | none => rfl
    | some body =>
        simp only [Option.bind_some, Option.map_map]
        rfl
  next => rfl

theorem map_shownAlias_of_none {group : Option Placeholder} (h : group.bind typedAlias? = none) :
    group.map shownAlias = group.map (·.aliasName) := by
  cases group with
  | none => rfl
  | some group =>
      rw [Option.bind_some] at h
      rw [Option.map_some, Option.map_some, shownAlias, h, Option.getD_none]

theorem map_placeholders (h : Rewrites before written raw text slots)
    (hrun : openRun before = openRun written) :
    (placeholders .bare written text).map (·.aliasName) =
      (placeholders .bare before raw).map shownAlias := by
  induction h with
  | done => rfl
  | @keep before written rest text c slots hnone hrest ih =>
      have htyped := placeholderAt_typed before (c :: rest)
      rw [hnone, Option.map_none] at htyped
      have hhere : (placeholderAt .bare written (c :: text)).map (·.aliasName) =
          (placeholderAt .bare before (c :: rest)).map shownAlias := by
        rw [map_placeholderAt hrun hrest.bodyAhead_eq, map_shownAlias_of_none htyped.symm]
      rw [placeholders, placeholders, List.map_append, List.map_append,
        ih (openRun_append_congr hrun c), ← Option.toList_map, hhere, Option.toList_map]
  | @field before written body name token behind text slot slots heven hbody hparts _ _ _ _ ih =>
      obtain ⟨hsplit, hname, -⟩ := splitBody_typed.mp hparts
      have hplain : ∀ c ∈ name, isBrace c = false := fun c hc =>
        hbody c (hsplit ▸ List.mem_append_left _ hc)
      have hne : body ≠ [] := by simp [hsplit]
      have hshown : shownAlias ⟨String.ofList body, "", byteLength before, byteLength body + 2⟩ =
          String.ofList name := by
        simp [shownAlias, typedAlias?, hparts]
      rw [placeholders_enclosed heven hbody (splitBody_bare.mpr ⟨hne, rfl, rfl⟩),
        placeholders_enclosed (hrun ▸ heven) hplain (splitBody_bare.mpr ⟨hname, rfl, rfl⟩),
        List.map_cons, List.map_cons, ih (by rw [openRun_append_enclosed, openRun_append_enclosed])]
      exact congrArg (· :: _) hshown.symm

end Rewrites

theorem eq_of_append_eq {first second behind behind' : List Char}
    (h : first ++ behind = second ++ behind') (hlength : byteLength first = byteLength second) :
    first = second ∧ behind = behind' := by
  have hfirst := takeBytes_append first behind
  rw [h, hlength, takeBytes_append] at hfirst
  subst hfirst
  exact ⟨rfl, List.append_cancel_left h⟩

theorem exists_typedAlias_iff {raw : String} {group : Placeholder} (h : group ∈ aliases raw) :
    (∃ name, typedAlias? group = some name) ↔ ∃ found ∈ tokenize raw, found.start = group.start := by
  obtain ⟨before, body, behind, name, type, hsplit, heven, hbody, hparts, rfl⟩ := mem_scan.mp h
  obtain ⟨-, hname, -⟩ := splitBody_bare.mp hparts
  simp only [typedAlias?, hname, String.toList_ofList, Option.map_eq_some_iff, Prod.exists]
  constructor
  · rintro ⟨-, name, type, htyped, -⟩
    exact ⟨_, mem_scan.mpr ⟨before, body, behind, _, _, hsplit, heven, hbody, htyped, rfl⟩, rfl⟩
  · rintro ⟨found, hfound, hstart⟩
    obtain ⟨before', body', behind', name', type', hsplit', -, hbody', hparts', rfl⟩ :=
      mem_scan.mp hfound
    obtain ⟨rfl, hrest⟩ := eq_of_append_eq (hsplit'.symm.trans hsplit) hstart
    have hahead := bodyAhead_eq_some.mpr ⟨hbody', behind', rfl⟩
    rw [(List.cons.inj hrest).2, bodyAhead_eq_some.mpr ⟨hbody, behind, rfl⟩] at hahead
    obtain rfl := Option.some.inj hahead
    exact ⟨_, _, _, hparts', rfl⟩

/-- Scanning the normalized text gives what stands in each group of the raw text once types are
dropped. These are the aliases of the placeholders, one for one, just if every group is one. -/
theorem aliases_of_parse {lookup : Lookup} {location : Location} {raw : String}
    {template : Template} (h : parse lookup location raw = .ok template) :
    (tokenize raw).map (·.aliasName) = (aliases raw).filterMap typedAlias? ∧
      (aliases template.normalized).map (·.aliasName) = (aliases raw).map shownAlias ∧
      ((aliases template.normalized).map (·.aliasName) = (tokenize raw).map (·.aliasName) ↔
        ∀ group ∈ aliases raw, ∃ found ∈ tokenize raw, found.start = group.start) := by
  have htyped : (tokenize raw).map (·.aliasName) = (aliases raw).filterMap typedAlias? := by
    rw [tokenize, aliases, scan_eq, scan_eq]
    exact map_placeholders_typed [] raw.toList
  have hshown : (aliases template.normalized).map (·.aliasName) = (aliases raw).map shownAlias := by
    rw [aliases, aliases, scan_eq, scan_eq]
    exact (rewrites_of_parse h).map_placeholders rfl
  refine ⟨htyped, hshown, ?_⟩
  rw [hshown, htyped, eq_comm, List.filterMap_eq_map_iff_forall_eq_some]
  refine forall₂_congr fun group hgroup => ?_
  rw [← exists_typedAlias_iff hgroup]
  constructor
  · exact fun hsome => ⟨_, hsome⟩
  · rintro ⟨name, hname⟩
    rw [shownAlias, hname, Option.getD_some]

def keptGroup : Template where
  raw := "\x7bfoo\x7d \x7bA:u32\x7d"
  normalized := "\x7bfoo\x7d \x7bA\x7d"
  slots := [⟨"A", ⟨"u32", "u32"⟩, 6, 9⟩]

theorem aliases_of_parse_kept :
    parse .plain ⟨"crate", []⟩ keptGroup.raw = .ok keptGroup ∧
      (aliases keptGroup.normalized).map (·.aliasName) = (aliases keptGroup.raw).map shownAlias := by
  have h : parse .plain ⟨"crate", []⟩ keptGroup.raw = .ok keptGroup := by decide
  exact ⟨h, (aliases_of_parse h).2.1⟩

theorem aliases_differ :
    parse .plain ⟨"crate", []⟩ keptGroup.raw = .ok keptGroup ∧
      (tokenize keptGroup.raw).map (·.aliasName) = ["A"] ∧
      (aliases keptGroup.normalized).map (·.aliasName) = ["foo", "A"] := by
  decide

end TypedLogging.Template
