import TypedLogging.Proofs.Binding
import TypedLogging.Proofs.Template.Grammar
import TypedLogging.Proofs.Template.Layout

namespace TypedLogging.Template

open Text Outcome

/-- How a raw text with `before` in front of it is rewritten, where `written` is what `before` became. -/
inductive Rewrites : List Char → List Char → List Char → List Char → List Slot → Prop
  | done (before written : List Char) : Rewrites before written [] [] []
  | keep {before written rest text : List Char} {c : Char} {slots : List Slot}
      (hnone : placeholderAt .typed before (c :: rest) = none)
      (hrest : Rewrites (before ++ [c]) (written ++ [c]) rest text slots) :
      Rewrites before written (c :: rest) (c :: text) slots
  | field {before written body name token behind text : List Char} {slot : Slot}
      {slots : List Slot} (heven : openRun before % 2 = 0) (hbody : ∀ c ∈ body, isBrace c = false)
      (hparts : splitBody .typed body = some (name, token))
      (halias : slot.aliasName = String.ofList name) (hstart : slot.start = byteLength written)
      (hstop : slot.stop = byteLength (written ++ enclosed name))
      (hrest : Rewrites (before ++ enclosed body) (written ++ enclosed name) behind text slots) :
      Rewrites before written (enclosed body ++ behind) (enclosed name ++ text) (slot :: slots)

theorem braced_ofList (name : List Char) : braced (String.ofList name) = enclosed name := by
  simp [braced, enclosed]

section Normalizing

variable {lookup : Lookup} {location : Location}

theorem placeholders_of_none {form : PlaceholderForm} {before rest : List Char} {c : Char}
    (h : placeholderAt form before (c :: rest) = none) :
    placeholders form before (c :: rest) = placeholders form (before ++ [c]) rest := by
  rw [placeholders, h, Option.toList_none, List.nil_append]

theorem normalize_cons_char {offset written : Nat} {c : Char} {rest text : List Char}
    {found : List Placeholder} {slots : List Slot}
    (hstart : ∀ a ∈ found, offset + c.utf8Size ≤ a.start ∧ offset + c.utf8Size ≤ a.stop)
    (h : normalize lookup location offset written (c :: rest) found = .ok (text, slots)) :
    ∃ behind, text = c :: behind ∧
      normalize lookup location (offset + c.utf8Size) (written + c.utf8Size) rest found =
        .ok (behind, slots) := by
  cases found with
  | nil =>
      obtain ⟨rfl, rfl⟩ := Prod.mk.inj (Except.ok.inj h)
      exact ⟨rest, rfl, rfl⟩
  | cons found more =>
      obtain ⟨hbegin, hend⟩ := hstart found List.mem_cons_self
      obtain ⟨type, behind, others, htype, hmore, rfl, rfl⟩ := normalize_cons_eq_ok.mp h
      have hbefore : takeBytes (found.start - offset) (c :: rest) =
          c :: takeBytes (found.start - (offset + c.utf8Size)) rest := by
        rw [← takeBytes_cons c]
        congr 1
        omega
      have hbehind : dropBytes (found.stop - offset) (c :: rest) =
          dropBytes (found.stop - (offset + c.utf8Size)) rest := by
        rw [← dropBytes_cons c (found.stop - (offset + c.utf8Size)) rest]
        congr 1
        omega
      rw [hbefore, byteLength, ← Nat.add_assoc, hbehind] at hmore
      refine ⟨_, by rw [hbefore, List.cons_append], ?_⟩
      rw [hbefore, byteLength, ← Nat.add_assoc]
      exact normalize_cons_eq_ok.mpr ⟨type, behind, others, htype, hmore, rfl, rfl⟩

theorem normalize_enclosed {offset written : Nat} {body behind text : List Char}
    {name token : String} {more : List Placeholder} {slots : List Slot}
    (h : normalize lookup location offset written (enclosed body ++ behind)
      (⟨name, token, offset, byteLength body + 2⟩ :: more) = .ok (text, slots)) :
    ∃ type rest others, text = braced name ++ rest ∧
      slots = ⟨name, type, written, written + byteLength (braced name)⟩ :: others ∧
      normalize lookup location (offset + byteLength (enclosed body))
        (written + byteLength (braced name)) behind more = .ok (rest, others) := by
  obtain ⟨type, rest, others, -, hmore, rfl, rfl⟩ := normalize_cons_eq_ok.mp h
  have hbefore : takeBytes (offset - offset) (enclosed body ++ behind) = [] := by
    rw [Nat.sub_self, takeBytes_zero]
  have hstop : Placeholder.stop ⟨name, token, offset, byteLength body + 2⟩ =
      offset + byteLength (enclosed body) := by
    rw [byteLength_enclosed]
    rfl
  rw [hbefore, hstop, Nat.add_sub_cancel_left, dropBytes_append] at hmore
  rw [hbefore]
  exact ⟨type, rest, others, rfl, rfl, hmore⟩

theorem rewrites_of_normalize {before written raw text : List Char} {slots : List Slot}
    (h : normalize lookup location (byteLength before) (byteLength written) raw
      (placeholders .typed before raw) = .ok (text, slots)) :
    Rewrites before written raw text slots := by
  cases raw with
  | nil =>
      obtain ⟨rfl, rfl⟩ := Prod.mk.inj (Except.ok.inj h)
      exact .done before written
  | cons c rest =>
      cases hat : placeholderAt .typed before (c :: rest) with
      | none =>
          rw [placeholders_of_none hat] at h
          have hstart : ∀ a ∈ placeholders .typed (before ++ [c]) rest,
              byteLength before + c.utf8Size ≤ a.start ∧
                byteLength before + c.utf8Size ≤ a.stop := by
            intro a ha
            have hle := le_start_of_mem_placeholders ha
            rw [byteLength_append] at hle
            exact ⟨hle, Nat.le_trans hle (Nat.le_add_right _ _)⟩
          obtain ⟨behind, rfl, hrest⟩ := normalize_cons_char hstart h
          have hsize : ∀ front : List Char,
              byteLength front + c.utf8Size = byteLength (front ++ [c]) := by
            intro front
            rw [byteLength_append]
            rfl
          rw [hsize, hsize] at hrest
          exact .keep hat (rewrites_of_normalize hrest)
      | some found =>
          obtain ⟨body, behind, name, token, hsplit, heven, hbody, hparts, -⟩ :=
            placeholderAt_eq_some.mp hat
          have henclosed : c :: rest = enclosed body ++ behind := by
            rw [hsplit]
            simp [enclosed]
          have hshorter : behind.length < (c :: rest).length := by
            rw [henclosed, List.length_append, enclosed]
            simp
          rw [henclosed, placeholders_enclosed heven hbody hparts] at h
          obtain ⟨type, text, others, rfl, rfl, hmore⟩ := normalize_enclosed h
          rw [braced_ofList, ← byteLength_append, ← byteLength_append] at hmore
          rw [henclosed, braced_ofList]
          exact .field heven hbody hparts rfl rfl (byteLength_append _ _).symm
            (rewrites_of_normalize hmore)
termination_by raw.length

theorem alike_of_normalize {offset written : Nat} {rest text : List Char}
    {found : List Placeholder} {slots : List Slot}
    (h : normalize lookup location offset written rest found = .ok (text, slots)) :
    List.Forall₂ (fun a slot => slot.aliasName = a.aliasName ∧
      lookup.resolve location a.type = .ok slot.type) found slots := by
  induction found generalizing offset written rest text slots with
  | nil =>
      obtain ⟨-, rfl⟩ := Prod.mk.inj (Except.ok.inj h)
      exact .nil
  | cons found more ih =>
      obtain ⟨type, behind, others, htype, hmore, -, rfl⟩ := normalize_cons_eq_ok.mp h
      exact .cons ⟨rfl, htype⟩ (ih hmore)

/-- The first of the placeholders whose type is not found, and the number of types it might be. -/
def FirstUnresolved (lookup : Lookup) (location : Location) (found : List Placeholder)
    (a : Placeholder) (candidates : Nat) : Prop :=
  ∃ before after, found = before ++ a :: after ∧
    (∀ b ∈ before, ∃ type, lookup.resolve location b.type = .ok type) ∧
    lookup.resolve location a.type = .error candidates

theorem firstUnresolved_cons {found a : Placeholder} {more : List Placeholder} {candidates : Nat} :
    FirstUnresolved lookup location (found :: more) a candidates ↔
      (found = a ∧ lookup.resolve location found.type = .error candidates) ∨
        (∃ type, lookup.resolve location found.type = .ok type) ∧
          FirstUnresolved lookup location more a candidates := by
  constructor
  · rintro ⟨before, after, hsplit, hbefore, ha⟩
    cases before with
    | nil =>
        obtain ⟨rfl, -⟩ := List.cons.inj hsplit
        exact .inl ⟨rfl, ha⟩
    | cons b before =>
        obtain ⟨rfl, rfl⟩ := List.cons.inj hsplit
        rw [List.forall_mem_cons] at hbefore
        exact .inr ⟨hbefore.1, before, after, rfl, hbefore.2, ha⟩
  · rintro (⟨rfl, ha⟩ | ⟨htype, before, after, rfl, hbefore, ha⟩)
    · exact ⟨[], more, rfl, by simp, ha⟩
    · exact ⟨found :: before, after, rfl, List.forall_mem_cons.mpr ⟨htype, hbefore⟩, ha⟩

theorem resolveType_eq_error {token : String} {error : BindError} :
    resolveType lookup location token = .error error ↔
      ∃ candidates, lookup.resolve location token = .error candidates ∧
        error = .unresolvedType token candidates := by
  rw [resolveType]
  cases lookup.resolve location token <;> simp [eq_comm]

theorem normalize_eq_error {offset written : Nat} {rest : List Char} {found : List Placeholder}
    {error : BindError} :
    normalize lookup location offset written rest found = .error error ↔
      ∃ a candidates, FirstUnresolved lookup location found a candidates ∧
        error = .unresolvedType a.type candidates := by
  induction found generalizing offset written rest with
  | nil => simp [normalize, FirstUnresolved]
  | cons found more ih =>
      simp only [normalize, bind_eq_error, resolveType_eq_error, resolveType_eq_ok, ih,
        firstUnresolved_cons]
      constructor
      · rintro (⟨candidates, hfound, rfl⟩ | ⟨type, htype, (⟨a, candidates, hfirst, rfl⟩ | hlast)⟩)
        · exact ⟨found, candidates, .inl ⟨rfl, hfound⟩, rfl⟩
        · exact ⟨a, candidates, .inr ⟨⟨type, htype⟩, hfirst⟩, rfl⟩
        · obtain ⟨_, -, hlast⟩ := hlast
          cases hlast
      · rintro ⟨a, candidates, ⟨rfl, ha⟩ | ⟨⟨type, htype⟩, hfirst⟩, rfl⟩
        · exact .inl ⟨candidates, ha, rfl⟩
        · exact .inr ⟨type, htype, .inl ⟨a, candidates, hfirst, rfl⟩⟩

end Normalizing

/-- The pieces of a text outside spans, from a byte offset on. -/
def outsideSpans (text : List Char) (offset : Nat) : List (Nat × Nat) → List (List Char)
  | [] => [dropBytes offset text]
  | (start, stop) :: rest => slice offset start text :: outsideSpans text stop rest

theorem outsideSpans_cons_char {before rest : List Char} {c : Char} {spans : List (Nat × Nat)}
    (h : ∀ span ∈ spans, byteLength (before ++ [c]) ≤ span.1) :
    outsideSpans (before ++ c :: rest) (byteLength before) spans =
      (outsideSpans (before ++ [c] ++ rest) (byteLength (before ++ [c])) spans).modifyHead
        (c :: ·) := by
  have hsame : before ++ c :: rest = before ++ [c] ++ rest := by simp
  cases spans with
  | nil =>
      rw [outsideSpans, outsideSpans, dropBytes_append, dropBytes_append]
      rfl
  | cons span spans =>
      obtain ⟨start, stop⟩ := span
      have hstart : byteLength before + c.utf8Size ≤ start := by
        simpa [byteLength] using h _ List.mem_cons_self
      have hpiece : slice (byteLength before) start (before ++ c :: rest) =
          c :: slice (byteLength (before ++ [c])) start (before ++ [c] ++ rest) := by
        have hlength : start - byteLength before =
            c.utf8Size + (start - byteLength (before ++ [c])) := by
          simp only [byteLength_append, byteLength]
          omega
        rw [slice, slice, dropBytes_append, dropBytes_append, hlength, takeBytes_cons]
      rw [outsideSpans, outsideSpans, hpiece, hsame]
      rfl

theorem openRun_append_congr {first second : List Char} (h : openRun first = openRun second)
    (c : Char) : openRun (first ++ [c]) = openRun (second ++ [c]) := by
  by_cases hc : c = '\x7b'
  · rw [hc, openRun_append_open, openRun_append_open, h]
  · rw [openRun_append_of_ne _ hc, openRun_append_of_ne _ hc]

namespace Rewrites

variable {before written raw text : List Char} {slots : List Slot}

theorem exact (h : Rewrites before written raw text slots) :
    ∀ slot ∈ slots, ∃ front behind,
      written ++ text = front ++ (braced slot.aliasName ++ behind) ∧
        slot.start = byteLength front ∧
        slot.stop = slot.start + byteLength (braced slot.aliasName) := by
  induction h with
  | done => simp
  | keep _ _ ih => simpa using ih
  | @field before written body name token behind text slot slots _ _ _ halias hstart hstop _ ih =>
      rw [List.forall_mem_cons]
      refine ⟨⟨written, text, ?_, hstart, ?_⟩, by simpa using ih⟩
      · rw [halias, braced_ofList]
      · rw [hstop, hstart, halias, braced_ofList, byteLength_append]

theorem le_start (h : Rewrites before written raw text slots) :
    ∀ slot ∈ slots, byteLength written ≤ slot.start ∧ slot.start ≤ slot.stop := by
  induction h with
  | done => simp
  | keep _ _ ih =>
      intro slot hslot
      obtain ⟨hstart, hstop⟩ := ih slot hslot
      rw [byteLength_append] at hstart
      exact ⟨Nat.le_trans (Nat.le_add_right _ _) hstart, hstop⟩
  | field _ _ _ _ hstart hstop _ ih =>
      rw [byteLength_append] at hstop
      rw [List.forall_mem_cons]
      refine ⟨⟨hstart.ge, by omega⟩, fun slot hslot => ?_⟩
      obtain ⟨hnext, hle⟩ := ih slot hslot
      rw [byteLength_append] at hnext
      exact ⟨Nat.le_trans (Nat.le_add_right _ _) hnext, hle⟩

theorem disjoint (h : Rewrites before written raw text slots) :
    slots.Pairwise fun a b => a.stop ≤ b.start := by
  induction h with
  | done => exact .nil
  | keep _ _ ih => exact ih
  | field _ _ _ _ _ hstop hrest ih =>
      exact .cons (fun slot hslot => hstop ▸ (hrest.le_start slot hslot).1) ih

theorem around (h : Rewrites before written raw text slots) :
    outsideSpans (before ++ raw) (byteLength before)
        ((placeholders .typed before raw).map fun a => (a.start, a.stop)) =
      outsideSpans (written ++ text) (byteLength written)
        (slots.map fun slot => (slot.start, slot.stop)) := by
  induction h with
  | done before written =>
      simp only [placeholders, List.map_nil, outsideSpans, dropBytes_append]
  | @keep before written rest text c slots hnone hrest ih =>
      rw [placeholders_of_none hnone, outsideSpans_cons_char, ih, outsideSpans_cons_char]
      · intro span hspan
        obtain ⟨slot, hslot, rfl⟩ := List.mem_map.mp hspan
        exact (hrest.le_start slot hslot).1
      · intro span hspan
        obtain ⟨a, ha, rfl⟩ := List.mem_map.mp hspan
        exact le_start_of_mem_placeholders ha
  | @field before written body name token behind text slot slots heven hbody hparts _ hstart hstop
      _ ih =>
      have hstop' : Placeholder.stop ⟨String.ofList name, String.ofList token, byteLength before,
          byteLength body + 2⟩ = byteLength (before ++ enclosed body) := by
        rw [byteLength_append, byteLength_enclosed]
        rfl
      rw [placeholders_enclosed heven hbody hparts, List.map_cons, List.map_cons, outsideSpans,
        outsideSpans, hstop', hstart, hstop, ← List.append_assoc, ← List.append_assoc, ih]
      simp only [slice, Nat.sub_self, takeBytes_zero]

/-- In the rewritten text as many braces stand before a place as before the one it came from, so a
placeholder is not escaped there either. -/
theorem rescanned (h : Rewrites before written raw text slots)
    (hrun : openRun before = openRun written) :
    ∀ slot ∈ slots,
      ⟨slot.aliasName, "", slot.start, slot.stop - slot.start⟩ ∈ placeholders .bare written text := by
  induction h with
  | done => simp
  | keep hnone _ ih =>
      intro slot hslot
      rw [placeholders]
      exact List.mem_append_right _ (ih (openRun_append_congr hrun _) slot hslot)
  | @field before written body name token behind text slot slots heven hbody hparts halias hstart
      hstop _ ih =>
      obtain ⟨rfl, hname, -⟩ := splitBody_typed.mp hparts
      have hplain : ∀ c ∈ name, isBrace c = false := fun c hc =>
        hbody c (List.mem_append_left _ hc)
      have hlength : slot.stop - slot.start = byteLength name + 2 := by
        rw [hstop, hstart, byteLength_append, Nat.add_sub_cancel_left, byteLength_enclosed]
      rw [placeholders_enclosed (hrun ▸ heven) hplain (splitBody_bare.mpr ⟨hname, rfl, rfl⟩),
        List.forall_mem_cons]
      constructor
      · rw [hlength, halias, hstart]
        exact List.mem_cons_self
      · intro other hother
        refine List.mem_cons_of_mem _ (ih ?_ other hother)
        rw [openRun_append_enclosed, openRun_append_enclosed]

end Rewrites

section Parsing

variable {lookup : Lookup} {location : Location} {raw : String} {template : Template}

theorem rewrites_of_parse (h : parse lookup location raw = .ok template) :
    Rewrites [] [] raw.toList template.normalized.toList template.slots := by
  obtain ⟨-, text, slots, hnormal, rfl⟩ := parse_eq_ok.mp h
  rw [tokenize, scan_eq] at hnormal
  rw [String.toList_ofList]
  exact rewrites_of_normalize hnormal

theorem parse_eq_error {error : BindError} :
    parse lookup location raw = .error error ↔
      (tokenize raw = [] ∧ error = .noPlaceholders raw) ∨
        ∃ a candidates, FirstUnresolved lookup location (tokenize raw) a candidates ∧
          error = .unresolvedType a.type candidates := by
  rw [parse]
  cases hfound : tokenize raw with
  | nil => simp [FirstUnresolved, eq_comm]
  | cons found more =>
      simp only [bind_eq_error, normalize_eq_error, reduceCtorEq, false_and, false_or]
      constructor
      · rintro (h | ⟨_, -, hlast⟩)
        · exact h
        · cases hlast
      · exact .inl

/-- What a raw text was rewritten to: its placeholders lost their types, and nothing else changed. -/
structure Rewritten (lookup : Lookup) (location : Location) (raw : String) (template : Template) :
    Prop where
  raw_eq : template.raw = raw
  alike : List.Forall₂ (fun found slot => slot.aliasName = found.aliasName ∧
    lookup.resolve location found.type = .ok slot.type) (tokenize raw) template.slots
  disjoint : template.slots.Pairwise fun a b => a.stop ≤ b.start
  exact : ∀ slot ∈ template.slots, ∃ before behind,
    template.normalized.toList = before ++ (braced slot.aliasName ++ behind) ∧
      slot.start = byteLength before ∧
      slot.stop = slot.start + byteLength (braced slot.aliasName)
  around : outsideSpans raw.toList 0 ((tokenize raw).map fun found => (found.start, found.stop)) =
    outsideSpans template.normalized.toList 0
      (template.slots.map fun slot => (slot.start, slot.stop))
  rescanned : ∀ slot ∈ template.slots,
    ⟨slot.aliasName, "", slot.start, slot.stop - slot.start⟩ ∈ aliases template.normalized

theorem rewritten_of_parse (h : parse lookup location raw = .ok template) :
    Rewritten lookup location raw template := by
  have hrewrites := rewrites_of_parse h
  obtain ⟨-, text, slots, hnormal, htemplate⟩ := parse_eq_ok.mp h
  refine ⟨by rw [htemplate], ?_, hrewrites.disjoint, hrewrites.exact, ?_, ?_⟩
  · rw [htemplate]
    exact alike_of_normalize hnormal
  · rw [tokenize, scan_eq]
    exact hrewrites.around
  · rw [aliases, scan_eq]
    exact hrewrites.rescanned rfl

/-- Parsing fails on a text without placeholders, and at the first placeholder whose type is not one
visible type. Otherwise it succeeds, and rewrites the placeholders and nothing else. -/
theorem parse_rewrites (lookup : Lookup) (location : Location) (raw : String) :
    (parse lookup location raw = .error (.noPlaceholders raw) ↔ tokenize raw = []) ∧
      (∀ error, parse lookup location raw = .error error ↔
        (tokenize raw = [] ∧ error = .noPlaceholders raw) ∨
          ∃ a candidates, FirstUnresolved lookup location (tokenize raw) a candidates ∧
            error = .unresolvedType a.type candidates) ∧
      ((∃ template, parse lookup location raw = .ok template) ↔ tokenize raw ≠ [] ∧
        ∀ found ∈ tokenize raw, ∃ type, lookup.resolve location found.type = .ok type) ∧
      ∀ template, parse lookup location raw = .ok template →
        Rewritten lookup location raw template := by
  refine ⟨?_, fun error => parse_eq_error, ⟨?_, ?_⟩, fun template => rewritten_of_parse⟩
  · rw [parse_eq_error]
    simp
  · rintro ⟨template, h⟩
    have halike := (rewritten_of_parse h).alike
    refine ⟨(parse_eq_ok.mp h).1, fun found hfound => ?_⟩
    obtain ⟨slot, -, -, htype⟩ := exists_mem_of_forall₂ halike.flip hfound
    exact ⟨slot.type, htype⟩
  · rintro ⟨hne, htypes⟩
    obtain ⟨⟨text, slots⟩, hnormal⟩ := exists_normalize_eq_ok htypes 0 0 raw.toList
    exact ⟨_, parse_eq_ok.mpr ⟨hne, text, slots, hnormal, rfl⟩⟩

end Parsing

def touchingTemplate : Template where
  raw := "\x7b\x7b\x7bé:b:T\x7d\x7d\x7d\x7bn\x7d\x7b\x7bx \x7bY:u8\x7d"
  normalized := "\x7b\x7b\x7bé:b\x7d\x7d\x7d\x7bn\x7d\x7b\x7bx \x7bY\x7d"
  slots := [⟨"é:b", ⟨"T", "T"⟩, 2, 8⟩, ⟨"Y", ⟨"u8", "u8"⟩, 17, 20⟩]

theorem parse_rewrites_touching :
    parse .plain ⟨"crate", []⟩ touchingTemplate.raw = .ok touchingTemplate ∧
      Rewritten .plain ⟨"crate", []⟩ touchingTemplate.raw touchingTemplate := by
  have h : parse .plain ⟨"crate", []⟩ touchingTemplate.raw = .ok touchingTemplate := by
    decide
  exact ⟨h, (parse_rewrites _ _ _).2.2.2 _ h⟩

end TypedLogging.Template
