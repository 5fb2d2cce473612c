import Mathlib.Data.List.TakeWhile
import TypedLogging.Proofs.Text.Bytes
import TypedLogging.Template.Scan

namespace TypedLogging.Template

open Text

/-- The number of opening braces that end a text. -/
def openRun (text : List Char) : Nat := (text.reverse.takeWhile (· = '\x7b')).length

@[simp]
theorem openRun_append_open (text : List Char) : openRun (text ++ ['\x7b']) = openRun text + 1 := by
  simp [openRun]

def enclosed (body : List Char) : List Char := '\x7b' :: (body ++ ['\x7d'])

theorem byteLength_enclosed (body : List Char) : byteLength (enclosed body) = byteLength body + 2 := by
  simp only [enclosed, byteLength, byteLength_append, show '\x7b'.utf8Size = 1 from rfl,
    show '\x7d'.utf8Size = 1 from rfl]
  omega

theorem openRun_append_of_ne (text : List Char) {c : Char} (hc : c ≠ '\x7b') :
    openRun (text ++ [c]) = 0 := by
  simp [openRun, hc]

theorem openRun_append_enclosed (before body : List Char) :
    openRun (before ++ enclosed body) = 0 := by
  have hend : before ++ enclosed body = before ++ ('\x7b' :: body) ++ ['\x7d'] := by
    simp [enclosed]
  rw [hend, openRun_append_of_ne _ (by decide)]

theorem isBrace_eq_false {c : Char} : isBrace c = false ↔ c ≠ '\x7b' ∧ c ≠ '\x7d' := by
  simp [isBrace]

theorem bodyAhead_eq_some {text body : List Char} :
    bodyAhead text = some body ↔
      (∀ c ∈ body, isBrace c = false) ∧ ∃ behind, text = body ++ '\x7d' :: behind := by
  constructor
  · intro h
    have hsplit := List.takeWhile_append_dropWhile (p := fun c => !isBrace c) (l := text)
    simp only [bodyAhead] at h
    split at h
    next hclose =>
      obtain rfl : text.takeWhile (fun c => !isBrace c) = body := Option.some.inj h
      refine ⟨fun c hc => by simpa using List.mem_takeWhile_imp hc, ?_⟩
      have hdrop : text.drop (text.takeWhile fun c => !isBrace c).length =
          text.dropWhile fun c => !isBrace c := by
        conv_lhs => arg 2; rw [← hsplit]
        exact List.drop_left
      rw [hdrop] at hclose
      obtain ⟨behind, hbehind⟩ := List.head?_eq_some_iff.mp hclose
      exact ⟨behind, by rw [← hbehind, hsplit]⟩
    next => exact absurd h (by simp)
  · rintro ⟨hbody, behind, rfl⟩
    have htake : (body ++ '\x7d' :: behind).takeWhile (fun c => !isBrace c) = body := by
      rw [List.takeWhile_append_of_pos (fun c hc => by simp [hbody c hc])]
      simp [isBrace]
    simp [bodyAhead, htake]

/-- The placeholder that begins with the first character of a text, if one does. -/
def placeholderAt (form : PlaceholderForm) (before : List Char) : List Char → Option Placeholder
  | [] => none
  | c :: rest =>
    if c = '\x7b' ∧ openRun before % 2 = 0 then
      (bodyAhead rest).bind fun body =>
        (splitBody form body).map fun (name, type) =>
          ⟨String.ofList name, String.ofList type, byteLength before, byteLength body + 2⟩
    else none

/-- The placeholders at all places of a text that has `before` in front of it. -/
def placeholders (form : PlaceholderForm) (before : List Char) : List Char → List Placeholder
  | [] => []
  | c :: rest =>
    (placeholderAt form before (c :: rest)).toList ++ placeholders form (before ++ [c]) rest

theorem placeholderAt_eq_some {form : PlaceholderForm} {before text : List Char}
    {found : Placeholder} :
    placeholderAt form before text = some found ↔
      ∃ body behind name type, text = '\x7b' :: (body ++ '\x7d' :: behind) ∧
        openRun before % 2 = 0 ∧ (∀ c ∈ body, isBrace c = false) ∧
        splitBody form body = some (name, type) ∧
        found = ⟨String.ofList name, String.ofList type, byteLength before, byteLength body + 2⟩ := by
  cases text with
  | nil => simp [placeholderAt]
  | cons c rest =>
      simp only [placeholderAt, List.cons.injEq]
      constructor
      · intro h
        split at h
        next hopen =>
          obtain ⟨body, hahead, h⟩ := Option.bind_eq_some_iff.mp h
          obtain ⟨⟨name, type⟩, hparts, rfl⟩ := Option.map_eq_some_iff.mp h
          obtain ⟨hbody, behind, hrest⟩ := bodyAhead_eq_some.mp hahead
          exact ⟨body, behind, name, type, ⟨hopen.1, hrest⟩, hopen.2, hbody, hparts, rfl⟩
        next => exact absurd h (by simp)
      · rintro ⟨body, behind, name, type, ⟨rfl, rfl⟩, heven, hbody, hparts, rfl⟩
        rw [if_pos ⟨rfl, heven⟩, bodyAhead_eq_some.mpr ⟨hbody, behind, rfl⟩]
        simp [hparts]

theorem placeholders_cons_of_ne (form : PlaceholderForm) (before rest : List Char) {c : Char}
    (hc : c ≠ '\x7b') : placeholders form before (c :: rest) = placeholders form (before ++ [c]) rest := by
  simp [placeholders, placeholderAt, hc]

theorem ne_open_of_mem_take {body : List Char} (hbody : ∀ c ∈ body, isBrace c = false)
    (behind : List Char) : ∀ c ∈ (body ++ '\x7d' :: behind).take (body.length + 1), c ≠ '\x7b' := by
  intro c hc
  rw [List.take_length_add_append] at hc
  rcases List.mem_append.mp hc with hc | hc
  · exact (isBrace_eq_false.mp (hbody c hc)).1
  · rw [List.take_succ_cons, List.take_zero, List.mem_singleton] at hc
    simp [hc]

theorem openRun_append_even {before : List Char} {c : Char}
    (h : ¬ (c = '\x7b' ∧ openRun before % 2 = 0)) : openRun (before ++ [c]) % 2 = 0 := by
  by_cases hc : c = '\x7b'
  · subst c
    have hodd : openRun before % 2 ≠ 0 := fun heven => h ⟨rfl, heven⟩
    rw [openRun_append_open]
    omega
  · rw [openRun_append_of_ne before hc]

/-- The flag of the scanner says whether the run of braces before it is odd. While characters are
stepped over there is nothing to find, since none of them opens a placeholder. -/
theorem scanFrom_eq (form : PlaceholderForm) (before text : List Char) (start : Nat)
    (escaped : Bool) (skip : Nat) (hstart : start = byteLength before)
    (hskip : ∀ c ∈ text.take skip, c ≠ '\x7b')
    (hescaped : skip = 0 → escaped = decide (openRun before % 2 = 1)) :
    scanFrom form start escaped skip text = placeholders form before text := by
  induction text generalizing before start escaped skip with
  | nil => rfl
  | cons c rest ih =>
      have hnext : start + c.utf8Size = byteLength (before ++ [c]) := by
        simp [byteLength, hstart]
      cases skip with
      | succ skip =>
          have hc : c ≠ '\x7b' := hskip c (by simp)
          rw [scanFrom, placeholders_cons_of_ne form before rest hc]
          exact ih _ _ _ _ hnext (fun d hd => hskip d (by simp [hd]))
            (fun _ => by simp [openRun_append_of_ne before hc])
      | zero =>
          have hesc := hescaped rfl
          by_cases hopen : c = '\x7b' ∧ openRun before % 2 = 0
          · obtain ⟨rfl, heven⟩ := hopen
            have hfree : escaped = false := by simp [hesc, heven]
            have hmiss := ih (before ++ ['\x7b']) _ true 0 hnext (by simp)
              (fun _ => by rw [openRun_append_open, eq_comm, decide_eq_true_eq]; omega)
            rw [scanFrom, if_pos ⟨rfl, by rw [hfree]; rfl⟩, placeholders, placeholderAt,
              if_pos ⟨rfl, heven⟩]
            cases hahead : bodyAhead rest with
            | none => exact hmiss
            | some body =>
                cases hparts : splitBody form body with
                | none => simpa only [hparts, Option.bind_some, Option.map_none, Option.toList_none,
                    List.nil_append] using hmiss
                | some parts =>
                    obtain ⟨hbody, behind, rfl⟩ := bodyAhead_eq_some.mp hahead
                    have hfound := ih (before ++ ['\x7b']) _ false (body.length + 1) hnext
                      (ne_open_of_mem_take hbody behind) (fun h => absurd h (Nat.succ_ne_zero _))
                    simp only [hparts, hfound, Option.bind_some, Option.map_some]
                    rw [hstart]
                    rfl
          · have hpass := ih (before ++ [c]) _ false 0 hnext (by simp)
              (fun _ => by simp [openRun_append_even hopen])
            rw [scanFrom, if_neg (by simpa [hesc] using hopen), hpass, placeholders,
              placeholderAt, if_neg hopen, Option.toList_none, List.nil_append]

theorem scan_eq (form : PlaceholderForm) (text : String) :
    scan form text = placeholders form [] text.toList :=
  scanFrom_eq form [] text.toList 0 false 0 rfl (by simp) (fun _ => rfl)

theorem placeholders_plain_append (form : PlaceholderForm) {text : List Char}
    (h : ∀ c ∈ text, c ≠ '\x7b') (before rest : List Char) :
    placeholders form before (text ++ rest) = placeholders form (before ++ text) rest := by
  induction text generalizing before with
  | nil => simp
  | cons c text ih =>
      rw [List.cons_append, placeholders_cons_of_ne form _ _ (h c (by simp)),
        ih (fun d hd => h d (by simp [hd]))]
      simp

theorem placeholders_enclosed {form : PlaceholderForm} {before body name type : List Char}
    (heven : openRun before % 2 = 0) (hbody : ∀ c ∈ body, isBrace c = false)
    (hparts : splitBody form body = some (name, type)) (behind : List Char) :
    placeholders form before (enclosed body ++ behind) =
      ⟨String.ofList name, String.ofList type, byteLength before, byteLength body + 2⟩
        :: placeholders form (before ++ enclosed body) behind := by
  have hat : placeholderAt form before (enclosed body ++ behind) =
      some ⟨String.ofList name, String.ofList type, byteLength before, byteLength body + 2⟩ :=
    placeholderAt_eq_some.mpr
      ⟨body, behind, name, type, by simp [enclosed], heven, hbody, hparts, rfl⟩
  have hplain : ∀ c ∈ body ++ ['\x7d'], c ≠ '\x7b' := by
    intro c hc
    rcases List.mem_append.mp hc with hc | hc
    · exact (isBrace_eq_false.mp (hbody c hc)).1
    · rw [List.mem_singleton.mp hc]
      decide
  have hcons : enclosed body ++ behind = '\x7b' :: (body ++ ['\x7d'] ++ behind) := rfl
  rw [hcons] at hat ⊢
  rw [placeholders, hat, placeholders_plain_append form hplain]
  simp [enclosed]

theorem mem_placeholders {form : PlaceholderForm} {before text : List Char} {found : Placeholder} :
    found ∈ placeholders form before text ↔
      ∃ between behind, text = between ++ behind ∧
        placeholderAt form (before ++ between) behind = some found := by
  induction text generalizing before with
  | nil =>
      constructor
      · intro h
        simp [placeholders] at h
      · rintro ⟨between, behind, htext, h⟩
        obtain ⟨-, rfl⟩ := List.append_eq_nil_iff.mp htext.symm
        simp [placeholderAt] at h
  | cons c rest ih =>
      rw [placeholders, List.mem_append, Option.mem_toList, ih]
      constructor
      · rintro (h | ⟨between, behind, rfl, h⟩)
        · exact ⟨[], c :: rest, rfl, by simpa using h⟩
        · exact ⟨c :: between, behind, rfl, by simpa using h⟩
      · rintro ⟨between, behind, htext, h⟩
        cases between with
        | nil =>
            rw [List.nil_append] at htext
            subst htext
            exact .inl (by simpa using h)
        | cons d between =>
            obtain ⟨rfl, rfl⟩ := List.cons.inj htext
            exact .inr ⟨between, behind, rfl, by simpa using h⟩

theorem le_start_of_mem_placeholders {form : PlaceholderForm} {before text : List Char}
    {found : Placeholder} (h : found ∈ placeholders form before text) :
    byteLength before ≤ found.start := by
  obtain ⟨between, behind, -, h⟩ := mem_placeholders.mp h
  obtain ⟨-, -, -, -, -, -, -, -, rfl⟩ := placeholderAt_eq_some.mp h
  simp

theorem placeholders_increasing (form : PlaceholderForm) (before text : List Char) :
    (placeholders form before text).Pairwise fun a b => a.start < b.start := by
  induction text generalizing before with
  | nil => exact List.Pairwise.nil
  | cons c rest ih =>
      rw [placeholders, List.pairwise_append]
      refine ⟨?_, ih _, ?_⟩
      · cases placeholderAt form before (c :: rest) <;> simp
      · intro a ha b hb
        rw [Option.mem_toList] at ha
        obtain ⟨-, -, -, -, -, -, -, -, rfl⟩ := placeholderAt_eq_some.mp ha
        have hle := le_start_of_mem_placeholders hb
        have hc := c.utf8Size_pos
        simp only [byteLength_append, byteLength] at hle
        change byteLength before < b.start
        omega

end TypedLogging.Template
