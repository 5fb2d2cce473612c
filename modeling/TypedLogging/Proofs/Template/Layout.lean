import TypedLogging.Proofs.Outcome
import TypedLogging.Proofs.Text.Bytes
import TypedLogging.Template

namespace TypedLogging.Template

open Text Outcome

def braced (name : String) : List Char := '\x7b' :: name.toList ++ ['\x7d']

/-- A text that begins at the byte offset `offset` consists of the gaps and, between them, the
aliases of the slots in braces. -/
inductive Laid : Nat → List Slot → List (List Char) → List Char → Prop
  | last (offset : Nat) (gap : List Char) : Laid offset [] [gap] gap
  | slot {offset : Nat} {slot : Slot} {slots : List Slot} {gaps : List (List Char)}
      {text : List Char} (gap : List Char) (hstart : slot.start = offset + byteLength gap)
      (hstop : slot.stop = slot.start + byteLength (braced slot.aliasName))
      (hrest : Laid slot.stop slots gaps text) :
      Laid offset (slot :: slots) (gap :: gaps) (gap ++ (braced slot.aliasName ++ text))

/-- The pieces outside the placeholders of a text that begins at the byte offset `offset`. -/
def outside (offset : Nat) (text : List Char) : List Placeholder → List (List Char)
  | [] => [text]
  | found :: more =>
    takeBytes (found.start - offset) text
      :: outside found.stop (dropBytes (found.stop - offset) text) more

/-- The pieces of a text outside the spans of slots, from a byte offset on. -/
def gapsFrom (offset : Nat) (text : List Char) : List Slot → List (List Char)
  | [] => [dropBytes offset text]
  | slot :: rest => slice offset slot.start text :: gapsFrom slot.stop text rest

def gaps (template : Template) : List (List Char) :=
  gapsFrom 0 template.normalized.toList template.slots

theorem resolveType_eq_ok {lookup : Lookup} {location : Location} {token : String}
    {type : TypeRef} :
    resolveType lookup location token = .ok type ↔ lookup.resolve location token = .ok type := by
  rw [resolveType]
  cases lookup.resolve location token <;> simp

theorem normalize_cons_eq_ok {lookup : Lookup} {location : Location} {offset written : Nat}
    {rest text : List Char} {found : Placeholder} {more : List Placeholder} {slots : List Slot} :
    normalize lookup location offset written rest (found :: more) = .ok (text, slots) ↔
      ∃ type behind others, lookup.resolve location found.type = .ok type ∧
        normalize lookup location found.stop
          (written + byteLength (takeBytes (found.start - offset) rest) +
            byteLength (braced found.aliasName))
          (dropBytes (found.stop - offset) rest) more = .ok (behind, others) ∧
        text = takeBytes (found.start - offset) rest ++ (braced found.aliasName ++ behind) ∧
        slots = ⟨found.aliasName, type, written + byteLength (takeBytes (found.start - offset) rest),
          written + byteLength (takeBytes (found.start - offset) rest) +
            byteLength (braced found.aliasName)⟩ :: others := by
  simp only [normalize, bind_eq_ok, pure_eq_ok, resolveType_eq_ok, braced, Prod.exists,
    Prod.mk.injEq, List.append_assoc]
  constructor
  · rintro ⟨type, htype, behind, others, hmore, rfl, rfl⟩
    exact ⟨type, behind, others, htype, hmore, rfl, rfl⟩
  · rintro ⟨type, behind, others, htype, hmore, rfl, rfl⟩
    exact ⟨type, htype, behind, others, hmore, rfl, rfl⟩

theorem normalize_laid {lookup : Lookup} {location : Location} {offset written : Nat}
    {rest text : List Char} {found : List Placeholder} {slots : List Slot}
    (h : normalize lookup location offset written rest found = .ok (text, slots)) :
    Laid written slots (outside offset rest found) text := by
  induction found generalizing offset written rest text slots with
  | nil =>
      obtain ⟨rfl, rfl⟩ := Prod.mk.inj (Except.ok.inj h)
      exact .last written rest
  | cons found more ih =>
      obtain ⟨type, behind, others, -, hmore, rfl, rfl⟩ := normalize_cons_eq_ok.mp h
      exact .slot _ rfl rfl (ih hmore)

theorem exists_normalize_eq_ok {lookup : Lookup} {location : Location} {found : List Placeholder}
    (h : ∀ a ∈ found, ∃ type, lookup.resolve location a.type = .ok type)
    (offset written : Nat) (rest : List Char) :
    ∃ result, normalize lookup location offset written rest found = .ok result := by
  induction found generalizing offset written rest with
  | nil => exact ⟨(rest, []), rfl⟩
  | cons found more ih =>
      obtain ⟨type, htype⟩ := h found (by simp)
      obtain ⟨⟨behind, others⟩, hmore⟩ := ih (fun a ha => h a (by simp [ha])) found.stop
        (written + byteLength (takeBytes (found.start - offset) rest) +
          byteLength (braced found.aliasName))
        (dropBytes (found.stop - offset) rest)
      exact ⟨_, normalize_cons_eq_ok.mpr ⟨type, behind, others, htype, hmore, rfl, rfl⟩⟩

theorem parse_eq_ok {lookup : Lookup} {location : Location} {raw : String} {template : Template} :
    parse lookup location raw = .ok template ↔
      tokenize raw ≠ [] ∧ ∃ text slots,
        normalize lookup location 0 0 raw.toList (tokenize raw) = .ok (text, slots) ∧
        template = ⟨raw, String.ofList text, slots⟩ := by
  rw [parse]
  cases hfound : tokenize raw with
  | nil => simp
  | cons found more =>
      simp only [bind_eq_ok, pure_eq_ok, Prod.exists, ne_eq, reduceCtorEq, not_false_eq_true,
        true_and]
      constructor
      · rintro ⟨text, slots, hnormal, rfl⟩
        exact ⟨text, slots, hnormal, rfl⟩
      · rintro ⟨text, slots, hnormal, rfl⟩
        exact ⟨text, slots, hnormal, rfl⟩

theorem parse_laid {lookup : Lookup} {location : Location} {raw : String} {template : Template}
    (h : parse lookup location raw = .ok template) :
    Laid 0 template.slots (outside 0 raw.toList (tokenize raw)) template.normalized.toList := by
  obtain ⟨-, text, slots, hnormal, rfl⟩ := parse_eq_ok.mp h
  rw [String.toList_ofList]
  exact normalize_laid hnormal

theorem Laid.gapsFrom_eq {offset : Nat} {slots : List Slot} {gaps : List (List Char)}
    {text : List Char} (h : Laid offset slots gaps text) (before : List Char)
    (hbefore : byteLength before = offset) : gapsFrom offset (before ++ text) slots = gaps := by
  induction h generalizing before with
  | last offset gap =>
      subst hbefore
      rw [gapsFrom, dropBytes_append]
  | @slot offset slot slots gaps text gap hstart hstop _ ih =>
      subst hbefore
      rw [gapsFrom, hstart, slice_append]
      have hrest := ih (before ++ (gap ++ braced slot.aliasName))
        (by simp only [byteLength_append, hstop, hstart]; omega)
      rw [← hrest]
      simp only [List.append_assoc]

theorem gaps_of_parse {lookup : Lookup} {location : Location} {raw : String} {template : Template}
    (h : parse lookup location raw = .ok template) :
    template.gaps = outside 0 raw.toList (tokenize raw) :=
  (parse_laid h).gapsFrom_eq [] rfl

end TypedLogging.Template
