import TypedLogging.Proofs.Template.Scanning

namespace TypedLogging

open Text

def Placeholder.close (found : Placeholder) : Nat := found.start + found.length - 1

def Placeholder.cuts (found : Placeholder) : List Nat :=
  [found.start, found.start + 1, found.start + 1 + (bytes found.aliasName).length,
    found.close - (bytes found.type).length, found.close, found.stop]

namespace Template

def between (t : List UInt8) (s c : Nat) : List UInt8 := (t.take c).drop (s + 1)

/-- The colon at `i` has something before it and something behind it. -/
def Separates (body : List UInt8) (i : Nat) : Prop :=
  0 < i ∧ i + 1 < body.length ∧ body[i]? = some ':'.toUInt8

def Fills : PlaceholderForm → List UInt8 → Prop
  | .typed, body => ∃ i, Separates body i
  | .bare, body => body ≠ []

/-- The alias and the type are what the last separating colon leaves on its two sides. -/
def Divided : PlaceholderForm → List UInt8 → List UInt8 → List UInt8 → Prop
  | .typed, body, name, type =>
    ∃ i, Separates body i ∧ (∀ j, Separates body j → j ≤ i) ∧
      name = body.take i ∧ type = body.drop (i + 1)
  | .bare, body, name, type => name = body ∧ type = []

/-- The bytes of a text from `s` to `c` are a placeholder. -/
structure IsSpan (form : PlaceholderForm) (t : List UInt8) (s c : Nat) : Prop where
  order : s < c
  opening : t[s]? = some '\x7b'.toUInt8
  even : ((t.take s).reverse.takeWhile (· = '\x7b'.toUInt8)).length % 2 = 0
  closing : t[c]? = some '\x7d'.toUInt8
  plain : ∀ b ∈ between t s c, b ≠ '\x7b'.toUInt8 ∧ b ≠ '\x7d'.toUInt8
  fills : Fills form (between t s c)

/-- A list of placeholders holds those of a text, each once and from left to right. -/
structure FindsAll (form : PlaceholderForm) (text : String) (found : List Placeholder) : Prop where
  increasing : found.Pairwise fun a b => a.start < b.start
  disjoint : found.Pairwise fun a b => a.stop ≤ b.start
  exact : ∀ s c, (∃ a ∈ found, a.start = s ∧ a.length = c + 1 - s) ↔ IsSpan form (bytes text) s c
  divided : ∀ a ∈ found,
    Divided form (between (bytes text) a.start a.close) (bytes a.aliasName) (bytes a.type)
  boundaries : ∀ a ∈ found, ∀ n ∈ a.cuts, (String.Pos.Raw.mk n).IsValid text

theorem byteLength_pos {text : List Char} : 0 < byteLength text ↔ text ≠ [] := by
  rw [← length_encode, List.length_pos_iff, ne_eq, encode_eq_nil]

theorem splitLastColon_eq_none {text : List Char} :
    splitLastColon text = none ↔ ':' ∉ text.dropLast := by
  induction text with
  | nil => simp [splitLastColon]
  | cons c rest ih =>
      cases rest with
      | nil => simp [splitLastColon]
      | cons d rest =>
          rw [splitLastColon, List.dropLast_cons_of_ne_nil (by simp), List.mem_cons, not_or, ← ih]
          cases splitLastColon (d :: rest) <;> simp [eq_comm]

theorem splitLastColon_eq_some {text name type : List Char} :
    splitLastColon text = some (name, type) ↔
      text = name ++ ':' :: type ∧ type ≠ [] ∧ ':' ∉ type.dropLast := by
  constructor
  · intro h
    induction text generalizing name type with
    | nil => simp [splitLastColon] at h
    | cons c rest ih =>
        rw [splitLastColon] at h
        cases hrest : splitLastColon rest with
        | some parts =>
            obtain ⟨name', type'⟩ := parts
            obtain ⟨rfl, htype, hlast⟩ := ih hrest
            rw [hrest] at h
            obtain ⟨rfl, rfl⟩ := Prod.mk.inj (Option.some.inj h)
            exact ⟨rfl, htype, hlast⟩
        | none =>
            simp only [hrest] at h
            split at h
            next hc =>
              obtain ⟨rfl, rfl⟩ := Prod.mk.inj (Option.some.inj h)
              exact ⟨by rw [hc.1, List.nil_append], hc.2, splitLastColon_eq_none.mp hrest⟩
            next => exact absurd h (by simp)
  · rintro ⟨rfl, htype, hlast⟩
    induction name with
    | nil => simp [splitLastColon, splitLastColon_eq_none.mpr hlast, htype]
    | cons c name ih => rw [List.cons_append, splitLastColon, ih]

theorem splitBody_typed {body name type : List Char} :
    splitBody .typed body = some (name, type) ↔
      body = name ++ ':' :: type ∧ name ≠ [] ∧ type ≠ [] ∧ ':' ∉ type.dropLast := by
  cases body with
  | nil => simp [splitBody]
  | cons c rest =>
      simp only [splitBody, Option.map_eq_some_iff, Prod.exists, Prod.mk.injEq]
      constructor
      · rintro ⟨name, type, h, rfl, rfl⟩
        obtain ⟨rfl, htype, hlast⟩ := splitLastColon_eq_some.mp h
        exact ⟨rfl, by simp, htype, hlast⟩
      · rintro ⟨hbody, hname, htype, hlast⟩
        obtain ⟨d, name, rfl⟩ := List.exists_cons_of_ne_nil hname
        obtain ⟨rfl, rfl⟩ := List.cons.inj hbody
        exact ⟨name, type, splitLastColon_eq_some.mpr ⟨rfl, htype, hlast⟩, rfl, rfl⟩

theorem splitBody_bare {body name type : List Char} :
    splitBody .bare body = some (name, type) ↔ body ≠ [] ∧ name = body ∧ type = [] := by
  cases body with
  | nil => simp [splitBody]
  | cons c rest => simp [splitBody, eq_comm]

theorem splitBody_ends {form : PlaceholderForm} {body name type : List Char}
    (h : splitBody form body = some (name, type)) :
    (∃ rest, body = name ++ rest) ∧ ∃ lead, body = lead ++ type := by
  cases form with
  | typed =>
      obtain ⟨rfl, -⟩ := splitBody_typed.mp h
      exact ⟨⟨_, rfl⟩, name ++ [':'], by simp⟩
  | bare =>
      obtain ⟨-, rfl, rfl⟩ := splitBody_bare.mp h
      exact ⟨⟨[], by simp⟩, name, by simp⟩

theorem separates_encode {body : List Char} {i : Nat} :
    Separates (encode body) i ↔
      ∃ name type, body = name ++ ':' :: type ∧ name ≠ [] ∧ type ≠ [] ∧ byteLength name = i := by
  rw [Separates, getElem?_encode (by decide)]
  constructor
  · rintro ⟨hpos, hlt, name, type, rfl, rfl⟩
    refine ⟨name, type, rfl, byteLength_pos.mp hpos, ?_, rfl⟩
    rintro rfl
    simp [encode_cons_ascii (a := ':') rfl] at hlt
  · rintro ⟨name, type, rfl, hname, htype, rfl⟩
    have hpos := byteLength_pos.mpr htype
    refine ⟨byteLength_pos.mpr hname, ?_, name, type, rfl, rfl⟩
    rw [encode_append, encode_cons_ascii (a := ':') rfl]
    simp only [List.length_append, List.length_cons, length_encode]
    omega

theorem fills_encode {form : PlaceholderForm} {body : List Char} :
    Fills form (encode body) ↔ ∃ name type, splitBody form body = some (name, type) := by
  cases form with
  | typed =>
      simp only [Fills, separates_encode]
      constructor
      · rintro ⟨-, name, type, rfl, hname, htype, -⟩
        obtain ⟨c, name, rfl⟩ := List.exists_cons_of_ne_nil hname
        cases h : splitLastColon (name ++ ':' :: type) with
        | none =>
            rw [splitLastColon_eq_none, List.dropLast_append_of_ne_nil (by simp),
              List.dropLast_cons_of_ne_nil htype] at h
            simp at h
        | some parts => exact ⟨c :: parts.1, parts.2, by simp [splitBody, h]⟩
      · rintro ⟨name, type, h⟩
        obtain ⟨rfl, hname, htype, -⟩ := splitBody_typed.mp h
        exact ⟨_, name, type, rfl, hname, htype, rfl⟩
  | bare => simp [Fills, splitBody_bare]

theorem divided_encode {form : PlaceholderForm} {body name type : List Char}
    (h : splitBody form body = some (name, type)) :
    Divided form (encode body) (encode name) (encode type) := by
  cases form with
  | bare =>
      obtain ⟨-, rfl, rfl⟩ := splitBody_bare.mp h
      exact ⟨rfl, rfl⟩
  | typed =>
      obtain ⟨rfl, hname, htype, hlast⟩ := splitBody_typed.mp h
      refine ⟨byteLength name, separates_encode.mpr ⟨name, type, rfl, hname, htype, rfl⟩, ?_, ?_⟩
      · intro j hj
        obtain ⟨name', type', hbody, -, htype', rfl⟩ := separates_encode.mp hj
        rcases List.append_eq_append_iff.mp hbody with ⟨more, rfl, hmore⟩ | ⟨more, rfl, -⟩
        · cases more with
          | nil => simp
          | cons c more =>
              obtain ⟨-, htype⟩ := List.cons.inj hmore
              rw [htype, List.append_eq, List.dropLast_append_of_ne_nil (by simp),
                List.dropLast_cons_of_ne_nil htype'] at hlast
              exact absurd hlast (by simp)
        · simp
      · rw [encode_append, encode_cons_ascii (a := ':') rfl, take_encode_append, drop_encode_cons]
        exact ⟨rfl, rfl⟩

theorem between_encode (before body behind : List Char) :
    between (encode (before ++ '\x7b' :: (body ++ '\x7d' :: behind))) (byteLength before)
      (byteLength before + 1 + byteLength body) = encode body := by
  have hsplit : encode (before ++ '\x7b' :: (body ++ '\x7d' :: behind)) =
      encode (before ++ '\x7b' :: body) ++ encode ('\x7d' :: behind) := by
    rw [← encode_append]
    simp
  have hlength : byteLength before + 1 + byteLength body =
      (encode (before ++ '\x7b' :: body)).length := by
    simp [byteLength, Nat.add_assoc, show '\x7b'.utf8Size = 1 from rfl]
  rw [between, hsplit, hlength, List.take_left, encode_append,
    encode_cons_ascii (a := '\x7b') rfl, drop_encode_cons]

theorem plain_encode {body : List Char} :
    (∀ b ∈ encode body, b ≠ '\x7b'.toUInt8 ∧ b ≠ '\x7d'.toUInt8) ↔
      ∀ d ∈ body, isBrace d = false := by
  simp only [isBrace_eq_false]
  constructor
  · intro h d hd
    constructor
    · rintro rfl
      exact (h _ ((mem_encode (by decide)).mpr hd)).1 rfl
    · rintro rfl
      exact (h _ ((mem_encode (by decide)).mpr hd)).2 rfl
  · intro h b hb
    constructor
    · rintro rfl
      exact (h _ ((mem_encode (by decide)).mp hb)).1 rfl
    · rintro rfl
      exact (h _ ((mem_encode (by decide)).mp hb)).2 rfl

theorem openRun_encode (before rest : List Char) :
    (((encode (before ++ rest)).take (byteLength before)).reverse.takeWhile
      (· = '\x7b'.toUInt8)).length = openRun before := by
  rw [encode_append, take_encode_append, length_takeWhile_reverse_encode (by decide), openRun]

theorem getElem?_encode_open (before rest : List Char) {c : Nat} (hc : byteLength before < c) :
    (encode (before ++ '\x7b' :: rest))[c]? = (encode rest)[c - byteLength before - 1]? := by
  have hsucc : c - byteLength before = c - byteLength before - 1 + 1 := by omega
  rw [encode_append, encode_cons_ascii (a := '\x7b') rfl,
    List.getElem?_append_right (by rw [length_encode]; exact hc.le), length_encode]
  rw [hsucc, List.getElem?_cons_succ, Nat.add_sub_cancel]

/-- The spans of a text are those that can be taken apart into characters. -/
theorem isSpan_encode {form : PlaceholderForm} {text : List Char} {s c : Nat} :
    IsSpan form (encode text) s c ↔
      ∃ before body behind name type, text = before ++ '\x7b' :: (body ++ '\x7d' :: behind) ∧
        openRun before % 2 = 0 ∧ (∀ d ∈ body, isBrace d = false) ∧
        splitBody form body = some (name, type) ∧
        s = byteLength before ∧ c = byteLength before + 1 + byteLength body := by
  constructor
  · intro h
    obtain ⟨before, rest, rfl, rfl⟩ := (getElem?_encode (by decide)).mp h.opening
    have hclose := h.closing
    rw [getElem?_encode_open before rest h.order] at hclose
    obtain ⟨body, behind, rfl, hbody⟩ := (getElem?_encode (by decide)).mp hclose
    have hc : c = byteLength before + 1 + byteLength body := by
      have := h.order
      omega
    subst hc
    have heven := h.even
    have hplain := h.plain
    have hfills := h.fills
    rw [openRun_encode] at heven
    rw [between_encode] at hplain hfills
    obtain ⟨name, type, hparts⟩ := fills_encode.mp hfills
    exact ⟨before, body, behind, name, type, rfl, heven, plain_encode.mp hplain, hparts, rfl, rfl⟩
  · rintro ⟨before, body, behind, name, type, rfl, heven, hbody, hparts, rfl, rfl⟩
    refine ⟨by omega, ?_, ?_, ?_, ?_, ?_⟩
    · exact (getElem?_encode (by decide)).mpr ⟨before, _, rfl, rfl⟩
    · rw [openRun_encode]
      exact heven
    · refine (getElem?_encode (by decide)).mpr ⟨before ++ '\x7b' :: body, behind, by simp, ?_⟩
      simp [byteLength, Nat.add_assoc, show '\x7b'.utf8Size = 1 from rfl]
    · rw [between_encode]
      exact plain_encode.mpr hbody
    · rw [between_encode]
      exact fills_encode.mpr ⟨name, type, hparts⟩

/-- Nothing between the braces of a span opens another one. -/
theorem IsSpan.disjoint {form form' : PlaceholderForm} {t : List UInt8} {s c s' c' : Nat}
    (h : IsSpan form t s c) (h' : IsSpan form' t s' c') (hs : s < s') : c < s' := by
  by_contra hlt
  rcases Nat.lt_or_eq_of_le (Nat.not_lt.mp hlt) with hlt | rfl
  · have hmem : '\x7b'.toUInt8 ∈ between t s c := by
      refine List.mem_of_getElem? (i := s' - (s + 1)) ?_
      rw [between, List.getElem?_drop, Nat.add_sub_cancel' hs, List.getElem?_take_of_lt hlt]
      exact h'.opening
    exact (h.plain _ hmem).1 rfl
  · have := h.closing.symm.trans h'.opening
    exact absurd this (by decide)

theorem mem_scan {form : PlaceholderForm} {text : String} {found : Placeholder} :
    found ∈ scan form text ↔
      ∃ before body behind name type,
        text.toList = before ++ '\x7b' :: (body ++ '\x7d' :: behind) ∧
        openRun before % 2 = 0 ∧ (∀ d ∈ body, isBrace d = false) ∧
        splitBody form body = some (name, type) ∧
        found = ⟨String.ofList name, String.ofList type, byteLength before, byteLength body + 2⟩ := by
  rw [scan_eq, mem_placeholders]
  constructor
  · rintro ⟨before, rest, htext, h⟩
    obtain ⟨body, behind, name, type, rfl, heven, hbody, hparts, rfl⟩ := placeholderAt_eq_some.mp h
    exact ⟨before, body, behind, name, type, htext, heven, hbody, hparts, rfl⟩
  · rintro ⟨before, body, behind, name, type, htext, heven, hbody, hparts, rfl⟩
    exact ⟨before, _, htext,
      placeholderAt_eq_some.mpr ⟨body, behind, name, type, rfl, heven, hbody, hparts, rfl⟩⟩

theorem exists_mem_scan_iff {form : PlaceholderForm} {text : String} {s c : Nat} :
    (∃ a ∈ scan form text, a.start = s ∧ a.length = c + 1 - s) ↔
      IsSpan form (bytes text) s c := by
  rw [bytes_eq_encode, isSpan_encode]
  constructor
  · rintro ⟨a, ha, hstart, hlength⟩
    obtain ⟨before, body, behind, name, type, htext, heven, hbody, hparts, rfl⟩ := mem_scan.mp ha
    change byteLength before = s at hstart
    change byteLength body + 2 = c + 1 - s at hlength
    exact ⟨before, body, behind, name, type, htext, heven, hbody, hparts, hstart.symm, by omega⟩
  · rintro ⟨before, body, behind, name, type, htext, heven, hbody, hparts, rfl, rfl⟩
    refine ⟨_, mem_scan.mpr ⟨before, body, behind, name, type, htext, heven, hbody, hparts, rfl⟩,
      rfl, ?_⟩
    change byteLength body + 2 = _
    omega

theorem two_le_length_of_mem_scan {form : PlaceholderForm} {text : String} {found : Placeholder}
    (h : found ∈ scan form text) : 2 ≤ found.length := by
  obtain ⟨-, -, -, -, -, -, -, -, -, rfl⟩ := mem_scan.mp h
  exact Nat.le_add_left 2 _

theorem stop_eq_of_mem_scan {form : PlaceholderForm} {text : String} {found : Placeholder}
    (h : found ∈ scan form text) : found.stop = found.close + 1 := by
  have := two_le_length_of_mem_scan h
  rw [Placeholder.stop, Placeholder.close]
  omega

theorem isSpan_of_mem_scan {form : PlaceholderForm} {text : String} {found : Placeholder}
    (h : found ∈ scan form text) : IsSpan form (bytes text) found.start found.close := by
  refine exists_mem_scan_iff.mp ⟨found, h, rfl, ?_⟩
  have := two_le_length_of_mem_scan h
  rw [Placeholder.close]
  omega

theorem scan_disjoint (form : PlaceholderForm) (text : String) :
    (scan form text).Pairwise fun a b => a.stop ≤ b.start := by
  have hincreasing : (scan form text).Pairwise fun a b => a.start < b.start := by
    rw [scan_eq]
    exact placeholders_increasing form [] text.toList
  refine hincreasing.imp_of_mem fun {a b} ha hb hlt => ?_
  rw [stop_eq_of_mem_scan ha]
  exact (isSpan_of_mem_scan ha).disjoint (isSpan_of_mem_scan hb) hlt

theorem divided_of_mem_scan {form : PlaceholderForm} {text : String} {found : Placeholder}
    (h : found ∈ scan form text) :
    Divided form (between (bytes text) found.start found.close) (bytes found.aliasName)
      (bytes found.type) := by
  obtain ⟨before, body, behind, name, type, htext, -, -, hparts, rfl⟩ := mem_scan.mp h
  have hclose : byteLength before + (byteLength body + 2) - 1 =
      byteLength before + 1 + byteLength body := by omega
  rw [Placeholder.close, hclose, bytes_eq_encode, htext, between_encode, bytes_ofList, bytes_ofList]
  exact divided_encode hparts

theorem isValid_of_mem_cuts {form : PlaceholderForm} {text : String} {found : Placeholder}
    (h : found ∈ scan form text) {n : Nat} (hn : n ∈ found.cuts) :
    (String.Pos.Raw.mk n).IsValid text := by
  obtain ⟨before, body, behind, name, type, htext, -, -, hparts, rfl⟩ := mem_scan.mp h
  obtain ⟨⟨rest, hrest⟩, lead, hlead⟩ := splitBody_ends hparts
  have hcut : ∀ (front back : List Char), text.toList = front ++ back → byteLength front = n →
      (String.Pos.Raw.mk n).IsValid text := fun front back hsplit hlength =>
    hlength ▸ isValid_byteLength hsplit
  have hbrace : '\x7b'.utf8Size = 1 ∧ '\x7d'.utf8Size = 1 := ⟨rfl, rfl⟩
  have htail : byteLength body = byteLength lead + byteLength type := by rw [hlead, byteLength_append]
  simp only [Placeholder.cuts, Placeholder.close, Placeholder.stop, bytes_ofList, length_encode,
    List.mem_cons, List.not_mem_nil, or_false] at hn
  rcases hn with rfl | rfl | rfl | rfl | rfl | rfl
  · exact hcut before _ htext rfl
  · exact hcut (before ++ ['\x7b']) (body ++ '\x7d' :: behind) (by simpa using htext)
      (by simp [byteLength, hbrace])
  · exact hcut (before ++ '\x7b' :: name) (rest ++ '\x7d' :: behind) (by simp [htext, hrest])
      (by simp [byteLength, hbrace]; omega)
  · exact hcut (before ++ '\x7b' :: lead) (type ++ '\x7d' :: behind) (by simp [htext, hlead])
      (by simp [byteLength, hbrace]; omega)
  · exact hcut (before ++ '\x7b' :: body) ('\x7d' :: behind) (by simpa using htext)
      (by simp [byteLength, hbrace]; omega)
  · exact hcut (before ++ '\x7b' :: (body ++ ['\x7d'])) behind (by simp [htext])
      (by simp [byteLength, hbrace]; omega)

theorem scan_findsAll (form : PlaceholderForm) (text : String) :
    FindsAll form text (scan form text) where
  increasing := by
    rw [scan_eq]
    exact placeholders_increasing form [] text.toList
  disjoint := scan_disjoint form text
  exact _ _ := exists_mem_scan_iff
  divided _ := divided_of_mem_scan
  boundaries _ ha _ := isValid_of_mem_cuts ha

theorem typed_parts_of_mem_scan {text : String} {found : Placeholder}
    (h : found ∈ scan .typed text) :
    found.aliasName ≠ "" ∧ found.type ≠ "" ∧
      between (bytes text) found.start found.close =
        bytes found.aliasName ++ ':'.toUInt8 :: bytes found.type := by
  obtain ⟨i, ⟨hpos, hlt, hcolon⟩, -, hname, htype⟩ := divided_of_mem_scan h
  obtain ⟨hi, hget⟩ := List.getElem?_eq_some_iff.mp hcolon
  refine ⟨?_, ?_, ?_⟩
  · intro he
    have hlength := congrArg List.length hname
    rw [he, List.length_take] at hlength
    change 0 = _ at hlength
    omega
  · intro he
    have hlength := congrArg List.length htype
    rw [he, List.length_drop] at hlength
    change 0 = _ at hlength
    omega
  · rw [hname, htype, ← hget, List.getElem_cons_drop, List.take_append_drop]

/-- Both scanners find the placeholders of the grammar and no others. -/
theorem tokenize_aliases_find_all (text : String) :
    FindsAll .typed text (tokenize text) ∧
      (∀ found ∈ tokenize text, found.aliasName ≠ "" ∧ found.type ≠ "" ∧
        between (bytes text) found.start found.close =
          bytes found.aliasName ++ ':'.toUInt8 :: bytes found.type) ∧
      FindsAll .bare text (aliases text) :=
  ⟨scan_findsAll .typed text, fun _ => typed_parts_of_mem_scan, scan_findsAll .bare text⟩

end Template

end TypedLogging
