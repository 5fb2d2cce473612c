import Mathlib.Data.List.Nodup
import Mathlib.Data.Prod.Basic
import TypedLogging.Collection
import TypedLogging.Proofs.Binding

namespace TypedLogging

/-- The bits of an id: each part is masked and shifted to its place. -/
def idWord (severity declaration index : Nat) : BitVec 32 :=
  BitVec.ofNat 32 (severity &&& 0xF) <<< 28 |||
    (BitVec.ofNat 32 (declaration &&& 0xFFFF) <<< 12 ||| BitVec.ofNat 32 (index &&& 0xFFF))

def idParts (id : Int) : Nat × Nat × Nat :=
  let bits := (id % 4294967296).toNat
  (bits / 268435456, bits / 4096 % 65536, bits % 4096)

theorem toNat_shifted {part shift : Nat} (h : part <<< shift < 4294967296) :
    (BitVec.ofNat 32 part <<< shift).toNat = part <<< shift := by
  have hle : part ≤ part <<< shift := by
    rw [Nat.shiftLeft_eq]
    exact Nat.le_mul_of_pos_right part (Nat.two_pow_pos shift)
  rw [BitVec.toNat_shiftLeft, BitVec.toNat_ofNat, Nat.mod_eq_of_lt (Nat.lt_of_le_of_lt hle h),
    Nat.mod_eq_of_lt h]

theorem toNat_idWord (severity declaration index : Nat) :
    (idWord severity declaration index).toNat = packedBits severity declaration index := by
  have hseverity : severity &&& 0xF = severity % 16 := Nat.and_two_pow_sub_one_eq_mod severity 4
  have hdeclaration : declaration &&& 0xFFFF = declaration % 65536 :=
    Nat.and_two_pow_sub_one_eq_mod declaration 16
  have hindex : index &&& 0xFFF = index % 4096 := Nat.and_two_pow_sub_one_eq_mod index 12
  have hlast : (BitVec.ofNat 32 (index % 4096)).toNat = index % 4096 := by
    rw [BitVec.toNat_ofNat]
    omega
  -- no two parts overlap, so joining them is adding them
  have hlow : (declaration % 65536) <<< 12 ||| index % 4096 =
      (declaration % 65536) <<< 12 + index % 4096 :=
    (Nat.shiftLeft_add_eq_or_of_lt (Nat.mod_lt _ (by decide)) _).symm
  have hhigh : (severity % 16) <<< 28 ||| ((declaration % 65536) <<< 12 + index % 4096) =
      (severity % 16) <<< 28 + ((declaration % 65536) <<< 12 + index % 4096) := by
    refine (Nat.shiftLeft_add_eq_or_of_lt ?_ _).symm
    rw [Nat.shiftLeft_eq]
    omega
  have hfirst : (severity % 16) <<< 28 < 4294967296 := by
    rw [Nat.shiftLeft_eq]
    omega
  have hmiddle : (declaration % 65536) <<< 12 < 4294967296 := by
    rw [Nat.shiftLeft_eq]
    omega
  rw [idWord, hseverity, hdeclaration, hindex, BitVec.toNat_or, BitVec.toNat_or,
    toNat_shifted hfirst, toNat_shifted hmiddle, hlast, hlow,
    hhigh, Nat.shiftLeft_eq, Nat.shiftLeft_eq, packedBits, Nat.add_assoc]

theorem signed32_toNat (word : BitVec 32) : signed32 word.toNat = word.toInt := by
  rw [signed32, BitVec.toInt_eq_toNat_cond]
  split <;> split <;> omega

theorem derivedId_eq_toInt (severity declaration index : Nat) :
    derivedId severity declaration index = (idWord severity declaration index).toInt := by
  rw [derivedId, ← toNat_idWord, signed32_toNat]

theorem toNat_derivedId (severity declaration index : Nat) :
    (derivedId severity declaration index % 4294967296).toNat =
      packedBits severity declaration index := by
  have hlt : packedBits severity declaration index < 4294967296 := by
    rw [packedBits]
    omega
  rw [derivedId, signed32]
  split <;> omega

theorem idParts_derivedId (severity declaration index : Nat) :
    idParts (derivedId severity declaration index) =
      (severity % 16, declaration % 65536, index % 4096) := by
  simp only [idParts, toNat_derivedId, packedBits, Prod.mk.injEq]
  omega

theorem derivedId_eq_iff {severity declaration index severity' declaration' index' : Nat} :
    derivedId severity declaration index = derivedId severity' declaration' index' ↔
      severity % 16 = severity' % 16 ∧ declaration % 65536 = declaration' % 65536 ∧
        index % 4096 = index' % 4096 := by
  constructor
  · intro h
    have hparts := congrArg idParts h
    rw [idParts_derivedId, idParts_derivedId] at hparts
    simpa only [Prod.mk.injEq] using hparts
  · rintro ⟨hseverity, hdeclaration, hindex⟩
    rw [derivedId, derivedId, packedBits, packedBits, hseverity, hdeclaration, hindex]

theorem Severity.code_lt (severity : Severity) : severity.code < 16 := by
  cases severity <;> decide

def EventId.derived? : EventId → Option Int
  | .explicit _ => none
  | .derived value => some value

theorem derived?_eq_some {id : EventId} {value : Int} :
    id.derived? = some value ↔ id = .derived value := by
  cases id <;> simp [EventId.derived?]

/-- A message with the position of its declaration and its own position on it. -/
structure Entry where
  ordinal : Nat
  index : Nat
  message : Message

namespace Collection

def entries (collection : Collection) : List Entry :=
  collection.declarations.zipIdx.flatMap fun (declaration, ordinal) =>
    declaration.bindings.zipIdx.map fun (binding, index) =>
      ⟨ordinal, index, declaration, binding, binding.eventId ordinal index⟩

variable {collection : Collection}

theorem map_message_entries (collection : Collection) :
    collection.entries.map (·.message) = collection.messages := by
  simp only [entries, messages, Annotated.messages, List.map_flatMap, List.map_map,
    Function.comp_def]

theorem mem_entries {entry : Entry} (h : entry ∈ collection.entries) :
    collection.declarations[entry.ordinal]? = some entry.message.declaration ∧
      entry.message.declaration.bindings[entry.index]? = some entry.message.binding ∧
      entry.message.eventId = entry.message.binding.eventId entry.ordinal entry.index := by
  obtain ⟨⟨declaration, ordinal⟩, hdeclaration, hentry⟩ := List.mem_flatMap.mp h
  obtain ⟨⟨binding, index⟩, hbinding, rfl⟩ := List.mem_map.mp hentry
  exact ⟨List.mem_zipIdx_iff_getElem?.mp hdeclaration, List.mem_zipIdx_iff_getElem?.mp hbinding, rfl⟩

theorem nodup_places (collection : Collection) :
    (collection.entries.map fun entry => (entry.ordinal, entry.index)).Nodup := by
  simp only [entries, List.map_flatMap, List.map_map, Function.comp_def]
  rw [List.nodup_flatMap]
  constructor
  · rintro ⟨declaration, ordinal⟩ -
    have hpositions : (declaration.bindings.zipIdx.map fun pair => pair.2).Nodup := by
      rw [List.zipIdx_map_snd]
      exact List.nodup_range'
    have hmap := hpositions.map (Prod.mk_right_injective ordinal)
    rwa [List.map_map] at hmap
  · have hordinals : (collection.declarations.zipIdx.map fun pair => pair.2).Nodup := by
      rw [List.zipIdx_map_snd]
      exact List.nodup_range'
    refine (List.pairwise_map.mp hordinals).imp fun {first second} hne => ?_
    intro place hfirst hsecond
    obtain ⟨_, -, rfl⟩ := List.mem_map.mp hfirst
    obtain ⟨_, -, he⟩ := List.mem_map.mp hsecond
    exact hne (congrArg Prod.fst he).symm

/-- No position is too large for its part of an id. -/
def Fits (collection : Collection) : Prop :=
  collection.declarations.length ≤ 65536 ∧
    ∀ declaration ∈ collection.declarations, declaration.bindings.length ≤ 4096

instance (collection : Collection) : Decidable collection.Fits :=
  inferInstanceAs (Decidable (_ ∧ _))

theorem idParts_of_mem_entries (hfits : collection.Fits) {entry : Entry}
    (hentry : entry ∈ collection.entries) {value : Int}
    (hvalue : entry.message.eventId = .derived value) :
    idParts value = (entry.message.binding.severity.code, entry.ordinal, entry.index) := by
  obtain ⟨hdeclaration, hbinding, hid⟩ := mem_entries hentry
  obtain ⟨hordinal, -⟩ := List.getElem?_eq_some_iff.mp hdeclaration
  obtain ⟨hindex, -⟩ := List.getElem?_eq_some_iff.mp hbinding
  have hcount := hfits.2 _ (List.mem_of_getElem? hdeclaration)
  have hderived : value =
      derivedId entry.message.binding.severity.code entry.ordinal entry.index := by
    rw [hvalue, Binding.eventId] at hid
    split at hid
    · cases hid
    · exact EventId.derived.inj hid
  rw [hderived, idParts_derivedId, Nat.mod_eq_of_lt (Severity.code_lt _),
    Nat.mod_eq_of_lt (Nat.lt_of_lt_of_le hordinal hfits.1),
    Nat.mod_eq_of_lt (Nat.lt_of_lt_of_le hindex hcount)]

theorem nodup_derived (hfits : collection.Fits) :
    (collection.messages.filterMap (·.eventId.derived?)).Nodup := by
  have hplaces := List.pairwise_map.mp (nodup_places collection)
  rw [← map_message_entries, List.filterMap_map]
  refine List.pairwise_filterMap.mpr (hplaces.imp_of_mem ?_)
  intro first second hfirst hsecond hne value hvalue value' hvalue' he
  have hparts := idParts_of_mem_entries hfits hfirst (derived?_eq_some.mp hvalue)
  have hparts' := idParts_of_mem_entries hfits hsecond (derived?_eq_some.mp hvalue')
  rw [he, hparts'] at hparts
  exact hne (congrArg Prod.snd hparts).symm

end Collection

/-- An id is the signed value of a word of masked parts, and two ids agree when the parts do. As long
as no position is too large for its part, the derived ids of a collection are pairwise different, and
each tells the severity of its message and where it stands. -/
theorem derivedIds_identify :
    (∀ severity declaration index,
      derivedId severity declaration index = (idWord severity declaration index).toInt) ∧
    (∀ severity declaration index severity' declaration' index',
      derivedId severity declaration index = derivedId severity' declaration' index' ↔
        severity % 16 = severity' % 16 ∧ declaration % 65536 = declaration' % 65536 ∧
          index % 4096 = index' % 4096) ∧
    ∀ collection : Collection, collection.Fits →
      (collection.messages.filterMap (·.eventId.derived?)).Nodup ∧
      collection.entries.map (·.message) = collection.messages ∧
      ∀ entry ∈ collection.entries,
        collection.declarations[entry.ordinal]? = some entry.message.declaration ∧
          entry.message.declaration.bindings[entry.index]? = some entry.message.binding ∧
          ∀ value, entry.message.eventId = .derived value →
            idParts value = (entry.message.binding.severity.code, entry.ordinal, entry.index) := by
  refine ⟨derivedId_eq_toInt, fun _ _ _ _ _ _ => derivedId_eq_iff, fun collection hfits =>
    ⟨Collection.nodup_derived hfits, Collection.map_message_entries collection, ?_⟩⟩
  intro entry hentry
  obtain ⟨hdeclaration, hbinding, -⟩ := Collection.mem_entries hentry
  exact ⟨hdeclaration, hbinding, fun _ => Collection.idParts_of_mem_entries hfits hentry⟩

def servedBinding (level : String) (explicitId : Option String) : Binding where
  name := "Served"
  logLevel := .logLevel level
  template := ⟨"\x7bPort:u16\x7d", "\x7bPort\x7d", [⟨"Port", ⟨"u16", "u16"⟩, 0, 6⟩]⟩
  explicitId := explicitId
  scope := .generic

def servers : Collection where
  declarations :=
    [⟨"crate::net", [], "pub", "Server", [servedBinding "Warning" none, servedBinding "Loud" none]⟩,
      ⟨"crate::net", ["Server"], "", "Peer",
        [servedBinding "Warning" (some "7"), servedBinding "Warning" none]⟩]
  diagnostics := []

/-- An id that is written does not change the positions behind it. -/
theorem derivedIds_identify_servers :
    servers.Fits ∧
      servers.messages.filterMap (·.eventId.derived?) =
        [derivedId 3 0 0, derivedId 6 0 1, derivedId 3 1 1] ∧
      [derivedId 3 0 0, derivedId 6 0 1, derivedId 3 1 1].Nodup ∧
      idParts (derivedId 3 1 1) = (3, 1, 1) := by
  have hfits : servers.Fits := by decide
  have hids : servers.messages.filterMap (·.eventId.derived?) =
      [derivedId 3 0 0, derivedId 6 0 1, derivedId 3 1 1] := rfl
  obtain ⟨hnodup, -, hparts⟩ := derivedIds_identify.2.2 servers hfits
  rw [hids] at hnodup
  let entry : Entry := ⟨1, 1, ⟨"crate::net", ["Server"], "", "Peer",
    [servedBinding "Warning" (some "7"), servedBinding "Warning" none]⟩,
    servedBinding "Warning" none, .derived (derivedId 3 1 1)⟩
  have hentry : entry ∈ servers.entries := List.mem_iff_getElem?.mpr ⟨3, rfl⟩
  exact ⟨hfits, hids, hnodup, (hparts entry hentry).2.2 _ rfl⟩

end TypedLogging
