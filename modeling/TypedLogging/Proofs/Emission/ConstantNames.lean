import TypedLogging.Proofs.Emission.Checked
import TypedLogging.Proofs.Emission.Constants

namespace TypedLogging

namespace Emission

open Outcome
open Text (isSnakeChar joinWith parts)

/-- The methods that the messages of a declaration get, in order. -/
def methodNames (bindings : List Binding) : List String :=
  uniqueAll [] (bindings.map fun binding => sanitize (TypedLogging.snake binding.name))

theorem methods_of_helpersFrom {ordinal index : Nat} {taken : List String}
    {bindings : List Binding} {helpers : List Helper}
    (h : helpersFrom ordinal index taken bindings = .ok helpers) :
    helpers.map (·.method) =
      uniqueAll taken (bindings.map fun binding => sanitize (TypedLogging.snake binding.name)) := by
  induction bindings generalizing index taken helpers with
  | nil =>
      cases h
      rfl
  | cons binding rest ih =>
      obtain ⟨helper, more, hhelper, hmore, rfl⟩ := helpersFrom_cons_eq_ok.mp h
      obtain ⟨hmethod, -⟩ := method_of_helperOf hhelper
      rw [List.map_cons, List.map_cons, uniqueAll, ih hmore, hmethod]
      rfl

theorem constants_of_helpersFrom {ordinal index : Nat} {taken : List String}
    {bindings : List Binding} {helpers : List Helper}
    (h : helpersFrom ordinal index taken bindings = .ok helpers) :
    helpers.map (·.constant) = (helpers.map (·.method)).map constantOf := by
  induction bindings generalizing index taken helpers with
  | nil =>
      cases h
      rfl
  | cons binding rest ih =>
      obtain ⟨helper, more, hhelper, hmore, rfl⟩ := helpersFrom_cons_eq_ok.mp h
      simp only [List.map_cons, ih hmore, (method_of_helperOf hhelper).2]

theorem isSnakeChar_of_mem_methodNames (bindings : List Binding) :
    ∀ name ∈ methodNames bindings, ∀ c ∈ name.toList, isSnakeChar c = true := by
  refine forall_uniqueAll (p := fun name => ∀ c ∈ name.toList, isSnakeChar c = true) ?_ []
  intro base hbase
  obtain ⟨binding, -, rfl⟩ := List.mem_map.mp hbase
  have hsnake : ∀ c ∈ (sanitize (TypedLogging.snake binding.name)).toList, isSnakeChar c = true :=
    fun c hc => isSnakeChar_of_mem_sanitize hc
  exact ⟨hsnake, isSnakeChar_of_mem_numbered hsnake⟩

/-- Two methods have one constant exactly when they differ in underscores alone. -/
theorem constantOf_eq_iff {first second : String} (hfirst : ∀ c ∈ first.toList, isSnakeChar c = true)
    (hsecond : ∀ c ∈ second.toList, isSnakeChar c = true) :
    constantOf first = constantOf second ↔ parts first.toList = parts second.toList := by
  rw [← Text.shoutyCase_eq_iff hfirst hsecond, ← String.toList_inj, toList_constantOf,
    toList_constantOf, List.append_left_inj]

theorem nodup_constants_iff {names : List String}
    (h : ∀ name ∈ names, ∀ c ∈ name.toList, isSnakeChar c = true) :
    (names.map constantOf).Nodup ↔ (names.map fun name => parts name.toList).Nodup := by
  rw [List.Nodup, List.Nodup, List.pairwise_map, List.pairwise_map]
  refine List.Pairwise.iff_of_mem fun {first second} hfirst hsecond => ?_
  rw [ne_eq, ne_eq, constantOf_eq_iff (h first hfirst) (h second hsecond)]

/-- A name that its parts tell, since no underscore of it stands at an end or next to another one. -/
def IsTidy (name : String) : Prop :=
  parts name.toList ≠ [] ∧ joinWith ['_'] (parts name.toList) = name.toList

theorem IsTidy.numbered {base : String} (h : IsTidy base) (number : Nat) :
    IsTidy (numbered base number) := by
  have hdigits : parts (Nat.repr number).toList = [(Nat.repr number).toList] := by
    refine Text.parts_word (by simp [Nat.toDigits_ne_nil]) fun hmem => ?_
    exact absurd (isAsciiDigit_of_mem_repr hmem) (by decide)
  have hparts : parts (Emission.numbered base number).toList =
      parts base.toList ++ [(Nat.repr number).toList] := by
    rw [toList_numbered, Text.parts_append, hdigits]
  refine ⟨by simp [hparts], ?_⟩
  rw [hparts, Text.joinWith_concat _ h.1, h.2, toList_numbered]
  simp

theorem isTidy_of_sanitize_eq {text : String}
    (h : sanitize (TypedLogging.snake text) = TypedLogging.snake text) :
    IsTidy (TypedLogging.snake text) := by
  have hlist : (TypedLogging.snake text).toList = Text.snakeCase text.toList := by
    rw [TypedLogging.snake, String.toList_ofList]
  have hjoin := Text.joinWith_parts_snakeCase text.toList
  rw [IsTidy, hlist]
  refine ⟨fun hnil => ?_, hjoin⟩
  rw [hnil] at hjoin
  obtain ⟨c, rest, hbegins, -⟩ := (isPlain_sanitize (TypedLogging.snake text)).begins
  rw [h, hlist, ← hjoin] at hbegins
  cases hbegins

theorem nodup_parts_of_sanitize_eq {bindings : List Binding}
    (h : ∀ binding ∈ bindings,
      sanitize (TypedLogging.snake binding.name) = TypedLogging.snake binding.name) :
    ((methodNames bindings).map fun name => parts name.toList).Nodup := by
  have htidy : ∀ name ∈ methodNames bindings, IsTidy name := by
    refine forall_uniqueAll ?_ []
    intro base hbase
    obtain ⟨binding, hbinding, rfl⟩ := List.mem_map.mp hbase
    have hbase := isTidy_of_sanitize_eq (h binding hbinding)
    rw [h binding hbinding]
    exact ⟨hbase, hbase.numbered⟩
  refine List.Nodup.map_on ?_ (uniqueAll_nodup [] _).1
  intro first hfirst second hsecond he
  rw [← String.toList_inj, ← (htidy first hfirst).2, ← (htidy second hsecond).2, he]

def Layout.constantNames (layout : Layout) : List String := layout.constants.map (·.name)

theorem constantNames_eq {ordinal : Nat} {declaration : Annotated} {extension : Extension}
    (h : extensionOf ordinal declaration = .ok extension) :
    extension.layout.constantNames = (methodNames declaration.bindings).map constantOf := by
  obtain ⟨helpers, hhelpers, h⟩ := bind_eq_ok.mp h
  cases h
  rw [methodNames, ← methods_of_helpersFrom hhelpers, ← constants_of_helpersFrom hhelpers,
    Layout.constantNames, Extension.layout, List.map_map]
  rfl

/-- The constants of a file are told apart exactly when the methods are by their parts, whatever
underscores stand around these. They are where no name of a message needs to be made plain; else a name
that is made plain may meet one that has a number of its own. -/
theorem constantNames_nodup_iff {emitter : Emitter} {ordinal : Nat} {declaration : Annotated}
    {file : GeneratedFile} (h : emitter.emit ordinal declaration = .ok file) :
    ∃ extension layout, extensionOf ordinal declaration = .ok extension ∧
      emitter.Prints extension file layout ∧
      layout.constantNames.length = declaration.bindings.length ∧
      (layout.constantNames.Nodup ↔
        ((methodNames declaration.bindings).map fun name => Text.parts name.toList).Nodup) ∧
      ((∀ binding ∈ declaration.bindings, sanitize (snake binding.name) = snake binding.name) →
        layout.constantNames.Nodup) := by
  obtain ⟨extension, hextension, hprints⟩ := Emitter.prints_of_emit h
  have hnames := constantNames_eq hextension
  have hiff := nodup_constants_iff (isSnakeChar_of_mem_methodNames declaration.bindings)
  refine ⟨extension, extension.layout, hextension, hprints, ?_, ?_, fun hplain => ?_⟩
  · rw [hnames, List.length_map, methodNames, length_uniqueAll, List.length_map]
  · rw [hnames, hiff]
  · rw [hnames, hiff]
    exact nodup_parts_of_sanitize_eq hplain

theorem constantNames_nodup_iff_keyword :
    ∃ file extension layout,
      Emitter.plain.emit 0 (carried ["Match", "Match", "Tick"]) = .ok file ∧
      extensionOf 0 (carried ["Match", "Match", "Tick"]) = .ok extension ∧
      Emitter.plain.Prints extension file layout ∧ layout.constantNames.length = 3 ∧
      layout.constantNames.Nodup := by
  obtain ⟨file, hfile⟩ := exists_eq_ok_of_isOk
    (x := Emitter.plain.emit 0 (carried ["Match", "Match", "Tick"])) (by decide)
  obtain ⟨extension, layout, hextension, hprints, hlength, hnodup, -⟩ := constantNames_nodup_iff hfile
  exact ⟨file, extension, layout, hfile, hextension, hprints, hlength, hnodup.mpr (by decide)⟩

/-- A keyword that is made plain and numbered, and a name with that number. -/
theorem constantNames_clash :
    (collect "log::message" .plain (carrier ["Match", "Match", "Match_2"])).declarations =
        [carried ["Match", "Match", "Match_2"]] ∧
      ∃ file extension layout,
        Emitter.plain.emit 0 (carried ["Match", "Match", "Match_2"]) = .ok file ∧
        extensionOf 0 (carried ["Match", "Match", "Match_2"]) = .ok extension ∧
        Emitter.plain.Prints extension file layout ∧
        layout.constantNames = ["MATCH_EVENT_ID", "MATCH_2_EVENT_ID", "MATCH_2_EVENT_ID"] := by
  obtain ⟨file, hfile⟩ := exists_eq_ok_of_isOk
    (x := Emitter.plain.emit 0 (carried ["Match", "Match", "Match_2"])) (by decide)
  obtain ⟨extension, hextension, hprints⟩ := Emitter.prints_of_emit hfile
  refine ⟨by decide, file, extension, extension.layout, hfile, hextension, hprints, ?_⟩
  rw [constantNames_eq hextension]
  decide

end Emission

end TypedLogging
