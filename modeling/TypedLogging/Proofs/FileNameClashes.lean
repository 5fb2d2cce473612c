import TypedLogging.Proofs.Generation

namespace TypedLogging

open Outcome Run

namespace Emitter

def Emits (emitter : Emitter) (file : GeneratedFile) (entry : Annotated × Nat) : Prop :=
  emitter.emit entry.2 entry.1 = .ok file

structure Clear (emitter : Emitter) (declarations : List Annotated) : Prop where
  emits : ∀ i declaration, declarations[i]? = some declaration →
    ∃ file, emitter.emit i declaration = .ok file
  names_nodup : (declarations.map Emission.fileName).Nodup

/-- The declaration at a position cannot be emitted or has the file name of an earlier one. -/
def IsBlocked (emitter : Emitter) (declarations : List Annotated) (i : Nat) (declaration : Annotated) :
    Prop :=
  (∃ stop, emitter.emit i declaration = .error stop) ∨
    ∃ j earlier, j < i ∧ declarations[j]? = some earlier ∧
      Emission.fileName earlier = Emission.fileName declaration

structure BlockedFirst (emitter : Emitter) (declarations : List Annotated) (i : Nat)
    (declaration : Annotated) : Prop where
  here : declarations[i]? = some declaration
  blocked : emitter.IsBlocked declarations i declaration
  least : ∀ j earlier, j < i → declarations[j]? = some earlier →
    ¬emitter.IsBlocked declarations j earlier

/-- How a run fails at a declaration. What its emission fails with comes before a clash of names, and a
clash is with the only earlier declaration that has the name. -/
inductive FailsAt (emitter : Emitter) (declarations : List Annotated) (i : Nat)
    (declaration : Annotated) : Stop → Prop
  | emission {stop : Stop} (hemit : emitter.emit i declaration = .error stop) :
    FailsAt emitter declarations i declaration stop
  | clash {file : GeneratedFile} {j : Nat} {earlier : Annotated}
    (hemit : emitter.emit i declaration = .ok file) (hlt : j < i)
    (hearlier : declarations[j]? = some earlier)
    (hname : Emission.fileName earlier = Emission.fileName declaration)
    (hunique : ∀ k other, k < i → declarations[k]? = some other →
      Emission.fileName other = Emission.fileName declaration → k = j) :
    FailsAt emitter declarations i declaration (.fault (Failure.duplicateFileName
      (Emission.fileName declaration) earlier.typePath declaration.typePath).fault)

/-- What becomes of the declarations behind those that have files, and of the run. -/
inductive Ends (emitter : Emitter) (earlier files : List GeneratedFile) (position : Nat) :
    List Annotated → Except Stop (List GeneratedFile) → Prop
  | all : Ends emitter earlier files position [] (.ok files)
  | fails {declaration : Annotated} {rest : List Annotated} {stop : Stop}
    (hemit : emitter.emit position declaration = .error stop) :
    Ends emitter earlier files position (declaration :: rest) (.error stop)
  | clashes {declaration : Annotated} {rest : List Annotated} {file first : GeneratedFile}
    (hemit : emitter.emit position declaration = .ok file) (hfirst : first ∈ earlier ++ files)
    (hname : first.name = file.name) :
    Ends emitter earlier files position (declaration :: rest) (.error (.fault
      (Failure.duplicateFileName file.name first.typePath file.typePath).fault))

variable {emitter : Emitter} {earlier files : List GeneratedFile} {file : GeneratedFile}
  {position ordinal : Nat} {before behind declarations : List Annotated} {declaration : Annotated}

theorem Ends.cons {result : Except Stop (List GeneratedFile)}
    (h : emitter.Ends (earlier ++ [file]) files position behind result) :
    emitter.Ends earlier (file :: files) position behind (result.map (file :: ·)) := by
  cases h with
  | all => exact .all
  | fails hemit => exact .fails hemit
  | clashes hemit hfirst hname =>
      rw [List.append_assoc] at hfirst
      exact .clashes hemit hfirst hname

theorem names_of_emits (h : List.Forall₂ emitter.Emits files (before.zipIdx ordinal)) :
    files.map (·.name) = before.map Emission.fileName := by
  induction before generalizing files ordinal with
  | nil =>
      cases h
      rfl
  | cons declaration rest ih =>
      cases h with
      | cons hfirst hrest =>
          rw [List.map_cons, List.map_cons, (fields_of_emit hfirst).1, ih hrest]

theorem exists_emit_of_getElem? (h : List.Forall₂ emitter.Emits files before.zipIdx)
    {i : Nat} (hdeclaration : before[i]? = some declaration) :
    ∃ file, emitter.emit i declaration = .ok file := by
  have hmem : (declaration, i) ∈ before.zipIdx := List.mem_zipIdx_iff_getElem?.mpr hdeclaration
  obtain ⟨file, -, hemit⟩ := exists_mem_of_forall₂ h hmem
  exact ⟨file, hemit⟩

theorem exists_getElem?_of_mem (h : List.Forall₂ emitter.Emits files before.zipIdx)
    (hfile : file ∈ files) :
    ∃ (i : Nat) (declaration : Annotated), before[i]? = some declaration ∧
      emitter.emit i declaration = .ok file := by
  obtain ⟨⟨declaration, i⟩, hmem, hemit⟩ := exists_mem_of_forall₂ h.flip hfile
  exact ⟨i, declaration, List.mem_zipIdx_iff_getElem?.mp hmem, hemit⟩

theorem eq_of_fileName_eq (hnodup : (declarations.map Emission.fileName).Nodup) {i j : Nat}
    {other : Annotated} (hdeclaration : declarations[i]? = some declaration)
    (hother : declarations[j]? = some other)
    (hname : Emission.fileName declaration = Emission.fileName other) : i = j := by
  have hi : i < (declarations.map Emission.fileName).length := by
    rw [List.length_map]
    exact (List.getElem?_eq_some_iff.mp hdeclaration).1
  refine (List.getElem?_inj hi hnodup).mp ?_
  rw [List.getElem?_map, List.getElem?_map, hdeclaration, hother, Option.map_some, Option.map_some,
    hname]

theorem FailsAt.isBlocked {i : Nat} {stop : Stop} (h : emitter.FailsAt declarations i declaration stop) :
    emitter.IsBlocked declarations i declaration := by
  cases h with
  | emission hemit => exact .inl ⟨_, hemit⟩
  | clash _ hlt hearlier hname => exact .inr ⟨_, _, hlt, hearlier, hname⟩

theorem Clear.not_isBlocked (h : emitter.Clear declarations) {i : Nat}
    (hdeclaration : declarations[i]? = some declaration) :
    ¬emitter.IsBlocked declarations i declaration := by
  rintro (⟨stop, hstop⟩ | ⟨j, earlier, hlt, hearlier, hname⟩)
  · obtain ⟨file, hemit⟩ := h.emits i declaration hdeclaration
    rw [hstop] at hemit
    cases hemit
  · exact absurd (eq_of_fileName_eq h.names_nodup hearlier hdeclaration hname) (Nat.ne_of_lt hlt)

section Prefix

variable {rest : List Annotated} (hemits : List.Forall₂ emitter.Emits files before.zipIdx)
  (hnodup : (before.map Emission.fileName).Nodup)
include hemits hnodup

theorem clear_of_emits : emitter.Clear before where
  emits _ _ hdeclaration := exists_emit_of_getElem? hemits hdeclaration
  names_nodup := hnodup

theorem failsAt_of_ends {result : Except Stop (List GeneratedFile)}
    (hends : emitter.Ends [] files before.length (declaration :: rest) result) :
    ∃ stop, result = .error stop ∧
      emitter.FailsAt (before ++ declaration :: rest) before.length declaration stop := by
  cases hends with
  | fails hemit => exact ⟨_, rfl, .emission hemit⟩
  | clashes hemit hfirst hname =>
      obtain ⟨j, earlier, hearlier, hemitted⟩ := exists_getElem?_of_mem hemits hfirst
      obtain ⟨hfirstName, hfirstType⟩ := fields_of_emit hemitted
      obtain ⟨hfileName, hfileType⟩ := fields_of_emit hemit
      have hj : j < before.length := (List.getElem?_eq_some_iff.mp hearlier).1
      have hsame : Emission.fileName earlier = Emission.fileName declaration := by
        rw [← hfirstName, hname, hfileName]
      refine ⟨_, rfl, ?_⟩
      rw [hfileName, hfirstType, hfileType]
      refine .clash hemit hj ((List.getElem?_append_left hj).trans hearlier) hsame ?_
      intro k other hk hother hotherName
      rw [List.getElem?_append_left hk] at hother
      exact eq_of_fileName_eq hnodup hother hearlier (hotherName.trans hsame.symm)

theorem blockedFirst_of_failsAt {stop : Stop}
    (h : emitter.FailsAt (before ++ declaration :: rest) before.length declaration stop) :
    emitter.BlockedFirst (before ++ declaration :: rest) before.length declaration where
  here := by rw [List.getElem?_append_right (Nat.le_refl _), Nat.sub_self, List.getElem?_cons_zero]
  blocked := h.isBlocked
  least j earlier hj hearlier := by
    rw [List.getElem?_append_left hj] at hearlier
    rintro (hstop | ⟨k, other, hk, hother, hname⟩)
    · exact (clear_of_emits hemits hnodup).not_isBlocked hearlier (.inl hstop)
    · rw [List.getElem?_append_left (Nat.lt_trans hk hj)] at hother
      exact (clear_of_emits hemits hnodup).not_isBlocked hearlier (.inr ⟨k, other, hk, hother, hname⟩)

end Prefix

end Emitter

namespace Generator

namespace Owners

variable {owners : Owners} {files : List GeneratedFile} {file : GeneratedFile}

/-- The owners are those of these files. -/
def Records (owners : Owners) (files : List GeneratedFile) : Prop :=
  ∀ name typePath, owners name = some typePath ↔
    ∃ file ∈ files, file.name = name ∧ file.typePath = typePath

theorem records_nil : Owners.none.Records [] := by
  intro name typePath
  simp [Owners.none]

theorem Records.name_ne (h : owners.Records files) {name : String} (hnew : owners name = .none) :
    ∀ file ∈ files, file.name ≠ name := by
  rintro file hfile rfl
  have howner := (h file.name file.typePath).mpr ⟨file, hfile, rfl, rfl⟩
  rw [hnew] at howner
  cases howner

theorem Records.enter (h : owners.Records files) (hnew : owners file.name = .none) :
    (owners.enter file.name file.typePath).Records (files ++ [file]) := by
  intro name typePath
  rw [Owners.enter]
  by_cases hname : name = file.name
  · subst hname
    rw [if_pos rfl]
    constructor
    · rintro ⟨⟩
      exact ⟨file, List.mem_append_right _ List.mem_cons_self, rfl, rfl⟩
    · rintro ⟨other, hother, hsame, rfl⟩
      rcases List.mem_append.mp hother with hold | hlast
      · exact absurd hsame (h.name_ne hnew other hold)
      · rw [List.mem_singleton.mp hlast]
  · rw [if_neg hname, h]
    constructor
    · rintro ⟨other, hother, hfields⟩
      exact ⟨other, List.mem_append_left _ hother, hfields⟩
    · rintro ⟨other, hother, hfields⟩
      rcases List.mem_append.mp hother with hold | hlast
      · exact ⟨other, hold, hfields⟩
      · rw [List.mem_singleton.mp hlast] at hfields
        exact absurd hfields.1.symm hname

end Owners

variable {generator : Generator} {emitter : Emitter} {world between : World} {owners : Owners}
  {earlier : List GeneratedFile} {ordinal : Nat} {declarations : List Annotated}

theorem on_emitAll_cons (hcalm : world.Calm) (declaration : Annotated) (rest : List Annotated) :
    ((emitAll emitter ordinal owners (declaration :: rest)).on world).1 =
      match emitter.emit ordinal declaration with
      | .error stop => .error stop
      | .ok file =>
        match owners file.name with
        | some first =>
          .error (.fault (Failure.duplicateFileName file.name first file.typePath).fault)
        | none => ((emitAll emitter (ordinal + 1) (owners.enter file.name file.typePath) rest).on
            (world.logged [emitted file declaration])).1.map (file :: ·) := by
  rw [emitAll, on_bind_of_ok (on_check hcalm)]
  cases hemit : emitter.emit ordinal declaration with
  | error stop => rfl
  | ok file =>
      have hfile : (orStop (m := StateM World) (.ok file)).on world = (.ok file, world) := rfl
      rw [on_bind_of_ok hfile, on_bind_of_ok (on_logAll _ world)]
      dsimp only
      cases owners file.name with
      | some first => rfl
      | none =>
          dsimp only
          rw [on_bind]
          rcases (emitAll emitter (ordinal + 1) (owners.enter file.name file.typePath) rest).on
            (world.logged [emitted file declaration]) with ⟨result, after⟩
          cases result <;> rfl

/-- A run emits declarations as far as their files have different names. -/
theorem ends_emitAll (hcalm : world.Calm) (howners : owners.Records earlier)
    (hearlier : (earlier.map (·.name)).Nodup) :
    ∃ before behind files, declarations = before ++ behind ∧
      List.Forall₂ emitter.Emits files (before.zipIdx ordinal) ∧
      ((earlier ++ files).map (·.name)).Nodup ∧
      emitter.Ends earlier files (ordinal + before.length) behind
        ((emitAll emitter ordinal owners declarations).on world).1 := by
  induction declarations generalizing ordinal owners earlier world with
  | nil => exact ⟨[], [], [], rfl, .nil, by rwa [List.append_nil], .all⟩
  | cons declaration rest ih =>
      rw [on_emitAll_cons hcalm]
      cases hemit : emitter.emit ordinal declaration with
      | error stop =>
          exact ⟨[], _, [], rfl, .nil, by rwa [List.append_nil], .fails hemit⟩
      | ok file =>
          dsimp only
          cases howner : owners file.name with
          | some typePath =>
              obtain ⟨first, hfirst, hname, rfl⟩ := (howners _ _).mp howner
              refine ⟨[], _, [], rfl, .nil, by rwa [List.append_nil], .clashes hemit ?_ hname⟩
              rwa [List.append_nil]
          | none =>
              have hnames : ((earlier ++ [file]).map (·.name)).Nodup := by
                rw [List.map_append, List.map_singleton, ← List.concat_eq_append]
                refine hearlier.concat fun hmem => ?_
                obtain ⟨first, hfirst, hname⟩ := List.mem_map.mp hmem
                exact howners.name_ne howner first hfirst hname
              obtain ⟨before, behind, files, rfl, hemits, hnodup, hends⟩ :=
                ih (hcalm.logged _) (howners.enter howner) hnames
              refine ⟨declaration :: before, behind, file :: files, rfl, .cons hemit hemits, ?_, ?_⟩
              · rwa [List.append_assoc] at hnodup
              · rw [List.length_cons, Nat.add_comm before.length, ← Nat.add_assoc]
                exact hends.cons

theorem on_generate {collection : Collection}
    (hcollect : generator.collect.on world = (.ok collection, between))
    (hemitter : Emitter.ofConfig generator.config = .ok emitter) :
    (generator.generate.on world).1 =
      ((emitAll emitter 0 .none collection.declarations).on between).1.map
        (⟨·, collection.diagnostics⟩) := by
  have hconfig : (orStop (m := StateM World)
      (Emission.orStop (Emitter.ofConfig generator.config))).on between = (.ok emitter, between) := by
    rw [hemitter]
    rfl
  rw [generate, on_bind_of_ok hcollect, on_bind_of_ok hconfig, on_bind]
  rcases (emitAll emitter 0 .none collection.declarations).on between with ⟨result, after⟩
  cases result <;> rfl

theorem ends_generate {collection : Collection}
    (hcollect : generator.collect.on world = (.ok collection, between))
    (hemitter : Emitter.ofConfig generator.config = .ok emitter)
    (huncancelled : (generator.generate.on world).1 ≠ .error cancelled) :
    ∃ before behind files result, collection.declarations = before ++ behind ∧
      List.Forall₂ emitter.Emits files before.zipIdx ∧ (before.map Emission.fileName).Nodup ∧
      emitter.Ends [] files before.length behind result ∧
      (generator.generate.on world).1 = result.map (⟨·, collection.diagnostics⟩) := by
  have hgenerate := on_generate hcollect hemitter
  have hne : ((emitAll emitter 0 .none collection.declarations).on between).1 ≠ .error cancelled := by
    intro hcancelled
    rw [hgenerate, hcancelled] at huncancelled
    exact huncancelled rfl
  have hcalm : (between.cancelledAfter none).Calm := rfl
  have hresult := (steady_emitAll emitter 0 .none collection.declarations).result_eq hne hcalm
  obtain ⟨before, behind, files, hsplit, hemits, hnodup, hends⟩ :=
    ends_emitAll hcalm Owners.records_nil List.nodup_nil
  rw [List.nil_append, Emitter.names_of_emits hemits] at hnodup
  rw [Nat.zero_add, ← hresult] at hends
  exact ⟨before, behind, files, _, hsplit, hemits, hnodup, hends, hgenerate⟩

/-- A run that has collected and is not cancelled gives a file for each declaration, in order, if all of
them can be emitted and have file names of their own. Otherwise it fails at the first one that cannot be
emitted or has a name that an earlier one has. -/
theorem generate_detects_clashes {collection : Collection}
    (hcollect : generator.collect.on world = (.ok collection, between))
    (hemitter : Emitter.ofConfig generator.config = .ok emitter)
    (huncancelled : (generator.generate.on world).1 ≠ .error cancelled) :
    (emitter.Clear collection.declarations → ∃ files,
      (generator.generate.on world).1 = .ok ⟨files, collection.diagnostics⟩ ∧
        List.Forall₂ emitter.Emits files collection.declarations.zipIdx) ∧
      (¬emitter.Clear collection.declarations → ∃ i declaration stop,
        emitter.BlockedFirst collection.declarations i declaration ∧
          emitter.FailsAt collection.declarations i declaration stop ∧
          (generator.generate.on world).1 = .error stop) := by
  obtain ⟨before, behind, files, result, hsplit, hemits, hnodup, hends, hresult⟩ :=
    ends_generate hcollect hemitter huncancelled
  rw [hsplit, hresult]
  cases behind with
  | nil =>
      cases hends
      rw [List.append_nil]
      exact ⟨fun _ => ⟨files, rfl, hemits⟩, fun hclear =>
        absurd (Emitter.clear_of_emits hemits hnodup) hclear⟩
  | cons declaration rest =>
      obtain ⟨stop, rfl, hfails⟩ := Emitter.failsAt_of_ends hemits hnodup hends
      have hfirst := Emitter.blockedFirst_of_failsAt hemits hnodup hfails
      exact ⟨fun hclear => absurd hfirst.blocked (hclear.not_isBlocked hfirst.here),
        fun _ => ⟨before.length, declaration, stop, hfirst, hfails, rfl⟩⟩

def clientsGenerator : Generator where
  config := .default
  sources := [.ofText "lib.rs" ("#[logger_message(\"A\", LogLevel::Debug, \"\x7bX:u8\x7d\")]"
    ++ "struct HTTPClient; #[logger_message(\"B\", LogLevel::Debug, \"\x7bX:u8\x7d\")]"
    ++ "struct HttpClient;") "crate"]
  outDir := none

theorem generate_detects_clashes_clients :
    let world := World.ofFiles .empty
    let stop : Stop := .fault (Failure.duplicateFileName "http_client_logger_messages.rs"
      "crate::HTTPClient" "crate::HttpClient").fault
    ∃ collection between emitter, clientsGenerator.collect.on world = (.ok collection, between) ∧
      Emitter.ofConfig clientsGenerator.config = .ok emitter ∧
      (clientsGenerator.generate.on world).1 ≠ .error cancelled ∧
      ¬emitter.Clear collection.declarations ∧
      ∃ i declaration, emitter.BlockedFirst collection.declarations i declaration ∧
        emitter.FailsAt collection.declarations i declaration stop := by
  intro world stop
  have hruns : (clientsGenerator.collect.on world).1.isOk = true ∧
      (clientsGenerator.generate.on world).1 = .error stop := by decide +kernel
  obtain ⟨collection, between, hcollect⟩ := exists_on_eq_ok hruns.1
  have hemitter : ∃ emitter, Emitter.ofConfig clientsGenerator.config = .ok emitter :=
    exists_eq_ok_of_isOk (by decide +kernel)
  obtain ⟨emitter, hemitter⟩ := hemitter
  have huncancelled : (clientsGenerator.generate.on world).1 ≠ .error cancelled := by
    rw [hruns.2]
    decide
  obtain ⟨hclear, hblocked⟩ := generate_detects_clashes hcollect hemitter huncancelled
  have hnot : ¬emitter.Clear collection.declarations := by
    intro h
    obtain ⟨files, hfiles, -⟩ := hclear h
    rw [hruns.2] at hfiles
    cases hfiles
  obtain ⟨i, declaration, stop', hfirst, hfails, hstop⟩ := hblocked hnot
  rw [hruns.2] at hstop
  cases hstop
  exact ⟨collection, between, emitter, hcollect, hemitter, huncancelled, hnot, i, declaration, hfirst,
    hfails⟩

end Generator

end TypedLogging
