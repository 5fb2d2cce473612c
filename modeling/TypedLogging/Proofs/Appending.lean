import TypedLogging.Proofs.Binding.Lookups
import TypedLogging.Proofs.Discovery
import TypedLogging.Proofs.Sources

namespace TypedLogging

open Outcome Run

namespace Discovery

open Source

mutual

/-- The paths of the inline modules of an item, at every depth. -/
def modulesOf (here : Option String) : Item → List String
  | .submodule name content => modulesOfContent (qualify here name) content
  | .holding item _ => modulesOf here item
  | .typeItem _ | .typeAlias _ | .trait _ | .useItem _ | .function _ | .other => []

def modulesOfContent (path : String) : Option (List Item) → List String
  | none => []
  | some items => path :: modulesOfItems (some path) items

def modulesOfItems (here : Option String) : List Item → List String
  | [] => []
  | item :: rest => modulesOf here item ++ modulesOfItems here rest

end

/-- The paths of the modules that symbols are filed under. -/
def FiledUnder (paths : List String) (found : Findings) : Prop :=
  ∀ entry ∈ found.symbols, entry.1 ∈ paths

section Filed

variable {paths more : List String} {found first second : Findings}

theorem FiledUnder.mono (h : FiledUnder paths found) (hpaths : paths ⊆ more) :
    FiledUnder more found :=
  fun entry hentry => hpaths (h entry hentry)

theorem filedUnder_of_nil (h : found.symbols = []) : FiledUnder paths found := by
  intro entry hentry
  rw [h] at hentry
  cases hentry

theorem FiledUnder.append (hfirst : FiledUnder paths first) (hsecond : FiledUnder paths second) :
    FiledUnder paths (first ++ second) := by
  intro entry hentry
  rcases List.mem_append.mp hentry with hentry | hentry
  · exact hfirst entry hentry
  · exact hsecond entry hentry

theorem filedUnder_concat {found : List Findings} (h : ∀ part ∈ found, FiledUnder paths part) :
    FiledUnder paths (.concat found) := by
  induction found with
  | nil => exact filedUnder_of_nil rfl
  | cons part rest ih =>
      obtain ⟨hpart, hrest⟩ := List.forall_mem_cons.mp h
      exact hpart.append (ih hrest)

variable (config : Config)

theorem filedUnder_ofSymbol (here : Option String) (symbol : Symbol) (paths : List String) :
    FiledUnder (here.getD "" :: paths) (.ofSymbol here symbol) := by
  intro entry hentry
  rw [List.mem_singleton.mp hentry]
  exact List.mem_cons_self

theorem filedUnder_importFindings (here : Option String) (imported : Import) (paths : List String) :
    FiledUnder (here.getD "" :: paths) (importFindings here imported) := by
  cases imported with
  | glob path => exact filedUnder_of_nil rfl
  | named path rename =>
      rw [importFindings]
      dsimp only
      split
      · exact filedUnder_of_nil rfl
      · split
        · exact filedUnder_of_nil rfl
        · exact filedUnder_ofSymbol here _ paths

mutual

theorem filedUnder_item (here : Option String) (item : Item) :
    FiledUnder (here.getD "" :: modulesOf here item) (itemFindings config here item) := by
  match item with
  | .typeItem item => exact (filedUnder_ofSymbol here _ []).append (filedUnder_of_nil rfl)
  | .typeAlias name => exact filedUnder_ofSymbol here _ []
  | .trait name => exact filedUnder_ofSymbol here _ []
  | .useItem tree =>
      apply filedUnder_concat
      intro part hpart
      obtain ⟨imported, -, rfl⟩ := List.mem_map.mp hpart
      exact filedUnder_importFindings here imported []
  | .submodule name content =>
      rw [itemFindings, modulesOf]
      have hcontent := filedUnder_content (qualify here name) content
      exact (filedUnder_ofSymbol here _ _).append (hcontent.mono (List.subset_cons_self _ _))
  | .function body =>
      apply filedUnder_concat
      intro part hpart
      obtain ⟨statement, -, rfl⟩ := List.mem_map.mp hpart
      exact filedUnder_of_nil (symbols_statement config here statement)
  | .holding item inner =>
      rw [itemFindings, modulesOf]
      exact filedUnder_item here item
  | .other => exact filedUnder_of_nil rfl

theorem filedUnder_content (path : String) (content : Option (List Item)) :
    FiledUnder (modulesOfContent path content) (contentFindings config (some path) content) := by
  match content with
  | none => exact filedUnder_of_nil rfl
  | some items =>
      rw [modulesOfContent, contentFindings]
      exact filedUnder_items (some path) items

theorem filedUnder_items (here : Option String) (items : List Item) :
    FiledUnder (here.getD "" :: modulesOfItems here items) (itemsFindings config here items) := by
  match items with
  | [] => exact filedUnder_of_nil rfl
  | item :: rest =>
      rw [itemsFindings, modulesOfItems]
      have hitem := filedUnder_item here item
      have hrest := filedUnder_items here rest
      refine (hitem.mono ?_).append (hrest.mono ?_)
      · exact List.cons_subset_cons _ (List.subset_append_left _ _)
      · exact List.cons_subset_cons _ (List.subset_append_right _ _)

end

end Filed

theorem inScope_append {found more : Findings} {scope : Option String}
    (h : ∀ entry ∈ more.symbols, some entry.1 ≠ scope) :
    (symbolTable (found ++ more)).inScope scope = (symbolTable found).inScope scope := by
  have hsymbols : (found ++ more).symbols = found.symbols ++ more.symbols := rfl
  rw [SymbolTable.inScope, SymbolTable.inScope, symbolTable, symbolTable, hsymbols, List.map_append,
    ← List.append_assoc, List.filter_append]
  apply congrArg
  apply List.append_right_eq_self.mpr
  rw [List.filter_eq_nil_iff]
  intro entry hentry
  obtain ⟨⟨path, symbol⟩, hsymbol, rfl⟩ := List.mem_map.mp hentry
  simpa using h _ hsymbol

/-- Symbols of other modules do not show at a location. -/
theorem lookup_append {found more : Findings} {paths : List String} {location : Location}
    (hmore : FiledUnder paths more) (hlocation : location.namespaceName ∉ paths) :
    (symbolTable (found ++ more)).lookup location = (symbolTable found).lookup location := by
  have hglobal : (symbolTable (found ++ more)).inScope none = (symbolTable found).inScope none :=
    inScope_append fun _ _ => nofun
  have hlocal : (symbolTable (found ++ more)).inScope (some location.namespaceName) =
      (symbolTable found).inScope (some location.namespaceName) := by
    apply inScope_append
    intro entry hentry hscope
    exact hlocation (Option.some.inj hscope ▸ hmore entry hentry)
  funext name
  rw [SymbolTable.lookup, SymbolTable.lookup, SymbolTable.visible, SymbolTable.visible, hglobal,
    hlocal]

end Discovery

theorem collect_congr {name : String} {first second : Lookup} {declaration : Declaration}
    (h : ∀ path nesting, declaration.place = .ok (path, nesting) →
      first ⟨path, nesting⟩ = second ⟨path, nesting⟩) :
    collect name first declaration = collect name second declaration := by
  unfold collect
  cases hplace : declaration.place with
  | error error => rfl
  | ok place =>
      obtain ⟨path, nesting⟩ := place
      have houtcomes : declaration.outcomes name first ⟨path, nesting⟩ =
          declaration.outcomes name second ⟨path, nesting⟩ := by
        apply List.map_congr_left
        intro used _
        exact bind_of_same_symbols (h path nesting hplace) used.arguments
      dsimp only
      rw [houtcomes]

namespace Collection

/-- What is collected first is collected again, whatever follows. -/
structure Precedes (first second : Collection) : Prop where
  declarations : first.declarations <+: second.declarations
  diagnostics : first.diagnostics <+: second.diagnostics

theorem precedes_append (first second : Collection) : first.Precedes (first.append second) :=
  ⟨List.prefix_append _ _, List.prefix_append _ _⟩

theorem concat_append (first second : List Collection) :
    concat (first ++ second) = (concat first).append (concat second) := by
  simp only [concat, append, List.flatMap_append]

theorem Precedes.messages {first second : Collection} (h : first.Precedes second) :
    first.messages <+: second.messages := by
  obtain ⟨more, hmore⟩ := h.declarations
  rw [Collection.messages, Collection.messages, ← hmore, List.zipIdx_append, List.flatMap_append]
  exact List.prefix_append _ _

end Collection

/-- The module that a declaration is collected in, if it is in none but modules and types. -/
def Declaration.module? (declaration : Declaration) : Option String :=
  match declaration.place with
  | .ok (path, _) => some path
  | .error _ => none

namespace SourceFile

/-- The modules that a source contributes to: its own and its inline ones. A source without a module
files its names under the empty path. -/
def modulesIn (files : Files) (source : SourceFile) : List String :=
  match source.treeIn files with
  | none => []
  | some file => source.here.getD "" :: Discovery.modulesOfItems source.here file.items

/-- The modules of the declarations in a source. -/
def namespacesIn (config : Config) (files : Files) (source : SourceFile) : List String :=
  match source.findingsIn config files with
  | none => []
  | some found => found.declarations.filterMap (·.module?)

variable {config : Config} {files : Files} {source : SourceFile} {found : Findings}

theorem filedUnder_modulesIn (h : source.findingsIn config files = some found) :
    Discovery.FiledUnder (source.modulesIn files) found := by
  obtain ⟨file, htree, rfl⟩ := Option.map_eq_some_iff.mp h
  rw [modulesIn, htree]
  exact Discovery.filedUnder_items config source.here file.items

theorem mem_namespacesIn (h : source.findingsIn config files = some found) {declaration : Declaration}
    (hdeclaration : declaration ∈ found.declarations) {path : String} {nesting : List String}
    (hplace : declaration.place = .ok (path, nesting)) : path ∈ source.namespacesIn config files := by
  rw [namespacesIn, h]
  refine List.mem_filterMap.mpr ⟨declaration, hdeclaration, ?_⟩
  rw [Declaration.module?, hplace]

end SourceFile

section Appended

variable {config : Config} {files : Files} {sources : List SourceFile} {source : SourceFile}
  {parts : List Findings} {last : Findings}

theorem concat_concat (parts : List Findings) (last : Findings) :
    Findings.concat (parts ++ [last]) = Findings.concat parts ++ last := by
  have happend : ∀ first second : Findings, first.append second = first ++ second := fun _ _ => rfl
  induction parts with
  | nil =>
      show last.append .none = Findings.none.append last
      simp [Findings.append, Findings.none]
  | cons part rest ih =>
      show part.append (Findings.concat (rest ++ [last])) = (part.append (.concat rest)).append last
      rw [ih, ← happend]
      simp only [Findings.append, List.append_assoc]

theorem Contribute.of_concat {parts : List Findings}
    (h : Contribute config files (sources ++ [source]) parts) :
    ∃ front last, parts = front ++ [last] ∧ Contribute config files sources front ∧
      source.findingsIn config files = some last := by
  induction sources generalizing parts with
  | nil =>
      cases h with
      | cons hlast hnil =>
          cases hnil
          exact ⟨[], _, rfl, .nil, hlast⟩
  | cons first rest ih =>
      cases h with
      | cons hfirst hrest =>
          obtain ⟨front, last, rfl, hfront, hlast⟩ := ih hrest
          exact ⟨_ :: front, last, rfl, .cons hfirst hfront, hlast⟩

theorem precedes_collected (hparts : Contribute config files sources parts)
    (hlast : source.findingsIn config files = some last)
    (hapart : ∀ earlier ∈ sources,
      List.Disjoint (earlier.namespacesIn config files) (source.modulesIn files)) :
    (collected config (.concat parts)).Precedes (collected config (.concat (parts ++ [last]))) := by
  rw [concat_concat]
  -- the symbols of the last source show in its own modules, where none of these declarations is
  have hsame : (Findings.concat parts).declarations.map
        (collect config.qualifiedAttribute (Discovery.symbolTable (.concat parts ++ last)).lookup) =
      (Findings.concat parts).declarations.map
        (collect config.qualifiedAttribute (Discovery.symbolTable (.concat parts)).lookup) := by
    apply List.map_congr_left
    intro declaration hdeclaration
    apply collect_congr
    intro path nesting hplace
    apply Discovery.lookup_append (SourceFile.filedUnder_modulesIn hlast)
    rw [Discovery.declarations_concat] at hdeclaration
    obtain ⟨part, hpart, hdeclared⟩ := List.mem_flatMap.mp hdeclaration
    obtain ⟨earlier, hearlier, hfound⟩ := exists_mem_of_forall₂ hparts hpart
    exact hapart earlier hearlier (SourceFile.mem_namespacesIn hfound hdeclared hplace)
  rw [collected, collected, Discovery.declarations_append, List.map_append, hsame,
    Collection.concat_append]
  exact Collection.precedes_append _ _

end Appended

namespace Generator

def appending (generator : Generator) (source : SourceFile) : Generator :=
  { generator with sources := generator.sources ++ [source] }

variable {generator : Generator} {source : SourceFile} {world other after after' : World}

theorem precedes_of_collect {collection appended : Collection} (hfiles : other.files = world.files)
    (hcollect : generator.collect.on world = (.ok collection, after))
    (happended : (generator.appending source).collect.on other = (.ok appended, after'))
    (hapart : ∀ earlier ∈ generator.sources, List.Disjoint
      (earlier.namespacesIn generator.config world.files) (source.modulesIn world.files)) :
    collection.Precedes appended := by
  obtain ⟨parts, hparts, rfl⟩ := contribute_of_collect hcollect
  obtain ⟨all, hall, rfl⟩ := contribute_of_collect happended
  rw [hfiles] at hall
  obtain ⟨front, last, rfl, hfront, hlast⟩ := Contribute.of_concat hall
  obtain rfl := hparts.unique hfront
  exact precedes_collected hparts hlast hapart

theorem files_prefix_of_emitAll {emitter : Emitter} {declarations declarations' : List Annotated}
    {files files' : List GeneratedFile} (hmore : declarations <+: declarations')
    (h : (emitAll emitter 0 .none declarations).on world = (.ok files, after))
    (h' : (emitAll emitter 0 .none declarations').on other = (.ok files', after')) : files <+: files' := by
  obtain ⟨more, rfl⟩ := hmore
  have hfirst := emit_of_emitAll h
  have hall := emit_of_emitAll h'
  rw [List.zipIdx_append] at hall
  have htake := List.forall₂_take_append _ _ _ hall
  have hunique : Relator.LeftUnique fun (file : GeneratedFile) (entry : Annotated × Nat) =>
      emitter.emit entry.2 entry.1 = .ok file := by
    intro file entry file' hfile hfile'
    exact Except.ok.inj (hfile.symm.trans hfile')
  rw [hunique.forall₂ hfirst htake]
  exact List.take_prefix _ _

end Generator

/-- Appending a source changes nothing of what is collected of the sources before it and of what is
generated for them, if no declaration of theirs is in a module that it contributes to. -/
theorem appended_source_keeps {generator : Generator} {source : SourceFile}
    {world other after after' : World} {collection appended : Collection}
    (hfiles : other.files = world.files)
    (hcollect : generator.collect.on world = (.ok collection, after))
    (happended : (generator.appending source).collect.on other = (.ok appended, after'))
    (hapart : ∀ earlier ∈ generator.sources, List.Disjoint
      (earlier.namespacesIn generator.config world.files) (source.modulesIn world.files)) :
    collection.declarations <+: appended.declarations ∧
      collection.diagnostics <+: appended.diagnostics ∧
      collection.messages <+: appended.messages ∧
      ∀ (generated generated' : Generated) (last last' : World),
        generator.generate.on world = (.ok generated, last) →
        (generator.appending source).generate.on other = (.ok generated', last') →
          generated.files <+: generated'.files ∧
            generated.diagnostics <+: generated'.diagnostics := by
  have hprecedes := Generator.precedes_of_collect hfiles hcollect happended hapart
  refine ⟨hprecedes.declarations, hprecedes.diagnostics, hprecedes.messages, ?_⟩
  intro generated generated' last last' hgenerate hgenerate'
  obtain ⟨collection, _, hcollected, hemitting⟩ := Run.on_bind_eq_ok.mp hgenerate
  obtain ⟨collection', _, hcollected', hemitting'⟩ := Run.on_bind_eq_ok.mp hgenerate'
  have hbefore := Generator.precedes_of_collect hfiles hcollected hcollected' hapart
  obtain ⟨emitter, _, hemitter, hemitting⟩ := Run.on_bind_eq_ok.mp hemitting
  obtain ⟨emitter', _, hemitter', hemitting'⟩ := Run.on_bind_eq_ok.mp hemitting'
  have hconfig := (Generator.on_orStop_eq_ok.mp hemitter).1
  have hconfig' := (Generator.on_orStop_eq_ok.mp hemitter').1
  obtain rfl : emitter = emitter' := Except.ok.inj (hconfig.symm.trans hconfig')
  obtain ⟨files, _, hemit, hemitting⟩ := Run.on_bind_eq_ok.mp hemitting
  obtain ⟨files', _, hemit', hemitting'⟩ := Run.on_bind_eq_ok.mp hemitting'
  cases hemitting
  cases hemitting'
  exact ⟨Generator.files_prefix_of_emitAll hbefore.declarations hemit hemit', hbefore.diagnostics⟩

def shadowing : SourceFile := .ofText "other.rs" "struct u8; mod inner \x7b use other::u8; \x7d" "other"

theorem appended_source_keeps_mixed :
    let world := World.ofFiles .empty
    ∃ collection appended after after', mixedGenerator.collect.on world = (.ok collection, after) ∧
      (mixedGenerator.appending shadowing).collect.on world = (.ok appended, after') ∧
      (∀ earlier ∈ mixedGenerator.sources, List.Disjoint
        (earlier.namespacesIn mixedGenerator.config world.files) (shadowing.modulesIn world.files)) ∧
      collection.declarations.length = 1 ∧ collection.declarations <+: appended.declarations := by
  intro world
  have hruns : (mixedGenerator.collect.on world).1.map (·.declarations.length) = .ok 1 ∧
      ((mixedGenerator.appending shadowing).collect.on world).1.isOk = true ∧
      mixedGenerator.sources.map (·.namespacesIn mixedGenerator.config world.files) = [["crate"]] ∧
      shadowing.modulesIn world.files = ["other", "other::inner"] := by decide +kernel
  obtain ⟨hlength, hsecond, hnamespaces, hmodules⟩ := hruns
  obtain ⟨appended, after', happended⟩ := Run.exists_on_eq_ok hsecond
  have hapart : ∀ earlier ∈ mixedGenerator.sources, List.Disjoint
      (earlier.namespacesIn mixedGenerator.config world.files) (shadowing.modulesIn world.files) := by
    intro earlier hearlier
    have hmem := List.mem_map_of_mem
      (f := fun source => source.namespacesIn mixedGenerator.config world.files) hearlier
    rw [hnamespaces] at hmem
    rw [List.mem_singleton.mp hmem, hmodules]
    intro path hpath hother
    rw [List.mem_singleton.mp hpath] at hother
    exact absurd hother (by decide)
  cases hcollect : mixedGenerator.collect.on world with
  | mk result after =>
      rw [hcollect] at hlength
      cases result with
      | error stop => cases hlength
      | ok collection =>
          obtain ⟨hdeclarations, -⟩ := appended_source_keeps rfl hcollect happended hapart
          exact ⟨collection, appended, after, after', rfl, happended, hapart, Except.ok.inj hlength,
            hdeclarations⟩

end TypedLogging
