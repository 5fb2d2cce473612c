import TypedLogging.Proofs.Generation

namespace TypedLogging

open Run Outcome

namespace SourceFile

def textIn (files : Files) (source : SourceFile) : Option String :=
  match source.input with
  | .file path => (files.read path).toOption
  | .text _ text => some text

def treeIn (files : Files) (source : SourceFile) : Option Source.File :=
  (source.textIn files).bind Source.File.ofText?

def findingsIn (config : Config) (files : Files) (source : SourceFile) : Option Findings :=
  (source.treeIn files).map (Discovery.fileFindings config source.here)

end SourceFile

/-- What each source contributes. -/
def Contribute (config : Config) (files : Files) : List SourceFile → List Findings → Prop :=
  List.Forall₂ fun source found => source.findingsIn config files = some found

variable {world after : World} {config : Config} {sources : List SourceFile} {parts : List Findings}

theorem on_readSource_eq_ok {source : SourceFile} {text : String} :
    (readSource source).on world = (.ok text, after) ↔
      source.textIn world.files = some text ∧ world = after := by
  obtain ⟨input, here⟩ := source
  cases input with
  | text name held =>
      rw [readSource, on_pure, SourceFile.textIn]
      simp
  | file path =>
      rw [readSource, on_bind_of_ok (on_readFile path world)]
      cases hread : world.files.read path with
      | ok held =>
          rw [orFail, on_pure]
          simp [SourceFile.textIn, hread, Except.toOption]
      | error fault =>
          rw [orFail, fail, on_throw]
          simp [SourceFile.textIn, hread, Except.toOption]

theorem on_parseSource_eq_ok {source : SourceFile} {file : Source.File} :
    (parseSource source).on world = (.ok file, after) ↔
      source.treeIn world.files = some file ∧ world = after := by
  rw [parseSource, on_bind_eq_ok, SourceFile.treeIn]
  simp only [on_readSource_eq_ok, Option.bind_eq_some_iff]
  constructor
  · rintro ⟨text, between, ⟨htext, rfl⟩, h⟩
    cases hfile : Source.File.ofText? text with
    | none =>
        rw [hfile] at h
        cases h
    | some found =>
        rw [hfile] at h
        cases h
        exact ⟨⟨text, htext, hfile⟩, rfl⟩
  · rintro ⟨⟨text, htext, hfile⟩, rfl⟩
    refine ⟨text, world, ⟨htext, rfl⟩, ?_⟩
    rw [hfile]
    rfl

theorem contribute_of_scanSources {found : Findings}
    (h : (scanSources config sources).on world = (.ok found, after)) :
    ∃ parts, Contribute config world.files sources parts ∧ found = .concat parts := by
  induction sources generalizing world found with
  | nil =>
      cases h
      exact ⟨[], .nil, rfl⟩
  | cons source rest ih =>
      obtain ⟨_, checked, hcheck, h⟩ := on_bind_eq_ok.mp h
      obtain ⟨hfiles, -, -⟩ := steady_check.interruptible.untouched hcheck
      rw [on_bind_of_ok (on_log _ _ _ _)] at h
      obtain ⟨file, _, hparse, h⟩ := on_bind_eq_ok.mp h
      obtain ⟨htree, rfl⟩ := on_parseSource_eq_ok.mp hparse
      rw [on_bind_of_ok (on_logAll _ _)] at h
      obtain ⟨more, _, hmore, h⟩ := on_bind_eq_ok.mp h
      cases h
      obtain ⟨parts, hparts, rfl⟩ := ih hmore
      have htree' : source.treeIn world.files = some file := by
        rw [← hfiles]
        exact htree
      have hparts' : Contribute config world.files rest parts := by
        rw [← hfiles]
        exact hparts
      refine ⟨Discovery.fileFindings config source.here file :: parts, .cons ?_ hparts', rfl⟩
      rw [SourceFile.findingsIn, htree']
      rfl

theorem on_scanSources (hcalm : world.Calm) (hparts : Contribute config world.files sources parts) :
    ∃ records, (scanSources config sources).on world = (.ok (.concat parts), world.logged records) := by
  induction sources generalizing world parts with
  | nil =>
      cases hparts
      refine ⟨[], ?_⟩
      rw [World.logged_nil]
      rfl
  | cons source rest ih =>
      cases hparts with
      | @cons _ found _ parts hfound hparts =>
          obtain ⟨file, htree, rfl⟩ := Option.map_eq_some_iff.mp hfound
          have hparse : ∀ records, (parseSource source).on (world.logged records) =
              (.ok file, world.logged records) :=
            fun records => on_parseSource_eq_ok.mpr ⟨htree, rfl⟩
          rw [scanSources, on_bind_of_ok (on_check hcalm), on_bind_of_ok (on_log _ _ _ _),
            on_bind_of_ok (hparse _), on_bind_of_ok (on_logAll _ _), World.logged_logged]
          obtain ⟨records, hmore⟩ := ih (hcalm.logged _) hparts
          rw [on_bind_of_ok hmore, World.logged_logged]
          exact ⟨_, rfl⟩

theorem Contribute.unique {parts' : List Findings} {files : Files}
    (h : Contribute config files sources parts) (h' : Contribute config files sources parts') :
    parts = parts' := by
  have hunique : Relator.RightUnique fun (source : SourceFile) found =>
      source.findingsIn config files = some found := by
    intro source found found' hfound hfound'
    exact Option.some.inj (hfound.symm.trans hfound')
  exact hunique.forall₂ h h'

/-- Every source says afterwards what it said before. -/
def KeepsSources (sources : List SourceFile) (before after : Files) : Prop :=
  ∀ source ∈ sources, ∀ text, source.textIn before = some text → source.textIn after = some text

theorem Contribute.mono {before after : Files} (h : Contribute config before sources parts)
    (hkeeps : KeepsSources sources before after) : Contribute config after sources parts := by
  induction h with
  | nil => exact .nil
  | @cons source found rest parts hfound _ ih =>
      obtain ⟨file, htree, rfl⟩ := Option.map_eq_some_iff.mp hfound
      obtain ⟨text, htext, hfile⟩ := Option.bind_eq_some_iff.mp htree
      have hafter := hkeeps source List.mem_cons_self text htext
      refine .cons ?_ (ih fun other hother => hkeeps other (List.mem_cons_of_mem _ hother))
      rw [SourceFile.findingsIn, SourceFile.treeIn, hafter, Option.bind_some, hfile]
      rfl

def collected (config : Config) (found : Findings) : Collection :=
  .concat (found.declarations.map
    (collect config.qualifiedAttribute (Discovery.symbolTable found).lookup))

namespace Generator

variable {generator : Generator} {other : World}

theorem contribute_of_collect {collection : Collection}
    (h : generator.collect.on world = (.ok collection, after)) :
    ∃ parts, Contribute generator.config world.files generator.sources parts ∧
      collection = collected generator.config (.concat parts) := by
  unfold collect at h
  split at h
  · cases h
  · obtain ⟨_, _, hconfig, h⟩ := on_bind_eq_ok.mp h
    obtain ⟨-, rfl⟩ := on_orStop_eq_ok.mp hconfig
    obtain ⟨found, _, hscan, h⟩ := on_bind_eq_ok.mp h
    obtain ⟨parts, hparts, rfl⟩ := contribute_of_scanSources hscan
    obtain ⟨result, _, hcollect, h⟩ := on_bind_eq_ok.mp h
    rw [on_bind_of_ok (on_log _ _ _ _)] at h
    cases h
    have hresult := (follows_collectAll _ _ _).result_of_ne hcollect nofun
    exact ⟨parts, hparts, Except.ok.inj hresult⟩

theorem on_collect_of_keeps {collection : Collection}
    (h : generator.collect.on world = (.ok collection, after)) (hother : other.Calm)
    (hkeeps : KeepsSources generator.sources world.files other.files) :
    ∃ records, generator.collect.on other = (.ok collection, other.logged records) := by
  obtain ⟨parts, hparts, rfl⟩ := contribute_of_collect h
  obtain ⟨scanned, hscan⟩ := on_scanSources hother (hparts.mono hkeeps)
  unfold collect at h ⊢
  split at h
  · cases h
  · next hsources =>
      obtain ⟨_, _, hconfig, -⟩ := on_bind_eq_ok.mp h
      have hchecked := on_orStop_eq_ok.mpr ⟨(on_orStop_eq_ok.mp hconfig).1, Eq.refl other⟩
      rw [if_neg hsources, on_bind_of_ok hchecked, on_bind_of_ok hscan,
        on_bind_of_ok (on_collectAll (hother.logged _) _ _ _), on_bind_of_ok (on_log _ _ _ _),
        World.logged_logged, World.logged_logged]
      exact ⟨_, rfl⟩

theorem on_generate_of_keeps {generated : Generated}
    (h : generator.generate.on world = (.ok generated, after)) (hother : other.Calm)
    (hkeeps : KeepsSources generator.sources world.files other.files) :
    ∃ records, generator.generate.on other = (.ok generated, other.logged records) := by
  obtain ⟨collection, between, hcollect, hemit⟩ := on_bind_eq_ok.mp h
  obtain ⟨collecting, hcollect'⟩ := on_collect_of_keeps hcollect hother hkeeps
  obtain ⟨emitting, hemit'⟩ :=
    (generator.steady_emission collection).on_eq_ok hemit (hother.logged collecting)
  rw [generate, on_bind_of_ok hcollect']
  exact ⟨collecting ++ emitting, hemit'.trans (by rw [World.logged_logged])⟩

end Generator

end TypedLogging
