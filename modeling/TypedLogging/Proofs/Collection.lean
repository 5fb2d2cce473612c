import Mathlib.Data.List.Forall2
import Mathlib.Data.List.Perm.Basic
import TypedLogging.Proofs.Binding
import TypedLogging.Proofs.Interruption

namespace TypedLogging

open World (Calm)

/-- Every position is accounted for once: there is a message for each success and a diagnostic for
each failure, both in the order of the positions. -/
def Accounts (declaration : String) (outcomes : List (Except BindError Binding))
    (bindings : List Binding) (diagnostics : List Diagnostic) : Prop :=
  ∃ good bad : List Nat, (good ++ bad).Perm (List.range outcomes.length) ∧
    good.Pairwise (· < ·) ∧ bad.Pairwise (· < ·) ∧
    List.Forall₂ (fun index binding => outcomes[index]? = some (.ok binding)) good bindings ∧
    List.Forall₂ (fun index diagnostic => ∃ error, outcomes[index]? = some (.error error) ∧
      diagnostic = ⟨declaration, .binding index error⟩) bad diagnostics

theorem forall₂_filterMap {α β γ : Type} {f : α → Option β} {g : α → γ} {R : γ → β → Prop}
    {xs : List α} (h : ∀ x ∈ xs, ∀ y, f x = some y → R (g x) y) :
    List.Forall₂ R ((xs.filter fun x => (f x).isSome).map g) (xs.filterMap f) := by
  induction xs with
  | nil => exact .nil
  | cons x rest ih =>
      have hrest := ih fun y hy => h y (List.mem_cons_of_mem _ hy)
      cases hx : f x with
      | none =>
          rw [List.filter_cons_of_neg (by simp [hx]), List.filterMap_cons_none hx]
          exact hrest
      | some y =>
          rw [List.filter_cons_of_pos (by simp [hx]), List.filterMap_cons_some hx]
          exact .cons (h x List.mem_cons_self y hx) hrest

def boundAt : Except BindError Binding × Nat → Option Binding
  | (.ok binding, _) => some binding
  | (.error _, _) => none

def failedAt (declaration : String) : Except BindError Binding × Nat → Option Diagnostic
  | (.ok _, _) => none
  | (.error error, index) => some ⟨declaration, .binding index error⟩

theorem bound_eq (outcomes : List (Except BindError Binding)) :
    bound outcomes = outcomes.zipIdx.filterMap boundAt := by
  have hfst : outcomes.zipIdx.map Prod.fst = outcomes := List.zipIdx_map_fst 0 outcomes
  rw [bound]
  conv_lhs => rw [← hfst, List.filterMap_map]
  refine List.filterMap_congr fun pair _ => ?_
  rcases pair with ⟨_ | _, _⟩ <;> rfl

theorem accounts_outcomes (declaration : String) (outcomes : List (Except BindError Binding)) :
    Accounts declaration outcomes (bound outcomes) (failures declaration outcomes) := by
  have hranks : outcomes.zipIdx.map Prod.snd = List.range outcomes.length := by
    rw [List.zipIdx_map_snd, List.range_eq_range']
  have hsorted : outcomes.zipIdx.Pairwise fun first second => first.2 < second.2 := by
    rw [← List.pairwise_map, hranks]
    exact List.pairwise_lt_range
  have hother : ∀ pair, (failedAt declaration pair).isSome = !(boundAt pair).isSome := by
    rintro ⟨_ | _, _⟩ <;> rfl
  refine ⟨(outcomes.zipIdx.filter fun pair => (boundAt pair).isSome).map Prod.snd,
    (outcomes.zipIdx.filter fun pair => (failedAt declaration pair).isSome).map Prod.snd,
    ?_, ?_, ?_, ?_, ?_⟩
  · simp only [hother]
    rw [← List.map_append, ← hranks]
    exact (List.filter_append_perm _ _).map _
  · exact List.pairwise_map.mpr (hsorted.filter _)
  · exact List.pairwise_map.mpr (hsorted.filter _)
  · rw [bound_eq]
    refine forall₂_filterMap ?_
    rintro ⟨outcome, index⟩ hmem binding hbound
    rw [List.mem_zipIdx_iff_getElem?.mp hmem]
    cases outcome with
    | ok => rw [Option.some.inj hbound]
    | error => cases hbound
  · refine forall₂_filterMap ?_
    rintro ⟨outcome, index⟩ hmem diagnostic hfailed
    rw [List.mem_zipIdx_iff_getElem?.mp hmem]
    cases outcome with
    | ok => cases hfailed
    | error error => exact ⟨error, rfl, (Option.some.inj hfailed).symm⟩

/-- What a declaration gives: nothing without a matching attribute; one diagnostic if the first scope
around it that is no type is missing or no namespace; else what its attributes account for. -/
inductive Declaration.Gives (name : String) (lookup : Lookup) (declaration : Declaration) :
    Collection → Prop
  | unmatched (hnone : declaration.matching name = []) : Gives name lookup declaration .empty
  | missing (types : List String) (hsome : declaration.matching name ≠ [])
      (hscopes : declaration.enclosing = types.map .inType) :
      Gives name lookup declaration
        ⟨[], [⟨declaration.name, .place (.noNamespace declaration.name)⟩]⟩
  | disallowed (types : List String) (kind : String) (further : List Scope)
      (hsome : declaration.matching name ≠ [])
      (hscopes : declaration.enclosing = types.map .inType ++ .other kind :: further) :
      Gives name lookup declaration
        ⟨[], [⟨declaration.name, .place (.disallowedScope declaration.name kind)⟩]⟩
  | placed (types : List String) (path : String) (further : List Scope)
      (hsome : declaration.matching name ≠ [])
      (hscopes : declaration.enclosing = types.map .inType ++ .inNamespace path :: further)
      (bindings : List Binding) (diagnostics : List Diagnostic)
      (haccounts : Accounts declaration.name
        (declaration.outcomes name lookup ⟨path, types.reverse⟩) bindings diagnostics) :
      Gives name lookup declaration
        ⟨if bindings.isEmpty then []
          else [⟨path, types.reverse, declaration.modifiers, declaration.name, bindings⟩],
          diagnostics⟩

theorem Declaration.placeFrom_inType (name : String) (types nesting : List String)
    (further : List Scope) :
    placeFrom name nesting (types.map .inType ++ further) =
      placeFrom name (types.reverse ++ nesting) further := by
  induction types generalizing nesting with
  | nil => rfl
  | cons type rest ih =>
      rw [List.map_cons, List.cons_append, placeFrom, ih, List.reverse_cons, List.append_assoc]
      rfl

theorem exists_types (scopes : List Scope) : ∃ (types : List String) (further : List Scope),
    scopes = types.map .inType ++ further ∧ ∀ type, further.head? ≠ some (.inType type) := by
  induction scopes with
  | nil => exact ⟨[], [], rfl, by simp⟩
  | cons scope rest ih =>
      cases scope with
      | inType type =>
          obtain ⟨types, further, rfl, hfurther⟩ := ih
          exact ⟨type :: types, further, rfl, hfurther⟩
      | inNamespace path => exact ⟨[], .inNamespace path :: rest, rfl, by simp⟩
      | other kind => exact ⟨[], .other kind :: rest, rfl, by simp⟩

theorem gives_collect (name : String) (lookup : Lookup) (declaration : Declaration) :
    declaration.Gives name lookup (collect name lookup declaration) := by
  by_cases hmatching : declaration.matching name = []
  · rw [collect, if_pos (List.isEmpty_iff.mpr hmatching)]
    exact .unmatched hmatching
  · rw [collect, if_neg (by simpa using hmatching), Declaration.place]
    obtain ⟨types, further, hscopes, hfurther⟩ := exists_types declaration.enclosing
    rw [hscopes, Declaration.placeFrom_inType, List.append_nil]
    cases further with
    | nil =>
        rw [List.append_nil] at hscopes
        exact .missing types hmatching hscopes
    | cons scope further =>
        cases scope with
        | inType type => exact absurd rfl (hfurther type)
        | other kind => exact .disallowed types kind further hmatching hscopes
        | inNamespace path =>
            have haccounts := accounts_outcomes declaration.name
              (declaration.outcomes name lookup ⟨path, types.reverse⟩)
            exact .placed types path further hmatching hscopes _ _ haccounts

theorem Accounts.outcomes_eq_nil {declaration : String}
    {outcomes : List (Except BindError Binding)} (h : Accounts declaration outcomes [] []) :
    outcomes = [] := by
  obtain ⟨good, bad, hperm, -, -, hgood, hbad⟩ := h
  cases hgood
  cases hbad
  simpa using hperm.length_eq.symm

theorem collect_eq_empty_iff {name : String} {lookup : Lookup} {declaration : Declaration} :
    collect name lookup declaration = .empty ↔ declaration.matching name = [] := by
  have hgives := gives_collect name lookup declaration
  generalize collect name lookup declaration = collection at hgives
  cases hgives with
  | unmatched hnone => simp [hnone]
  | missing types hsome => simp [Collection.empty, hsome]
  | disallowed types kind further hsome => simp [Collection.empty, hsome]
  | placed types path further hsome _ bindings diagnostics haccounts =>
      refine iff_of_false (fun hempty => ?_) hsome
      obtain ⟨hbindings, rfl⟩ := Collection.mk.inj hempty
      cases bindings with
      | nil => exact hsome (List.map_eq_nil_iff.mp haccounts.outcomes_eq_nil)
      | cons first rest => cases hbindings

def Declaration.withMatching (name : String) (declaration : Declaration) : Declaration :=
  { declaration with attributes := declaration.matching name }

def relevant (name : String) (declarations : List Declaration) : List Declaration :=
  (declarations.filter fun declaration => !(declaration.matching name).isEmpty).map
    (·.withMatching name)

theorem Declaration.matching_withMatching (name : String) (declaration : Declaration) :
    (declaration.withMatching name).matching name = declaration.matching name := by
  simp only [withMatching, matching, List.filter_filter, Bool.and_self]

theorem collect_withMatching (name : String) (lookup : Lookup) (declaration : Declaration) :
    collect name lookup (declaration.withMatching name) = collect name lookup declaration := by
  simp only [collect, Declaration.outcomes, Declaration.matching_withMatching]
  rfl

namespace Collection

def concat (parts : List Collection) : Collection :=
  ⟨parts.flatMap (·.declarations), parts.flatMap (·.diagnostics)⟩

theorem concat_cons (first : Collection) (rest : List Collection) :
    concat (first :: rest) = first.append (concat rest) := rfl

theorem append_empty (collection : Collection) : collection.append .empty = collection := by
  simp only [append, empty, List.append_nil]

theorem concat_relevant (name : String) (lookup : Lookup) (declarations : List Declaration) :
    concat ((relevant name declarations).map (collect name lookup)) =
      concat (declarations.map (collect name lookup)) := by
  induction declarations with
  | nil => rfl
  | cons declaration rest ih =>
      by_cases hmatching : declaration.matching name = []
      · have hnone : collect name lookup declaration = .empty := by
          rw [collect, if_pos (List.isEmpty_iff.mpr hmatching)]
        rw [List.map_cons, concat_cons, hnone, ← ih, relevant,
          List.filter_cons_of_neg (by simp [hmatching])]
        rfl
      · rw [relevant, List.filter_cons_of_pos (by simpa using hmatching), List.map_cons,
          List.map_cons, List.map_cons, concat_cons, concat_cons, collect_withMatching, ← ih]
        rfl

end Collection

theorem follows_collectAll (name : String) (lookup : Lookup) (declarations : List Declaration) :
    (collectAll (m := StateM World) name lookup declarations).Follows fun _ =>
      ⟨declarations.length, .ok (.concat (declarations.map (collect name lookup))),
        declarations.flatMap fun declaration => (collect name lookup declaration).records⟩ := by
  induction declarations with
  | nil => exact Run.follows_pure _
  | cons declaration rest ih =>
      have hrest := ih.bind fun collection =>
        Run.follows_pure ((collect name lookup declaration).append collection)
      have hstep := Run.follows_check.bind fun _ =>
        (Run.follows_logAll (collect name lookup declaration).records).bind fun _ => hrest
      rw [collectAll]
      simpa only [Reading.andThen, List.length_cons, List.map_cons, List.flatMap_cons,
        Collection.concat_cons, Nat.zero_add, Nat.add_zero, Nat.add_comm 1, List.nil_append,
        List.append_nil] using hstep

theorem on_collectAll {world : World} (h : world.Calm) (name : String) (lookup : Lookup)
    (declarations : List Declaration) :
    (collectAll name lookup declarations).on world =
      (.ok (.concat (declarations.map (collect name lookup))),
        world.logged (declarations.flatMap fun declaration =>
          (collect name lookup declaration).records)) :=
  (follows_collectAll name lookup declarations).on_of_calm h

/-- A collection is that of its declarations one after another, and each of them gives what its own
attributes account for. Attributes of other names, and declarations without a matching one, change
nothing. -/
theorem collectAll_gives {world : World} (h : world.Calm) (name : String) (lookup : Lookup)
    (declarations : List Declaration) :
    ((collectAll name lookup declarations).on world).1 =
      .ok (.concat (declarations.map (collect name lookup))) ∧
    (∀ declaration, ((collectAll name lookup [declaration]).on world).1 =
      .ok (collect name lookup declaration)) ∧
    (∀ declaration : Declaration, declaration.Gives name lookup (collect name lookup declaration)) ∧
    ∀ others, relevant name others = relevant name declarations →
      ((collectAll name lookup others).on world).1 =
        ((collectAll name lookup declarations).on world).1 := by
  refine ⟨?_, fun declaration => ?_, gives_collect name lookup, fun others hothers => ?_⟩
  · rw [on_collectAll h]
  · rw [on_collectAll h, List.map_singleton, Collection.concat_cons]
    exact congrArg Except.ok (Collection.append_empty _)
  · rw [on_collectAll h, on_collectAll h, ← Collection.concat_relevant, hothers,
      Collection.concat_relevant]

def portUse (format : String) : AttributeUse where
  name := "logger_message"
  arguments := [⟨none, .string "Bound"⟩, ⟨none, .member (.logLevel "Debug")⟩,
    ⟨none, .string format⟩]

def portBinding : Binding where
  name := "Bound"
  logLevel := .logLevel "Debug"
  template := ⟨"\x7bPort:u16\x7d", "\x7bPort\x7d", [⟨"Port", ⟨"u16", "u16"⟩, 0, 6⟩]⟩
  explicitId := none
  scope := .generic

def services : List Declaration :=
  [⟨"Server", "pub", [.inType "Net", .inNamespace "crate::net", .other "fn"],
      [portUse "no placeholder", ⟨"derive", []⟩, portUse "\x7bPort:u16\x7d"]⟩,
    ⟨"Local", "", [.other "fn", .inNamespace "crate"], [portUse "\x7bPort:u16\x7d"]⟩,
    ⟨"Plain", "", [], [⟨"derive", []⟩]⟩]

theorem collectAll_gives_services :
    (World.ofFiles .empty).Calm ∧
      ((collectAll "logger_message" .plain services).on (.ofFiles .empty)).1 =
        .ok ⟨[⟨"crate::net", ["Net"], "pub", "Server", [portBinding]⟩],
          [⟨"Server", .binding 0 (.noPlaceholders "no placeholder")⟩,
            ⟨"Local", .place (.disallowedScope "Local" "fn")⟩]⟩ := by
  have hcalm : (World.ofFiles .empty).Calm := rfl
  refine ⟨hcalm, (collectAll_gives hcalm _ _ _).1.trans (congrArg Except.ok ?_)⟩
  decide

end TypedLogging
