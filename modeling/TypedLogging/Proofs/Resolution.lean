import Mathlib.Data.Set.Card
import TypedLogging.Template

namespace TypedLogging

/-- Symbols are added one after another, without a scope to be visible everywhere. -/
def SymbolTable.ofAdditions (additions : List (Option String × Symbol)) : SymbolTable :=
  additions.foldl (fun table addition => table.add addition.1 addition.2) .empty

def resolveAfter (additions : List (Option String × Symbol)) (location : Location) (token : String) :
    Except BindError TypeRef :=
  Template.resolveType (SymbolTable.ofAdditions additions).lookup location token

/-- A type of this name was added everywhere or to this namespace. -/
def Shows (path token : String) (addition : Option String × Symbol) : Prop :=
  addition.2.kind = .type ∧ addition.2.name = token ∧
    (addition.1 = none ∨ addition.1 = some path)

def visibleTypes (additions : List (Option String × Symbol)) (path token : String) : Set String :=
  {full | ∃ addition ∈ additions, Shows path token addition ∧ addition.2.qualified = full}

namespace SymbolTable

theorem entries_foldl_add (table : SymbolTable) (additions : List (Option String × Symbol)) :
    (additions.foldl (fun table addition => table.add addition.1 addition.2) table).entries =
      table.entries ++ additions := by
  induction additions generalizing table with
  | nil => exact (List.append_nil _).symm
  | cons addition rest ih => rw [List.foldl_cons, ih, add, List.append_assoc]; rfl

theorem entries_ofAdditions (additions : List (Option String × Symbol)) :
    (ofAdditions additions).entries = additions :=
  entries_foldl_add .empty additions

theorem mem_inScope {table : SymbolTable} {scope : Option String} {symbol : Symbol} :
    symbol ∈ table.inScope scope ↔ (scope, symbol) ∈ table.entries := by
  simp [inScope]

theorem mem_lookup {table : SymbolTable} {location : Location} {token : String} {symbol : Symbol} :
    symbol ∈ table.lookup location token ↔
      (∃ scope, (scope, symbol) ∈ table.entries ∧
        (scope = none ∨ scope = some location.namespaceName)) ∧ symbol.name = token := by
  rw [lookup, List.mem_filter, visible, List.mem_append, mem_inScope, mem_inScope, decide_eq_true_eq]
  constructor
  · rintro ⟨hentry | hentry, hname⟩
    · exact ⟨⟨none, hentry, .inl rfl⟩, hname⟩
    · exact ⟨⟨some _, hentry, .inr rfl⟩, hname⟩
  · rintro ⟨⟨scope, hentry, rfl | rfl⟩, hname⟩
    · exact ⟨.inl hentry, hname⟩
    · exact ⟨.inr hentry, hname⟩

end SymbolTable

section Distinct

variable {symbols : List Symbol} {target : TypeRef}

theorem mem_of_mem_distinctTypes (h : target ∈ distinctTypes symbols) : ⟨.type, target⟩ ∈ symbols := by
  induction symbols with
  | nil => cases h
  | cons symbol rest ih =>
      obtain ⟨kind, first⟩ := symbol
      rw [distinctTypes] at h
      split at h
      · next hkind =>
          rcases List.mem_cons.mp h with rfl | h
          · exact hkind ▸ List.mem_cons_self
          · exact List.mem_cons_of_mem _ (ih (List.mem_of_mem_filter h))
      · exact List.mem_cons_of_mem _ (ih h)

/-- A type is left out for another one of the same full name alone. -/
theorem exists_distinctTypes (h : ⟨.type, target⟩ ∈ symbols) :
    ∃ kept ∈ distinctTypes symbols, kept.qualified = target.qualified := by
  induction symbols with
  | nil => cases h
  | cons symbol rest ih =>
      rw [distinctTypes]
      rcases List.mem_cons.mp h with rfl | h
      · rw [if_pos rfl]
        exact ⟨target, List.mem_cons_self, rfl⟩
      · obtain ⟨kept, hkept, hfull⟩ := ih h
        split
        · by_cases hsame : kept.qualified = symbol.qualified
          · exact ⟨symbol.target, List.mem_cons_self, hsame.symm.trans hfull⟩
          · refine ⟨kept, List.mem_cons_of_mem _ (List.mem_filter.mpr ⟨hkept, ?_⟩), hfull⟩
            exact decide_eq_true hsame
        · exact ⟨kept, hkept, hfull⟩

theorem nodup_qualified (symbols : List Symbol) :
    ((distinctTypes symbols).map (·.qualified)).Nodup := by
  induction symbols with
  | nil => exact List.nodup_nil
  | cons symbol rest ih =>
      rw [distinctTypes]
      split
      · rw [List.map_cons, List.nodup_cons]
        refine ⟨?_, ih.sublist (List.filter_sublist.map _)⟩
        intro hmem
        obtain ⟨kept, hkept, hsame⟩ := List.mem_map.mp hmem
        exact of_decide_eq_true (List.mem_filter.mp hkept).2 hsame
      · exact ih

end Distinct

section Visible

variable {additions additions' : List (Option String × Symbol)} {location : Location}
  {token : String}

theorem mem_visibleTypes_iff {full : String} :
    full ∈ visibleTypes additions location.namespaceName token ↔
      full ∈ (distinctTypes ((SymbolTable.ofAdditions additions).lookup location token)).map
        (·.qualified) := by
  rw [List.mem_map]
  constructor
  · rintro ⟨⟨scope, kind, target⟩, haddition, ⟨rfl, hname, hscope⟩, rfl⟩
    have hmem : ⟨.type, target⟩ ∈ (SymbolTable.ofAdditions additions).lookup location token := by
      rw [SymbolTable.mem_lookup, SymbolTable.entries_ofAdditions]
      exact ⟨⟨scope, haddition, hscope⟩, hname⟩
    exact exists_distinctTypes hmem
  · rintro ⟨target, htarget, rfl⟩
    have hmem := mem_of_mem_distinctTypes htarget
    rw [SymbolTable.mem_lookup, SymbolTable.entries_ofAdditions] at hmem
    obtain ⟨⟨scope, haddition, hscope⟩, hname⟩ := hmem
    exact ⟨_, haddition, ⟨rfl, hname, hscope⟩, rfl⟩

theorem ncard_visibleTypes :
    (visibleTypes additions location.namespaceName token).ncard =
      (distinctTypes ((SymbolTable.ofAdditions additions).lookup location token)).length := by
  have hset : visibleTypes additions location.namespaceName token =
      ((distinctTypes ((SymbolTable.ofAdditions additions).lookup location token)).map
        (·.qualified)).toFinset := by
    ext full
    rw [mem_visibleTypes_iff, Finset.mem_coe, List.mem_toFinset]
  rw [hset, Set.ncard_coe_finset, List.toFinset_card_of_nodup (nodup_qualified _), List.length_map]

theorem resolveAfter_eq_ok {full : String}
    (h : visibleTypes additions location.namespaceName token = {full}) :
    resolveAfter additions location token = .ok ⟨token, full⟩ := by
  have hlength : (visibleTypes additions location.namespaceName token).ncard =
      (distinctTypes ((SymbolTable.ofAdditions additions).lookup location token)).length :=
    ncard_visibleTypes
  rw [h, Set.ncard_singleton] at hlength
  obtain ⟨target, htarget⟩ := List.length_eq_one_iff.mp hlength.symm
  have hfull : full ∈ visibleTypes additions location.namespaceName token := h ▸ rfl
  rw [mem_visibleTypes_iff, htarget, List.map_singleton, List.mem_singleton] at hfull
  have hmem := mem_of_mem_distinctTypes (htarget ▸ List.mem_singleton_self target)
  have hname : target.name = token := (SymbolTable.mem_lookup.mp hmem).2
  rw [resolveAfter, Template.resolveType, Lookup.resolve, htarget, hfull, ← hname]

theorem resolveAfter_eq_error
    (h : ∀ full, visibleTypes additions location.namespaceName token ≠ {full}) :
    resolveAfter additions location token =
      .error (.unresolvedType token (visibleTypes additions location.namespaceName token).ncard) := by
  rw [ncard_visibleTypes, resolveAfter, Template.resolveType, Lookup.resolve]
  split
  · next target hresolve =>
      split at hresolve
      · next found hfound =>
          refine absurd ?_ (h found.qualified)
          ext full
          rw [mem_visibleTypes_iff, hfound, List.map_singleton, List.mem_singleton,
            Set.mem_singleton_iff]
      · cases hresolve
  · next candidates hresolve =>
      split at hresolve
      · cases hresolve
      · cases hresolve
        rfl

theorem finite_visibleTypes (additions : List (Option String × Symbol)) (path token : String) :
    (visibleTypes additions path token).Finite := by
  have himage : visibleTypes additions path token ⊆
      (additions.map fun addition => addition.2.qualified).toFinset := by
    rintro full ⟨addition, haddition, -, rfl⟩
    exact List.mem_toFinset.mpr (List.mem_map_of_mem haddition)
  exact (Finset.finite_toSet _).subset himage

theorem resolveAfter_congr {location' : Location}
    (h : visibleTypes additions location.namespaceName token =
      visibleTypes additions' location'.namespaceName token) :
    resolveAfter additions location token = resolveAfter additions' location' token := by
  by_cases hone : ∃ full, visibleTypes additions location.namespaceName token = {full}
  · obtain ⟨full, hfull⟩ := hone
    rw [resolveAfter_eq_ok hfull, resolveAfter_eq_ok (h ▸ hfull)]
  · have hnone := not_exists.mp hone
    rw [resolveAfter_eq_error hnone, resolveAfter_eq_error (h ▸ hnone), h]

theorem visibleTypes_congr {path : String}
    (h : ∀ addition, Shows path token addition →
      (addition ∈ additions ↔ addition ∈ additions')) :
    visibleTypes additions path token = visibleTypes additions' path token := by
  ext full
  constructor
  · rintro ⟨addition, haddition, hshows, hfull⟩
    exact ⟨addition, (h addition hshows).mp haddition, hshows, hfull⟩
  · rintro ⟨addition, haddition, hshows, hfull⟩
    exact ⟨addition, (h addition hshows).mpr haddition, hshows, hfull⟩

end Visible

/-- A name resolves if one type is visible under it, else the number of the visible types is reported. Order
and repetition of what was added, other symbols, and the types around the location do not count. -/
theorem resolveAfter_visible (additions : List (Option String × Symbol)) (location : Location)
    (token : String) :
    (∀ full, visibleTypes additions location.namespaceName token = {full} →
      resolveAfter additions location token = .ok ⟨token, full⟩) ∧
    ((∀ full, visibleTypes additions location.namespaceName token ≠ {full}) →
      resolveAfter additions location token = .error
        (.unresolvedType token (visibleTypes additions location.namespaceName token).ncard)) ∧
    (visibleTypes additions location.namespaceName token).Finite ∧
    (∀ reordered : List (Option String × Symbol), reordered.Perm additions →
      resolveAfter reordered location token = resolveAfter additions location token) ∧
    (∀ repeated ⊆ additions,
      resolveAfter (additions ++ repeated) location token = resolveAfter additions location token) ∧
    (∀ others, (∀ addition ∈ others, ¬Shows location.namespaceName token addition) →
      resolveAfter (additions ++ others) location token = resolveAfter additions location token) ∧
    ∀ nesting, resolveAfter additions ⟨location.namespaceName, nesting⟩ token =
      resolveAfter additions location token := by
  refine ⟨fun full => resolveAfter_eq_ok, resolveAfter_eq_error, finite_visibleTypes _ _ _, ?_, ?_, ?_,
    fun nesting => resolveAfter_congr rfl⟩
  · intro reordered hperm
    exact resolveAfter_congr (visibleTypes_congr fun addition _ => hperm.mem_iff)
  · intro repeated hsubset
    refine resolveAfter_congr (visibleTypes_congr fun addition _ => ?_)
    rw [List.mem_append]
    exact ⟨fun h => h.elim id (@hsubset addition), .inl⟩
  · intro others hothers
    refine resolveAfter_congr (visibleTypes_congr fun addition hshows => ?_)
    rw [List.mem_append]
    exact ⟨fun h => h.resolve_right fun hmem => hothers addition hmem hshows, .inl⟩

def appAdditions : List (Option String × Symbol) :=
  [(some "App", .type "Bar" "App.Bar"), (some "App", .type "Foo" "App.Foo"),
    (none, .type "Foo" "Vendor.Foo"), (some "App", .type "Bar" "App.Bar"),
    (some "App", .ofNamespace "Bar" "App.Bars")]

def otherAdditions : List (Option String × Symbol) :=
  [(some "Other", .type "Bar" "Other.Bar"), (none, .type "Baz" "Vendor.Baz"),
    (none, .ofNamespace "Bar" "Vendor.Bar")]

theorem resolveAfter_visible_app :
    visibleTypes appAdditions "App" "Bar" = {"App.Bar"} ∧
      (∀ full, visibleTypes appAdditions "App" "Foo" ≠ {full}) ∧
      (∀ addition ∈ otherAdditions, ¬Shows "App" "Bar" addition) ∧
      resolveAfter (appAdditions ++ otherAdditions) ⟨"App", ["Outer"]⟩ "Bar" =
        .ok ⟨"Bar", "App.Bar"⟩ ∧
      resolveAfter appAdditions.reverse ⟨"App", []⟩ "Foo" = .error
        (.unresolvedType "Foo" (visibleTypes appAdditions "App" "Foo").ncard) := by
  have hbar : visibleTypes appAdditions "App" "Bar" = {"App.Bar"} := by
    ext full
    simp [visibleTypes, appAdditions, Shows, Symbol.type, Symbol.ofNamespace, Symbol.name,
      Symbol.qualified, eq_comm]
  have hfoo : ∀ full, visibleTypes appAdditions "App" "Foo" ≠ {full} := by
    intro full hone
    have happ : "App.Foo" ∈ visibleTypes appAdditions "App" "Foo" :=
      ⟨(some "App", .type "Foo" "App.Foo"), by decide, ⟨rfl, rfl, .inr rfl⟩, rfl⟩
    have hvendor : "Vendor.Foo" ∈ visibleTypes appAdditions "App" "Foo" :=
      ⟨(none, .type "Foo" "Vendor.Foo"), by decide, ⟨rfl, rfl, .inl rfl⟩, rfl⟩
    rw [hone, Set.mem_singleton_iff] at happ hvendor
    exact absurd (happ.trans hvendor.symm) (by decide)
  have hothers : ∀ addition ∈ otherAdditions, ¬Shows "App" "Bar" addition := by
    simp [otherAdditions, Shows, Symbol.type, Symbol.ofNamespace, Symbol.name]
  obtain ⟨hok, -, -, -, -, hignored, -⟩ := resolveAfter_visible appAdditions ⟨"App", ["Outer"]⟩ "Bar"
  obtain ⟨-, herror, -, hreordered, -⟩ := resolveAfter_visible appAdditions ⟨"App", []⟩ "Foo"
  exact ⟨hbar, hfoo, hothers, (hignored _ hothers).trans (hok _ hbar),
    (hreordered _ (List.reverse_perm _)).trans (herror hfoo)⟩

end TypedLogging
