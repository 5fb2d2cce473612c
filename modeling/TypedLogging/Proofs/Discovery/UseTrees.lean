import TypedLogging.Proofs.Discovery.Modules

namespace TypedLogging

namespace Source.UseLeaf

open Discovery

def target (leaf : UseLeaf) : List String := dropFinalSelf leaf.path

def lastName (leaf : UseLeaf) : String := leaf.target.getLastD ""

def visibleName (leaf : UseLeaf) : String := leaf.rename.getD leaf.lastName

def BindsName (leaf : UseLeaf) : Prop := leaf.target ≠ [] ∧ leaf.visibleName ≠ "_"

instance (leaf : UseLeaf) : Decidable leaf.BindsName := inferInstanceAs (Decidable (_ ∧ _))

/-- The symbol that a leaf stands for in the module `here`. A new name does not tell what it is. -/
structure Introduces (here : Option String) (leaf : UseLeaf) (symbol : Symbol) : Prop where
  name_eq : symbol.name = leaf.visibleName
  qualified_eq : symbol.qualified = absolute here leaf.target
  kind_eq : symbol.kind = if startsUppercase leaf.lastName then .type else .namespace

end Source.UseLeaf

namespace Discovery

open Source

variable {leaf : UseLeaf}

theorem lastName_eq {last : String} (h : leaf.target.getLast? = some last) : leaf.lastName = last := by
  rw [UseLeaf.lastName, List.getLastD_eq_getLast?, h, Option.getD_some]

theorem leafSymbol?_of_bindsName (here : Option String) (h : leaf.BindsName) :
    ∃ symbol, leafSymbol? here leaf = some symbol ∧ leaf.Introduces here symbol := by
  obtain ⟨last, hlast⟩ := Option.isSome_iff_exists.mp (List.getLast?_isSome.mpr h.1)
  have hname := lastName_eq hlast
  have hvisible : leaf.rename.getD last ≠ "_" := hname ▸ h.2
  refine ⟨⟨_, leaf.visibleName, absolute here leaf.target⟩, ?_, rfl, rfl, rfl⟩
  rw [UseLeaf.target] at hlast
  rw [leafSymbol?, hlast, Option.bind_some, UseLeaf.visibleName, hname]
  exact if_neg hvisible

theorem leafSymbol?_of_not_bindsName (here : Option String) (h : ¬leaf.BindsName) :
    leafSymbol? here leaf = none := by
  rw [leafSymbol?]
  cases hlast : (dropFinalSelf leaf.path).getLast? with
  | none => rfl
  | some last =>
      have hne : leaf.target ≠ [] := List.getLast?_isSome.mp (Option.isSome_of_eq_some hlast)
      have hvisible : leaf.visibleName = "_" := not_not.mp fun hvisible => h ⟨hne, hvisible⟩
      rw [UseLeaf.visibleName, lastName_eq hlast] at hvisible
      exact if_pos hvisible

theorem forall₂_introduces (here : Option String) (leaves : List UseLeaf) :
    List.Forall₂ (UseLeaf.Introduces here) (leaves.filter (·.BindsName))
      (leaves.filterMap (leafSymbol? here)) := by
  induction leaves with
  | nil => exact .nil
  | cons leaf rest ih =>
      by_cases hbinds : leaf.BindsName
      · obtain ⟨symbol, hsymbol, hintroduces⟩ := leafSymbol?_of_bindsName here hbinds
        rw [List.filter_cons_of_pos (by simpa using hbinds), List.filterMap_cons_some hsymbol]
        exact .cons hintroduces ih
      · rw [List.filter_cons_of_neg (by simpa using hbinds),
          List.filterMap_cons_none (leafSymbol?_of_not_bindsName here hbinds)]
        exact ih

theorem inScope_symbolTable_append (found more : Findings) (scope : Option String) :
    (symbolTable (found ++ more)).inScope scope =
      (symbolTable found).inScope scope ++ (more.symbols.filter (some ·.1 = scope)).map (·.2) := by
  rw [symbolTable, symbols_append, List.map_append, ← List.append_assoc, SymbolTable.inScope,
    List.filter_append, List.map_append, List.filter_map, List.map_map]
  rfl

theorem filter_symbols_eq (added : List Symbol) (name : String) (scope : Option String) :
    ((added.map (name, ·)).filter (some ·.1 = scope)).map (·.2) =
      if scope = some name then added else [] := by
  rw [List.filter_map, List.map_map]
  by_cases hscope : scope = some name
  · simp [hscope, Function.comp_def]
  · simp [hscope, Ne.symm hscope, Function.comp_def]

/-- Whatever was found before, an import adds the symbols of the leaves that bind a name behind it, to the
scope of its module alone, and it declares nothing. -/
theorem useFindings_introduces (here : Option String) (found : Findings) (tree : UseTree) :
    (found ++ useFindings here tree).declarations = found.declarations ∧
      ∃ added, List.Forall₂ (UseLeaf.Introduces here) ((leavesOf tree).filter (·.BindsName)) added ∧
        ∀ scope, (symbolTable (found ++ useFindings here tree)).inScope scope =
          (symbolTable found).inScope scope ++ if scope = some (scopeName here) then added else [] := by
  refine ⟨?_, (leavesOf tree).filterMap (leafSymbol? here), forall₂_introduces here _, fun scope => ?_⟩
  · rw [declarations_append, declarations_useFindings, List.append_nil]
  · rw [inScope_symbolTable_append, symbols_useFindings, scopeName, filter_symbols_eq]

example : (symbolTable (useFindings (some "crate::app") (.step "crate" (.step "model" (.group
    [.leaf "self", .step "net" (.group [.glob, .renamed "Wire" "_"]), .renamed "User" "account"]))))).inScope
      (some "crate::app") =
    [.ofNamespace "model" "crate::model", .type "account" "crate::model::User"] := by
  decide

end Discovery

end TypedLogging
