import TypedLogging.Proofs.Discovery

namespace TypedLogging

namespace Source

/-- A leaf that names something, with the names from the root to it. -/
structure UseLeaf where
  path : List String
  rename : Option String

def UseLeaf.below (names : List String) (leaf : UseLeaf) : UseLeaf := ⟨names ++ leaf.path, leaf.rename⟩

mutual

/-- The leaves from left to right, without those that stand for all names of a module. -/
def leavesOf : UseTree → List UseLeaf
  | .step name tree => (leavesOf tree).map (.below [name])
  | .leaf name => [⟨[name], none⟩]
  | .renamed name visible => [⟨[name], some visible⟩]
  | .glob => []
  | .group trees => leavesOfAll trees

def leavesOfAll : List UseTree → List UseLeaf
  | [] => []
  | tree :: rest => leavesOf tree ++ leavesOfAll rest

end

end Source

namespace Discovery

open Source

/-- What a leaf adds to the module `here`, unless it names nothing or is bound to no name. The path says
whether it is a type, also when it is renamed. -/
def leafSymbol? (here : Option String) (leaf : UseLeaf) : Option Symbol :=
  (dropFinalSelf leaf.path).getLast?.bind fun last =>
    let visible := leaf.rename.getD last
    if visible = "_" then none
    else some ⟨if startsUppercase last then .type else .namespace,
      visible, absolute here (dropFinalSelf leaf.path)⟩

def Import.leaf? : Import → Option UseLeaf
  | .named path rename => some ⟨path, rename⟩
  | .glob _ => none

theorem symbols_append (first second : Findings) :
    (first ++ second).symbols = first.symbols ++ second.symbols := rfl

theorem symbols_concat (found : List Findings) :
    (Findings.concat found).symbols = found.flatMap (·.symbols) := by
  induction found with
  | nil => rfl
  | cons first rest ih =>
      rw [List.flatMap_cons, ← ih]
      rfl

theorem below_below (above : List String) (name : String) (leaf : UseLeaf) :
    (leaf.below [name]).below above = leaf.below (above ++ [name]) := by
  simp [UseLeaf.below]

/-- A visit that comes back to where it was, and has found these leaves below. -/
structure ImportWalk.Visits (walk after : ImportWalk) (leaves : List UseLeaf) : Prop where
  above_eq : after.above = walk.above
  leaves_eq : after.found.filterMap (·.leaf?) =
    walk.found.filterMap (·.leaf?) ++ leaves.map (.below walk.above)

namespace ImportWalk.Visits

variable {walk between after : ImportWalk} {leaves more : List UseLeaf}

theorem refl (walk : ImportWalk) : walk.Visits walk [] :=
  ⟨rfl, (List.append_nil _).symm⟩

theorem trans (h : walk.Visits between leaves) (h' : between.Visits after more) :
    walk.Visits after (leaves ++ more) where
  above_eq := h'.above_eq.trans h.above_eq
  leaves_eq := by
    rw [h'.leaves_eq, h.leaves_eq, h.above_eq, List.map_append, List.append_assoc]

theorem add_named (walk : ImportWalk) (name : String) (rename : Option String) :
    walk.Visits (walk.add (.named (walk.above ++ [name]) rename)) [⟨[name], rename⟩] where
  above_eq := rfl
  leaves_eq := List.filterMap_append

theorem add_glob (walk : ImportWalk) : walk.Visits (walk.add (.glob walk.above)) [] where
  above_eq := rfl
  leaves_eq := List.filterMap_append

theorem step {name : String} (h : (walk.enter name).Visits after leaves) :
    walk.Visits after.leave (leaves.map (.below [name])) where
  above_eq := by
    rw [leave, h.above_eq, enter, List.dropLast_concat]
  leaves_eq := by
    rw [leave, h.leaves_eq, List.map_map]
    congr 1
    exact List.map_congr_left fun leaf _ => (below_below walk.above name leaf).symm

end ImportWalk.Visits

mutual

theorem visits_visit (walk : ImportWalk) (tree : UseTree) :
    walk.Visits (walk.visit tree) (leavesOf tree) := by
  match tree with
  | .step name tree => exact (visits_visit (walk.enter name) tree).step
  | .leaf name => exact .add_named walk name none
  | .renamed name visible => exact .add_named walk name (some visible)
  | .glob => exact .add_glob walk
  | .group trees => exact visits_visitAll walk trees

theorem visits_visitAll (walk : ImportWalk) (trees : List UseTree) :
    walk.Visits (walk.visitAll trees) (leavesOfAll trees) := by
  match trees with
  | [] => exact .refl walk
  | tree :: rest => exact (visits_visit walk tree).trans (visits_visitAll (walk.visit tree) rest)

end

theorem symbols_importFindings (here : Option String) (imported : Import) :
    (importFindings here imported).symbols =
      ((imported.leaf?.bind (leafSymbol? here)).map (here.getD "", ·)).toList := by
  cases imported with
  | glob path => rfl
  | named path rename =>
      rw [importFindings, Import.leaf?, Option.bind_some, leafSymbol?]
      cases (dropFinalSelf path).getLast? with
      | none => rfl
      | some last =>
          dsimp only [Option.bind_some]
          split
          · rfl
          · cases startsUppercase last <;> rfl

theorem symbols_useFindings (here : Option String) (tree : UseTree) :
    (useFindings here tree).symbols =
      ((leavesOf tree).filterMap (leafSymbol? here)).map (here.getD "", ·) := by
  have hleaves : (ImportWalk.start.visit tree).found.filterMap (·.leaf?) = leavesOf tree :=
    (visits_visit .start tree).leaves_eq.trans (List.map_id' _)
  rw [useFindings, symbols_concat, List.flatMap_map, ← hleaves, List.filterMap_filterMap,
    List.map_filterMap, List.filterMap_eq_flatMap_toList]
  exact List.flatMap_congr fun imported _ => symbols_importFindings here imported

end Discovery

end TypedLogging
