import TypedLogging.Discovery
import TypedLogging.Proofs.Source.Lexing
import TypedLogging.Source.Parse

namespace TypedLogging

open Source Lexer

namespace Text

variable {name behind : List Char} {more : List (List Char)}

theorem splitPath_append (hname : ':' ∉ name) (hbehind : splitPath behind = [] :: more) :
    splitPath (name ++ behind) = name :: more := by
  induction name with
  | nil => exact hbehind
  | cons c rest ih =>
      rw [List.mem_cons, not_or] at hname
      rw [List.cons_append, splitPath, ih hname.2]
      rintro behind hc -
      exact hname.1 hc.symm

theorem splitPath_segments {rest : List String} (hname : ':' ∉ name)
    (hrest : ∀ segment ∈ rest, ':' ∉ segment.toList) :
    splitPath (name ++ rest.flatMap segmentText) = name :: rest.map String.toList := by
  induction rest generalizing name with
  | nil => exact splitPath_append hname rfl
  | cons next rest ih =>
      rw [List.forall_mem_cons] at hrest
      refine splitPath_append hname ?_
      rw [List.flatMap_cons, segmentText, List.cons_append, List.cons_append, splitPath,
        ih hrest.1 hrest.2, List.map_cons]

end Text

theorem pathSegments_joinPath {names : List String} (hne : names ≠ [])
    (h : ∀ name ∈ names, IsIdent name) : pathSegments (joinPath names) = names := by
  have hcolon : ∀ name ∈ names, ':' ∉ name.toList :=
    fun name hname hc => ((h name hname).spells.chars ':' hc).2 rfl
  obtain ⟨name, rest, rfl⟩ := List.exists_cons_of_ne_nil hne
  rw [List.forall_mem_cons] at hcolon
  rw [pathSegments, toList_joinPath_cons, Text.splitPath_segments hcolon.1 hcolon.2]
  simp

theorem flatMap_segmentText {names : List String} (hne : names ≠ []) :
    names.flatMap segmentText = ':' :: ':' :: (joinPath names).toList := by
  obtain ⟨name, rest, rfl⟩ := List.exists_cons_of_ne_nil hne
  rw [toList_joinPath_cons]
  rfl

theorem eq_of_joinPath_append {first second names : List String} (hne : names ≠ [])
    (h : joinPath (first ++ names) = joinPath (second ++ names)) :
    first.flatMap segmentText = second.flatMap segmentText := by
  have hfirst := flatMap_segmentText (List.append_ne_nil_of_right_ne_nil first hne)
  have hsecond := flatMap_segmentText (List.append_ne_nil_of_right_ne_nil second hne)
  rw [h, ← hsecond, List.flatMap_append, List.flatMap_append] at hfirst
  exact List.append_cancel_right hfirst

namespace Discovery

def IsPlainName (name : String) : Prop := IsIdent name ∧ name ≠ "self" ∧ name ≠ "super"

instance (name : String) : Decidable (IsPlainName name) := inferInstanceAs (Decidable (_ ∧ _))

/-- Perhaps `self`, so many `super`, and names. -/
structure RelativePath where
  fromSelf : Bool
  climbs : Nat
  names : List String

namespace RelativePath

def segments (path : RelativePath) : List String :=
  (if path.fromSelf then ["self"] else []) ++ (List.replicate path.climbs "super" ++ path.names)

/-- Where the path leads from a module, given by its segments. -/
def target (path : RelativePath) (modules : List String) : List String :=
  modules.take (modules.length - path.climbs) ++ path.names

structure Within (path : RelativePath) (modules : List String) : Prop where
  relative : path.fromSelf = true ∨ 0 < path.climbs
  climbs_le : path.climbs ≤ modules.length
  names_ne : path.names ≠ []
  plain : ∀ name ∈ path.names, IsPlainName name

def IsMixed (path : RelativePath) : Prop := path.fromSelf = true ∧ 0 < path.climbs

end RelativePath

variable {here : Option String} {path : RelativePath}

/-- Every `super` leaves a module, as long as there is one. -/
theorem climb_supers (modules : List String) {names : List String}
    (h : names.head? ≠ some "super") (count : Nat) :
    climb modules (List.replicate count "super" ++ names) =
      modules.take (modules.length - count) ++ names := by
  induction count generalizing modules with
  | zero =>
      rw [List.replicate_zero, List.nil_append, Nat.sub_zero, List.take_length, climb]
      rintro rest rfl
      exact h rfl
  | succ count ih =>
      rw [List.replicate_succ, List.cons_append, climb, ih, List.length_dropLast,
        List.dropLast_eq_take, List.take_take, Nat.min_eq_left (Nat.sub_le _ _), Nat.sub_right_comm,
        Nat.sub_sub]

theorem head?_names_ne (h : ∀ name ∈ path.names, IsPlainName name) :
    path.names.head? ≠ some "super" :=
  fun hhead => (h "super" (List.mem_of_head? hhead)).2.2 rfl

theorem absolute_of_fromSelf (h : path.fromSelf = true) : absolute here path.segments =
    joinPath (moduleSegments here ++ (List.replicate path.climbs "super" ++ path.names)) := by
  rw [RelativePath.segments, if_pos h]
  rfl

theorem absolute_of_climbs (hself : path.fromSelf = false) (hclimbs : 0 < path.climbs)
    (hplain : ∀ name ∈ path.names, IsPlainName name) :
    absolute here path.segments = joinPath (path.target (moduleSegments here)) := by
  obtain ⟨count, hcount⟩ : ∃ count, path.climbs = count + 1 := ⟨_, (Nat.succ_pred hclimbs.ne').symm⟩
  have hclimb := climb_supers (moduleSegments here) (head?_names_ne hplain) path.climbs
  rw [RelativePath.segments, if_neg (by simp [hself]), List.nil_append, RelativePath.target, ← hclimb,
    hcount]
  rfl

theorem absolute_of_not_isMixed (h : path.Within (moduleSegments here)) (hmixed : ¬path.IsMixed) :
    absolute here path.segments = joinPath (path.target (moduleSegments here)) := by
  cases hself : path.fromSelf with
  | true =>
      have hclimbs : path.climbs = 0 := Nat.eq_zero_of_not_pos fun hclimbs => hmixed ⟨hself, hclimbs⟩
      rw [absolute_of_fromSelf hself, RelativePath.target, hclimbs, Nat.sub_zero, List.take_length]
      rfl
  | false =>
      have hclimbs : 0 < path.climbs := h.relative.resolve_left (by simp [hself])
      exact absolute_of_climbs hself hclimbs h.plain

/-- A path that becomes what it means keeps no `super`. -/
theorem absolute_ne_of_isMixed (h : path.Within (moduleSegments here)) (hmixed : path.IsMixed) :
    absolute here path.segments ≠ joinPath (path.target (moduleSegments here)) := by
  obtain ⟨hself, hclimbs⟩ := hmixed
  intro htarget
  rw [absolute_of_fromSelf hself, ← List.append_assoc, RelativePath.target] at htarget
  have hfront := congrArg List.length (eq_of_joinPath_append h.names_ne htarget)
  have hsplit := congrArg (fun modules => (modules.flatMap segmentText).length)
    (List.take_append_drop ((moduleSegments here).length - path.climbs) (moduleSegments here))
  have hsupers : 0 < ((List.replicate path.climbs "super").flatMap segmentText).length := by
    obtain ⟨count, hcount⟩ : ∃ count, path.climbs = count + 1 :=
      ⟨_, (Nat.succ_pred hclimbs.ne').symm⟩
    rw [hcount, List.replicate_succ, List.flatMap_cons, List.length_append]
    exact Nat.add_pos_left (Nat.succ_pos _) _
  simp only [List.flatMap_append, List.length_append] at hfront hsplit
  omega

theorem isIdent_super : IsIdent "super" := by decide +kernel

theorem super_mem_of_isMixed (h : path.Within (moduleSegments here)) (hmixed : path.IsMixed)
    (hmodules : ∀ name ∈ moduleSegments here, IsPlainName name) :
    "super" ∈ pathSegments (absolute here path.segments) := by
  have hidents : ∀ name ∈ moduleSegments here ++
      (List.replicate path.climbs "super" ++ path.names), IsIdent name := by
    intro name hname
    simp only [List.mem_append] at hname
    rcases hname with hname | hname | hname
    · exact (hmodules name hname).1
    · exact List.eq_of_mem_replicate hname ▸ isIdent_super
    · exact (h.plain name hname).1
  rw [absolute_of_fromSelf hmixed.1, pathSegments_joinPath (by simp [h.names_ne]) hidents]
  simp [hmixed.2.ne']

theorem plain_of_not_isMixed (h : path.Within (moduleSegments here)) (hmixed : ¬path.IsMixed)
    (hmodules : ∀ name ∈ moduleSegments here, IsPlainName name) :
    ∀ name ∈ pathSegments (absolute here path.segments), IsPlainName name := by
  have hplain : ∀ name ∈ path.target (moduleSegments here), IsPlainName name := by
    intro name hname
    rcases List.mem_append.mp hname with hname | hname
    · exact hmodules name (List.mem_of_mem_take hname)
    · exact h.plain name hname
  have hne : path.target (moduleSegments here) ≠ [] := List.append_ne_nil_of_right_ne_nil _ h.names_ne
  rw [absolute_of_not_isMixed h hmixed, pathSegments_joinPath hne fun name hname => (hplain name hname).1]
  exact hplain

/-- A relative path becomes the full path that it means, and keeps neither `self` nor `super`, exactly if
it does not have both of them. Otherwise every `super` is kept behind the whole path of the module. -/
theorem absolute_eq_target_iff (h : path.Within (moduleSegments here)) :
    (absolute here path.segments = joinPath (path.target (moduleSegments here)) ↔ ¬path.IsMixed) ∧
      (path.IsMixed → absolute here path.segments =
        joinPath (moduleSegments here ++ (List.replicate path.climbs "super" ++ path.names))) ∧
      ((∀ name ∈ moduleSegments here, IsPlainName name) →
        ("self" ∉ pathSegments (absolute here path.segments) ∧
          "super" ∉ pathSegments (absolute here path.segments) ↔ ¬path.IsMixed)) := by
  refine ⟨⟨fun htarget hmixed => absolute_ne_of_isMixed h hmixed htarget, absolute_of_not_isMixed h⟩,
    fun hmixed => absolute_of_fromSelf hmixed.1, fun hmodules => ⟨fun hkept hmixed => ?_, ?_⟩⟩
  · exact hkept.2 (super_mem_of_isMixed h hmixed hmodules)
  · intro hmixed
    have hplain := plain_of_not_isMixed h hmixed hmodules
    exact ⟨fun hself => (hplain _ hself).2.1 rfl, fun hsuper => (hplain _ hsuper).2.2 rfl⟩

def userPath : RelativePath := ⟨false, 2, ["model", "User"]⟩

theorem absolute_eq_target_iff_user :
    userPath.Within (moduleSegments (some "crate::app::net")) ∧ ¬userPath.IsMixed ∧
      absolute (some "crate::app::net") ["super", "super", "model", "User"] =
        "crate::model::User" := by
  have hwithin : userPath.Within (moduleSegments (some "crate::app::net")) :=
    ⟨.inr (by decide), by decide +kernel, by decide, by decide +kernel⟩
  have hmixed : ¬userPath.IsMixed := fun hmixed => absurd hmixed.1 (by decide)
  exact ⟨hwithin, hmixed, ((absolute_eq_target_iff hwithin).1.mpr hmixed).trans (by decide +kernel)⟩

def peerPath : RelativePath := ⟨true, 1, ["Peer"]⟩

def fullNamesIn (here name text : String) : Option (List String) :=
  (File.ofText? text).map fun file =>
    ((symbolTable (fileFindings .default (some here) file)).lookup ⟨here, []⟩ name).map (·.qualified)

theorem absolute_keeps_super :
    (peerPath.climbs ≤ (moduleSegments (some "crate::app")).length ∧
        ∀ name ∈ peerPath.names, IsPlainName name) ∧
      joinPath (peerPath.target (moduleSegments (some "crate::app"))) = "crate::Peer" ∧
      absolute (some "crate::app") peerPath.segments = "crate::app::super::Peer" ∧
      fullNamesIn "crate::app" "Peer" "use self::super::Peer;" = some ["crate::app::super::Peer"] := by
  decide +kernel

end Discovery

end TypedLogging
