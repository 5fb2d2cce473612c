import TypedLogging.Proofs.Source.Readers
import TypedLogging.Proofs.Source.Sound

namespace TypedLogging.Source

open Lexer
open Judged (IsSound)

/-- The way from one place to another: well-cut trees have been read, legible code has been written, and
sound items have been kept. -/
structure Cursor.Passes (before behind : Cursor) : Prop where
  read : ∃ front, before.rest = front ++ behind.rest ∧ EndsWell front
  wrote : ∃ code, Code.Legible code ∧ behind.written = code.reverse ++ before.written
  kept : ∃ items : List Item, IsSound items ∧ behind.inner = before.inner ++ items

/-- The place in trees that came out of a text. -/
structure Reached (origin rest : List TokenTree) : Prop where
  lexed : Lexed origin
  front : ∃ front, origin = front ++ rest ∧ EndsWell front

namespace Cursor

variable {before between behind : Cursor} {origin : List TokenTree}

theorem Passes.trans (h : before.Passes between) (hmore : between.Passes behind) :
    before.Passes behind := by
  obtain ⟨⟨front, hread, hfront⟩, ⟨code, ⟨_, hcode⟩, hwrote⟩, ⟨items, hitems, hkept⟩⟩ := h
  obtain ⟨⟨front', hread', hfront'⟩, ⟨code', ⟨_, hcode'⟩, hwrote'⟩, ⟨items', hitems', hkept'⟩⟩ := hmore
  exact {
    read := ⟨front ++ front', by rw [hread, hread', List.append_assoc], hfront.append hfront'⟩
    wrote := ⟨code ++ code', ⟨_, hcode.append hcode'⟩, by
      rw [hwrote', hwrote, List.reverse_append, List.append_assoc]⟩
    kept := ⟨items ++ items', List.forall_mem_append.mpr ⟨hitems, hitems'⟩, by
      rw [hkept', hkept, List.append_assoc]⟩ }

theorem Passes.of_read {front rest : List TokenTree} (h : before.rest = front ++ rest)
    (hends : EndsWell front) : before.Passes { before with rest } where
  read := ⟨front, h, hends⟩
  wrote := ⟨[], ⟨[], Code.gives_nil⟩, rfl⟩
  kept := ⟨[], (inferInstance : Sound ([] : List Item)).sound, (List.append_nil _).symm⟩

theorem Passes.of_tree {tree : TokenTree} {rest : List TokenTree} (h : before.rest = tree :: rest)
    (hopen : tree.isOpen = false) : before.Passes { before with rest } :=
  .of_read (show before.rest = [tree] ++ rest from h) (endsWell_singleton hopen)

theorem Passes.of_pair {tree other : TokenTree} {rest : List TokenTree}
    (h : before.rest = tree :: other :: rest) (hopen : other.isOpen = false) :
    before.Passes { before with rest } :=
  .of_read (show before.rest = [tree, other] ++ rest from h) (endsWell_singleton hopen).cons

theorem Passes.of_write {code : Code} (h : Code.Legible code) :
    before.Passes { before with written := code.reverse ++ before.written } where
  read := ⟨[], rfl, endsWell_nil⟩
  wrote := ⟨code, h, rfl⟩
  kept := ⟨[], (inferInstance : Sound ([] : List Item)).sound, (List.append_nil _).symm⟩

theorem Passes.of_keep {items : List Item} (h : IsSound items) :
    before.Passes { before with inner := before.inner ++ items } where
  read := ⟨[], rfl, endsWell_nil⟩
  wrote := ⟨[], ⟨[], Code.gives_nil⟩, rfl⟩
  kept := ⟨items, h, rfl⟩

theorem Passes.refl (before : Cursor) : before.Passes before := .of_read rfl endsWell_nil

theorem Passes.suffix (h : before.Passes behind) : behind.rest <:+ before.rest := by
  obtain ⟨front, hread, -⟩ := h.read
  exact ⟨front, hread.symm⟩

end Cursor

section Reaching

variable {origin front rest : List TokenTree} {before behind : Cursor}

theorem Reached.refl (h : Lexed origin) : Reached origin origin := ⟨h, [], rfl, endsWell_nil⟩

theorem Reached.lexed_rest (h : Reached origin rest) : Lexed rest := by
  obtain ⟨hlexed, front, rfl, -⟩ := h
  exact hlexed.of_append

theorem Reached.passes (h : Reached origin before.rest) (hpasses : before.Passes behind) :
    Reached origin behind.rest := by
  obtain ⟨hlexed, front, rfl, hfront⟩ := h
  obtain ⟨further, hread, hfurther⟩ := hpasses.read
  exact ⟨hlexed, front ++ further, by rw [hread, List.append_assoc], hfront.append hfurther⟩

end Reaching

namespace Reader

variable {α β : Type} [Judged α] [Judged β] {origin : List TokenTree} {before behind : Cursor}

/-- A reader goes its way and finds what is sound. It may look back to where the trees were `origin`. -/
class Orderly (origin : List TokenTree) (reader : Reader α) : Prop where
  passes : ∀ ⦃before a behind⦄, Reached origin before.rest → reader before = some (a, behind) →
    before.Passes behind ∧ IsSound a

section Steps

instance (a : α) [h : Sound a] : Orderly origin (pure a : Reader α) where
  passes before b behind _ hread := by
    cases hread
    exact ⟨.refl _, h.sound⟩

instance : Orderly origin (failure : Reader α) := ⟨fun _ _ _ _ h => nomatch h⟩

instance : Inert Unit := ⟨⟩

instance : Inert Bool := ⟨⟩

instance : Inert Nat := ⟨⟩

instance {p : Prop} [Decidable p] : Orderly origin (guard p : Reader Unit) where
  passes before u behind _ hread := by
    rw [(guard_eq_some.mp hread).2]
    exact ⟨.refl _, trivial⟩

instance (test : Ahead.Test) : Orderly origin (ahead test) where
  passes before found behind _ hread := by
    cases hread
    exact ⟨.refl _, trivial⟩

instance (code : Code) [h : Sound code] : Orderly origin (write code) where
  passes before u behind _ hread := by
    cases hread
    exact ⟨.of_write h.sound, trivial⟩

instance (items : List Item) [h : Sound items] : Orderly origin (keep items) where
  passes before u behind _ hread := by
    cases hread
    exact ⟨.of_keep h.sound, trivial⟩

theorem Orderly.bind {reader : Reader α} {next : α → Reader β} [hreader : Orderly origin reader]
    (h : ∀ a, IsSound a → Orderly origin (next a)) : Orderly origin (reader >>= next) where
  passes before b behind hreached hread := by
    obtain ⟨a, between, ha, hb⟩ := bind_eq_some.mp hread
    obtain ⟨hfirst, hsound⟩ := hreader.passes hreached ha
    obtain ⟨hsecond, hresult⟩ := (h a hsound).passes (hreached.passes hfirst) hb
    exact ⟨hfirst.trans hsecond, hresult⟩

instance {reader : Reader α} {next : α → Reader β} [Orderly origin reader]
    [h : ∀ a : {a : α // IsSound a}, Orderly origin (next a.val)] : Orderly origin (reader >>= next) :=
  .bind fun a ha => h ⟨a, ha⟩

theorem Orderly.bind_guard {p : Prop} [Decidable p] {next : Unit → Reader α}
    (h : p → Orderly origin (next ())) : Orderly origin (guard p >>= next) where
  passes before a behind hreached hread := by
    obtain ⟨_, _, hguard, hnext⟩ := bind_eq_some.mp hread
    obtain ⟨hp, rfl⟩ := guard_eq_some.mp hguard
    exact (h hp).passes hreached hnext

theorem Orderly.bind_get {next : Cursor → Reader α} (h : ∀ c : Cursor, Orderly c.rest (next c)) :
    Orderly origin (get >>= next) where
  passes before _ _ hreached hread := (h before).passes (.refl hreached.lexed_rest) hread

instance {next : Cursor → Reader α} [h : ∀ c : Cursor, Orderly c.rest (next c)] :
    Orderly origin (get >>= next) := .bind_get h

instance {p : Prop} [Decidable p] {reader other : Reader α} [hreader : Orderly origin reader]
    [hother : Orderly origin other] : Orderly origin (if p then reader else other) := by
  split
  · exact hreader
  · exact hother

instance {reader : Reader α} {next : Reader β} [Orderly origin reader] [h : Orderly origin next] :
    Orderly origin (do let _ ← reader; next) := .bind fun _ _ => h

instance {test : Reader Bool} {reader other : Reader α} [Orderly origin test] [Orderly origin reader]
    [Orderly origin other] : Orderly origin (do if ← test then reader else other) :=
  .bind fun _ _ => inferInstance

end Steps

section Tokens

variable {rest : List TokenTree}

theorem getLast?_signTrees (joint : Bool) (cs : List Char) :
    (signTrees joint cs).getLast? = cs.getLast?.map (.punct · joint) := by
  fun_induction signTrees joint cs with
  | case1 => rfl
  | case2 c => rfl
  | case3 c cs hcs ih =>
      obtain ⟨d, cs, rfl⟩ := List.exists_cons_of_ne_nil hcs
      obtain ⟨tree, rest, htrees⟩ : ∃ tree rest, signTrees joint (d :: cs) = tree :: rest := by
        cases cs <;> exact ⟨_, _, rfl⟩
      rw [List.getLast?_cons_cons, ← ih, htrees, List.getLast?_cons_cons]

theorem ne_quote_of_isOperator {cs : List Char} (h : isOperator cs = true) : '\'' ∉ cs := by
  induction cs with
  | nil => exact List.not_mem_nil
  | cons c rest ih =>
      simp only [isOperator, Bool.and_eq_true, decide_eq_true_eq] at h
      exact fun hmem => (List.mem_cons.mp hmem).elim (fun he => h.1.1.2 he.symm) (ih h.2)

theorem endsWell_signTrees {cs : List Char} {joint : Bool} (h : isOperator cs = true)
    (hclosed : cs.getLast? = some '/' → joint = false) : EndsWell (signTrees joint cs) := by
  intro tree htree
  rw [getLast?_signTrees] at htree
  obtain ⟨c, hc, rfl⟩ := Option.map_eq_some_iff.mp htree
  refine isOpen_punct ?_ fun hslash => hclosed (hslash ▸ hc)
  rintro rfl
  exact ne_quote_of_isOperator h (List.mem_of_getLast? hc)

instance (text : String) [h : IsSign text] : Orderly origin (skipOp text) where
  passes before u behind _ hread := by
    obtain ⟨joint, rest, hrest, rfl⟩ := skipOp_eq_some hread
    exact ⟨.of_read hrest (endsWell_signTrees h.isOperator fun hlast => absurd hlast h.closed), trivial⟩

instance (text : String) [IsSign text] : Orderly origin (op text) := by
  unfold op
  infer_instance

theorem passes_ident (hreached : Reached origin (.ident name :: rest)) (written : Code) (inner : List Item) :
    Cursor.Passes ⟨.ident name :: rest, written, inner⟩ ⟨rest, .word name :: written, inner⟩ :=
  (Cursor.Passes.of_tree rfl rfl).trans
    (.of_write (legible_of_isIdent hreached.lexed_rest.isIdent))

instance (name : String) : Orderly origin (word name) where
  passes before u behind hreached hread := by
    obtain ⟨trees, written, inner⟩ := before
    obtain ⟨rest, rfl, rfl⟩ := word_eq_some hread
    exact ⟨passes_ident hreached written inner, trivial⟩

instance : Orderly origin anyWord where
  passes before name behind hreached hread := by
    obtain ⟨trees, written, inner⟩ := before
    obtain ⟨rest, rfl, rfl⟩ := anyWord_eq_some hread
    exact ⟨passes_ident hreached written inner, legible_of_isIdent hreached.lexed_rest.isIdent⟩

instance : Orderly origin ident := by
  unfold ident
  infer_instance

theorem Orderly.bind_ident {next : String → Reader α}
    (h : ∀ name, IsItemName name → Orderly origin (next name)) : Orderly origin (ident >>= next) where
  passes before a behind hreached hread := by
    obtain ⟨name, between, hident, hnext⟩ := bind_eq_some.mp hread
    obtain ⟨hpasses, -⟩ := Orderly.passes hreached hident
    obtain ⟨hfree, hword⟩ := ident_eq_some hident
    obtain ⟨rest, hrest, -⟩ := anyWord_eq_some hword
    have hname : IsIdent name := (hrest ▸ hreached.lexed_rest).isIdent
    obtain ⟨hfurther, hsound⟩ := (h name ⟨hname, hfree⟩).passes (hreached.passes hpasses) hnext
    exact ⟨hpasses.trans hfurther, hsound⟩

instance : Orderly origin lifetime where
  passes before u behind hreached hread := by
    obtain ⟨trees, written, inner⟩ := before
    obtain ⟨name, rest, rfl, rfl⟩ := lifetime_eq_some hread
    refine ⟨(Cursor.Passes.of_pair rfl rfl).trans ?_, trivial⟩
    exact .of_write (legible_lifetime hreached.lexed_rest.tail.isIdent)

instance : Orderly origin optionalLabel where
  passes before label behind hreached hread := by
    rcases optionalLabel_eq_some hread with ⟨name, rest, hrest, rfl, rfl⟩ | ⟨rfl, rfl⟩
    · refine ⟨.of_pair hrest rfl, fun text htext => ?_⟩
      cases htext
      exact legible_lifetime (hrest ▸ hreached.lexed_rest).tail.isIdent
    · exact ⟨.refl _, fun _ h => nomatch h⟩

instance : Inert Literal := ⟨⟩

instance : Orderly origin literal where
  passes before found behind hreached hread := by
    obtain ⟨trees, written, inner⟩ := before
    have hlexed := hreached.lexed_rest
    rcases literal_eq_some hread with
      ⟨text, rest, rfl, rfl⟩ | ⟨name, rest, rfl, rfl⟩ | ⟨joint, text, rest, rfl, rfl⟩
    · refine ⟨(Cursor.Passes.of_tree rfl rfl).trans ?_, trivial⟩
      exact .of_write (legible_of_isLiteral hlexed.isLiteral)
    · exact ⟨passes_ident hreached written inner, trivial⟩
    · refine ⟨(Cursor.Passes.of_pair rfl rfl).trans ?_, trivial⟩
      have hsign : Code.Legible [.word "-"] := legible_of_isOperator (by decide)
      exact (Cursor.Passes.of_write hsign).trans (.of_write (legible_of_isLiteral hlexed.tail.isLiteral))

theorem Lexed.legible (h : Lexed rest) : Code.Legible (Code.ofTrees rest) :=
  ⟨_, gives_ofTrees (by rwa [List.append_nil]) h.endsWell⟩

instance : Inert Delimiter := ⟨⟩

instance : Inert TokenTree := ⟨⟩

instance : Orderly origin rawGroup where
  passes before found behind hreached hread := by
    obtain ⟨trees, written, inner⟩ := before
    obtain ⟨delimiter, trees⟩ := found
    obtain ⟨rest, rfl, rfl⟩ := rawGroup_eq_some hread
    refine ⟨(Cursor.Passes.of_tree rfl rfl).trans ?_, trivial,
      fun _ _ => trivial⟩
    obtain ⟨_, hcode⟩ := Lexed.legible hreached.lexed_rest.of_group
    exact .of_write ⟨_, Code.gives_group hcode delimiter⟩

instance (name : String) : Orderly origin (optionalWord name) := by
  unfold optionalWord
  infer_instance

instance (text : String) [IsSign text] : Orderly origin (optionalOp text) := by
  unfold optionalOp
  infer_instance

instance : Orderly origin optionalLifetime := by
  unfold optionalLifetime
  infer_instance

end Tokens

section Inside

variable {reader : Reader α}

instance [h : Orderly origin reader] : Orderly origin (quietly reader) where
  passes before found behind hreached hread := by
    obtain ⟨a, code⟩ := found
    obtain ⟨inner, hinner, rfl, rfl⟩ := quietly_eq_some hread
    have hquiet : Reached origin (Cursor.mk before.rest [] before.inner).rest := hreached
    obtain ⟨⟨hfront, ⟨code, hcode, hwrote⟩, hkept⟩, hsound⟩ := h.passes hquiet hinner
    have hresult : inner.written.reverse = code := by rw [hwrote, List.append_nil, List.reverse_reverse]
    exact ⟨⟨hfront, ⟨[], ⟨[], Code.gives_nil⟩, rfl⟩, hkept⟩, hsound, hresult ▸ hcode⟩

instance [Orderly origin reader] : Orderly origin (silently reader) := by
  unfold silently
  infer_instance

instance (name : String) : Orderly origin (skipWord name) := by
  unfold skipWord
  infer_instance

instance [h : Orderly origin reader] : Orderly origin (collecting reader) where
  passes before found behind hreached hread := by
    obtain ⟨a, items⟩ := found
    obtain ⟨inner, hinner, rfl, rfl⟩ := collecting_eq_some hread
    have hcollecting : Reached origin (Cursor.mk before.rest before.written []).rest := hreached
    obtain ⟨⟨hfront, hwrote, ⟨items, hitems, hkept⟩⟩, hsound⟩ := h.passes hcollecting hinner
    exact ⟨⟨hfront, hwrote, (Cursor.Passes.refl before).kept⟩, hsound, (hkept : inner.inner = items) ▸ hitems⟩

instance [Orderly origin reader] : Orderly origin (forgetting reader) := by
  unfold forgetting
  infer_instance

theorem Orderly.of_group {delimiter : Delimiter} {a : α} [h : ∀ origin, Orderly origin reader]
    (hreached : Reached origin before.rest) (hread : group delimiter reader before = some (a, behind)) :
    IsSound a ∧ ∃ trees body items, before.rest = .group delimiter trees :: behind.rest ∧
      Code.Legible body ∧ behind.written = .group delimiter body :: before.written ∧
      IsSound items ∧ behind.inner = before.inner ++ items := by
  obtain ⟨trees, rest, inner, hrest, hinner, -, rfl⟩ := group_eq_some hread
  have hlexed : Lexed trees := (hrest ▸ hreached.lexed_rest).of_group
  obtain ⟨⟨-, ⟨code, hcode, hwrote⟩, ⟨items, hitems, hkept⟩⟩, hsound⟩ :=
    (h trees).passes (.refl hlexed) hinner
  rw [List.append_nil] at hwrote
  exact ⟨hsound, trees, code, items, hrest, hcode, by rw [hwrote, List.reverse_reverse], hitems, hkept⟩

instance (delimiter : Delimiter) [∀ origin, Orderly origin reader] :
    Orderly origin (group delimiter reader) where
  passes before a behind hreached hread := by
    obtain ⟨hsound, trees, body, items, hrest, hbody, hwrote, hitems, hkept⟩ :=
      Orderly.of_group hreached hread
    exact ⟨⟨⟨[_], hrest, endsWell_singleton rfl⟩, ⟨[_], hbody.group delimiter, hwrote⟩,
      ⟨items, hitems, hkept⟩⟩, hsound⟩

theorem Orderly.bind_quietly_group [∀ origin, Orderly origin reader] {delimiter : Delimiter}
    {next : α × Code → Reader β}
    (hnext : ∀ a body, IsSound a → IsSound body → Orderly origin (next (a, [.group delimiter body]))) :
    Orderly origin (quietly (group delimiter reader) >>= next) where
  passes before b behind hreached hread := by
    obtain ⟨⟨a, code⟩, between, hquietly, hread⟩ := bind_eq_some.mp hread
    obtain ⟨hfirst, hsound⟩ :=
      (inferInstance : Orderly origin (quietly (group delimiter reader))).passes hreached hquietly
    obtain ⟨inner, hgroup, rfl, -⟩ := quietly_eq_some hquietly
    have hquiet : Reached origin (Cursor.mk before.rest [] before.inner).rest := hreached
    obtain ⟨-, trees, body, items, -, hbody, hwrote, -⟩ := Orderly.of_group hquiet hgroup
    rw [hwrote] at hread
    obtain ⟨hsecond, hresult⟩ := (hnext a body hsound.1 hbody).passes (hreached.passes hfirst) hread
    exact ⟨hfirst.trans hsecond, hresult⟩

instance : Orderly origin (codeSince origin) where
  passes before code behind hreached hread := by
    obtain ⟨hlexed, front, hfront, hends⟩ := hreached
    have hcode : origin.take (origin.length - before.rest.length) = front := by
      rw [hfront, List.length_append, Nat.add_sub_cancel, List.take_left]
    cases hread
    exact ⟨.refl _, _, hcode.symm ▸ gives_ofTrees (hfront ▸ hlexed) hends⟩

instance [∀ origin, Orderly origin reader] : Orderly origin (verbatim reader) := by
  unfold verbatim
  infer_instance

instance {reader : Reader (α × Bool)} [∀ origin, Orderly origin reader] : Orderly origin (settled reader) := by
  unfold settled
  infer_instance

instance [h : Orderly origin reader] : Orderly origin (attempt reader) where
  passes before result behind hreached hread := by
    rcases attempt_eq_some hread with ⟨a, rfl, hfound⟩ | ⟨rfl, rfl⟩
    · obtain ⟨hpasses, hsound⟩ := h.passes hreached hfound
      exact ⟨hpasses, fun b hb => Option.some.inj hb ▸ hsound⟩
    · exact ⟨.refl _, fun _ h => nomatch h⟩

end Inside

section Loops

set_option synthInstance.maxSize 500

variable {reader : Reader α}

instance {step : α → Reader (Option α)} [h : ∀ a : {a : α // IsSound a}, Orderly origin (step a.val)]
    (fuel : Nat) (start : α) [hstart : Sound start] : Orderly origin (iterate step fuel start) where
  passes before a behind hreached hread := by
    refine iterate_induction (motive := fun start before final behind =>
      Reached origin before.rest → IsSound start → before.Passes behind ∧ IsSound final) ?_ ?_ hread hreached
      hstart.sound
    · intro start before behind hstep hreached hsound
      exact ⟨((h ⟨start, hsound⟩).passes hreached hstep).1, hsound⟩
    · intro start before next between final behind hstep ih hreached hsound
      obtain ⟨hpasses, hnext⟩ := (h ⟨start, hsound⟩).passes hreached hstep
      obtain ⟨hfurther, hfinal⟩ := ih (hreached.passes hpasses) (hnext next rfl)
      exact ⟨hpasses.trans hfurther, hfinal⟩

instance {step : α → Reader (Option α)} [∀ a : {a : α // IsSound a}, Orderly origin (step a.val)] (start : α)
    [Sound start] : Orderly origin (exhaust step start) where
  passes _ _ _ hreached hread := by
    obtain ⟨_, _, hget, hiterate⟩ := bind_eq_some.mp hread
    cases hget
    exact Orderly.passes hreached hiterate

instance : Judged (ForInStep α) := ⟨fun step => IsSound step.value⟩

instance (a : α) [h : Sound a] : Sound (ForInStep.done a) := ⟨h.sound⟩

instance (a : α) [h : Sound a] : Sound (ForInStep.yield a) := ⟨h.sound⟩

theorem Orderly.forIn {γ : Type} {elements : List γ} {body : γ → α → Reader (ForInStep α)}
    (h : ∀ element ∈ elements, ∀ state, IsSound state → Orderly origin (body element state)) {start : α}
    (hstart : IsSound start) : Orderly origin (forIn elements start body) := by
  induction elements generalizing start with
  | nil =>
      have : Sound start := ⟨hstart⟩
      exact inferInstanceAs (Orderly origin (pure start))
  | cons element rest ih =>
      rw [List.forIn_cons]
      have := h element List.mem_cons_self start hstart
      refine .bind fun step hstep => ?_
      cases step with
      | done state =>
          have : Sound state := ⟨hstep⟩
          exact inferInstanceAs (Orderly origin (pure state))
      | yield state => exact ih (fun other hother => h other (List.mem_cons_of_mem _ hother)) hstep

instance (stop : Ahead.Test) [Orderly origin reader] : Orderly origin (many stop reader) := by
  unfold many
  infer_instance

instance (stop : Ahead.Test) (separator : String) [IsSign separator] [Orderly origin reader] :
    Orderly origin (terminated stop separator reader) := by
  unfold terminated
  infer_instance

instance (stop : Ahead.Test) (separator : String) [IsSign separator] [Orderly origin reader] :
    Orderly origin (separated stop separator reader) := by
  unfold separated
  infer_instance

instance (delimiter : Delimiter) [∀ origin, Orderly origin reader] :
    Orderly origin (listIn delimiter reader) := by
  unfold listIn
  infer_instance

end Loops

end Reader

end TypedLogging.Source
