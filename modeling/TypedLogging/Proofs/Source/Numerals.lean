import TypedLogging.Proofs.Text.Integer
import TypedLogging.Source.Arguments

namespace TypedLogging.Source

open Text (Writes isDigits_toDigits)

namespace Numeral

def value (numeral : Numeral) : Int := Text.signed numeral.isNegative numeral.magnitude

theorem toList_text_unsigned (magnitude : Nat) :
    (Numeral.mk false magnitude).text.toList = Nat.toDigits 10 magnitude := by
  simp [text]

theorem toList_text_signed (magnitude : Nat) :
    (Numeral.mk true magnitude).text.toList = '-' :: Nat.toDigits 10 magnitude := by
  simp [text]

theorem minus_text (magnitude : Nat) :
    "-" ++ (Numeral.mk false magnitude).text = (Numeral.mk true magnitude).text := by
  simp [text]

theorem head?_text (numeral : Numeral) :
    numeral.text.toList.head? = some '-' ↔ numeral.isNegative = true := by
  obtain ⟨isNegative, magnitude⟩ := numeral
  cases isNegative with
  | true => simp [toList_text_signed]
  | false =>
      rw [toList_text_unsigned]
      refine iff_of_false (fun hhead => ?_) Bool.false_ne_true
      exact absurd ((isDigits_toDigits magnitude).2 '-' (List.mem_of_head? hhead)) (by decide)

theorem writes_text (numeral : Numeral) : Writes numeral.text.toList numeral.value := by
  obtain ⟨isNegative, magnitude⟩ := numeral
  cases isNegative with
  | true =>
      have hwrites := Writes.minus (isDigits_toDigits magnitude)
      rw [Nat.ofDigitChars_ten_toDigits] at hwrites
      rwa [toList_text_signed]
  | false =>
      have hwrites := Writes.digits (isDigits_toDigits magnitude)
      rw [Nat.ofDigitChars_ten_toDigits] at hwrites
      rwa [toList_text_unsigned]

end Numeral

namespace Expr

/-- An integer literal under parentheses, groups and attributes, and under one minus sign at most. -/
inductive IsInteger : Expr → Numeral → Prop
  | literal (numeral : Numeral) (code : Code) : IsInteger (.leaf (.integer numeral code)) numeral
  | minus {operand : Expr} {magnitude : Nat} (h : IsInteger operand ⟨false, magnitude⟩) :
    IsInteger (.prefixed (.sign ["-"]) operand) ⟨true, magnitude⟩
  | enclosed {inner : Expr} {numeral : Numeral} (h : IsInteger inner numeral) :
    IsInteger (.enclosed inner) numeral
  | grouped {inner : Expr} {numeral : Numeral} (h : IsInteger inner numeral) :
    IsInteger (.grouped inner) numeral
  | attributed {inner : Expr} {numeral : Numeral} (attributes : Code) (h : IsInteger inner numeral) :
    IsInteger (.attributed attributes inner) numeral

theorem number?_minus {operand : Expr} {text : String} :
    (Expr.prefixed (.sign ["-"]) operand).number? = some text ↔
      ∃ digits, operand.number? = some digits ∧ digits.toList.head? ≠ some '-' ∧
        text = "-" ++ digits := by
  rw [number?, Option.bind_eq_bind, Option.bind_eq_some_iff]
  refine exists_congr fun digits => and_congr_right fun _ => ?_
  by_cases hhead : digits.toList.head? = some '-'
  · simp [hhead]
  · rw [if_neg hhead, Option.some.injEq]
    exact ⟨fun h => ⟨hhead, h.symm⟩, fun h => h.2.symm⟩

theorem number?_prefixed_of_ne {front : Front} {operand : Expr} (h : front ≠ .sign ["-"]) :
    (Expr.prefixed front operand).number? = none := by
  unfold number?
  split
  · next he => cases he
  · next he =>
      cases he
      exact absurd rfl h
  all_goals first | rfl | next he => cases he

theorem number?_eq_some {expr : Expr} {text : String} :
    expr.number? = some text ↔ ∃ numeral, expr.IsInteger numeral ∧ text = numeral.text := by
  induction expr generalizing text with
  | leaf leaf =>
      cases leaf with
      | integer numeral code =>
          rw [number?, Option.some.injEq]
          constructor
          · rintro rfl
            exact ⟨numeral, .literal numeral code, rfl⟩
          · rintro ⟨_, ⟨⟩, rfl⟩
            rfl
      | _ => exact iff_of_false nofun fun ⟨_, h, _⟩ => nomatch h
  | enclosed inner ih =>
      rw [number?, ih]
      exact exists_congr fun numeral =>
        and_congr_left fun _ => ⟨.enclosed, fun | .enclosed h => h⟩
  | grouped inner ih =>
      rw [number?, ih]
      exact exists_congr fun numeral =>
        and_congr_left fun _ => ⟨.grouped, fun | .grouped h => h⟩
  | attributed attributes inner ih =>
      rw [number?, ih]
      exact exists_congr fun numeral =>
        and_congr_left fun _ => ⟨.attributed attributes, fun | .attributed _ h => h⟩
  | prefixed front operand ih =>
      by_cases hfront : front = .sign ["-"]
      · subst hfront
        rw [number?_minus]
        constructor
        · rintro ⟨digits, hdigits, hhead, rfl⟩
          obtain ⟨⟨isNegative, magnitude⟩, hinteger, rfl⟩ := ih.mp hdigits
          cases isNegative with
          | true => exact absurd ((Numeral.head?_text _).mpr rfl) hhead
          | false => exact ⟨_, .minus hinteger, Numeral.minus_text magnitude⟩
        · rintro ⟨_, hminus, rfl⟩
          cases hminus with
          | @minus _ magnitude hinteger =>
              refine ⟨_, ih.mpr ⟨_, hinteger, rfl⟩, fun hhead => ?_, (Numeral.minus_text _).symm⟩
              exact Bool.false_ne_true ((Numeral.head?_text _).mp hhead)
      · rw [number?_prefixed_of_ne hfront]
        refine iff_of_false nofun ?_
        rintro ⟨_, ⟨⟩, _⟩
        exact hfront rfl
  | joined _ _ _ | continued _ _ => exact iff_of_false nofun fun ⟨_, h, _⟩ => nomatch h

theorem number?_inside (expr : Expr) : expr.inside.number? = expr.number? := by
  fun_induction inside expr with
  | case1 inner ih => rw [ih, number?]
  | case2 _ inner ih => rw [ih, number?, number?]
  | case3 inner ih => rw [ih, number?]
  | case4 _ inner ih => rw [ih, number?, number?]
  | case5 => rfl

theorem classify_eq_number {expr : Expr} {text : String} :
    expr.classify = .number text ↔ ∃ numeral, expr.IsInteger numeral ∧ text = numeral.text := by
  rw [← number?_eq_some, ← number?_inside, classify]
  cases expr.inside.number? with
  | some digits => simp
  | none =>
      refine iff_of_false ?_ nofun
      cases expr.inside.core with
      | leaf leaf =>
          cases leaf with
          | path found =>
              obtain ⟨qualifier, path⟩ := found
              cases qualifier with
              | some _ => nofun
              | none =>
                  dsimp only
                  split <;> nofun
          | _ => nofun
      | _ => nofun

end Expr

end TypedLogging.Source
