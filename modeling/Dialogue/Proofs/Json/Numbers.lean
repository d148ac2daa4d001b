import Dialogue.Json.Reader
import Dialogue.Json.Writer

/-! Numbers read back from what is written for them. A whole number comes back as it was if it
has no more digits than are read; a floating-point number comes back as the number nearest to
its text. -/
namespace Dialogue

namespace Text

private theorem digit?_digitChar : ∀ d, d < 10 → digit? (Nat.digitChar d) = some d := by
  decide

private theorem numeral_concat (cs : List Char) (c : Char) :
    numeral (cs ++ [c]) = 10 * numeral cs + (digit? c).getD 0 := by
  simp [numeral, List.foldl_append]

theorem numeral_toDigits (n : Nat) : numeral (Nat.toDigits 10 n) = n := by
  induction n using Nat.strongRecOn with
  | ind n ih =>
    by_cases h : n < 10
    · rw [Nat.toDigits_of_lt_base h, ← List.nil_append [n.digitChar], numeral_concat,
        digit?_digitChar n h]
      simp [numeral]
    · rw [Nat.toDigits_of_base_le (by decide) (by omega), numeral_concat, ih (n / 10) (by omega),
        digit?_digitChar (n % 10) (by omega), Option.getD_some]
      omega

theorem numeral_replicate_append (n : Nat) (cs : List Char) :
    numeral (List.replicate n '0' ++ cs) = numeral cs := by
  induction n with
  | zero => rfl
  | succ n ih => exact ih

theorem numeral_append_replicate (cs : List Char) (n : Nat) :
    numeral (cs ++ List.replicate n '0') = numeral cs * Nat.pow 10 n := by
  induction n with
  | zero => simp
  | succ n ih =>
    have hzero : (digit? '0').getD 0 = 0 := rfl
    rw [List.replicate_succ', ← List.append_assoc, numeral_concat, ih, hzero, Nat.add_zero,
      Nat.mul_comm, Nat.mul_assoc, Nat.pow_eq, Nat.pow_eq, Nat.pow_succ]

end Text

namespace Json

/-- What may come after a value: nothing, or a character that no number goes on with. -/
def Ends : List Char → Prop
  | [] => True
  | c :: _ => c = ',' ∨ c = ']' ∨ c = '\x7d' ∨ c = '\n'

/-- Digits, at least one. -/
structure Digits (ds : List Char) : Prop where
  ne_nil : ds ≠ []
  all : ∀ c ∈ ds, c.isDigit = true

/-- Digits without a zero in front, unless there is nothing but the zero. -/
structure Whole (ds : List Char) : Prop extends Digits ds where
  canonical : ds = ['0'] ∨ ds.head? ≠ some '0'

theorem digits_toDigits (n : Nat) : Digits (Nat.toDigits 10 n) :=
  ⟨Nat.toDigits_ne_nil, fun _ hc => Nat.isDigit_of_mem_toDigits (by decide) (by decide) hc⟩

theorem head?_toDigits {n : Nat} (h : 0 < n) : (Nat.toDigits 10 n).head? ≠ some '0' := by
  induction n using Nat.strongRecOn with
  | ind n ih =>
    by_cases hn : n < 10
    · rw [Nat.toDigits_of_lt_base hn, List.head?_cons, ne_eq, Option.some.injEq,
        Nat.digitChar_eq_zero]
      omega
    · have front := ih (n / 10) (by omega) (by omega)
      obtain ⟨c, ds, hds⟩ :=
        List.exists_cons_of_ne_nil (Nat.toDigits_ne_nil : Nat.toDigits 10 (n / 10) ≠ [])
      rw [hds] at front
      rwa [Nat.toDigits_of_base_le (by decide) (by omega), hds]

theorem whole_toDigits (n : Nat) : Whole (Nat.toDigits 10 n) := by
  refine ⟨digits_toDigits n, ?_⟩
  by_cases h : n = 0
  · exact .inl (by rw [h, Nat.toDigits_zero])
  · exact .inr (head?_toDigits (Nat.pos_of_ne_zero h))

/-- No digit comes next. -/
def NoDigit (cs : List Char) : Prop := ∀ c ∈ cs.head?, c.isDigit = false

theorem Digits.takeWhile {ds cs : List Char} (h : Digits ds) (hcs : NoDigit cs) :
    (ds ++ cs).takeWhile Char.isDigit = ds :=
  Text.takeWhile_append_stop h.all hcs

theorem Digits.dropWhile {ds cs : List Char} (h : Digits ds) (hcs : NoDigit cs) :
    (ds ++ cs).dropWhile Char.isDigit = cs :=
  Text.dropWhile_append_stop h.all hcs

theorem wholeDigits?_append {ds cs : List Char} (h : Whole ds) (hcs : NoDigit cs) :
    wholeDigits? (ds ++ cs) = some (ds, cs) := by
  obtain rfl | hzero := h.canonical
  · rfl
  · obtain ⟨c, ds, rfl⟩ := List.exists_cons_of_ne_nil h.ne_nil
    have hc : c ≠ '0' := fun e => hzero (by rw [e, List.head?_cons])
    have htake := h.toDigits.takeWhile hcs
    have hdrop := h.toDigits.dropWhile hcs
    rw [List.cons_append] at htake hdrop ⊢
    unfold wholeDigits?
    split
    · rename_i e; exact absurd (List.cons.inj e).1 hc
    · rename_i e
      obtain ⟨rfl, -⟩ := List.cons.inj e
      rw [if_pos (h.all _ (List.mem_cons_self ..)), htake, hdrop]
    · rename_i e; cases e

/-- A point and digits after it, or nothing. -/
inductive Part : List Char → List Char → Prop
  | none : Part [] []
  | point {ds : List Char} (h : Digits ds) : Part ds ('.' :: ds)

/-- A mark, a sign and digits, or nothing. -/
inductive Scale : Option Int → List Char → Prop
  | none : Scale none []
  | down {ds : List Char} (h : Digits ds) :
    Scale (some (-(Text.numeral ds : Int))) ('e' :: '-' :: ds)
  | up {ds : List Char} (h : Digits ds) : Scale (some (Text.numeral ds)) ('e' :: '+' :: ds)

private theorem noDigit_cons {c : Char} (h : c.isDigit = false) (cs : List Char) :
    NoDigit (c :: cs) := by
  intro d hd
  rwa [← Option.some.inj hd]

theorem Ends.noDigit {cs : List Char} (h : Ends cs) : NoDigit cs := by
  cases cs with
  | nil => intro c hc; cases hc
  | cons c cs => obtain rfl | rfl | rfl | rfl := h <;> exact noDigit_cons rfl cs

theorem Scale.noDigit {n : Option Int} {cs rest : List Char} (h : Scale n cs) (hr : Ends rest) :
    NoDigit (cs ++ rest) := by
  cases h with
  | none => exact hr.noDigit
  | down | up => exact noDigit_cons rfl _

theorem Part.noDigit {ds cs rest : List Char} (h : Part ds cs) (hr : NoDigit rest) :
    NoDigit (cs ++ rest) := by
  cases h with
  | none => exact hr
  | point => exact noDigit_cons rfl _

private theorem Scale.noPoint {n : Option Int} {cs rest : List Char} (h : Scale n cs)
    (hr : Ends rest) : (cs ++ rest).head? ≠ some '.' := by
  cases h with
  | none =>
    cases rest with
    | nil => simp
    | cons c rest => obtain rfl | rfl | rfl | rfl := hr <;> simp
  | down | up => simp

theorem scale_append {n : Option Int} {cs rest : List Char} (h : Scale n cs) (hr : Ends rest) :
    scale (cs ++ rest) = (n, rest) := by
  cases h with
  | none =>
    cases rest with
    | nil => rfl
    | cons c rest => obtain rfl | rfl | rfl | rfl := hr <;> rfl
  | down h | up h =>
    have hempty := List.isEmpty_eq_false_iff.mpr h.ne_nil
    simp only [List.cons_append, scale, Decimal.sign, h.takeWhile hr.noDigit,
      h.dropWhile hr.noDigit, hempty]
    rfl

theorem partDigits_append {ds cs rest : List Char} (h : Part ds cs) (hr : NoDigit rest)
    (hpoint : rest.head? ≠ some '.') : partDigits (cs ++ rest) = (ds, rest) := by
  cases h with
  | none =>
    unfold partDigits
    split
    · rename_i e; exact absurd (congrArg List.head? e) hpoint
    · rfl
  | point h =>
    have hempty := List.isEmpty_eq_false_iff.mpr h.ne_nil
    simp only [List.cons_append, partDigits, h.takeWhile hr, h.dropWhile hr, hempty,
      Bool.false_eq_true, if_false]

theorem number?_append {whole ds part scaled rest : List Char} {n : Option Int} (negative : Bool)
    (hw : Whole whole) (hp : Part ds part) (hs : Scale n scaled) (hr : Ends rest) :
    number? negative (whole ++ (part ++ (scaled ++ rest))) =
      if ds.isEmpty && n.isNone then
        if whole.length > Decimal.digitLimit then none
        else
          let m : Int := Text.numeral whole
          some (.int (if negative then -m else m), rest)
      else
        some (.float (Decimal.nearest negative (Text.numeral (whole ++ ds)) (n.getD 0 - ds.length)),
          rest) := by
  rw [number?, wholeDigits?_append hw (hp.noDigit (hs.noDigit hr))]
  simp only [bind, Option.bind, partDigits_append hp (hs.noDigit hr) (hs.noPoint hr),
    scale_append hs hr]

theorem scalar?_signed (negative : Bool) {ds : List Char} (h : Digits ds) (rest : List Char) :
    scalar? ((if negative then ['-'] else []) ++ (ds ++ rest)) = number? negative (ds ++ rest) := by
  obtain ⟨c, ds, rfl⟩ := List.exists_cons_of_ne_nil h.ne_nil
  have hc := h.all c (List.mem_cons_self ..)
  have other {d : Char} (hd : d.isDigit = false) : c ≠ d := fun e => by rw [e, hd] at hc; cases hc
  cases negative
  · simp only [List.cons_append, Bool.false_eq_true, if_false, List.nil_append]
    unfold scalar?
    split
    all_goals first | rfl | (rename_i e; exact absurd (List.cons.inj e).1 (other rfl))
  · simp only [List.cons_append, if_true, List.nil_append]
    unfold scalar?
    split
    case h_6 => rename_i e; exact absurd (List.cons.inj (List.cons.inj e).2).1 (other rfl)
    case h_7 => rename_i e; rw [(List.cons.inj e).2]
    case h_8 minus => exact absurd rfl (minus _)
    all_goals (rename_i e; cases e)

end Json

end Dialogue
