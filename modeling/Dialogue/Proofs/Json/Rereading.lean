import Dialogue.Proofs.Json.Floats
import Dialogue.Proofs.Json.Texts

/-! What comes back when a value is written as JSON text and read again: the value itself, but
for floating-point numbers, which become what their texts stand for. A value in which a whole
number has too many digits cannot be read at all. -/
namespace Dialogue

namespace Value

mutual

/-- Every whole number in the tree can be read. -/
def isReadable : Value → Bool
  | int n => Decimal.isReadable n
  | list xs => readableItems xs
  | dict fs => readableFields fs
  | _ => true

def readableItems : List Value → Bool
  | [] => true
  | x :: xs => isReadable x && readableItems xs

def readableFields : List (String × Value) → Bool
  | [] => true
  | (_, x) :: fs => isReadable x && readableFields fs

end

/-- What the text of a floating-point number stands for. -/
def rereadFloat (x : Float) : Value :=
  ((Json.scalar? (Decimal.jsonStyle.write x).toList).map Prod.fst).getD null

mutual

/-- The value that the text of a value stands for. -/
def reread : Value → Value
  | float x => rereadFloat x
  | list xs => list (rereadItems xs)
  | dict fs => dict (Table.ofEntries (rereadFields fs))
  | v => v

def rereadItems : List Value → List Value
  | [] => []
  | x :: xs => reread x :: rereadItems xs

def rereadFields : List (String × Value) → List (String × Value)
  | [] => []
  | (k, x) :: fs => (k, reread x) :: rereadFields fs

end

theorem readableItems_iff (xs : List Value) :
    readableItems xs = true ↔ ∀ x ∈ xs, x.isReadable = true := by
  induction xs with
  | nil => simp [readableItems]
  | cons x xs ih => simp [readableItems, ih]

theorem readableFields_iff (fs : Table String Value) :
    readableFields fs = true ↔ ∀ e ∈ fs, e.2.isReadable = true := by
  induction fs with
  | nil => simp [readableFields]
  | cons e fs ih => simp [readableFields, ih]

end Value

namespace Json

theorem toList_toString (n : Int) :
    (toString n).toList = (if decide (n < 0) then ['-'] else []) ++ Nat.toDigits 10 n.natAbs := by
  rw [Int.toString_eq_repr, Int.repr_eq_if]
  by_cases h : n < 0
  · have habs : (-n).toNat = n.natAbs := by omega
    rw [if_neg (by omega), String.toList_append, Nat.toList_repr, habs]
    simp [h]
  · have habs : n.toNat = n.natAbs := by omega
    rw [if_pos (by omega), Nat.toList_repr, habs]
    simp [h]

theorem scalar?_int (n : Int) {rest : List Char} (hr : Ends rest) :
    scalar? ((toString n).toList ++ rest) =
      if Decimal.isReadable n then some (.int n, rest) else none := by
  have hnumber := number?_append (decide (n < 0)) (whole_toDigits n.natAbs) .none .none hr
  rw [toList_toString, List.append_assoc, scalar?_signed _ (digits_toDigits n.natAbs)]
  simp only [List.nil_append] at hnumber
  rw [hnumber, Text.numeral_toDigits, Decimal.isReadable]
  have hsign : (if n < 0 then -(n.natAbs : Int) else n.natAbs) = n := by split <;> omega
  simp only [List.isEmpty_nil, Option.isNone_none, Bool.and_self, if_true, decide_eq_true_eq, hsign]
  split
  · rw [if_neg (by omega)]
  · rw [if_pos (by omega)]

/-- A number that has a point or an exponent, after its sign. -/
theorem scalar?_fractional (negative : Bool) {whole ds part scaled rest : List Char}
    {n : Option Int} (hw : Whole whole) (hp : Part ds part) (hs : Scale n scaled)
    (hform : (ds.isEmpty && n.isNone) = false) (hr : Ends rest) :
    scalar? ((if negative then ['-'] else []) ++ (whole ++ (part ++ (scaled ++ rest)))) =
      some (.float (Decimal.nearest negative (Text.numeral (whole ++ ds)) (n.getD 0 - ds.length)),
        rest) := by
  have hnumber := number?_append negative hw hp hs hr
  rw [if_neg (by simp [hform])] at hnumber
  rw [scalar?_signed negative hw.toDigits, hnumber]

private theorem exists_float (x : Float) : ∃ y, ∀ rest, Ends rest →
    scalar? ((Decimal.jsonStyle.write x).toList ++ rest) = some (.float y, rest) := by
  rw [Decimal.Style.write]
  cases Binary64.ofFloat x with
  | nan => exact ⟨_, fun rest _ => rfl⟩
  | infinite negative => cases negative <;> exact ⟨_, fun rest _ => rfl⟩
  | finite negative m e =>
    obtain ⟨whole, ds, part, n, scaled, hcs, hw, hp, hs, hform⟩ :=
      fractional_writeFinite Decimal.jsonStyle m e
    refine ⟨Decimal.nearest negative (Text.numeral (whole ++ ds)) (n.getD 0 - ds.length),
      fun rest hr => ?_⟩
    rw [String.toList_ofList, hcs]
    simp only [List.append_assoc]
    exact scalar?_fractional negative hw hp hs hform hr

theorem rereadFloat_eq_float (x : Float) : ∃ y, Value.rereadFloat x = .float y := by
  obtain ⟨y, hy⟩ := exists_float x
  have halone := hy [] trivial
  rw [List.append_nil] at halone
  exact ⟨y, by rw [Value.rereadFloat, halone]; rfl⟩

theorem scalar?_float (x : Float) {rest : List Char} (hr : Ends rest) :
    scalar? ((Decimal.jsonStyle.write x).toList ++ rest) = some (Value.rereadFloat x, rest) := by
  obtain ⟨y, hy⟩ := exists_float x
  have halone := hy [] trivial
  rw [List.append_nil] at halone
  rw [hy rest hr, Value.rereadFloat, halone]
  rfl

/-- A character that may begin a word or a number. -/
def Plain (c : Char) : Prop := isBlank c = false ∧ c ∉ ['"', '[', '\x7b', ']', '\x7d']

private theorem plain_of_isDigit {c : Char} (h : c.isDigit = true) : Plain c := by
  have other {d : Char} (hd : d.isDigit = false) : c ≠ d := fun e => by rw [e, hd] at h; cases h
  refine ⟨?_, ?_⟩
  · simp only [isBlank, Bool.or_eq_false_iff, beq_eq_false_iff_ne]
    exact ⟨⟨⟨other rfl, other rfl⟩, other rfl⟩, other rfl⟩
  · simp only [List.mem_cons, List.not_mem_nil, or_false, not_or]
    exact ⟨other rfl, other rfl, other rfl, other rfl, other rfl⟩

private theorem plain_of_scalar? {c : Char} {cs : List Char} (h : scalar? (c :: cs) ≠ none) :
    Plain c := by
  refine ⟨Bool.eq_false_iff.mpr fun hblank => h ?_, fun hmem => h ?_⟩
  · simp only [isBlank, Bool.or_eq_true, beq_iff_eq] at hblank
    obtain ((rfl | rfl) | rfl) | rfl := hblank <;> rfl
  · simp only [List.mem_cons, List.not_mem_nil, or_false] at hmem
    obtain rfl | rfl | rfl | rfl | rfl := hmem <;> rfl

private theorem value?_plain (fuel : Nat) {c : Char} (h : Plain c) (cs : List Char) :
    value? (fuel + 1) (c :: cs) = scalar? (c :: cs) := by
  have other {d : Char} (hd : d ∈ ['"', '[', '\x7b', ']', '\x7d']) : c ≠ d :=
    fun e => h.2 (e ▸ hd)
  unfold value?
  split
  case h_4 => rfl
  all_goals
    rename_i e
    exact absurd (List.cons.inj e).1 (other (by decide))

theorem skip_plain {c : Char} (h : isBlank c = false) (cs : List Char) :
    skip (c :: cs) = c :: cs :=
  List.dropWhile_cons_of_neg (by simp [h])

theorem toString_eq_cons (n : Int) :
    ∃ c cs, (toString n).toList = c :: cs ∧ Plain c := by
  rw [toList_toString]
  have hds := digits_toDigits n.natAbs
  obtain ⟨c, cs, hcs⟩ := List.exists_cons_of_ne_nil hds.ne_nil
  rw [hcs]
  split
  · exact ⟨'-', c :: cs, rfl, by decide, by decide⟩
  · exact ⟨c, cs, rfl, plain_of_isDigit (hds.all c (by rw [hcs]; exact List.mem_cons_self ..))⟩

private theorem write_eq_cons (x : Float) :
    ∃ c cs, (Decimal.jsonStyle.write x).toList = c :: cs ∧ Plain c := by
  have hread := scalar?_float x (show Ends [] from trivial)
  rw [List.append_nil] at hread
  cases hcs : (Decimal.jsonStyle.write x).toList with
  | nil => rw [hcs] at hread; cases hread
  | cons c cs =>
    have hsome : scalar? (c :: cs) ≠ none := by
      rw [← hcs, hread]
      simp
    exact ⟨c, cs, rfl, plain_of_scalar? hsome⟩

theorem value?_number (fuel : Nat) {cs : List Char} (h : ∃ c tail, cs = c :: tail ∧ Plain c)
    (rest : List Char) : value? (fuel + 1) (cs ++ rest) = scalar? (cs ++ rest) := by
  obtain ⟨c, tail, rfl, hc⟩ := h
  exact value?_plain fuel hc (tail ++ rest)

/-- The text of a value begins with no blank and no closing bracket. -/
private theorem compact_eq_cons (v : Value) :
    ∃ c cs, compact v = c :: cs ∧ isBlank c = false ∧ c ≠ ']' := by
  have front {cs : List Char} (h : ∃ c tail, cs = c :: tail ∧ Plain c) :
      ∃ c tail, cs = c :: tail ∧ isBlank c = false ∧ c ≠ ']' := by
    obtain ⟨c, tail, rfl, hc⟩ := h
    exact ⟨c, tail, rfl, hc.1, fun e => hc.2 (by simp [e])⟩
  cases v with
  | null => exact ⟨'n', _, rfl, rfl, by decide⟩
  | bool b => cases b <;> exact ⟨_, _, rfl, rfl, by decide⟩
  | int n => exact front (toString_eq_cons n)
  | float x => exact front (write_eq_cons x)
  | text s => exact ⟨'"', _, rfl, rfl, by decide⟩
  | list xs => exact ⟨'[', _, rfl, rfl, by decide⟩
  | dict fs => exact ⟨'\x7b', _, rfl, rfl, by decide⟩

private theorem compactItems_cons (x : Value) (xs : List Value) :
    compactItems (x :: xs) = compact x ++ if xs.isEmpty then [] else ',' :: compactItems xs := by
  cases xs with
  | nil => simp [compactItems]
  | cons y ys => rfl

private theorem compactEntries_cons (k : String) (x : Value) (fs : List (String × Value)) :
    compactEntries ((k, x) :: fs) = quote escape k ++ ':' :: (compact x ++
      if fs.isEmpty then [] else ',' :: compactEntries fs) := by
  cases fs with
  | nil => simp [compactEntries]
  | cons e fs => simp [compactEntries]

private theorem compactItems_eq_cons (x : Value) (xs : List Value) (rest : List Char) :
    ∃ c cs, compactItems (x :: xs) ++ rest = c :: cs ∧ isBlank c = false ∧ c ≠ ']' := by
  obtain ⟨c, cs, hcs, hc⟩ := compact_eq_cons x
  exact ⟨c, _, by rw [compactItems_cons, hcs, List.cons_append, List.cons_append], hc⟩

private theorem compactEntries_eq_cons (e : String × Value) (fs : List (String × Value))
    (rest : List Char) : ∃ cs, compactEntries (e :: fs) ++ rest = '"' :: cs :=
  ⟨_, by rw [compactEntries_cons, quote, List.cons_append, List.cons_append, List.cons_append]⟩

private theorem value?_list (fuel : Nat) {cs : List Char}
    (h : ∃ c tail, cs = c :: tail ∧ isBlank c = false ∧ c ≠ ']') :
    value? (fuel + 1) ('[' :: cs) = (items? fuel cs).map fun (xs, rest) => (.list xs, rest) := by
  obtain ⟨c, tail, rfl, hblank, hclose⟩ := h
  simp only [value?, skip_plain hblank]
  split
  · rename_i e; exact absurd (List.cons.inj e).1 hclose
  · rfl

private theorem value?_dict (fuel : Nat) {cs : List Char} (h : ∃ tail, cs = '"' :: tail) :
    value? (fuel + 1) ('\x7b' :: cs) =
      (entries? fuel cs).map fun (es, rest) => (.dict (Table.ofEntries es), rest) := by
  obtain ⟨tail, rfl⟩ := h
  rfl

private theorem ends_after {α : Type} (xs : List α) {c : Char} (hc : Ends [c])
    (cs rest : List Char) : Ends ((if xs.isEmpty then [] else ',' :: cs) ++ c :: rest) := by
  cases xs with
  | nil => exact hc
  | cons x xs => exact .inl rfl

mutual

theorem value?_compact (v : Value) (fuel : Nat) {rest : List Char} (hr : Ends rest)
    (h : (compact v).length ≤ fuel) :
    value? fuel (compact v ++ rest) = if v.isReadable then some (v.reread, rest) else none := by
  obtain ⟨fuel, rfl⟩ : ∃ n, fuel = n + 1 := by
    obtain ⟨c, cs, hcs, -⟩ := compact_eq_cons v
    rw [hcs, List.length_cons] at h
    exact ⟨fuel - 1, by omega⟩
  cases v with
  | null => rfl
  | bool b => cases b <;> rfl
  | int n =>
    rw [compact, value?_number fuel (toString_eq_cons n), scalar?_int n hr]
    rfl
  | float x =>
    rw [compact, value?_number fuel (write_eq_cons x), scalar?_float x hr]
    rfl
  | text s =>
    have hcs : compact (.text s) ++ rest = '"' :: (s.toList.flatMap escape ++ '"' :: rest) := by
      simp [compact, quote]
    rw [hcs, value?]
    simp only [spells_escape.text?_quoted s rest]
    rfl
  | list xs =>
    cases xs with
    | nil => rfl
    | cons x xs =>
      have hcs : compact (.list (x :: xs)) ++ rest =
          '[' :: (compactItems (x :: xs) ++ ']' :: rest) := by simp [compact]
      have hlen : (compactItems (x :: xs)).length < fuel := by
        simp only [compact, List.length_append, List.length_cons, List.length_nil] at h
        omega
      rw [hcs, value?_list fuel (compactItems_eq_cons x xs _),
        items?_compact (x :: xs) fuel rest (by simp) hlen, Value.isReadable]
      split <;> rfl
  | dict fs =>
    cases fs with
    | nil => rfl
    | cons e fs =>
      have hcs : compact (.dict (e :: fs)) ++ rest =
          '\x7b' :: (compactEntries (e :: fs) ++ '\x7d' :: rest) := by simp [compact]
      have hlen : (compactEntries (e :: fs)).length < fuel := by
        simp only [compact, List.length_append, List.length_cons, List.length_nil] at h
        omega
      rw [hcs, value?_dict fuel (compactEntries_eq_cons e fs _),
        entries?_compact (e :: fs) fuel rest (by simp) hlen, Value.isReadable]
      split <;> rfl

theorem items?_compact (xs : List Value) (fuel : Nat) (rest : List Char) (hne : xs ≠ [])
    (h : (compactItems xs).length < fuel) :
    items? fuel (compactItems xs ++ ']' :: rest) =
      if Value.readableItems xs then some (Value.rereadItems xs, rest) else none := by
  obtain ⟨fuel, rfl⟩ : ∃ n, fuel = n + 1 := ⟨fuel - 1, by omega⟩
  cases xs with
  | nil => exact absurd rfl hne
  | cons x xs =>
    rw [compactItems_cons, List.length_append] at h
    have hends := ends_after xs (c := ']') (.inr (.inl rfl)) (compactItems xs) rest
    rw [compactItems_cons, List.append_assoc, items?, value?_compact x fuel hends (by omega),
      Value.readableItems]
    cases hx : x.isReadable with
    | false => rfl
    | true =>
      cases xs with
      | nil => rfl
      | cons y ys =>
        have hitems := items?_compact (y :: ys) fuel rest (by simp)
          (by
            simp only [List.isEmpty_cons, Bool.false_eq_true, if_false, List.length_cons] at h
            omega)
        obtain ⟨c, cs, hcs, hblank, -⟩ := compactItems_eq_cons y ys (']' :: rest)
        have hskip : skip (compactItems (y :: ys) ++ ']' :: rest) =
            compactItems (y :: ys) ++ ']' :: rest := by rw [hcs, skip_plain hblank]
        have hcomma : skip (',' :: (compactItems (y :: ys) ++ ']' :: rest)) =
            ',' :: (compactItems (y :: ys) ++ ']' :: rest) := rfl
        simp only [List.isEmpty_cons, Bool.false_eq_true, if_false, if_true, List.cons_append,
          hcomma, hskip, hitems, Bool.true_and]
        split <;> rfl

theorem entries?_compact (fs : List (String × Value)) (fuel : Nat) (rest : List Char)
    (hne : fs ≠ []) (h : (compactEntries fs).length < fuel) :
    entries? fuel (compactEntries fs ++ '\x7d' :: rest) =
      if Value.readableFields fs then some (Value.rereadFields fs, rest) else none := by
  obtain ⟨fuel, rfl⟩ : ∃ n, fuel = n + 1 := ⟨fuel - 1, by omega⟩
  match fs with
  | [] => exact absurd rfl hne
  | (k, x) :: fs =>
    rw [compactEntries_cons, List.length_append, List.length_cons, List.length_append] at h
    have hends := ends_after fs (c := '\x7d') (.inr (.inr (.inl rfl))) (compactEntries fs) rest
    have hvalue := value?_compact x fuel hends (by omega)
    obtain ⟨c, cs, hcs, hblank, -⟩ := compact_eq_cons x
    have hskip (tail : List Char) : skip (compact x ++ tail) = compact x ++ tail := by
      rw [hcs, List.cons_append, skip_plain hblank]
    have hcolon (tail : List Char) : skip (':' :: tail) = ':' :: tail := rfl
    have hcs : compactEntries ((k, x) :: fs) ++ '\x7d' :: rest =
        '"' :: (k.toList.flatMap escape ++ '"' :: ':' :: (compact x ++
          ((if fs.isEmpty then [] else ',' :: compactEntries fs) ++ '\x7d' :: rest))) := by
      rw [compactEntries_cons]
      simp [quote]
    rw [hcs, entries?]
    simp only [spells_escape.text?_quoted, hcolon, hskip, hvalue, Value.readableFields]
    by_cases hx : x.isReadable = true
    · simp only [hx, if_true, Bool.true_and]
      cases fs with
      | nil => rfl
      | cons e fs =>
        have hentries := entries?_compact (e :: fs) fuel rest (by simp)
          (by
            simp only [List.isEmpty_cons, Bool.false_eq_true, if_false, List.length_cons] at h
            omega)
        obtain ⟨cs, hfront⟩ := compactEntries_eq_cons e fs ('\x7d' :: rest)
        have hcomma (tail : List Char) : skip (',' :: tail) = ',' :: tail := rfl
        have hquote (tail : List Char) : skip ('"' :: tail) = '"' :: tail := rfl
        simp only [List.isEmpty_cons, Bool.false_eq_true, if_false, List.cons_append, hcomma,
          hfront, hquote]
        rw [← hfront, hentries]
        split <;> rfl
    · simp only [hx, Bool.false_eq_true, if_false, Bool.false_and]

end

theorem isEmpty_write (v : Value) : (write v).isEmpty = false := by
  obtain ⟨c, cs, hcs, -⟩ := compact_eq_cons v
  rw [Bool.eq_false_iff, ne_eq, String.isEmpty_iff, write, hcs]
  exact fun e => List.cons_ne_nil c cs (by rw [← String.toList_ofList (l := c :: cs), e]; rfl)

/-- Reading what was written. -/
theorem read?_write (v : Value) :
    read? (write v) = if v.isReadable then some v.reread else none := by
  obtain ⟨c, cs, hcs, hblank, -⟩ := compact_eq_cons v
  have hskip : skip (compact v) = compact v := by rw [hcs, skip_plain hblank]
  have hvalue := value?_compact v ((compact v).length + 1) (show Ends [] from trivial) (by omega)
  rw [List.append_nil] at hvalue
  rw [read?, write, String.toList_ofList]
  simp only [hskip, hvalue]
  by_cases hv : v.isReadable = true
  · simp only [hv, if_true]
    rfl
  · simp only [hv, Bool.false_eq_true, if_false]

end Json

end Dialogue
