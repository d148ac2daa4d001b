import Dialogue.Condition.Token
import Dialogue.Proofs.Json.Numbers

/-! How tokens are spelled. In front of a blank, each token is read from its own spelling: a number
with no more digits than are read, a text between quotes whatever it holds, a sign also where it
begins a longer one, and a word, be it a name or not. -/
namespace Dialogue

namespace Text

theorem Ranges.mem_iff (rs : Ranges) (c : Char) :
    rs.mem c = true ↔ ∃ r ∈ rs, r.1 ≤ c.toNat ∧ c.toNat ≤ r.2 := by
  simp [Ranges.mem]

/-- No blank has a visible form in ASCII. -/
private theorem toNat_of_isBlank {c : Char} (h : isBlank c = true) :
    c.toNat ≤ 0x20 ∨ 0x7F < c.toNat := by
  have hbounds : ∀ r ∈ blanks, r.2 ≤ 0x20 ∨ 0x7F < r.1 := by decide
  obtain ⟨r, hr, hlow, hhigh⟩ := (Ranges.mem_iff _ _).mp h
  rcases hbounds r hr with hsmall | hlarge
  · exact .inl (Nat.le_trans hhigh hsmall)
  · exact .inr (Nat.lt_of_lt_of_le hlarge hlow)

private theorem ne_of_isBlank {c d : Char} (h : isBlank c = true) (hlow : 0x20 < d.toNat)
    (hhigh : d.toNat ≤ 0x7F) : c ≠ d := by
  rintro rfl
  have hc := toNat_of_isBlank h
  omega

private theorem isDigit_of_isBlank {c : Char} (h : isBlank c = true) : isDigit c = false := by
  have hapart : ∀ r ∈ blanks, ∀ q ∈ digits, r.2 < q.1 ∨ q.2 < r.1 := by decide
  have hc := toNat_of_isBlank h
  obtain ⟨r, hr, hlow, hhigh⟩ := (Ranges.mem_iff _ _).mp h
  rw [isDigit, digit?]
  split
  · rename_i hsmall
    have hzero : ¬ ('0' ≤ c ∧ c ≤ '9') := by
      rintro ⟨hzero, -⟩
      have hzero : 0x30 ≤ c.toNat := hzero
      omega
    rw [if_neg hzero]
    rfl
  · rw [Option.isSome_map, Ranges.offset?, Option.isSome_map, Option.isSome_eq_false_iff,
      Option.isNone_iff_eq_none, List.find?_eq_none]
    intro q hq hmem
    have hq := hapart r hr q hq
    rw [Bool.and_eq_true, decide_eq_true_eq, decide_eq_true_eq] at hmem
    omega

private theorem toNat_of_latinDigit {c : Char} (h : c.isDigit = true) :
    0x30 ≤ c.toNat ∧ c.toNat ≤ 0x39 := by
  simp only [Char.isDigit, Bool.and_eq_true, decide_eq_true_eq, ge_iff_le,
    UInt32.le_iff_toNat_le] at h
  exact h

private theorem toNat_of_latinLetter {c : Char} (h : c.isAlpha = true) :
    (0x41 ≤ c.toNat ∧ c.toNat ≤ 0x5A) ∨ (0x61 ≤ c.toNat ∧ c.toNat ≤ 0x7A) := by
  delta Char.isAlpha Char.isUpper Char.isLower at h
  simp only [Bool.or_eq_true, Bool.and_eq_true, decide_eq_true_eq, ge_iff_le,
    UInt32.le_iff_toNat_le] at h
  exact h

/-- The digits of ASCII count as digits. -/
theorem isDigit_of_latin {c : Char} (h : c.isDigit = true) : isDigit c = true := by
  have hc := toNat_of_latinDigit h
  have hrange : '0' ≤ c ∧ c ≤ '9' := hc
  rw [isDigit, digit?, if_pos (by omega), if_pos hrange]
  rfl

private theorem toNat_of_isNamePart {c : Char} (h : isNamePart c = true) :
    0x30 ≤ c.toNat ∧ c.toNat ≤ 0x7A := by
  rw [isNamePart, Char.isAlphanum, Bool.or_eq_true, Bool.or_eq_true, beq_iff_eq] at h
  rcases h with (hletter | hdigit) | rfl
  · have hc := toNat_of_latinLetter hletter
    omega
  · have hc := toNat_of_latinDigit hdigit
    omega
  · decide

private theorem isNamePart_of_isBlank {c : Char} (h : isBlank c = true) :
    isNamePart c = false := by
  rw [← Bool.not_eq_true]
  intro hpart
  have hc := toNat_of_isBlank h
  have hc' := toNat_of_isNamePart hpart
  omega

/-- What a name begins with is no digit, and no sign but the low line. -/
private theorem toNat_of_isNameStart {c : Char} (h : isNameStart c = true) :
    (0x41 ≤ c.toNat ∧ c.toNat ≤ 0x5A) ∨ c.toNat = 0x5F ∨ (0x61 ≤ c.toNat ∧ c.toNat ≤ 0x7A) := by
  rw [isNameStart, Bool.or_eq_true, beq_iff_eq] at h
  rcases h with hletter | rfl
  · have hc := toNat_of_latinLetter hletter
    omega
  · decide

private theorem isNamePart_of_isNameStart {c : Char} (h : isNameStart c = true) :
    isNamePart c = true := by
  rw [isNameStart, Bool.or_eq_true] at h
  rw [isNamePart, Char.isAlphanum, Bool.or_eq_true, Bool.or_eq_true]
  exact h.imp_left .inl

private theorem isDigit_of_isNameStart {c : Char} (h : isNameStart c = true) :
    isDigit c = false := by
  have hc := toNat_of_isNameStart h
  have hnine : ¬ ('0' ≤ c ∧ c ≤ '9') := by
    rintro ⟨-, hnine⟩
    have hnine : c.toNat ≤ 0x39 := hnine
    omega
  rw [isDigit, digit?, if_pos (by omega), if_neg hnine]
  rfl

end Text

namespace Condition.Token

/-- The words with a meaning of their own, which are no names. -/
def keywords : List String :=
  ["true", "True", "false", "False", "null", "None", "and", "or", "not"]

/-- A letter or a low line, then letters, digits and low lines, all of them Latin. -/
def IsName (s : String) : Prop :=
  (∃ c cs, s.toList = c :: cs ∧ Text.isNameStart c = true ∧ ∀ d ∈ cs, Text.isNamePart d = true) ∧
    s ∉ keywords

/-- The tokens that have a spelling. No whole number has more digits than are read. -/
def Spellable : Token → Prop
  | literal .null | literal (.bool _) | literal (.text _) | sign _ => True
  | literal (.int n) => Decimal.isReadable n = true
  | literal _ => False
  | name s => IsName s

/-- Quotes and backslashes are kept by a backslash in front of them. -/
def escape (c : Char) : List Char := if c = '\'' ∨ c = '\\' then ['\\', c] else [c]

def spelling : Token → List Char
  | literal .null => "null".toList
  | literal (.bool b) => if b then "true".toList else "false".toList
  | literal (.int n) => (if n < 0 then ['-'] else []) ++ Nat.toDigits 10 n.natAbs
  | literal (.text s) => '\'' :: (s.toList.flatMap escape ++ ['\''])
  | literal _ => []
  | name s => s.toList
  | sign s => s.symbol.toList

/-- Whatever follows begins with a blank. -/
def Apart (cs : List Char) : Prop := ∀ c ∈ cs.head?, Text.isBlank c = true

private theorem ofWord_of_not_mem {s : String} (h : s ∉ keywords) : ofWord s = name s := by
  simp only [keywords, List.mem_cons, List.not_mem_nil, or_false, not_or] at h
  unfold ofWord
  split <;> simp_all

/-- No number begins with anything but a minus or a digit. -/
private theorem number?_cons {c : Char} (cs : List Char) (hminus : c ≠ '-')
    (hdigit : Text.isDigit c = false) : number? (c :: cs) = none := by
  rw [number?]
  · simp [unsigned?, hdigit]
  · intro ds h
    exact hminus (List.cons.inj h).1

/-- What is kept between quotes is read up to the closing one. -/
private theorem text?_escaped (s rest : List Char) :
    text? '\'' (s.flatMap escape ++ '\'' :: rest) = some (s, rest) := by
  induction s with
  | nil =>
    rw [List.flatMap_nil, List.nil_append, text?.eq_def]
    simp
  | cons c s ih =>
    rw [List.flatMap_cons, List.append_assoc, escape]
    split
    · rename_i hkept
      have hline : c ≠ '\n' := by
        rcases hkept with rfl | rfl <;> decide
      rw [List.cons_append, List.cons_append, List.nil_append, text?.eq_def]
      simp [hline, ih]
    · rename_i hplain
      rw [not_or] at hplain
      rw [List.singleton_append, text?.eq_def]
      simp [hplain, ih]

/-- A sign begins with a character that begins nothing else. -/
private theorem exists_symbol (s : Sign) : ∃ c cs, s.symbol.toList = c :: cs ∧
    Text.isDigit c = false ∧ Text.isNameStart c = false ∧ c ≠ '-' ∧ c ≠ '\'' ∧ c ≠ '"' := by
  cases s with
  | compare k => cases k <;> exact ⟨_, _, rfl, by decide⟩
  | _ => exact ⟨_, _, rfl, by decide⟩

private theorem sign?_of_isNameStart {c : Char} (h : Text.isNameStart c = true) (cs : List Char) :
    sign? (c :: cs) = none := by
  rw [sign?, List.findSome?_eq_none_iff]
  intro s _
  obtain ⟨d, ds, hsymbol, -, hd, -⟩ := exists_symbol s
  have hne : (d == c) = false := by
    rw [beq_eq_false_iff_ne]
    rintro rfl
    rw [h] at hd
    cases hd
  rw [hsymbol, after?, hne]
  rfl

section
variable {rest : List Char} (hrest : Apart rest)
include hrest

private theorem unsigned?_append {ds : List Char} (hne : ds ≠ [])
    (hds : ∀ c ∈ ds, Text.isDigit c = true) (hlimit : ds.length ≤ Decimal.digitLimit)
    (negative : Bool) :
    unsigned? negative (ds ++ rest) =
      some (.ok (literal (.int (if negative then -(Text.numeral ds : Int) else Text.numeral ds))),
        rest) := by
  have hstop : ∀ c ∈ rest.head?, Text.isDigit c = false := by
    intro c hc
    exact Text.isDigit_of_isBlank (hrest c hc)
  have hpoint : rest.head? ≠ some '.' := by
    intro hpoint
    exact absurd rfl (Text.ne_of_isBlank (hrest '.' hpoint) (by decide) (by decide))
  rw [unsigned?, Text.takeWhile_append_stop hds hstop, Text.dropWhile_append_stop hds hstop,
    if_neg (by simpa using hne)]
  split
  · exact absurd rfl hpoint
  · exact if_neg (Nat.not_lt.mpr hlimit)

private theorem number?_append {n : Int} (hn : Decimal.isReadable n = true) :
    number? ((literal (.int n)).spelling ++ rest) = some (.ok (literal (.int n)), rest) := by
  have hds := Json.digits_toDigits n.natAbs
  have hdigits : ∀ c ∈ Nat.toDigits 10 n.natAbs, Text.isDigit c = true := by
    intro c hc
    exact Text.isDigit_of_latin (hds.all c hc)
  have hlimit : (Nat.toDigits 10 n.natAbs).length ≤ Decimal.digitLimit := of_decide_eq_true hn
  have hread := unsigned?_append hrest hds.ne_nil hdigits hlimit
  rw [Text.numeral_toDigits] at hread
  by_cases hneg : n < 0
  · have hvalue : -(n.natAbs : Int) = n := by omega
    rw [spelling, if_pos hneg]
    exact (hread true).trans (by rw [if_pos rfl, hvalue])
  · have hvalue : (n.natAbs : Int) = n := by omega
    rw [spelling, if_neg hneg, List.nil_append]
    obtain ⟨d, ds, hcons⟩ := List.exists_cons_of_ne_nil hds.ne_nil
    have hd : d ≠ '-' := by
      rintro rfl
      have hminus := hds.all '-' (hcons ▸ List.mem_cons_self ..)
      exact absurd hminus (by decide)
    rw [hcons] at hread ⊢
    rw [List.cons_append, number?]
    · exact (hread false).trans (by rw [if_neg (by decide), hvalue])
    · intro cs h
      exact hd (List.cons.inj h).1

private theorem sign?_append (s : Sign) : sign? (s.symbol.toList ++ rest) = some (s, rest) := by
  cases rest with
  | nil =>
    cases s with
    | compare k => cases k <;> rfl
    | _ => rfl
  | cons c cs =>
    -- All signs that begin another go on with the same character.
    have hlonger : ('=' == c) = false :=
      beq_false_of_ne (Text.ne_of_isBlank (hrest c rfl) (by decide) (by decide)).symm
    cases s with
    | compare k =>
      cases k <;> simp [sign?, Sign.all, Sign.symbol, Comparator.symbol, after?, hlonger]
    | _ => simp [sign?, Sign.all, Sign.symbol, Comparator.symbol, after?, hlonger]

/-- A word of letters, digits and low lines is read up to its end. -/
private theorem first?_word {c : Char} {cs : List Char} (hc : Text.isNameStart c = true)
    (hcs : ∀ d ∈ cs, Text.isNamePart d = true) :
    first? (c :: cs ++ rest) = some (.ok (ofWord (String.ofList (c :: cs))), rest) := by
  have hbounds := Text.toNat_of_isNameStart hc
  have hminus : c ≠ '-' := by
    rintro rfl
    exact absurd hbounds (by decide)
  have hquote : (c == '\'' || c == '"') = false := by
    rw [Bool.or_eq_false_iff, beq_eq_false_iff_ne, beq_eq_false_iff_ne]
    constructor
    · rintro rfl
      exact absurd hbounds (by decide)
    · rintro rfl
      exact absurd hbounds (by decide)
  have hword : ∀ d ∈ c :: cs, Text.isNamePart d = true := by
    intro d hd
    rcases List.mem_cons.mp hd with rfl | hd
    · exact Text.isNamePart_of_isNameStart hc
    · exact hcs d hd
  have hstop : ∀ d ∈ rest.head?, Text.isNamePart d = false := by
    intro d hd
    exact Text.isNamePart_of_isBlank (hrest d hd)
  have htake := Text.takeWhile_append_stop hword hstop
  have hdrop := Text.dropWhile_append_stop hword hstop
  rw [List.cons_append] at htake hdrop ⊢
  rw [first?, number?_cons _ hminus (Text.isDigit_of_isNameStart hc)]
  simp only [hquote, sign?_of_isNameStart hc, hc, htake, hdrop, if_true, Bool.false_eq_true,
    if_false]

/-- In front of a blank, each token is read from its spelling. -/
theorem first?_spelling {t : Token} (ht : t.Spellable) :
    first? (t.spelling ++ rest) = some (.ok t, rest) := by
  cases t with
  | literal v =>
    cases v with
    | null => exact first?_word hrest rfl (List.all_eq_true.mp rfl)
    | bool b =>
      cases b
      · exact first?_word hrest rfl (List.all_eq_true.mp rfl)
      · exact first?_word hrest rfl (List.all_eq_true.mp rfl)
    | int n => rw [first?.eq_def, number?_append hrest ht]
    | text s =>
      have htext := text?_escaped s.toList rest
      rw [spelling, List.cons_append, List.append_assoc, List.singleton_append, first?,
        number?_cons _ (by decide) (by decide)]
      simp [htext]
    | float | list | dict => exact ht.elim
  | name s =>
    obtain ⟨⟨c, cs, hs, hc, hcs⟩, hkeyword⟩ := ht
    have hread := first?_word hrest hc hcs
    rw [← hs, String.ofList_toList, ofWord_of_not_mem hkeyword] at hread
    exact hread
  | sign s =>
    obtain ⟨c, cs, hsymbol, hdigit, -, hminus, hquote⟩ := exists_symbol s
    have hread := sign?_append hrest s
    rw [spelling, first?.eq_def]
    rw [hsymbol, List.cons_append] at hread ⊢
    rw [number?_cons _ hminus hdigit]
    simp [hquote, hread]

end

section
variable {t : Token}

/-- But for texts, no spelling holds a blank. -/
private theorem isBlank_of_mem_spelling (ht : t.Spellable) (htext : ∀ s, t ≠ literal (.text s)) :
    t.spelling ≠ [] ∧ ∀ c ∈ t.spelling, ¬ Text.isBlank c = true := by
  have hpart {cs : List Char} (hcs : ∀ c ∈ cs, Text.isNamePart c = true) :
      ∀ c ∈ cs, ¬ Text.isBlank c = true := by
    intro c hc hblank
    have hpart := hcs c hc
    rw [Text.isNamePart_of_isBlank hblank] at hpart
    cases hpart
  cases t with
  | literal v =>
    cases v with
    | null => exact ⟨nofun, List.any_eq_false.mp rfl⟩
    | bool b => cases b <;> exact ⟨nofun, List.any_eq_false.mp rfl⟩
    | int n =>
      have hds := Json.digits_toDigits n.natAbs
      refine ⟨List.append_ne_nil_of_right_ne_nil _ hds.ne_nil, ?_⟩
      intro c hc
      rcases List.mem_append.mp hc with hminus | hdigit
      · split at hminus
        · rw [List.mem_singleton.mp hminus]
          decide
        · cases hminus
      · intro hblank
        have hdigit := Text.isDigit_of_latin (hds.all c hdigit)
        rw [Text.isDigit_of_isBlank hblank] at hdigit
        cases hdigit
    | text s => exact absurd rfl (htext s)
    | float | list | dict => exact ht.elim
  | name s =>
    obtain ⟨⟨c, cs, hs, hc, hcs⟩, -⟩ := ht
    rw [spelling, hs]
    refine ⟨List.cons_ne_nil _ _, hpart ?_⟩
    intro d hd
    rcases List.mem_cons.mp hd with rfl | hd
    · exact Text.isNamePart_of_isNameStart hc
    · exact hcs d hd
  | sign s =>
    cases s with
    | compare k => cases k <;> exact ⟨nofun, List.any_eq_false.mp rfl⟩
    | _ => exact ⟨nofun, List.any_eq_false.mp rfl⟩

theorem exists_head_spelling (ht : t.Spellable) :
    ∃ c cs, t.spelling = c :: cs ∧ Text.isBlank c = false := by
  by_cases htext : ∃ s, t = literal (.text s)
  · obtain ⟨s, rfl⟩ := htext
    exact ⟨'\'', _, rfl, by decide⟩
  · obtain ⟨hne, hall⟩ := isBlank_of_mem_spelling ht (not_exists.mp htext)
    obtain ⟨c, cs, hcons⟩ := List.exists_cons_of_ne_nil hne
    exact ⟨c, cs, hcons, eq_false_of_ne_true (hall c (hcons ▸ List.mem_cons_self ..))⟩

theorem exists_last_spelling (ht : t.Spellable) :
    ∃ cs c, t.spelling = cs ++ [c] ∧ Text.isBlank c = false := by
  by_cases htext : ∃ s, t = literal (.text s)
  · obtain ⟨s, rfl⟩ := htext
    exact ⟨'\'' :: s.toList.flatMap escape, '\'', rfl, by decide⟩
  · obtain ⟨hne, hall⟩ := isBlank_of_mem_spelling ht (not_exists.mp htext)
    exact ⟨_, _, (List.dropLast_concat_getLast hne).symm,
      eq_false_of_ne_true (hall _ (List.getLast_mem hne))⟩

end

end Condition.Token

end Dialogue
