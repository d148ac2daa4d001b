import Dialogue.Json.Reader
import Dialogue.Json.Writer

/-! A text between quotes is read back as it was, whatever characters it is made of, be they
written as they are or as 16-bit units. -/
namespace Dialogue.Json

private theorem hexValue?_hexDigit : ∀ n, n < 16 → hexValue? (Text.hexDigit n) = some n := by
  decide

private theorem hex_four (n : Nat) :
    Text.hex 4 n = [Text.hexDigit (n / 4096 % 16), Text.hexDigit (n / 256 % 16),
      Text.hexDigit (n / 16 % 16), Text.hexDigit (n % 16)] := by
  simp only [Text.hex, List.nil_append, List.cons_append, Nat.div_div_eq_div_mul]

private theorem unit?_hex {n : Nat} (h : n < 0x10000) (cs : List Char) :
    unit? (Text.hex 4 n ++ cs) = some (n, cs) := by
  have hvalue (k : Nat) : hexValue? (Text.hexDigit (k % 16)) = some (k % 16) :=
    hexValue?_hexDigit _ (Nat.mod_lt _ (by decide))
  rw [hex_four]
  simp only [List.cons_append, List.nil_append, unit?, hvalue, bind, Option.bind]
  congr 2
  omega

/-- A unit is read, and what comes of it. -/
private theorem text?_unit {n : Nat} (h : n < 0x10000) (fuel : Nat) (read cs : List Char) :
    text? (fuel + 1) read (('\\' :: 'u' :: Text.hex 4 n) ++ cs) =
      text? fuel ((codePoint n cs).1 :: read) (codePoint n cs).2 := by
  simp only [List.cons_append, text?, unit?_hex h]
  rfl

/-- A character that is no half of a pair stands for itself. -/
private theorem codePoint_toNat {c : Char} (h : c.toNat < 0x10000) (cs : List Char) :
    codePoint c.toNat cs = (c, cs) := by
  have hvalid : c.toNat < 0xD800 ∨ 0xDFFF < c.toNat ∧ c.toNat < 0x110000 := c.valid
  have hhigh : isHigh c.toNat = false := by
    simp only [isHigh, Bool.and_eq_false_iff, decide_eq_false_iff_not]
    omega
  have hlow : isLow c.toNat = false := by
    simp only [isLow, Bool.and_eq_false_iff, decide_eq_false_iff_not]
    omega
  simp only [codePoint, hhigh, hlow, if_false, Bool.false_eq_true, Char.ofNat_toNat]

/-- The two halves of a pair make up a character again. -/
private theorem codePoint_pair {high low : Nat} (hhigh : high < 0x400) (hlow : low < 0x400)
    (cs : List Char) :
    codePoint (0xD800 + high) (('\\' :: 'u' :: Text.hex 4 (0xDC00 + low)) ++ cs) =
      (Char.ofNat (0x10000 + high * 0x400 + low), cs) := by
  have hfirst : isHigh (0xD800 + high) = true := by
    simp only [isHigh, Bool.and_eq_true, decide_eq_true_eq]
    omega
  have hsecond : isLow (0xDC00 + low) = true := by
    simp only [isLow, Bool.and_eq_true, decide_eq_true_eq]
    omega
  simp only [codePoint, hfirst, List.cons_append, unit?_hex (show 0xDC00 + low < 0x10000 by omega),
    hsecond, if_true, Nat.add_sub_cancel_left]

/-- An escape by which a text is read back character by character. -/
def Spells (esc : Char → List Char) : Prop :=
  ∀ fuel read c cs, text? (fuel + 1) read (esc c ++ cs) = text? fuel (c :: read) cs

theorem spells_escape : Spells escape := by
  intro fuel read c cs
  have ofNat {n : Nat} (h : (c.toNat == n) = true) : c = Char.ofNat n := by
    rw [← eq_of_beq h, Char.ofNat_toNat]
  unfold escape
  split
  case isTrue h => rw [eq_of_beq h]; rfl
  split
  case isTrue h => rw [eq_of_beq h]; rfl
  split
  case isTrue h => rw [eq_of_beq h]; rfl
  split
  case isTrue h => rw [eq_of_beq h]; rfl
  split
  case isTrue h => rw [eq_of_beq h]; rfl
  split
  case isTrue h => rw [ofNat h]; rfl
  split
  case isTrue h => rw [ofNat h]; rfl
  split
  case isTrue h =>
    have hsmall : c.toNat < 0x10000 := by omega
    rw [text?_unit hsmall, codePoint_toNat hsmall]
  case isFalse quote slash _ _ _ _ _ printable =>
    simp only [List.cons_append, List.nil_append, text?, quote, slash, printable, if_false,
      Bool.false_eq_true]

theorem spells_escapeLatin : Spells escapeLatin := by
  intro fuel read c cs
  unfold escapeLatin
  split
  case isTrue => exact spells_escape fuel read c cs
  split
  case isTrue hsmall => rw [text?_unit hsmall, codePoint_toNat hsmall]
  case isFalse hlarge =>
    have hvalid : c.toNat < 0xD800 ∨ 0xDFFF < c.toNat ∧ c.toNat < 0x110000 := c.valid
    obtain ⟨n, hn⟩ : ∃ n, c.toNat = 0x10000 + n := ⟨c.toNat - 0x10000, by omega⟩
    have hc : Char.ofNat (0x10000 + n / 0x400 * 0x400 + n % 0x400) = c := by
      rw [Nat.add_assoc, Nat.div_add_mod', ← hn, Char.ofNat_toNat]
    simp only [hn, Nat.add_sub_cancel_left, List.append_assoc]
    rw [text?_unit (by omega), codePoint_pair (by omega) (by omega), hc]

namespace Spells
variable {esc : Char → List Char} (h : Spells esc)
include h

theorem text?_flatMap {fuel : Nat} (read s rest : List Char) (hfuel : s.length < fuel) :
    text? fuel read (s.flatMap esc ++ '"' :: rest) =
      some (String.ofList (read.reverse ++ s), rest) := by
  induction s generalizing fuel read with
  | nil =>
    obtain ⟨fuel, rfl⟩ : ∃ n, fuel = n + 1 := ⟨fuel - 1, by simp at hfuel; omega⟩
    simp [text?]
  | cons c s ih =>
    obtain ⟨fuel, rfl⟩ : ∃ n, fuel = n + 1 := ⟨fuel - 1, by simp at hfuel; omega⟩
    rw [List.flatMap_cons, List.append_assoc, h, ih _ (by simpa using hfuel)]
    simp

/-- No character is left out. -/
private theorem length_pos (c : Char) : 0 < (esc c).length := by
  -- Otherwise a character would be read where none is left.
  apply List.length_pos_iff.mpr
  intro hempty
  have hread := h 0 [] c ['"']
  rw [hempty] at hread
  cases hread

private theorem length_le_flatMap (s : List Char) : s.length ≤ (s.flatMap esc).length := by
  induction s with
  | nil => exact Nat.le_refl 0
  | cons c s ih =>
    have hc := h.length_pos c
    rw [List.flatMap_cons, List.length_append, List.length_cons]
    omega

/-- What follows the opening quote of a text is the text up to its closing quote. -/
theorem text?_quoted (s : String) (rest : List Char) :
    let cs := s.toList.flatMap esc ++ '"' :: rest
    text? (cs.length + 1) [] cs = some (s, rest) := by
  have hlen := h.length_le_flatMap s.toList
  intro cs
  rw [h.text?_flatMap [] s.toList rest (by simp only [cs, List.length_append]; omega)]
  simp

end Spells

end Dialogue.Json
