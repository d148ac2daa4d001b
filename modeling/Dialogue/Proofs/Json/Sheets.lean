import Dialogue.Proofs.Json.Rereading

/-! A sheet is read back as the dictionary that it was written for, if its whole numbers do not have
too many digits. -/
namespace Dialogue.Json

/-- What an entry of a sheet may hold: a text, or a whole number that can be read again. -/
def IsScalar : Value → Prop
  | .text _ => True
  | .int n => Decimal.isReadable n = true
  | _ => False

/-- An entry as it stands on its line. -/
def line (k : String) (x : Value) : List Char :=
  quote escapeLatin k ++ ':' :: ' ' :: plainScalar x

/-- The lines of a sheet from the first entry to the closing brace. -/
def lines : List (String × Value) → List Char
  | [] => []
  | (k, x) :: fs =>
    line k x ++ if fs.isEmpty then ['\n', '\x7d'] else ',' :: '\n' :: ' ' :: ' ' :: lines fs

private theorem toList_intercalate_line (e : String × Value) (fs : List (String × Value)) :
    (",\n".intercalate ((e :: fs).map fun e => "  " ++ String.ofList (quote escapeLatin e.1) ++ ": "
      ++ String.ofList (plainScalar e.2))).toList ++ ['\n', '\x7d'] =
      ' ' :: ' ' :: lines (e :: fs) := by
  induction fs generalizing e with
  | nil =>
    rw [List.map_singleton, String.intercalate_singleton]
    simp [lines, line]
  | cons d fs ih =>
    rw [List.map_cons, String.intercalate_cons_of_ne_nil (by simp), String.toList_append,
      List.append_assoc, ih d]
    simp [lines, line]

theorem toList_sheet (e : String × Value) (fs : List (String × Value)) :
    (sheet (e :: fs)).toList = '\x7b' :: '\n' :: ' ' :: ' ' :: lines (e :: fs) := by
  rw [← toList_intercalate_line]
  simp [sheet]

/-- A text or a number on a line is read back as it was. -/
theorem value?_plainScalar {x : Value} (hx : IsScalar x) (fuel : Nat) {rest : List Char}
    (hr : Ends rest) : value? (fuel + 1) (plainScalar x ++ rest) = some (x, rest) := by
  cases x with
  | text s =>
    have hcs : plainScalar (.text s) ++ rest =
        '"' :: (s.toList.flatMap escapeLatin ++ '"' :: rest) := by simp [plainScalar, quote]
    rw [hcs, value?]
    simp only [spells_escapeLatin.text?_quoted s rest, Option.map_some]
  | int n =>
    have hread : Decimal.isReadable n = true := hx
    have hplain : plainScalar (.int n) = (toString n).toList := rfl
    rw [hplain, value?_number fuel (toString_eq_cons n), scalar?_int n hr, if_pos hread]
  | _ => exact hx.elim

theorem skip_plainScalar {x : Value} (hx : IsScalar x) (rest : List Char) :
    skip (' ' :: (plainScalar x ++ rest)) = plainScalar x ++ rest := by
  have hblank (cs : List Char) : skip (' ' :: cs) = skip cs := rfl
  rw [hblank]
  cases x with
  | text s => rfl
  | int n =>
    obtain ⟨c, cs, hcs, hc⟩ := toString_eq_cons n
    have hplain : plainScalar (.int n) = (toString n).toList := rfl
    rw [hplain, hcs, List.cons_append, skip_plain hc.1]
  | _ => exact hx.elim

/-- A value on a line ends there, be it before the next line or before the closing brace. -/
private theorem ends_line (fs : List (String × Value)) (rest : List Char) :
    Ends ((if fs.isEmpty then ['\n', '\x7d'] else ',' :: '\n' :: ' ' :: ' ' :: lines fs) ++
      rest) := by
  cases fs with
  | nil => exact .inr (.inr (.inr rfl))
  | cons e fs => exact .inl rfl

theorem entries?_lines {fs : List (String × Value)} (hne : fs ≠ [])
    (hfs : ∀ e ∈ fs, IsScalar e.2) {fuel : Nat} (h : (lines fs).length < fuel) (rest : List Char) :
    entries? fuel (lines fs ++ rest) = some (fs, rest) := by
  induction fs generalizing fuel with
  | nil => exact absurd rfl hne
  | cons e fs ih =>
    obtain ⟨k, x⟩ := e
    obtain ⟨hx, hfs⟩ := List.forall_mem_cons.mp hfs
    have hline : 0 < (line k x).length := Nat.zero_lt_succ _
    rw [lines, List.length_append] at h
    obtain ⟨fuel, rfl⟩ : ∃ n, fuel = n + 2 := ⟨fuel - 2, by omega⟩
    have hvalue := value?_plainScalar hx fuel (ends_line fs rest)
    have hcolon (cs : List Char) : skip (':' :: cs) = ':' :: cs := rfl
    have hcs : lines ((k, x) :: fs) ++ rest = '"' :: (k.toList.flatMap escapeLatin ++
        '"' :: ':' :: ' ' :: (plainScalar x ++ ((if fs.isEmpty then ['\n', '\x7d']
          else ',' :: '\n' :: ' ' :: ' ' :: lines fs) ++ rest))) := by
      simp [lines, line, quote]
    rw [hcs, entries?]
    simp only [spells_escapeLatin.text?_quoted, hcolon, skip_plainScalar hx, hvalue]
    cases fs with
    | nil => rfl
    | cons e fs =>
      simp only [List.isEmpty_cons, Bool.false_eq_true, if_false, List.length_cons] at h
      have hfuel : (lines (e :: fs)).length < fuel + 1 := by omega
      have hnext := ih (List.cons_ne_nil _ _) hfs hfuel
      have hcomma (cs : List Char) : skip (',' :: cs) = ',' :: cs := rfl
      have hfront : skip ('\n' :: ' ' :: ' ' :: (lines (e :: fs) ++ rest)) =
          lines (e :: fs) ++ rest := rfl
      simp only [List.isEmpty_cons, Bool.false_eq_true, if_false, List.cons_append, hcomma, hfront,
        hnext, Option.map_some]

/-- A sheet is read back as it was written. -/
theorem read?_sheet {fs : List (String × Value)} (h : ∀ e ∈ fs, IsScalar e.2) :
    read? (sheet fs) = some (.dict (Table.ofEntries fs)) := by
  cases fs with
  | nil => rfl
  | cons e fs =>
    have hbrace : skip (sheet (e :: fs)).toList =
        '\x7b' :: '\n' :: ' ' :: ' ' :: lines (e :: fs) := by
      rw [toList_sheet]
      rfl
    have hentries := entries?_lines (List.cons_ne_nil e fs) h
      (show (lines (e :: fs)).length < (lines (e :: fs)).length + 4 by omega) []
    rw [List.append_nil] at hentries
    have hvalue : value? ((lines (e :: fs)).length + 5)
        ('\x7b' :: '\n' :: ' ' :: ' ' :: lines (e :: fs)) =
          (entries? ((lines (e :: fs)).length + 4) (lines (e :: fs))).map fun r =>
            (.dict (Table.ofEntries r.1), r.2) := rfl
    rw [read?]
    simp only [hbrace, List.length_cons, hvalue, hentries]
    rfl

end Dialogue.Json
