import Mathlib.Data.List.Forall2
import Mathlib.Data.List.TakeWhile
import Dialogue.Settings.Expansion
import Dialogue.Text.Blank

/-! What expansion makes of a tree: the same tree, but for its texts. Each text is passed over once
from left to right, and a reference in it becomes the value of its name, or its fallback, or stays
as it is. -/
namespace Dialogue.Settings
variable {env : Environment}

namespace EnvReference
variable {r : EnvReference} {cs : List Char}

/-- The name is one or more word characters, and the fallback does not close the braces. -/
structure Proper (r : EnvReference) : Prop where
  name_ne : r.name ≠ []
  word : ∀ c ∈ r.name, Text.isWord c = true
  inside : ∀ f ∈ r.fallback, '\x7d' ∉ f

/-- What a reference becomes. An empty value is a value too. -/
inductive Becomes (env : Environment) (r : EnvReference) : List Char → Prop
  | value {s : String} (h : Table.value? env (String.ofList r.name) = some s) :
      Becomes env r s.toList
  | fallback {f : List Char} (h : Table.value? env (String.ofList r.name) = none)
      (hf : r.fallback = some f) : Becomes env r f
  | itself (h : Table.value? env (String.ofList r.name) = none) (hf : r.fallback = none) :
      Becomes env r r.written

theorem becomes_iff {w : List Char} : r.Becomes env w ↔ r.value env = w := by
  constructor
  · rintro (h | ⟨h, hf⟩ | ⟨h, hf⟩)
    · rw [value, h]
    · rw [value, h, hf]
      rfl
    · rw [value, h, hf]
      rfl
  · rintro rfl
    rw [value]
    cases h : Table.value? env (String.ofList r.name) with
    | some s => exact .value h
    | none =>
      cases hf : r.fallback with
      | some f => exact .fallback h hf
      | none => exact .itself h hf

/-- A fallback ends in front of the first brace that closes. -/
private theorem takeWhile_closed {f : List Char} (hf : '\x7d' ∉ f) (cs : List Char) :
    (f ++ '\x7d' :: cs).takeWhile (· != '\x7d') = f :=
  Text.takeWhile_append_stop (fun _ hc => bne_iff_ne.mpr (ne_of_mem_of_not_mem hc hf)) (by simp)

section
variable {name : List Char} (hne : name ≠ []) (hword : ∀ c ∈ name, Text.isWord c = true)
include hne hword

private theorem read?_closed (cs : List Char) :
    read? ('$' :: '\x7b' :: (name ++ '\x7d' :: cs)) = some ⟨name, none⟩ := by
  have hstop : ∀ c ∈ ('\x7d' :: cs).head?, Text.isWord c = false := by
    simp [Text.isWord]
  simp only [read?, Text.takeWhile_append_stop hword hstop, Text.dropWhile_append_stop hword hstop]
  rw [if_neg (mt List.isEmpty_iff.mp hne)]

private theorem read?_default {f : List Char} (hf : '\x7d' ∉ f) (cs : List Char) :
    read? ('$' :: '\x7b' :: (name ++ ':' :: '-' :: (f ++ '\x7d' :: cs))) =
      some ⟨name, some f⟩ := by
  have hstop : ∀ c ∈ (':' :: '-' :: (f ++ '\x7d' :: cs)).head?, Text.isWord c = false := by
    simp [Text.isWord]
  simp only [read?, Text.takeWhile_append_stop hword hstop, Text.dropWhile_append_stop hword hstop,
    takeWhile_closed hf]
  rw [if_neg (mt List.isEmpty_iff.mp hne), if_pos (by simp)]

end

private theorem proper_of_read? : read? cs = some r → r.Proper ∧ r.written <+: cs := by
  fun_cases read? cs with
  | case2 cs name hne rest hclosed =>
    rintro ⟨⟩
    have hsplit := List.takeWhile_append_dropWhile (p := Text.isWord) (l := cs)
    rw [hclosed] at hsplit
    refine ⟨⟨mt List.isEmpty_iff.mpr hne, fun c => List.mem_takeWhile_imp, nofun⟩, rest, ?_⟩
    rw [← hsplit]
    simp [written, name]
  | case3 cs name hne rest hdefault hany =>
    rintro ⟨⟩
    have hsplit := List.takeWhile_append_dropWhile (p := Text.isWord) (l := cs)
    rw [hdefault] at hsplit
    obtain ⟨f, rest, rfl, hf⟩ := List.eq_append_cons_of_mem (by simpa using hany : '\x7d' ∈ rest)
    refine ⟨⟨mt List.isEmpty_iff.mpr hne, fun c => List.mem_takeWhile_imp, ?_⟩, rest, ?_⟩
    · rintro _ ⟨⟩
      rwa [takeWhile_closed hf]
    · rw [← hsplit]
      simp [written, name, takeWhile_closed hf]
  | case1 | case4 | case5 | case6 => nofun

/-- A reference is read exactly where it is written, so no two are written at one place. -/
theorem read?_eq_some_iff : read? cs = some r ↔ r.Proper ∧ r.written <+: cs := by
  refine ⟨proper_of_read?, ?_⟩
  rintro ⟨⟨hne, hword, hinside⟩, rest, rfl⟩
  obtain ⟨name, fallback⟩ := r
  cases fallback with
  | none =>
    have hread := read?_closed hne hword rest
    simpa [written] using hread
  | some f =>
    have hread := read?_default hne hword (hinside f rfl) rest
    simpa [written] using hread

end EnvReference

open EnvReference (Proper Becomes)

/-- One pass over a text. What a reference becomes is put in its place, and reading goes on behind
the reference. A dollar sign at which no reference begins stands for itself. -/
inductive Passes (env : Environment) : List Char → List Char → Prop
  | done : Passes env [] []
  | literal {ls cs ds : List Char} (hl : '$' ∉ ls) (h : Passes env cs ds) :
      Passes env (ls ++ cs) (ls ++ ds)
  | reference {r : EnvReference} {w cs ds : List Char} (hr : Proper r) (hw : Becomes env r w)
      (h : Passes env cs ds) : Passes env (r.written ++ cs) (w ++ ds)
  | dollar {cs ds : List Char} (hd : ∀ r, Proper r → ¬ r.written <+: '$' :: cs)
      (h : Passes env cs ds) : Passes env ('$' :: cs) ('$' :: ds)

private theorem expandFrom_skip (n : Nat) (cs : List Char) :
    expandFrom env n cs = expandFrom env 0 (cs.drop n) := by
  induction cs generalizing n with
  | nil => rw [List.drop_nil, expandFrom, expandFrom]
  | cons c cs ih =>
    cases n with
    | zero => rfl
    | succ n => rw [expandFrom, ih, List.drop_succ_cons]

private theorem expandFrom_written {r : EnvReference} (hr : Proper r) (cs : List Char) :
    expandFrom env 0 (r.written ++ cs) = r.value env ++ expandFrom env 0 cs := by
  have hread := EnvReference.read?_eq_some_iff.mpr ⟨hr, List.prefix_append r.written cs⟩
  obtain ⟨tail, htail⟩ : ∃ tail, r.written = '$' :: tail := ⟨_, rfl⟩
  rw [htail, List.cons_append] at hread ⊢
  simp only [expandFrom, hread]
  rw [expandFrom_skip, htail, List.length_cons, Nat.add_sub_cancel, List.drop_left]

private theorem expandFrom_cons {c : Char} {cs : List Char}
    (h : ∀ r, Proper r → ¬ r.written <+: c :: cs) :
    expandFrom env 0 (c :: cs) = c :: expandFrom env 0 cs := by
  have hread : EnvReference.read? (c :: cs) = none := by
    rw [Option.eq_none_iff_forall_ne_some]
    intro r hr
    obtain ⟨hproper, hwritten⟩ := EnvReference.read?_eq_some_iff.mp hr
    exact h r hproper hwritten
  simp only [expandFrom, hread]

private theorem expandFrom_literal {ls : List Char} (hl : '$' ∉ ls) (cs : List Char) :
    expandFrom env 0 (ls ++ cs) = ls ++ expandFrom env 0 cs := by
  induction ls with
  | nil => rfl
  | cons c ls ih =>
    obtain ⟨hc, hl⟩ := not_or.mp (mt List.mem_cons.mpr hl)
    rw [List.cons_append, expandFrom_cons, ih hl, List.cons_append]
    intro r _ hprefix
    exact hc (List.cons_prefix_cons.mp hprefix).1

theorem passes_expandFrom (cs : List Char) : Passes env cs (expandFrom env 0 cs) := by
  -- On the length and not on the list: reading goes on behind a whole reference.
  induction hn : cs.length using Nat.strongRecOn generalizing cs with
  | ind n ih =>
    subst hn
    cases cs with
    | nil => exact .done
    | cons c cs =>
      by_cases h : ∃ r, Proper r ∧ r.written <+: c :: cs
      · obtain ⟨r, hr, rest, hrest⟩ := h
        have hshorter : rest.length < (c :: cs).length := by
          rw [← hrest, List.length_append]
          simp [EnvReference.written]
        rw [← hrest, expandFrom_written hr]
        exact .reference hr (EnvReference.becomes_iff.mpr rfl) (ih _ hshorter rest rfl)
      · have h : ∀ r, Proper r → ¬ r.written <+: c :: cs := fun r hr hp => h ⟨r, hr, hp⟩
        have hrest := ih cs.length (Nat.lt_succ_self _) cs rfl
        rw [expandFrom_cons h]
        by_cases hc : c = '$'
        · subst hc
          exact .dollar h hrest
        · have hplain : '$' ∉ [c] := by simpa using Ne.symm hc
          exact .literal hplain hrest

theorem expandFrom_eq_iff {cs ds : List Char} : expandFrom env 0 cs = ds ↔ Passes env cs ds := by
  constructor
  · rintro rfl
    exact passes_expandFrom cs
  · intro h
    induction h with
    | done => rfl
    | literal hl _ ih => rw [expandFrom_literal hl, ih]
    | reference hr hw _ ih => rw [expandFrom_written hr, ih, EnvReference.becomes_iff.mp hw]
    | dollar hd _ ih => rw [expandFrom_cons hd, ih]

/-- The same tree, but for its texts. -/
inductive Expands (env : Environment) : Value → Value → Prop
  | null : Expands env .null .null
  | bool (b : Bool) : Expands env (.bool b) (.bool b)
  | int (n : Int) : Expands env (.int n) (.int n)
  | float (x : Float) : Expands env (.float x) (.float x)
  | text {s t : String} (h : Passes env s.toList t.toList) : Expands env (.text s) (.text t)
  | list {xs ys : List Value} (h : List.Forall₂ (Expands env) xs ys) :
      Expands env (.list xs) (.list ys)
  | dict {fs gs : Table String Value} (hkeys : Table.keys gs = Table.keys fs)
      (h : List.Forall₂ (Expands env) (fs.map Prod.snd) (gs.map Prod.snd)) :
      Expands env (.dict fs) (.dict gs)

private theorem keys_expandFields (fs : Table String Value) :
    Table.keys (expandFields env fs) = Table.keys fs := by
  induction fs with
  | nil => rfl
  | cons e fs ih =>
    obtain ⟨k, x⟩ := e
    change k :: Table.keys (expandFields env fs) = k :: Table.keys fs
    rw [ih]

mutual

private theorem expands_expand : ∀ v : Value, Expands env v (expand env v)
  | .null => .null
  | .bool b => .bool b
  | .int n => .int n
  | .float x => .float x
  | .text s => .text (by rw [expandText, String.toList_ofList]; exact passes_expandFrom s.toList)
  | .list xs => .list (expands_expandItems xs)
  | .dict fs => .dict (keys_expandFields fs) (expands_expandFields fs)

private theorem expands_expandItems : ∀ xs : List Value,
    List.Forall₂ (Expands env) xs (expandItems env xs)
  | [] => .nil
  | x :: xs => .cons (expands_expand x) (expands_expandItems xs)

private theorem expands_expandFields : ∀ fs : List (String × Value),
    List.Forall₂ (Expands env) (fs.map Prod.snd) ((expandFields env fs).map Prod.snd)
  | [] => .nil
  | (_, x) :: fs => .cons (expands_expand x) (expands_expandFields fs)

end

mutual

private theorem Expands.eq : ∀ {v w : Value}, Expands env v w → expand env v = w
  | .null, _, .null | .bool _, _, .bool _ | .int _, _, .int _ | .float _, _, .float _ => rfl
  | .text s, _, .text h => by
    rw [expand, expandText, expandFrom_eq_iff.mpr h, String.ofList_toList]
  | .list xs, _, .list h => by rw [expand, expandItems_eq h]
  | .dict fs, _, .dict hkeys h => by rw [expand, expandFields_eq hkeys h]

private theorem expandItems_eq : ∀ {xs ys : List Value},
    List.Forall₂ (Expands env) xs ys → expandItems env xs = ys
  | [], _, .nil => rfl
  | x :: xs, _, .cons h hs => by rw [expandItems, h.eq, expandItems_eq hs]

private theorem expandFields_eq : ∀ {fs gs : List (String × Value)},
    Table.keys gs = Table.keys fs →
    List.Forall₂ (Expands env) (fs.map Prod.snd) (gs.map Prod.snd) → expandFields env fs = gs
  | [], [], _, _ => rfl
  | (k, x) :: fs, (l, y) :: gs, hkeys, .cons h hs => by
    obtain ⟨hk, hrest⟩ := List.cons.inj hkeys
    cases hk
    rw [expandFields, h.eq, expandFields_eq hrest hs]

end

/-- Expansion makes of a tree the one tree that differs from it in its texts only, each of them
passed over once: whatever literal pieces and references a text is put together from, literal pieces
stay and each reference becomes what it has to. -/
theorem expand_eq_iff (env : Environment) (v w : Value) : expand env v = w ↔ Expands env v w := by
  constructor
  · rintro rfl
    exact expands_expand v
  · exact Expands.eq

/-- What takes the place of a reference is no reference, and the first brace ends a fallback. -/
example : expandText [("A", "$\x7bB\x7d"), ("B", "no"), ("E", "")]
    "$$\x7bA\x7d.$\x7bE:-f\x7d$\x7bN:-$\x7bB\x7d\x7d$\x7bN\x7d" =
      "$$\x7bB\x7d.$\x7bB\x7d$\x7bN\x7d" := by decide +kernel

end Dialogue.Settings
