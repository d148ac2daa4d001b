import Dialogue.Validation
import Mathlib.Data.List.Count

/-! Which texts pass for mail addresses. The matching that tries one choice after the other accepts
exactly those that a description without any choices allows. -/
namespace Dialogue

namespace Pattern
variable {alike : Bool} {cls : CharClass} {k : Next}

/-- The place after some more characters. -/
def Place.past (s : Place) (xs ys : List Char) : Place :=
  { s with back := xs.reverse ++ s.back, rest := ys, position := s.position + xs.length }

theorem Place.past_past (s : Place) (x : Char) (xs ys zs : List Char) :
    (s.past [x] zs).past xs ys = s.past (x :: xs) ys := by
  simp only [past, List.reverse_cons, List.reverse_nil, List.nil_append, List.append_assoc,
    List.length_cons, List.length_nil, Nat.zero_add, Nat.add_assoc, Nat.add_comm 1]

/-- The text that is left begins with characters of the class, and after them comes what is to come
next. -/
def Passes (alike : Bool) (cls : CharClass) (s : Place) (k : Next) : Prop :=
  ∃ xs ys, s.rest = xs ++ ys ∧ (∀ c ∈ xs, cls.mem alike c = true) ∧ (k (s.past xs ys)).isSome = true

theorem isSome_run_char (s : Place) : (run alike (.char cls) s k).isSome = true ↔
    ∃ c cs, s.rest = c :: cs ∧ cls.mem alike c = true ∧ (k (s.past [c] cs)).isSome = true := by
  rw [run, Place.step?]
  cases hrest : s.rest with
  | nil => simp
  | cons c cs =>
    by_cases hc : cls.mem alike c = true
    · simp [hc, Place.past]
    · simp [hc]

/-- Some characters of a class, or none, if more may be read than are there. -/
private theorem isSome_repeated {fuel : Nat} {last : Option Nat} {s : Place}
    (hfuel : s.rest.length < fuel) (hlast : ∀ q ∈ last, q < s.position) :
    (repeated (run alike (.char cls)) true fuel 0 none last s k).isSome = true ↔
      Passes alike cls s k := by
  induction fuel generalizing s last with
  | zero => exact absurd hfuel (Nat.not_lt_zero _)
  | succ fuel ih =>
    have hmoved : (last == some s.position) = false := by
      refine beq_false_of_ne fun h => ?_
      exact Nat.lt_irrefl _ (hlast _ h)
    have hunfold : repeated (run alike (.char cls)) true (fuel + 1) 0 none last s k =
        (run alike (.char cls) s fun t => repeated (run alike (.char cls)) true fuel 0 none
          (some s.position) t k).orElse fun _ => k s := by
      rw [repeated]
      simp [hmoved]
    rw [hunfold, Option.orElse_eq_or, Option.isSome_or, Bool.or_eq_true, isSome_run_char]
    constructor
    · rintro (⟨c, cs, hrest, hc, hnext⟩ | hnext)
      · have hfuel' : (s.past [c] cs).rest.length < fuel := by
          rw [hrest, List.length_cons] at hfuel
          exact Nat.lt_of_succ_lt_succ hfuel
        obtain ⟨xs, ys, hcs, hxs, hk⟩ := (ih hfuel' fun q hq => by
          rw [← Option.some.inj hq]
          exact Nat.lt_succ_self _).mp hnext
        refine ⟨c :: xs, ys, ?_, List.forall_mem_cons.mpr ⟨hc, hxs⟩, ?_⟩
        · rw [hrest, show cs = xs ++ ys from hcs, List.cons_append]
        · rwa [Place.past_past] at hk
      · exact ⟨[], s.rest, rfl, nofun, hnext⟩
    · rintro ⟨xs, ys, hrest, hxs, hk⟩
      cases xs with
      | nil =>
        rw [List.nil_append] at hrest
        subst hrest
        exact .inr hk
      | cons c xs =>
        obtain ⟨hc, hxs⟩ := List.forall_mem_cons.mp hxs
        have hfuel' : (s.past [c] (xs ++ ys)).rest.length < fuel := by
          rw [hrest, List.cons_append, List.length_cons] at hfuel
          exact Nat.lt_of_succ_lt_succ hfuel
        refine .inl ⟨c, xs ++ ys, hrest, hc, (ih hfuel' fun q hq => ?_).mpr ⟨xs, ys, rfl, hxs, ?_⟩⟩
        · rw [← Option.some.inj hq]
          exact Nat.lt_succ_self _
        · rwa [Place.past_past]

/-- However many characters of a class are tried, what counts is that there is a way to part the
text. -/
theorem isSome_run_many (s : Place) : (run alike (many cls) s k).isSome = true ↔
    ∃ xs ys, s.rest = xs ++ ys ∧ xs ≠ [] ∧ (∀ c ∈ xs, cls.mem alike c = true) ∧
      (k (s.past xs ys)).isSome = true := by
  have hunfold : run alike (many cls) s k = run alike (.char cls) s fun t =>
      repeated (run alike (.char cls)) true (1 + s.rest.length + 1) 0 none (some s.position) t k :=
    rfl
  have hmore (c : Char) (cs : List Char) (hrest : s.rest = c :: cs) :
      (repeated (run alike (.char cls)) true (1 + s.rest.length + 1) 0 none (some s.position)
        (s.past [c] cs) k).isSome = true ↔ Passes alike cls (s.past [c] cs) k := by
    refine isSome_repeated ?_ fun q hq => ?_
    · rw [hrest, List.length_cons]
      change cs.length < _
      omega
    · rw [← Option.some.inj hq]
      exact Nat.lt_succ_self _
  rw [hunfold, isSome_run_char]
  constructor
  · rintro ⟨c, cs, hrest, hc, hnext⟩
    obtain ⟨xs, ys, hcs, hxs, hk⟩ := (hmore c cs hrest).mp hnext
    refine ⟨c :: xs, ys, ?_, List.cons_ne_nil c xs, List.forall_mem_cons.mpr ⟨hc, hxs⟩, ?_⟩
    · rw [hrest, show cs = xs ++ ys from hcs, List.cons_append]
    · rwa [Place.past_past] at hk
  · rintro ⟨xs, ys, hrest, hne, hxs, hk⟩
    obtain ⟨c, xs, rfl⟩ := List.exists_cons_of_ne_nil hne
    obtain ⟨hc, hxs⟩ := List.forall_mem_cons.mp hxs
    refine ⟨c, xs ++ ys, hrest, hc, (hmore c (xs ++ ys) hrest).mpr ⟨xs, ys, rfl, hxs, ?_⟩⟩
    rwa [Place.past_past]

theorem isSome_run_one {d : Char} (s : Place) : (run false (.char (.one d)) s k).isSome = true ↔
    ∃ cs, s.rest = d :: cs ∧ (k (s.past [d] cs)).isSome = true := by
  rw [isSome_run_char]
  constructor
  · rintro ⟨c, cs, hrest, hc, hnext⟩
    have hcd : c = d := by simpa [CharClass.mem] using hc
    subst hcd
    exact ⟨cs, hrest, hnext⟩
  · rintro ⟨cs, hrest, hnext⟩
    exact ⟨d, cs, hrest, by simp [CharClass.mem], hnext⟩

end Pattern

namespace Validation
open Pattern (run many isSome_run_many isSome_run_one)

/-- The text without one line end at its end. -/
def withoutLineEnd (cs : List Char) : List Char :=
  if cs.getLast? = some '\n' then cs.dropLast else cs

/-- No blank and a single at sign, something before it, and after it a point with something on
either side. -/
structure IsAddress (cs : List Char) : Prop where
  noBlank : ∀ c ∈ cs, Text.isBlank c = false
  oneSign : cs.count '@' = 1
  parts : ∃ name domain, cs = name ++ '@' :: domain ∧ name ≠ [] ∧
    ∃ i, 0 < i ∧ i + 1 < domain.length ∧ domain[i]? = some '.'

/-- A text that is not empty, without a blank and without the at sign. -/
def IsPart (cs : List Char) : Prop :=
  cs ≠ [] ∧ ∀ c ∈ cs, addressPart.mem false c = true

theorem mem_addressPart {c : Char} :
    addressPart.mem false c = true ↔ Text.isBlank c = false ∧ c ≠ '@' := by
  simp [addressPart, CharClass.mem, CharClass.memAny]

theorem withoutLineEnd_eq_iff {cs body : List Char} (h : body.getLast? ≠ some '\n') :
    withoutLineEnd cs = body ↔ cs = body ∨ cs = body ++ ['\n'] := by
  rw [withoutLineEnd]
  split_ifs with hlast
  · obtain ⟨front, rfl⟩ := List.getLast?_eq_some_iff.mp hlast
    rw [List.dropLast_concat, List.append_left_inj]
    refine ⟨.inr, ?_⟩
    rintro (rfl | rfl)
    · exact absurd hlast h
    · rfl
  · refine ⟨.inl, ?_⟩
    rintro (rfl | rfl)
    · rfl
    · exact absurd List.getLast?_concat hlast

/-- The description of an address by what it contains and the one by its parts are the same. -/
theorem isAddress_iff_parts {cs : List Char} : IsAddress cs ↔
    ∃ xs ys zs, cs = xs ++ '@' :: (ys ++ '.' :: zs) ∧ IsPart xs ∧ IsPart ys ∧ IsPart zs := by
  constructor
  · rintro ⟨hblank, hone, name, domain, rfl, hname, i, hi, hlen, hpoint⟩
    have hdomain : domain = domain.take i ++ '.' :: domain.drop (i + 1) := by
      obtain ⟨hlt, hget⟩ := List.getElem?_eq_some_iff.mp hpoint
      rw [← hget, List.getElem_cons_drop, List.take_append_drop]
    have hnone : name.count '@' = 0 ∧ domain.count '@' = 0 := by
      rw [List.count_append, List.count_cons_self] at hone
      omega
    have hpart (xs : List Char) (hne : xs ≠ []) (hsub : ∀ c ∈ xs, c ∈ name ∨ c ∈ domain) :
        IsPart xs := by
      refine ⟨hne, fun c hc => mem_addressPart.mpr ⟨hblank c ?_, ?_⟩⟩
      · rcases hsub c hc with h | h
        · exact List.mem_append_left _ h
        · exact List.mem_append_right _ (List.mem_cons_of_mem _ h)
      · rintro rfl
        rcases hsub _ hc with h | h
        · exact List.count_eq_zero.mp hnone.1 h
        · exact List.count_eq_zero.mp hnone.2 h
    refine ⟨name, domain.take i, domain.drop (i + 1), by rw [← hdomain], hpart _ hname ?_,
      hpart _ ?_ ?_, hpart _ ?_ ?_⟩
    · exact fun c hc => .inl hc
    · exact List.ne_nil_of_length_pos (by rw [List.length_take]; omega)
    · exact fun c hc => .inr (List.mem_of_mem_take hc)
    · exact List.ne_nil_of_length_pos (by rw [List.length_drop]; omega)
    · exact fun c hc => .inr (List.mem_of_mem_drop hc)
  · rintro ⟨xs, ys, zs, rfl, hxs, hys, hzs⟩
    have hcount {part : List Char} (h : IsPart part) : part.count '@' = 0 :=
      List.count_eq_zero.mpr fun hmem => (mem_addressPart.mp (h.2 _ hmem)).2 rfl
    refine ⟨fun c hc => ?_, ?_, xs, ys ++ '.' :: zs, rfl, hxs.1, ys.length, ?_, ?_, ?_⟩
    · rcases List.mem_append.mp hc with hc | hc
      · exact (mem_addressPart.mp (hxs.2 c hc)).1
      rcases List.mem_cons.mp hc with rfl | hc
      · decide
      rcases List.mem_append.mp hc with hc | hc
      · exact (mem_addressPart.mp (hys.2 c hc)).1
      rcases List.mem_cons.mp hc with rfl | hc
      · decide
      · exact (mem_addressPart.mp (hzs.2 c hc)).1
    · rw [List.count_append, List.count_cons_self, List.count_append,
        List.count_cons_of_ne (by decide), hcount hxs, hcount hys, hcount hzs]
    · exact List.length_pos_iff.mpr hys.1
    · have := List.length_pos_iff.mpr hzs.1
      rw [List.length_append, List.length_cons]
      omega
    · simp

theorem IsAddress.getLast?_ne {cs : List Char} (h : IsAddress cs) : cs.getLast? ≠ some '\n' := by
  intro hlast
  have hblank := h.noBlank '\n' (List.mem_of_getLast? hlast)
  exact absurd hblank (by decide)

/-- What the matching looks for, one part after the other. -/
theorem isEmail_iff (s : String) : isEmail s = true ↔
    ∃ xs ys zs, IsPart xs ∧ IsPart ys ∧ IsPart zs ∧
      (s.toList = xs ++ '@' :: (ys ++ '.' :: zs) ∨
        s.toList = xs ++ '@' :: (ys ++ '.' :: zs) ++ ['\n']) := by
  have hunfold : isEmail s = (run false (many addressPart) (.start s.toList) fun t =>
      run false (.char (.one '@')) t fun t => run false (many addressPart) t fun t =>
      run false (.char (.one '.')) t fun t => run false (many addressPart) t fun t =>
      run false .atEnd t some).isSome := rfl
  have hend (t : Pattern.Place) : (run false .atEnd t some).isSome = true ↔
      t.rest = [] ∨ t.rest = ['\n'] := by
    by_cases h : t.rest = [] ∨ t.rest = ['\n'] <;> simp [run, h]
  simp only [hunfold, isSome_run_many, isSome_run_one, hend]
  constructor
  · rintro ⟨xs, _, hs, hx, hxs, _, rfl, ys, _, rfl, hy, hys, _, rfl, zs, tail, rfl, hz, hzs, htail⟩
    refine ⟨xs, ys, zs, ⟨hx, hxs⟩, ⟨hy, hys⟩, ⟨hz, hzs⟩, ?_⟩
    change s.toList = _ at hs
    rcases htail with rfl | rfl
    · exact .inl (by simpa using hs)
    · exact .inr (by simpa using hs)
  · rintro ⟨xs, ys, zs, ⟨hx, hxs⟩, ⟨hy, hys⟩, ⟨hz, hzs⟩, hs⟩
    obtain ⟨tail, htail, hs⟩ : ∃ tail, (tail = [] ∨ tail = ['\n']) ∧
        s.toList = xs ++ '@' :: (ys ++ '.' :: (zs ++ tail)) := by
      rcases hs with hs | hs
      · exact ⟨[], .inl rfl, by simpa using hs⟩
      · exact ⟨['\n'], .inr rfl, by simpa using hs⟩
    exact ⟨xs, _, hs, hx, hxs, _, rfl, ys, _, rfl, hy, hys, _, rfl, zs, tail, rfl, hz, hzs, htail⟩

/-- An answer passes for a mail address if and only if it is one, whatever message goes with the
rule. One line end after the address is let through. -/
theorem accepts_email_iff (message s : String) :
    (({ kind := "email", message } : Validation).accepts s).1 = true ↔
      IsAddress (withoutLineEnd s.toList) := by
  have haccepts : ({ kind := "email", message } : Validation).accepts s = (isEmail s, []) := by
    cases h : isEmail s <;> simp [accepts, meetsKind, h]
  rw [haccepts, isEmail_iff]
  constructor
  · rintro ⟨xs, ys, zs, hxs, hys, hzs, hs⟩
    have haddress : IsAddress (xs ++ '@' :: (ys ++ '.' :: zs)) :=
      isAddress_iff_parts.mpr ⟨xs, ys, zs, rfl, hxs, hys, hzs⟩
    rwa [(withoutLineEnd_eq_iff haddress.getLast?_ne).mpr hs]
  · intro haddress
    obtain ⟨xs, ys, zs, hbody, hxs, hys, hzs⟩ := isAddress_iff_parts.mp haddress
    refine ⟨xs, ys, zs, hxs, hys, hzs, (withoutLineEnd_eq_iff ?_).mp hbody⟩
    rw [← hbody]
    exact haddress.getLast?_ne

/-- Some point has to stand inside the domain, not each of them. -/
example : isEmail "a@.b.c\n" = true ∧ isEmail "a@.b\n" = false := by decide +kernel

end Validation

end Dialogue
