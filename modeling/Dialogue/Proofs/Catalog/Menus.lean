import Dialogue.Proofs.Catalog.Building

/-! Whose menu a payload was picked from. Among the menu steps of a flow the first counts whose lead
the payload begins with, so a step can take what was meant for a later one: an id may be the
beginning of another, up to a low line. -/
namespace Dialogue

/-- A menu step takes a payload for one of its own. -/
def Step.Claims (s : Step) (payload : String) : Prop :=
  ∃ m, s.work = .menu m ∧ (m.lead s.id ++ "_").toList <+: payload.toList

namespace Flow
variable {f : Flow} {payload value : String} {i : Nat} {m : Step.Menu}

/-- What a step at a position makes of a payload. -/
private def taken (payload : String) (e : Step × Nat) : Option (Nat × Step.Menu × String) :=
  match e.1.work with
  | .menu m =>
    let head := (m.lead e.1.id ++ "_").toList
    if head.isPrefixOf payload.toList then
      some (e.2, m, String.ofList (payload.toList.drop head.length))
    else none
  | _ => none

private theorem matchMenu_eq : f.matchMenu payload = f.steps.zipIdx.findSome? (taken payload) :=
  rfl

private theorem taken_eq_none_iff {e : Step × Nat} :
    taken payload e = none ↔ ¬ e.1.Claims payload := by
  rw [taken, Step.Claims]
  split
  · rename_i n hn
    simp [hn, List.isPrefixOf_iff_prefix]
  · rename_i hother
    exact iff_of_true rfl fun ⟨n, hn, _⟩ => hother n hn

private theorem index_of_taken {e : Step × Nat} (h : taken payload e = some (i, m, value)) :
    e.2 = i := by
  rw [taken] at h
  split at h
  · simp only at h
    split at h
    · exact congrArg Prod.fst (Option.some.inj h)
    · cases h
  · cases h

/-- A payload goes to a step that claims it unless an earlier one does. -/
theorem matchMenu_of_first {s : Step} (hs : f.steps[i]? = some s) (hm : s.work = .menu m)
    (hpayload : payload.toList = (m.lead s.id ++ "_").toList ++ value.toList)
    (hfirst : ∀ j < i, ∀ t, f.steps[j]? = some t → ¬ t.Claims payload) :
    f.matchMenu payload = some (i, m, value) := by
  obtain ⟨hi, hget⟩ := List.getElem?_eq_some_iff.mp hs
  have hlength : i < f.steps.zipIdx.length := by rwa [List.length_zipIdx]
  have hsplit : f.steps.zipIdx =
      f.steps.zipIdx.take i ++ (s, i) :: f.steps.zipIdx.drop (i + 1) := by
    have hitem : f.steps.zipIdx[i] = (s, i) := by simp [hget]
    rw [← hitem, List.getElem_cons_drop, List.take_append_drop]
  rw [matchMenu_eq, List.findSome?_eq_some_iff]
  refine ⟨_, _, _, hsplit, ?_, fun e he => ?_⟩
  · rw [taken]
    simp only [hm]
    rw [if_pos (List.isPrefixOf_iff_prefix.mpr ⟨_, hpayload.symm⟩), hpayload, List.drop_left,
      String.ofList_toList]
  · obtain ⟨j, hj, rfl⟩ := List.mem_iff_getElem.mp he
    rw [List.length_take] at hj
    rw [taken_eq_none_iff]
    refine hfirst j (by omega) _ ?_
    simp

/-- No step before the one that a payload goes to claims it. -/
theorem first_of_matchMenu (h : f.matchMenu payload = some (i, m, value)) {j : Nat} (hj : j < i)
    {t : Step} (ht : f.steps[j]? = some t) : ¬ t.Claims payload := by
  rw [matchMenu_eq, List.findSome?_eq_some_iff] at h
  obtain ⟨before, e, after, hsplit, he, hnone⟩ := h
  have hat : f.steps.zipIdx[before.length]? = some e := by simp [hsplit]
  have hindex : before.length = i := by
    rw [List.getElem?_zipIdx] at hat
    obtain ⟨s, -, rfl⟩ := Option.map_eq_some_iff.mp hat
    simpa using index_of_taken he
  have hmem : (t, j) ∈ before := by
    have hthere : f.steps.zipIdx[j]? = some (t, j) := by simp [List.getElem?_zipIdx, ht]
    rw [hsplit, List.getElem?_append_left (by omega)] at hthere
    exact List.mem_of_getElem? hthere
  exact taken_eq_none_iff.mp (hnone _ hmem)

end Flow

namespace Catalog

/-- Steps of a list have different ids. -/
private theorem pairwise_of_repeatedIds {seen : List String} {steps : List Step}
    (h : repeatedIds seen steps = []) : (∀ s ∈ steps, ∀ id ∈ seen, s.id ≠ some id) ∧
      steps.Pairwise fun s t => ∀ id, s.id = some id → t.id ≠ some id := by
  induction steps generalizing seen with
  | nil => exact ⟨nofun, .nil⟩
  | cons s steps ih =>
    rw [repeatedIds] at h
    split at h
    · rename_i hnone
      obtain ⟨hseen, hpairs⟩ := ih h
      refine ⟨List.forall_mem_cons.mpr ⟨?_, hseen⟩, .cons ?_ hpairs⟩
      · simp [hnone]
      · simp [hnone]
    · rename_i id hid
      split at h
      · cases h
      · rename_i hnew
        obtain ⟨hseen, hpairs⟩ := ih h
        refine ⟨List.forall_mem_cons.mpr ⟨?_, ?_⟩, .cons ?_ hpairs⟩
        · rintro _ hmem he
          rw [hid] at he
          exact hnew (Option.some.inj he ▸ hmem)
        · exact fun t ht id hmem => hseen t ht id (List.mem_cons_of_mem _ hmem)
        · intro t ht id' he
          rw [hid] at he
          exact hseen t ht id' (Option.some.inj he ▸ List.mem_cons_self ..)

/-- No two steps of a registered flow have the same id. -/
theorem ne_id_of_register {k l : Catalog} {f : Flow} (h : k.register f = .ok l) {i j : Nat}
    (hij : i < j) {s t : Step} (hs : f.steps[i]? = some s) (ht : f.steps[j]? = some t)
    {id : String} (hid : s.id = some id) : t.id ≠ some id := by
  obtain ⟨hi, rfl⟩ := List.getElem?_eq_some_iff.mp hs
  obtain ⟨hj, rfl⟩ := List.getElem?_eq_some_iff.mp ht
  exact List.pairwise_iff_getElem.mp (pairwise_of_repeatedIds (repeatedIds_register h)).2 i j hi hj
    hij id hid

end Catalog

namespace Flow

/-- Up to the first low line, texts without one are told apart. -/
private theorem eq_of_begins {as bs rest : List Char} (has : '_' ∉ as) (hbs : '_' ∉ bs)
    (h : as ++ ['_'] <+: bs ++ '_' :: rest) : as = bs := by
  induction as generalizing bs with
  | nil => cases bs with
    | nil => rfl
    | cons c bs =>
      have hc : '_' = c := (List.cons_prefix_cons.mp h).1
      exact absurd (hc ▸ List.mem_cons_self ..) hbs
  | cons a as ih => cases bs with
    | nil =>
      have ha : a = '_' := (List.cons_prefix_cons.mp h).1
      exact absurd (ha ▸ List.mem_cons_self ..) has
    | cons b bs =>
      obtain ⟨rfl, htail⟩ := List.cons_prefix_cons.mp h
      rw [ih (mt (List.mem_cons_of_mem _) has) (mt (List.mem_cons_of_mem _) hbs) htail]

theorem payload_of_fits {lead : String} {menu : Menu} {n : Nat} {text : String} {v : Value}
    {key : Button} (hv : menu.items[n]? = some (text, v))
    (hkey : (Keyboard.ofMenu lead menu).1[0]?.bind (·[n]?) = some key)
    (hfits : Text.byteSize (lead ++ "_" ++ v.display).toList ≤ Keyboard.payloadLimit) :
    key.payload = lead ++ "_" ++ v.display := by
  have hrow : (Keyboard.ofMenu lead menu).1[0]?.bind (·[n]?) =
      some ⟨text, (Keyboard.menuPayload lead v).1⟩ := by
    simp [Keyboard.ofMenu, hv]
  rw [hrow] at hkey
  rw [← Option.some.inj hkey]
  simp only [Keyboard.menuPayload]
  rw [if_neg (Nat.not_lt.mpr hfits)]

/-- What was picked from a menu goes to its step unless an earlier menu step claims it, which no
step does as long as neither sets its own lead and no id holds a low line. -/
theorem matchMenu_ofMenu {k l : Catalog} {f : Flow} (hf : k.register f = .ok l) {i : Nat}
    {id : String} {m : Step.Menu} (hs : f.steps[i]? = some ⟨some id, .menu m⟩)
    (hlead : filled? m.callbackPrefix = none) {menu : Menu} {n : Nat} {text : String} {v : Value}
    {key : Button} (hv : menu.items[n]? = some (text, v))
    (hkey : (Keyboard.ofMenu (m.lead (some id)) menu).1[0]?.bind (·[n]?) = some key)
    (hfits : Text.byteSize (m.lead (some id) ++ "_" ++ v.display).toList ≤ Keyboard.payloadLimit) :
    (f.matchMenu key.payload = some (i, m, v.display) ↔
      ∀ j < i, ∀ s, f.steps[j]? = some s → ¬ s.Claims key.payload) ∧
    ('_' ∉ id.toList →
      (∀ j < i, ∀ s m', f.steps[j]? = some s → s.work = .menu m' →
        filled? m'.callbackPrefix = none ∧ ∃ id', s.id = some id' ∧ '_' ∉ id'.toList) →
      f.matchMenu key.payload = some (i, m, v.display)) := by
  have hpayload := payload_of_fits hv hkey hfits
  have hiff : f.matchMenu key.payload = some (i, m, v.display) ↔
      ∀ j < i, ∀ s, f.steps[j]? = some s → ¬ s.Claims key.payload := by
    refine ⟨fun h j hj s hs => first_of_matchMenu h hj hs, fun h => ?_⟩
    refine matchMenu_of_first hs rfl ?_ h
    rw [hpayload, String.toList_append]
  refine ⟨hiff, fun hid hothers => hiff.mpr fun j hj s hsj hclaims => ?_⟩
  obtain ⟨m', hm', hbegins⟩ := hclaims
  obtain ⟨hlead', id', hid', hplain⟩ := hothers j hj s m' hsj hm'
  have hsame : id' = id := by
    rw [hpayload, hid', Step.Menu.lead, Step.Menu.lead, hlead, hlead'] at hbegins
    simp only [Option.getD_some, String.toList_append, List.append_assoc] at hbegins
    exact String.toList_inj.mp
      (eq_of_begins hplain hid ((List.prefix_append_right_inj _).mp hbegins))
  exact Catalog.ne_id_of_register hf hj hsj hs hid' (by rw [hsame])

def cities : Step.Menu := { handler := "cities", saveTo := "trip.city" }

def hotels : Step.Menu := { handler := "hotels", saveTo := "trip.hotel" }

def hotelMenu : Menu := ⟨"Which hotel?", [("The Ritz", .text "Ritz")]⟩

/-- A flow with a menu of cities and one of hotels. -/
def trip : Flow :=
  { name := "trip", steps := [⟨some "city", .menu cities⟩, ⟨some "hotel", .menu hotels⟩] }

theorem matchMenu_ofMenu_hotel : ∃ l key, ({} : Catalog).register trip = .ok l ∧
    (Keyboard.ofMenu (hotels.lead (some "hotel")) hotelMenu).1 = [[key]] ∧
    trip.matchMenu key.payload = some (1, hotels, "Ritz") := by
  have hs : trip.steps[1]? = some ⟨some "hotel", .menu hotels⟩ := rfl
  have hv : hotelMenu.items[0]? = some ("The Ritz", .text "Ritz") := rfl
  refine ⟨_, _, rfl, rfl, (matchMenu_ofMenu (k := {}) rfl hs rfl hv rfl (by decide +kernel)).2
    (by decide +kernel) fun j hj s m hsj hm => ?_⟩
  obtain rfl : j = 0 := by omega
  obtain rfl := Option.some.inj hsj
  rw [← Step.Work.menu.inj hm]
  exact ⟨rfl, "city", rfl, by decide +kernel⟩

/-- The same flow, with the id of the first menu step at the beginning of the other. -/
def detour : Flow :=
  { name := "trip", steps := [⟨some "city", .menu cities⟩, ⟨some "city_hotel", .menu hotels⟩] }

/-- Different ids are not enough: a hotel is taken for a city. -/
theorem detour_misled : ¬ ∀ (k l : Catalog) (f : Flow) (i : Nat) (id : String) (m : Step.Menu)
    (menu : Menu) (n : Nat) (text : String) (v : Value) (key : Button), k.register f = .ok l →
    f.steps[i]? = some ⟨some id, .menu m⟩ → filled? m.callbackPrefix = none →
    menu.items[n]? = some (text, v) →
    (Keyboard.ofMenu (m.lead (some id)) menu).1[0]?.bind (·[n]?) = some key →
    Text.byteSize (m.lead (some id) ++ "_" ++ v.display).toList ≤ Keyboard.payloadLimit →
    f.matchMenu key.payload = some (i, m, v.display) := by
  intro h
  have hmatch := h {} _ detour 1 "city_hotel" hotels hotelMenu 0 "The Ritz" (.text "Ritz") _ rfl rfl
    rfl rfl rfl (by decide +kernel)
  have hindex := congrArg (Option.map (·.1)) hmatch
  revert hindex
  decide +kernel

end Flow

end Dialogue
