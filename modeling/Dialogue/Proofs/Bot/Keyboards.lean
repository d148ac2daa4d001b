import Dialogue.Proofs.Bot.Capture
import Dialogue.Proofs.Bot.Choices

/-! What is remembered of the presses of keyboards. Each is put on record under its payload, read as
a path. A later press wipes out the records that lie on the way to its own, and those behind it, and
no others. -/
namespace Dialogue

theorem Value.kept_eq_text_iff {v : Value} {s : String} : v.kept = .text s ↔ v = .text s := by
  cases v with
  | float x =>
    rw [kept, finiteOnly]
    split
    · rw [reread, rereadFloat_eq]
    · simp only [reread, reduceCtorEq]
  | _ => simp

namespace Bot
open Turn

/-- The press of a keyboard is on record. -/
def Recorded (payload : String) (fs : Table String Value) : Prop :=
  Path.get (.dict fs) (Path.ofString (pressPath payload)) = .text payload

/-- The data with the press of a keyboard on record. -/
def recording (payload : String) (fs : Table String Value) : Table String Value :=
  Path.set fs (Path.ofString (pressPath payload)) (.text payload)

/-- The same presses are on record. -/
def SameRecords (old fs : Table String Value) : Prop :=
  ∀ payload, Recorded payload fs ↔ Recorded payload old

section
variable {fs gs old : Table String Value} {p q : String}

/-- Where a text stands, no other text does, and nothing lies behind it. -/
private theorem get_text_ne (h : q ≠ p) (r : Path) : Path.get (.text q) r ≠ .text p := by
  cases r with
  | nil =>
    rw [Path.get_nil]
    exact fun e => h (Value.text.inj e)
  | cons k r => nofun

/-- A press puts itself on record, and leaves the records beside its own. -/
theorem recorded_recording_iff : Recorded p (recording q fs) ↔
    q = p ∨ (Path.ofString q).Incomparable (Path.ofString p) ∧ Recorded p fs := by
  by_cases hqp : q = p
  · subst hqp
    exact iff_of_true (Path.get_set_self fs (Path.ofString_ne_nil _) _) (.inl rfl)
  rw [Recorded, recording, Recorded, ofString_pressPath, ofString_pressPath]
  by_cases hbehind : Path.ofString q <+: Path.ofString p
  · obtain ⟨r, hr⟩ := hbehind
    have hget := Path.get_set_append fs (List.cons_ne_nil "keyboard" (Path.ofString q)) r (.text q)
    rw [List.cons_append, hr] at hget
    rw [hget]
    refine iff_of_false (get_text_ne hqp r) ?_
    rintro (h | ⟨⟨h, -⟩, -⟩)
    · exact hqp h
    · exact h ⟨r, hr⟩
  by_cases haround : Path.ofString p <+: Path.ofString q
  · obtain ⟨r, hr⟩ := haround
    cases r with
    | nil =>
      rw [List.append_nil] at hr
      exact absurd ⟨[], by rw [List.append_nil, hr]⟩ hbehind
    | cons k r =>
      have hget := Path.get_set_of_append fs ("keyboard" :: Path.ofString p) k r (.text q)
      rw [List.cons_append, hr] at hget
      rw [hget]
      refine iff_of_false nofun ?_
      rintro (h | ⟨⟨-, h⟩, -⟩)
      · exact hqp h
      · exact h ⟨k :: r, hr⟩
  · have happart : (Path.ofString q).Incomparable (Path.ofString p) := ⟨hbehind, haround⟩
    have hpaths : Path.Incomparable ("keyboard" :: Path.ofString q)
        ("keyboard" :: Path.ofString p) :=
      ⟨fun h => hbehind (List.cons_prefix_cons.mp h).2,
        fun h => haround (List.cons_prefix_cons.mp h).2⟩
    rw [Path.get_set_of_incomparable fs hpaths]
    exact ⟨fun h => .inr ⟨happart, h⟩, fun h => (h.resolve_left hqp).2⟩

theorem SameRecords.recording (h : SameRecords old fs) (q : String) :
    SameRecords (recording q old) (recording q fs) := fun p => by
  rw [recorded_recording_iff, recorded_recording_iff, h p]

/-- After the last press of a payload, its record is left alone just by the presses beside it. -/
theorem recorded_presses_iff {later earlier : List String} (h : p ∉ later) :
    Recorded p ((later ++ p :: earlier).foldr recording fs) ↔
      ∀ q ∈ later, (Path.ofString q).Incomparable (Path.ofString p) := by
  induction later with
  | nil => exact iff_of_true (recorded_recording_iff.mpr (.inl rfl)) nofun
  | cons q later ih =>
    obtain ⟨hpq, hlater⟩ := not_or.mp (mt List.mem_cons.mpr h)
    rw [List.cons_append, List.foldr_cons, recorded_recording_iff, ih hlater,
      or_iff_right fun e => hpq e.symm, List.forall_mem_cons]

private theorem pressPath_incomparable (payload : String) :
    (Path.ofString (pressPath payload)).Incomparable WaitMarker.path :=
  Path.incomparable_of_head (head?_pressPath payload) rfl (by decide)

theorem SameRecords.set_marker (h : SameRecords old fs) (v : Value) :
    SameRecords old (Path.set fs WaitMarker.path v) := fun p => by
  rw [Recorded, Path.get_set_of_incomparable fs (pressPath_incomparable p).symm]
  exact h p

theorem SameRecords.lasting (old : Table String Value) : Lasting (SameRecords old) where
  kept hwell h hkept p := by
    rw [Recorded, hkept, Value.get_kept hwell, Value.kept_eq_text_iff]
    exact h p
  disarm _ h := h.set_marker .null

end

/-- The store works, and the same presses of an actor are on record as in some data. -/
def Remembers (actor : Int) (old : Table String Value) : Scene → Prop :=
  Holds actor (fun f => ∀ t n, f t n = none) (SameRecords old)

/-- A payload that means nothing by itself: nothing is registered for it, it does not pick from a
menu, and it is no JSON object. -/
structure IsBare (b : Bot) (payload : String) : Prop where
  free : b.catalog.registered? payload = none
  unmarked : ¬ Press.menuMark.toList <+: payload.toList
  noObject : ∀ fs, Json.read? payload ≠ some (.dict fs)

theorem IsBare.press {b : Bot} {payload : String} (h : b.IsBare payload) :
    b.catalog.press payload = .ok (.keyboard, []) := by
  have hmark : Press.menuMark.toList.isPrefixOf payload.toList = false := by
    rw [Bool.eq_false_iff, Ne, List.isPrefixOf_iff_prefix]
    exact h.unmarked
  rw [Catalog.press, h.free, Press.byForm, hmark]
  simp only [Bool.false_eq_true, if_false]
  split
  · rename_i fs hread
    exact absurd hread (h.noObject fs)
  · rfl

/-- A run in which keyboards are pressed, the last press first. Before the presses, between them and
after them there may be anything that leaves the records alone. -/
inductive Pressed (b : Bot) (actor : Int) (w : World) : List String → World → Prop
  | start : b.Pressed actor w [] w
  | meanwhile {ps : List String} {v v' : World} (h : b.Pressed actor w ps v)
    (hleft : ∀ old, Remembers actor old v.scene → Remembers actor old v'.scene) :
    b.Pressed actor w ps v'
  | press {ps : List String} {v : World} (h : b.Pressed actor w ps v) {payload : String}
    (hbare : b.IsBare payload) {c : Context} (hc : v.scene.context? actor = some c)
    (hrun : c.isIdle = false) (hkeyboard : (b.keyboardStep? c).isSome = true)
    (hspares : ∀ a ∈ arrivals (b.eventLaps actor (.press payload) v).dropLast,
      ∀ old, b.Spares actor (Remembers actor old) a.step) :
    b.Pressed actor w (payload :: ps) (on (b.handle actor (.press payload)) v).2

section
variable {b : Bot} {actor : Int} {w v : World} {c : Context} {old : Table String Value}
  {payload : String}

/-- Under a keyboard, a press that means nothing by itself is put on record before all else. -/
theorem leads_pressAlone_remembers {s : Scene} (hs : Remembers actor old s)
    (hbare : b.IsBare payload) (hc : s.context? actor = some c) (hrun : c.isIdle = false)
    (hkeyboard : (b.keyboardStep? c).isSome = true) {R : Scene → Prop} :
    Leads (· = s) (b.pressAlone actor payload)
      (fun q t => Remembers actor (recording payload old) t ∧ q.IsPlain) R := by
  obtain ⟨hstore, d, hd, hid, hsame⟩ := hs
  obtain rfl := Option.some.inj (hc.symm.trans hd)
  obtain ⟨m, hm⟩ := Option.isSome_iff_exists.mp hkeyboard
  have hreliable : s.Reliable := hstore
  have hwell := Store.context?_wellFormed hc
  simp only [pressAlone, hbare.press, ofResult, pure_bind, noted_nil, pressByFormAlone,
    pressKeyboardAlone]
  refine (Contexts.leads_get hreliable).bind fun o => Leads.at_each fun t ht => ?_
  obtain ⟨rfl, rfl⟩ := ht
  simp only [hc, hrun, hm, Bool.false_eq_true, if_false]
  refine (Contexts.leads_setVariable hreliable hc _ _).bind fun _ => Leads.pure fun u hu => ?_
  refine ⟨(SameRecords.lasting (recording payload old)).holds
    (d := c.setData (Path.ofString (pressPath payload)) (.text payload)) hstore hid
    (Context.setData_legible (Store.context?_legible hc) _ rfl)
    (Value.nests_wellFormed.set hwell _ trivial) (hsame.recording payload) hu, ?_⟩
  exact Sequel.isPlain_proceed _

/-- Whatever the press leads to, it is on record in the end, with all that it has left. -/
theorem handle_press_remembers (hl : b.Lucid) (hv : Remembers actor old v.scene)
    (hbare : b.IsBare payload) (hc : v.scene.context? actor = some c) (hrun : c.isIdle = false)
    (hkeyboard : (b.keyboardStep? c).isSome = true)
    (hspares : ∀ a ∈ arrivals (b.eventLaps actor (.press payload) v).dropLast,
      ∀ old, b.Spares actor (Remembers actor old) a.step) :
    Remembers actor (recording payload old) (on (b.handle actor (.press payload)) v).2.scene := by
  have hE := SameRecords.lasting (recording payload old)
  refine holds_handle (laps_hold (P := (· = v.scene))
    (fun q hq => leads_reach_holds hE hl.toLegible hq) _ (fun a ha hst => ?_)
    (leads_pressAlone_remembers hv hbare hc hrun hkeyboard) rfl)
  exact leads_stepAlone_holds hE hl hst (hspares a ha _) fun _ _ _ _ h => h.set_marker _

/-- What is on record after a run is what its presses alone leave of the records from before. -/
theorem Pressed.remembers (hl : b.Lucid) (hw : Remembers actor old w.scene) {ps : List String}
    (h : b.Pressed actor w ps v) :
    Remembers actor (ps.foldr recording old) v.scene := by
  induction h with
  | start => exact hw
  | meanwhile _ hleft ih => exact hleft _ ih
  | press _ hbare hc hrun hkeyboard hspares ih =>
    exact handle_press_remembers hl ih hbare hc hrun hkeyboard hspares

theorem Pressed.on_variableAt (hl : b.Lucid) (hs : w.scene.Reliable)
    (hc : w.scene.context? actor = some c) (hid : c.hasReadableId = true) {ps : List String}
    (h : b.Pressed actor w ps v) (payload : String) :
    ∃ x v', on (Contexts.variableAt actor (Path.ofString (pressPath payload))) v = (.ok x, v') ∧
      (x = .text payload ↔ Recorded payload (ps.foldr recording c.data)) := by
  have hw : Remembers actor c.data w.scene := ⟨hs, c, hc, hid, fun _ => Iff.rfl⟩
  obtain ⟨hstore, d, hd, -, hsame⟩ := h.remembers hl hw
  have hreliable : v.scene.Reliable := hstore
  obtain ⟨v', hon, -⟩ := Contexts.on_variableAt
    (p := Path.ofString (pressPath payload)) hd (hreliable.writesAt _).1
  exact ⟨_, v', hon, hsame payload⟩

/-- Where a keyboard leads nowhere, its presses are all that happens. -/
theorem rewritten_handle_press {m : Step.Message} (hs : v.scene.Reliable) (hbare : b.IsBare payload)
    (hc : v.scene.context? actor = some c) (hrun : c.isIdle = false)
    (hm : b.keyboardStep? c = some m) (hnext : m.next = none) :
    v.scene.Rewritten (on (b.handle actor (.press payload)) v).2.scene actor
      (c.written (Path.ofString (pressPath payload)) (.text payload)) := by
  obtain ⟨u, hget, hscene, -⟩ := Contexts.on_get_of_readsAt hc (hs.writesAt _).1
  have hknown : u.store.context? u.now actor = some c := by
    rw [← hc, ← hscene]
    rfl
  have hreliable : u.scene.Reliable := by rwa [hscene]
  obtain ⟨w', hset, hw'⟩ := Contexts.on_setVariable
    (p := Path.ofString (pressPath payload)) (v := .text payload) hknown (hreliable.writesAt _)
  have hhandle : on (b.handle actor (.press payload)) v = (.ok .ok, w') := by
    rw [handle, on_rescue, react_of_form hbare.press (by simp), pressByForm, pressKeyboard, on_bind,
      hget]
    simp only [hrun, hm, Bool.false_eq_true, if_false, setAt, on_bind, hset, proceed, hnext]
    rfl
  rw [hhandle]
  exact hscene ▸ hw'

end

def drinks : Step.Message := { text := "What to drink?", keyboard := some "drinks" }

def canteen : Bot where
  catalog := {
    flows := [("order", { name := "order", steps := [⟨some "drink", .message drinks⟩] })]
    frozen := true }

theorem canteen_lucid : canteen.Lucid where
  adminChat := rfl
  steps name f hf := by
    rw [(Table.eq_of_value?_singleton hf).2]
    decide
  question s q hs hq := by
    obtain ⟨name, f, hf, hs⟩ := hs
    rw [(Table.eq_of_value?_singleton hf).2, List.mem_singleton] at hs
    rw [hs] at hq
    cases hq
  action payload a ha := nomatch ha

/-- Someone who was asked what to drink. -/
def thirsty : Context :=
  { Context.fresh 1 1 with currentFlow := "order", flowMode := true, forwarding := false }

private theorem hasReadableId_thirsty : thirsty.kept.hasReadableId = true :=
  (Context.hasReadableId_kept _).trans (hasReadableId_first rfl rfl)

/-- Where the keyboard of the drinks is shown. -/
private def AtDrinks (s : Scene) : Prop :=
  s.Reliable ∧ ∃ c, s.context? 1 = some c ∧ c.Tidy ∧ c.hasReadableId = true ∧
    c.position = ⟨"order", 0, []⟩

private theorem atDrinks_thirsty : AtDrinks (keeping thirsty).scene := by
  refine ⟨fun _ _ => rfl, thirsty.kept, context?_keeping _, Context.kept_tidy _,
    hasReadableId_thirsty, ?_⟩
  exact Context.position_kept (hasReadableId_first rfl rfl)
    (Context.isLegible_iff.mpr ⟨Decimal.isReadable_zero, rfl, rfl, rfl, rfl, rfl⟩) rfl

private theorem keyboardStep?_drinks {c : Context} (h : c.position = ⟨"order", 0, []⟩) :
    c.isIdle = false ∧ canteen.keyboardStep? c = some drinks := by
  have hflow : c.currentFlow = "order" := congrArg Position.flow h
  have hstep : c.currentStep = 0 := congrArg Position.step h
  refine ⟨?_, ?_⟩
  · rw [Context.isIdle, hflow]
    rfl
  · rw [keyboardStep?, hflow, hstep]
    rfl

/-- One more drink is pressed. -/
private theorem pressed_drink {payload : String} (hbare : canteen.IsBare payload)
    {ps : List String} {w v : World} (h : canteen.Pressed 1 w ps v) (hv : AtDrinks v.scene) :
    ∃ v', canteen.Pressed 1 w (payload :: ps) v' ∧ AtDrinks v'.scene := by
  obtain ⟨hs, c, hc, htidy, hid, hposition⟩ := hv
  obtain ⟨hrun, hstep⟩ := keyboardStep?_drinks hposition
  refine ⟨_, h.press hbare hc hrun (by rw [hstep]; rfl) fun _ _ _ _ _ _ _ hh => (by cases hh), ?_⟩
  have hw' := rewritten_handle_press hs hbare hc hrun hstep rfl
  refine ⟨hw'.reliable hs, _, hw'.context?, Context.kept_tidy _,
    (Context.hasReadableId_written _ _).trans hid, ?_⟩
  rw [Context.position_written hid htidy _ rfl]
  exact hposition

private theorem tea_isBare : canteen.IsBare "tea" where
  free := rfl
  unmarked := by decide
  noObject fs h := by
    have hnone : Json.read? "tea" = none := by decide +kernel
    rw [hnone] at h
    cases h

private theorem green_tea_isBare : canteen.IsBare "tea.green" where
  free := rfl
  unmarked := by decide
  noObject fs h := by
    have hnone : Json.read? "tea.green" = none := by decide +kernel
    rw [hnone] at h
    cases h

private theorem exists_pressed_teas :
    ∃ v, canteen.Pressed 1 (keeping thirsty) (["tea.green"] ++ "tea" :: []) v := by
  obtain ⟨u, hu, hu'⟩ := pressed_drink tea_isBare .start atDrinks_thirsty
  obtain ⟨v, hv, -⟩ := pressed_drink green_tea_isBare hu hu'
  exact ⟨v, hv⟩

end Bot

end Dialogue
