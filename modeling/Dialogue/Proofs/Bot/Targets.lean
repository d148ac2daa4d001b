import Dialogue.Proofs.Bot.Hosting
import Dialogue.Proofs.Bot.InTopic
import Dialogue.Proofs.Bot.Ownership

/-! The target of a topic flow. It is kept twice: as a field of the context, which every start of a
flow sets anew, and in the data, where only a start with a target writes it and nothing takes it
away. As long as the flow runs neither changes, so the two agree from the first step on or not at
all. -/
namespace Dialogue

/-- The place of the target in the data. -/
def Context.targetPath : Path := ["target_user_id"]

/-- A flow is started in a topic, for a target and in a chat if these are given. -/
abbrev Event.topicFlow (topic : Int) (name : String) (target chat : Option Int) : Event :=
  .startTopicFlow (.int topic) name (Value.ofOption .int target) (Value.ofOption .int chat)

/-- An event that starts no flow in a topic; a step that is run by hand belongs to the flow. -/
def Event.GoesOn (f : Flow) : Event → Prop
  | .startTopicFlow .. => False
  | .executeStep st => st ∈ f.steps
  | _ => True

theorem Event.GoesOn.isPlain_or {f : Flow} {e : Event} (h : e.GoesOn f) :
    e.IsPlain ∨ ∃ st ∈ f.steps, e = .executeStep st := by
  cases e with
  | startTopicFlow => exact h.elim
  | executeStep st => exact .inr ⟨st, h, rfl⟩
  | _ => exact .inl trivial

/-- No step of the flow writes where the target is kept, be it as the answer to a question, and no
menu writes into the question that is awaited, which says where its answer goes. -/
structure Flow.LeavesTarget (f : Flow) : Prop where
  question : ∀ s q, s ∈ f.steps → s.work = .question q →
    (Path.ofString q.saveTo).Incomparable Context.targetPath
  menu : ∀ s m, s ∈ f.steps → s.work = .menu m →
    (Path.ofString m.saveTo).Incomparable Context.targetPath ∧
      ∀ key r, Path.ofString m.saveTo ≠ WaitMarker.path ++ key :: r

namespace Catalog
variable {k : Catalog} {f : Flow} {target : Option Int} {copy : Value} {M M' : Value → Prop}
  {c : Context}

/-- What is kept of the question that is awaited, if there is one: it is a question of the flow. A
text is none. -/
def Awaits (k : Catalog) (f : Flow) (m : Value) : Prop :=
  m = .null ∨ (∃ t, m = .text t) ∨ k.Poses f m

/-- A flow is run on behalf of a target, with a value where the data keep the target, and something
holds of what the marker's place keeps. -/
structure Conducts (k : Catalog) (f : Flow) (target : Option Int) (copy : Value) (M : Value → Prop)
    (c : Context) : Prop where
  flow : k.flow? c.currentFlow = some f
  field : c.targetUserId = target
  copy : Path.get (.dict c.data) Context.targetPath = copy
  marker : M c.rawMarker

namespace Awaits

protected theorem kept {m : Value} (h : k.Awaits f m) : k.Awaits f m.kept := by
  rcases h with rfl | ⟨t, rfl⟩ | h
  · exact .inl rfl
  · exact .inr (.inl ⟨t, rfl⟩)
  · rw [h.kept]
    exact .inr (.inr h)

/-- The answer that is awaited is that to a question of the flow. -/
theorem waitMarker (h : k.Awaits f c.rawMarker) {w : WaitMarker} (hw : c.waitMarker.1 = some w) :
    ∃ s q, s ∈ f.steps ∧ s.work = .question q ∧ w = Bot.markerOf s.id q := by
  rcases h with hnull | ⟨t, ht⟩ | ⟨name, s, q, -, hs, hq, hm⟩
  · rw [Context.waitMarker, hnull] at hw
    cases hw
  · rw [Context.waitMarker, ht] at hw
    split at hw <;> cases hw
  · rw [Context.waitMarker_of_stored hm] at hw
    exact ⟨s, q, hs, hq, (Option.some.inj hw).symm⟩

theorem setData (h : k.Awaits f c.rawMarker) {p : Path} (hp : p.Incomparable WaitMarker.path)
    (v : Value) : k.Awaits f (c.setData p v).rawMarker := by
  rw [Context.rawMarker, Context.setData, Path.get_set_of_incomparable _ hp]
  exact h

/-- A text that is put around the marker, or in its place, leaves no marker. -/
theorem setData_text (h : k.Awaits f c.rawMarker) {p : Path} (hne : p ≠ [])
    (hp : ∀ key r, p ≠ WaitMarker.path ++ key :: r) (t : String) :
    k.Awaits f (c.setData p (.text t)).rawMarker := by
  by_cases haround : p <+: WaitMarker.path
  · obtain ⟨r, hr⟩ := haround
    rw [Context.rawMarker, Context.setData, ← hr, Path.get_set_append _ hne]
    cases r with
    | nil => exact .inr (.inl ⟨t, rfl⟩)
    | cons => exact .inl rfl
  · refine h.setData ⟨haround, ?_⟩ _
    rintro ⟨r, hr⟩
    cases r with
    | nil => exact haround ⟨[], by rw [List.append_nil, ← hr, List.append_nil]⟩
    | cons key r => exact hp key r hr.symm

end Awaits

namespace Conducts

theorem setData (h : k.Conducts f target copy M c) {p : Path}
    (hp : p.Incomparable Context.targetPath) {v : Value} (hM : M' (c.setData p v).rawMarker) :
    k.Conducts f target copy M' (c.setData p v) :=
  ⟨h.flow, h.field, (Path.get_set_of_incomparable _ hp v).trans h.copy, hM⟩

theorem mark (h : k.Conducts f target copy M c) {m : Value} (hM : M' m) :
    k.Conducts f target copy M' (c.setData WaitMarker.path m) :=
  h.setData (by decide) (by rwa [c.rawMarker_setMarker])

theorem aim (h : k.Conducts f target copy M c) (t : Int) :
    k.Conducts f target (.int t) M (c.setData Context.targetPath (.int t)) := by
  refine ⟨h.flow, h.field, Path.get_set_self _ (by decide) _, ?_⟩
  rw [c.rawMarker_setData (by decide)]
  exact h.marker

protected theorem kept (h : k.Conducts f target copy M c) (hM : ∀ m, M m → M m.kept)
    (hid : c.hasReadableId = true) (hlegible : c.isLegible = true)
    (hwell : (Value.dict c.data).WellFormed) : k.Conducts f target copy.kept M c.kept where
  flow := by
    rw [Context.currentFlow_kept hid hlegible]
    exact h.flow
  field := by
    rw [Context.kept_of_legible hid hlegible, Context.repair_eq]
    exact h.field
  copy := by rw [Context.dict_data_kept hid hlegible, Value.get_kept hwell, h.copy]
  marker := by
    rw [Context.rawMarker, Context.dict_data_kept hid hlegible, Value.get_kept hwell]
    exact hM _ h.marker

theorem steady (hcopy : copy.kept = copy) (hM : ∀ m, M m → M m.kept) (hnull : M .null) :
    Context.Steady (k.Conducts f target copy M) where
  kept hid hlegible hwell h := by
    have hkept := h.kept hM hid hlegible hwell
    rwa [hcopy] at hkept
  visit _ _ _ h := ⟨h.flow, h.field, h.copy, h.marker⟩
  relay _ h := ⟨h.flow, h.field, h.copy, h.marker⟩
  disarm h := h.mark hnull

end Conducts

end Catalog

namespace Context
variable {c : Context}

/-- A context in a topic that can be written and read. -/
structure Underway (c : Context) : Prop where
  inTopic : c.inTopic = true
  topicSound : c.topicSound = true
  readableId : c.hasReadableId = true
  legible : c.isLegible = true
  wellFormed : (Value.dict c.data).WellFormed

namespace Underway

protected theorem kept (h : c.Underway) : c.kept.Underway where
  inTopic := by
    rw [kept_of_legible h.readableId h.legible, repair_eq]
    exact Bool.and_eq_true_iff.mpr ⟨h.inTopic, h.topicSound⟩
  topicSound := c.kept_tidy.sound.1
  readableId := c.hasReadableId_kept.trans h.readableId
  legible := c.kept_tidy.legible
  wellFormed := c.kept_wellFormed

theorem setData (h : c.Underway) (p : Path) {v : Value} (hv : v.isReadable = true)
    (hwell : v.WellFormed) : (c.setData p v).Underway :=
  ⟨h.inTopic, h.topicSound, h.readableId, setData_legible h.legible p hv,
    Value.nests_wellFormed.set h.wellFormed p hwell⟩

theorem visit (h : c.Underway) (flow : String) {step : Int} (hs : Decimal.isReadable step = true)
    (now : String) : (c.visit flow step now).Underway :=
  ⟨h.inTopic, h.topicSound, h.readableId, visit_legible h.legible flow hs now, h.wellFormed⟩

end Underway

/-- The value that the data keep for the target after a topic flow began: a target that was given,
or else what had been there. -/
def copied (target : Option Int) (old : Value) : Value :=
  match target with
  | some t => .int t
  | none => old.kept

theorem kept_copied (target : Option Int) {old : Value} (h : old.WellFormed) :
    (copied target old).kept = copied target old := by
  cases target with
  | none => exact Value.kept_kept h
  | some t => rfl

/-- The copy is that of the target unless there is none and something had been left behind. -/
theorem copied_eq_iff (target : Option Int) (old : Value) :
    copied target old = Value.ofOption .int target ↔ target.isSome = true ∨ old.kept = .null := by
  cases target with
  | none => exact ⟨.inr, fun h => h.resolve_left Bool.false_ne_true⟩
  | some t => exact iff_of_true rfl (.inl rfl)

end Context

namespace Catalog
variable {k : Catalog} {f : Flow} {target : Option Int} {copy : Value} {M M' : Value → Prop}
  {c : Context}

/-- A flow is run in a topic on behalf of a target. -/
structure Embarks (k : Catalog) (f : Flow) (target : Option Int) (copy : Value) (M : Value → Prop)
    (c : Context) : Prop extends k.Conducts f target copy M c, c.Underway

protected theorem Embarks.kept (h : k.Embarks f target copy M c) (hM : ∀ m, M m → M m.kept) :
    k.Embarks f target copy.kept M c.kept :=
  ⟨h.toConducts.kept hM h.readableId h.legible h.wellFormed, h.toUnderway.kept⟩

section
variable {name : String} {topic chat : Int} (hlegible : c.isLegible = true)
  (hid : c.hasReadableId = true) (hwell : (Value.dict c.data).WellFormed)
  (hname : k.flow? name = some f) (htopic : Decimal.isReadable topic = true)
  (hchat : Decimal.isReadable chat = true) (htarget : target.all Decimal.isReadable = true)
include hlegible hid hwell hname htopic hchat htarget

private theorem embarks_beganInTopic (hM : M c.rawMarker) (hM' : ∀ m, M m → M m.kept) :
    k.Embarks f target (Path.get (.dict c.data) Context.targetPath).kept M
      (c.revised (·.beganInTopic name (some topic) (some chat) target)) := by
  have hsound : (c.beganInTopic name (some topic) (some chat) target).Sound :=
    ⟨rfl, Bool.or_true _⟩
  have hbegan := @Context.beganInTopic_legible c hlegible name (some topic) (some chat) target
    htopic hchat htarget
  rw [Context.revised, Context.repair_of_sound hsound]
  exact Embarks.kept ⟨⟨hname, rfl, rfl, hM⟩, rfl, rfl, hid, hbegan, hwell⟩ hM'

/-- The context that a topic flow begins with, whatever an earlier one has left in the data. -/
theorem embarks_start : k.Embarks f target
    (Context.copied target (Path.get (.dict c.data) Context.targetPath)) (k.Awaits f)
    (((c.revised (·.beganInTopic name (some topic) (some chat) target)).aimed
      (Value.ofOption .int target)).disarmed c.rawMarker) := by
  -- Until it is disarmed, the marker is only known to be there if it was there before.
  let M : Value → Prop := fun m => c.rawMarker.isNull = true → m = .null
  have hM : ∀ m, M m → M m.kept := fun m h hnull => by rw [h hnull, Value.kept_null]
  have hbegan := embarks_beganInTopic hlegible hid hwell hname htopic hchat htarget
    (fun hnull => Value.eq_null_of_isNull hnull) hM
  have haimed : k.Embarks f target
      (Context.copied target (Path.get (.dict c.data) Context.targetPath)) M
      ((c.revised (·.beganInTopic name (some topic) (some chat) target)).aimed
        (Value.ofOption .int target)) := by
    cases target with
    | none => exact hbegan
    | some t =>
      exact (Embarks.kept ⟨hbegan.toConducts.aim t,
        hbegan.toUnderway.setData Context.targetPath (v := .int t) htarget trivial⟩ hM :)
  rw [Context.disarmed]
  split
  · rename_i hnull
    exact ⟨⟨haimed.flow, haimed.field, haimed.copy, .inl (haimed.marker hnull)⟩, haimed.toUnderway⟩
  · have hdisarmed := Embarks.kept (M := k.Awaits f)
      ⟨haimed.toConducts.mark (.inl rfl), haimed.toUnderway.setData WaitMarker.path rfl trivial⟩
      fun _ => Awaits.kept
    rwa [Context.kept_copied] at hdisarmed
    exact Value.nests_wellFormed.get trivial hwell _

end

end Catalog

namespace Bot
open Turn Context

/-- As long as the actor is in a topic, this flow is run there for this target, and the answer to a
question of it is awaited or none. -/
abbrev Conducting (k : Catalog) (actor : Int) (f : Flow) (target : Option Int) (copy : Value) :
    Scene → Prop :=
  OnTopic actor (k.Conducts f target copy (k.Awaits f))

/-- A payload that does not write where the target is kept, or a registered one the marker, and
calls no handler that breaks what holds. -/
structure Harmless (b : Bot) (actor : Int) (I : Scene → Prop) (payload : String) : Prop where
  given : ∀ a path, (Press.byForm payload).1 = .json a → writtenBy a = some path →
    (Path.ofString path).Incomparable targetPath
  action : ∀ a path, b.catalog.registered? payload = some (.action a) →
    Deed.ofAction a = .setVariable → a.target = some path →
    a.value.WellFormed ∧ (Path.ofString path).Incomparable targetPath ∧
      (Path.ofString path).Incomparable WaitMarker.path
  handler : ∀ a name h taken, b.catalog.registered? payload = some (.action a) →
    Deed.ofAction a = .callHandler → a.handler = some name →
    Table.value? b.handlers name = some h → Leads I (h.run actor taken) (fun _ => I) I

section
variable {b : Bot} {actor : Int} {f : Flow} {target : Option Int} {copy : Value} {s : Scene}
  {R : Scene → Prop}

theorem incomparable_of_not_isSystemPath {path : String} (h : isSystemPath path = false) :
    (Path.ofString path).Incomparable WaitMarker.path := by
  obtain ⟨j, p, hp⟩ := List.exists_cons_of_ne_nil (Path.ofString_ne_nil path)
  have hhead : (Path.ofString path).head? = some j := by rw [hp]; rfl
  refine Path.incomparable_of_head hhead rfl fun hj => not_isSystem h ?_
  rw [Path.IsSystem, hhead, hj]

variable (hcopy : copy.kept = copy)
include hcopy

theorem steady_conducting :
    Steady (b.catalog.Conducts f target copy (b.catalog.Awaits f)) :=
  Catalog.Conducts.steady hcopy (fun _ => Catalog.Awaits.kept) (.inl rfl)

private theorem leads_setAt_conducting (hs : Conducting b.catalog actor f target copy s)
    {path : String} {v : Value} (hv : v.isReadable = true) (hwell : v.WellFormed)
    (hpath : (Path.ofString path).Incomparable targetPath)
    (hmarker : (Path.ofString path).Incomparable WaitMarker.path) :
    Leads (· = s) (setAt actor path v) (fun _ => Conducting b.catalog actor f target copy) R :=
  leads_setVariable_onTopic (steady_conducting hcopy) hs hv hwell fun _ _ _ h =>
    h.setData hpath (h.marker.setData hmarker v)

variable (hf : f.LeavesTarget)
include hf

/-- Wherever an answer is kept, the marker is emptied after it. -/
theorem leads_takeAnswerAlone_conducting {c : Context}
    (hs : Conducting b.catalog actor f target copy s) (hc : s.context? actor = some c)
    (text : String) :
    Leads (· = s) (takeAnswerAlone actor c text)
      (fun q t => Conducting b.catalog actor f target copy t ∧ q.IsPlain)
      (Conducting b.catalog actor f target copy) := by
  have hanswered : Steady (b.catalog.Conducts f target copy fun _ => True) :=
    Catalog.Conducts.steady hcopy (fun _ _ => trivial) trivial
  have hdisarm : Leads (OnTopic actor (b.catalog.Conducts f target copy fun _ => True))
      (Contexts.setVariable actor WaitMarker.path .null)
      (fun _ => Conducting b.catalog actor f target copy)
      (Conducting b.catalog actor f target copy) :=
    Leads.at_each fun t ht => leads_setVariable_onTopic (steady_conducting hcopy) ht rfl trivial
      fun _ _ _ h => h.mark (.inl rfl)
  refine leads_takeAnswerAlone hs text (fun w hw => ?_) hdisarm
  refine leads_setVariable_onTopic hanswered hs rfl trivial fun d hd _ h => ?_
  obtain rfl : c = d := Option.some.inj (hc.symm.trans hd)
  obtain ⟨st, q, hst, hq, rfl⟩ := h.marker.waitMarker hw
  exact h.setData (hf.question st q hst hq) trivial

theorem Harmless.pressKeeps (hl : b.Lucid) {payload : String}
    (h : b.Harmless actor (Conducting b.catalog actor f target copy) payload) :
    b.PressKeeps actor (Conducting b.catalog actor f target copy) payload where
  pick value hs hc hg hst hwork :=
    leads_setVariable_onTopic (steady_conducting hcopy) hs rfl trivial fun d hd _ h => by
      obtain rfl := Option.some.inj (hc.symm.trans hd)
      obtain rfl := Option.some.inj (hg.symm.trans h.flow)
      obtain ⟨hpath, hmarker⟩ := hf.menu _ _ hst hwork
      exact h.setData hpath (h.marker.setData_text (Path.ofString_ne_nil _) hmarker value)
  keyboard := Leads.at_each fun s hs => leads_setAt_conducting hcopy hs rfl trivial
    (Path.incomparable_of_head (head?_pressPath payload) rfl (by decide))
    (Path.incomparable_of_head (head?_pressPath payload) rfl (by decide))
  given ha hpath hsafe := Leads.at_each fun s hs => leads_setAt_conducting hcopy hs
    (readable_of_byForm ha) (wellFormed_of_byForm ha) (h.given _ _ ha hpath)
    (incomparable_of_not_isSystemPath hsafe)
  action ha hdeed hpath := Leads.at_each fun s hs => by
    obtain ⟨hwell, hapart, hmarker⟩ := h.action _ _ ha hdeed hpath
    exact leads_setAt_conducting hcopy hs (hl.action _ _ ha) hwell hapart hmarker
  call ha hdeed hname := leads_invoke _ (fun _ _ hs => hs) fun g taken hg =>
    h.handler _ _ g taken ha hdeed hname hg

end

section
variable {b : Bot} {actor : Int} {f : Flow} {target : Option Int} {copy : Value} {w : World}

/-- The actor has a context in which the flow is run. -/
private def Begun (k : Catalog) (actor : Int) (f : Flow) (target : Option Int) (copy : Value)
    (s : Scene) : Prop :=
  s.Reliable ∧ ∃ d, s.context? actor = some d ∧ k.Embarks f target copy (k.Awaits f) d

private theorem Begun.conducting {k : Catalog} {s : Scene} (h : Begun k actor f target copy s) :
    Conducting k actor f target copy s := by
  obtain ⟨hs, d, hd, hembarks⟩ := h
  exact ⟨hs, d, hd, hembarks.readableId, fun _ => hembarks.toConducts⟩

private theorem leads_reachFirst_begun {R : Scene → Prop} {s : Scene} {d : Context}
    {name : String} (hcopy : copy.kept = copy) (hs : s.Reliable)
    (hname : b.catalog.flow? name = some f)
    (hd : b.catalog.Embarks f target copy (b.catalog.Awaits f) d) :
    Leads (fun t => s.Rewritten t actor d) (reachFirst actor f)
      (fun r t => Begun b.catalog actor f target copy t ∧
        ∀ a, r = .inr a → Belongs b.catalog actor f a t) R := by
  refine Leads.at_each fun t ht => ?_
  have hreliable := ht.reliable hs
  unfold reachFirst
  split
  · exact (Leads.note _).bind fun _ => Leads.pure fun u hu =>
      ⟨hu ▸ ⟨hreliable, d, ht.context?, hd⟩, fun _ ha => absurd ha Sum.inl_ne_inr⟩
  · rename_i st sts hsteps
    have hmem : st ∈ f.steps := by
      rw [hsteps]
      exact List.mem_cons_self ..
    refine (Contexts.leads_recordStep hreliable ht.context? f.name _).bind fun _ =>
      Leads.pure fun u hu => ⟨⟨hu.reliable hreliable, _, hu.context?, ?_⟩, fun a ha => ?_⟩
    · have hvisit : b.catalog.Embarks f target copy (b.catalog.Awaits f)
          (d.visit f.name (0 : Nat) t.now) :=
        ⟨⟨hd.flow, hd.field, hd.copy, hd.marker⟩,
          hd.toUnderway.visit f.name Decimal.isReadable_zero t.now⟩
      have hkept := hvisit.kept fun _ => Catalog.Awaits.kept
      rwa [hcopy] at hkept
    · rw [← Sum.inr.inj ha]
      exact ⟨⟨name, f, hname, hmem⟩, fun _ _ _ => hmem⟩

section
variable {c : Context} {name : String} {topic : Int} {chat : Option Int}
variable (hl : b.Legible) (hs : w.scene.Reliable) (hc : w.scene.context? actor = some c)
  (hid : c.hasReadableId = true) (hname : b.catalog.flow? name = some f)
  (htopic : Decimal.isReadable topic = true) (htarget : target.all Decimal.isReadable = true)
  (hchat : chat.all Decimal.isReadable = true)
  (hgiven : ((chat.or b.adminChat).or c.adminChatId).isSome = true)
include hl hs hc hid hname htopic htarget hchat hgiven

/-- A flow that gets past the checks is run in the topic after the first lap, for the target. -/
private theorem lap_begun {l : Lap}
    (hlap : b.lap actor (b.eventAlone actor (.topicFlow topic name target chat)) w = l) :
    Begun b.catalog actor f target (copied target (Path.get (.dict c.data) targetPath))
        l.world.scene ∧
      ∀ a, l.arrival? = some a → Belongs b.catalog actor f a l.world.scene := by
  have hlegible := Store.context?_legible hc
  have hwell := Store.context?_wellFormed hc
  obtain ⟨admin, hadmin⟩ := Option.isSome_iff_exists.mp hgiven
  have hreadable : Decimal.isReadable admin = true := by
    have hall := all_or (all_or hchat hl.adminChat) (adminChat_legible hlegible)
    rwa [hadmin] at hall
  have hcopy := kept_copied target (Value.nests_wellFormed.get trivial hwell targetPath)
  have hembarks := Catalog.embarks_start hlegible hid hwell hname htopic hreadable htarget
  have halone : Leads (· = w.scene) (b.eventAlone actor (.topicFlow topic name target chat))
      (fun q t => t = w.scene ∧ q = .startInTopic (.int topic) name (Value.ofOption .int target)
        (Value.ofOption .int chat))
      (Begun b.catalog actor f target (copied target (Path.get (.dict c.data) targetPath))) :=
    Leads.pure fun _ ht => ⟨ht, rfl⟩
  rw [← hlap]
  refine lap_stands (fun q => Leads.given fun hq => ?_) halone rfl
  subst hq
  rw [reach]
  simp only [hname]
  refine (Contexts.leads_get hs).bind fun o => Leads.given fun ho => ?_
  rw [ho, hc]
  simp only [firstGiven_ofOption, hadmin]
  exact (leads_beginInTopic hs hc topic admin target).bind fun _ =>
    leads_aim hs ((leads_clearMarker hs c _).bind fun _ =>
      leads_reachFirst_begun hcopy hs hname hembarks)

end

section
variable {e : Event} {name : String}
variable (hl : b.Lucid) (hcopy : copy.kept = copy) (hname : b.catalog.flow? name = some f)
  (hf : f.LeavesTarget)
  (hspares : ∀ st ∈ f.steps, b.Spares actor (Conducting b.catalog actor f target copy) st)
  (hothers : ∀ st, b.catalog.HasStep st → b.Spares actor (Away actor) st)
include hl hcopy

section
include hspares hothers

/-- In a topic only steps of the flow are run. -/
private theorem leads_stepAlone_conducting (a : Arrival) :
    Leads (fun s => Conducting b.catalog actor f target copy s ∧ Belongs b.catalog actor f a s)
      (b.stepAlone actor a.step)
      (fun q t => Conducting b.catalog actor f target copy t ∧ q.IsPlain)
      (Conducting b.catalog actor f target copy) := by
  refine Leads.at_each fun s hready => ?_
  obtain ⟨hs, hst, hbelongs⟩ := hready
  by_cases hmem : a.step ∈ f.steps
  · exact Leads.at_one hs (leads_stepAlone_onTopic hl (steady_conducting hcopy) hst
      (hspares _ hmem) fun _ _ hq h => h.mark (.inr (.inr ⟨_, _, _, h.flow, hmem, hq, rfl⟩)))
  · obtain ⟨-, c, hc, -⟩ := id hs
    have haway := hs.away hc fun htopic => hmem (hbelongs c hc htopic)
    exact Leads.at_one haway ((leads_stepAlone_onTopic hl steady_never hst (hothers _ hst)
      fun _ _ _ h => h.elim).mono (fun _ _ h => ⟨.of_away h.1, h.2⟩) fun _ => OnTopic.of_away)

private theorem laps_conducting (left : Nat) {alone : Turn Sequel}
    (hfirst : Conducting b.catalog actor f target copy (b.lap actor alone w).world.scene ∧
      ∀ a, (b.lap actor alone w).arrival? = some a →
        Belongs b.catalog actor f a (b.lap actor alone w).world.scene) :
    ∀ l ∈ b.laps actor left alone w, Conducting b.catalog actor f target copy l.world.scene :=
  fun l hmem => (laps_stand (fun _ hq => leads_reach_onTopic hl.toLegible
    (steady_conducting hcopy) (fun _ h => h.flow) hq) left
    (fun a _ => leads_stepAlone_conducting hl hcopy hspares hothers a) hfirst l hmem).1

end

include hname hf

/-- What an event does by itself, and where that leads, leaves the topic flow as it is or ends
it. -/
private theorem lap_conducting (hs : Conducting b.catalog actor f target copy w.scene)
    (he : e.GoesOn f) (hharm : ∀ payload ∈ e.payload?,
      b.Harmless actor (Conducting b.catalog actor f target copy) payload) {l : Lap}
    (hlap : b.lap actor (b.eventAlone actor e) w = l) :
    Conducting b.catalog actor f target copy l.world.scene ∧
      ∀ a, l.arrival? = some a → Belongs b.catalog actor f a l.world.scene := by
  rw [← hlap]
  rcases he.isPlain_or with hplain | ⟨st, hst, rfl⟩
  · exact lap_stands (fun q => Leads.given fun hq => leads_reach_onTopic hl.toLegible
      (steady_conducting hcopy) (fun _ h => h.flow) hq)
      (leads_eventAlone hplain
        (fun s c text hs hc => leads_takeAnswerAlone_conducting hcopy hf hs hc text)
        fun payload hpayload => (hharm payload hpayload).pressKeeps hcopy hf hl) hs
  · have halone : Leads (Conducting b.catalog actor f target copy)
        (b.eventAlone actor (.executeStep st))
        (fun q t => Conducting b.catalog actor f target copy t ∧ q = .run st)
        (Conducting b.catalog actor f target copy) := Leads.pure fun _ ht => ⟨ht, rfl⟩
    refine lap_stands (fun q => Leads.given fun hq => ?_) halone hs
    subst hq
    refine Leads.pure fun _ ht => ⟨ht, fun a ha => ?_⟩
    rw [← Sum.inr.inj ha]
    exact ⟨⟨name, f, hname, hst⟩, fun _ _ _ => hst⟩

end

end

/-- The worlds that are come to from a first event on, lap by lap, as long as nothing is done for
the actor but what goes on with a flow. -/
inductive During (b : Bot) (actor : Int) (f : Flow) (I : Scene → Prop) (first : Event) (w : World) :
    World → Prop
  | begun {l : Lap} (hmem : l ∈ b.eventLaps actor first w) : During b actor f I first w l.world
  | goesOn {u : World} {e : Event} {l : Lap} (h : During b actor f I first w u) (he : e.GoesOn f)
    (hharm : ∀ payload ∈ e.payload?, b.Harmless actor I payload)
    (hmem : l ∈ b.eventLaps actor e u) : During b actor f I first w l.world
  /-- Whatever is done for others. -/
  | meanwhile {u v : World} (h : During b actor f I first w u)
    (hreliable : u.scene.Reliable → v.scene.Reliable)
    (hsame : v.scene.context? actor = u.scene.context? actor) : During b actor f I first w v

/-- Among them is the world after each event. -/
theorem During.handled {b : Bot} {actor : Int} {f : Flow} {I : Scene → Prop} {first e : Event}
    {w u : World} (h : During b actor f I first w u) (he : e.GoesOn f)
    (hharm : ∀ payload ∈ e.payload?, b.Harmless actor I payload) :
    During b actor f I first w (on (b.handle actor e) u).2 := by
  obtain ⟨l, hmem, hscene⟩ := @exists_lap_handle b actor u e
  refine (h.goesOn he hharm hmem).meanwhile (fun hs => ?_) ?_
  · rwa [hscene]
  · rw [hscene]

section
variable {b : Bot} {actor : Int} {f : Flow} {target chat : Option Int} {w : World} {c : Context}
  {name : String} {topic : Int}

/-- Once a topic flow was begun it is run as it was, in every world of its run. -/
private theorem During.conducting {copy : Value} {first : Event} {v : World} (hl : b.Lucid)
    (hcopy : copy.kept = copy) (hname : b.catalog.flow? name = some f) (hf : f.LeavesTarget)
    (hspares : ∀ st ∈ f.steps, b.Spares actor (Conducting b.catalog actor f target copy) st)
    (hothers : ∀ st, b.catalog.HasStep st → b.Spares actor (Away actor) st)
    (hfirst : Conducting b.catalog actor f target copy
        (b.lap actor (b.eventAlone actor first) w).world.scene ∧
      ∀ a, (b.lap actor (b.eventAlone actor first) w).arrival? = some a →
        Belongs b.catalog actor f a (b.lap actor (b.eventAlone actor first) w).world.scene)
    (hv : During b actor f (Conducting b.catalog actor f target copy) first w v) :
    Conducting b.catalog actor f target copy v.scene := by
  induction hv with
  | begun hmem => exact laps_conducting hl hcopy hspares hothers _ hfirst _ hmem
  | goesOn _ he hharm hmem ih =>
    exact laps_conducting hl hcopy hspares hothers _
      (lap_conducting hl hcopy hname hf ih he hharm rfl) _ hmem
  | meanwhile _ hworks hsame ih =>
    obtain ⟨hreliable, d, hd, hrest⟩ := ih
    exact ⟨hworks hreliable, d, hsame.trans hd, hrest⟩

/-- Whatever earlier topic flows have left in the data of an actor, and whatever target is given or
none: a flow that gets past the checks is run in the topic. From its first step on, for as long as
it is run there, its target is in the field, and what the data hold at the target's place has not
changed since the flow began. It is the target if one was given. If none was given it is what had
been there before, so the two agree only if nothing had. -/
theorem target_agrees_iff (hl : b.Lucid) (hs : w.scene.Reliable)
    (hc : w.scene.context? actor = some c) (hid : c.hasReadableId = true)
    (hname : b.catalog.flow? name = some f) (hf : f.LeavesTarget)
    (htopic : Decimal.isReadable topic = true) (htarget : target.all Decimal.isReadable = true)
    (hchat : chat.all Decimal.isReadable = true)
    (hgiven : ((chat.or b.adminChat).or c.adminChatId).isSome = true)
    (hspares : ∀ st ∈ f.steps, b.Spares actor (Conducting b.catalog actor f target
      (copied target (Path.get (.dict c.data) targetPath))) st)
    (hothers : ∀ st, b.catalog.HasStep st → b.Spares actor (Away actor) st) :
    (∃ l d v, (b.eventLaps actor (.topicFlow topic name target chat) w).head? = some l ∧
      on (Contexts.get actor) l.world = (.ok (some d), v) ∧ d.inTopic = true) ∧
    ∀ v, During b actor f (Conducting b.catalog actor f target
        (copied target (Path.get (.dict c.data) targetPath)))
        (.topicFlow topic name target chat) w v →
      ∃ d v' v'', on (Contexts.get actor) v = (.ok (some d), v') ∧
        on (Contexts.variableAt actor targetPath) v =
          (.ok (Path.get (.dict d.data) targetPath), v'') ∧
        (d.inTopic = true → d.targetUserId = target ∧
          Path.get (.dict d.data) targetPath =
            copied target (Path.get (.dict c.data) targetPath) ∧
          (Path.get (.dict d.data) targetPath = Value.ofOption .int d.targetUserId ↔
            target.isSome = true ∨ (Path.get (.dict c.data) targetPath).kept = .null)) := by
  have hcopy := kept_copied target
    (Value.nests_wellFormed.get trivial (Store.context?_wellFormed hc) targetPath)
  have hbegun := lap_begun hl.toLegible hs hc hid hname htopic htarget hchat hgiven rfl
  refine ⟨?_, fun v hv => ?_⟩
  · obtain ⟨hreliable, d, hd, hembarks⟩ := hbegun.1
    obtain ⟨v, hget, -⟩ := Contexts.on_get_of_readsAt hd (hreliable.writesAt _).1
    exact ⟨_, d, v, head?_laps _, hget, hembarks.inTopic⟩
  · obtain ⟨hreliable, d, hd, -, hconducts⟩ := hv.conducting hl hcopy hname hf hspares hothers
      ⟨hbegun.1.conducting, hbegun.2⟩
    obtain ⟨v', hget, -⟩ := Contexts.on_get_of_readsAt hd (hreliable.writesAt _).1
    obtain ⟨v'', hvariable, -⟩ := Contexts.on_variableAt (p := targetPath) hd
      (hreliable.writesAt _).1
    refine ⟨d, v', v'', hget, hvariable, fun hin => ?_⟩
    have h := hconducts hin
    refine ⟨h.field, h.copy, ?_⟩
    rw [h.copy, h.field]
    exact copied_eq_iff target _

end

/-- An admin who ran a flow for someone before. -/
def served : Context := { Context.fresh 1 1 with data := [("target_user_id", .int 42)] }

private theorem hasReadableId_served : served.kept.hasReadableId = true :=
  (hasReadableId_kept _).trans (hasReadableId_first rfl rfl)

private theorem data_served : served.kept.data = served.data :=
  data_kept_of_isFinite ((hasReadableId_kept _).symm.trans hasReadableId_served) (by decide +kernel)
    ⟨(by decide : ["target_user_id"].Nodup), trivial, trivial⟩ rfl

private theorem interview_leavesTarget : interview.LeavesTarget where
  question st q hst hq := by
    simp only [interview, List.mem_cons, List.not_mem_nil, or_false] at hst
    rcases hst with rfl | rfl | rfl
    · rw [← Step.Work.question.inj hq]
      decide
    · cases hq
    · rw [← Step.Work.question.inj hq]
      decide
  menu st m hst hm := by
    simp only [interview, List.mem_cons, List.not_mem_nil, or_false] at hst
    rcases hst with rfl | rfl | rfl <;> cases hm

theorem target_agrees_iff_interview : ∃ l d v v',
    (interviewer.eventLaps 1 (.topicFlow 7 "interview" (some 5) (some (-100)))
      (keeping served)).head? = some l ∧
    on (Contexts.get 1) l.world = (.ok (some d), v) ∧ d.inTopic = true ∧
    d.targetUserId = some 5 ∧
    on (Contexts.variableAt 1 targetPath) l.world = (.ok (.int 5), v') := by
  have hs : (keeping served).scene.Reliable := fun _ _ => rfl
  obtain ⟨⟨l, d, v, hfirst, hget, htopic⟩, hduring⟩ := @target_agrees_iff interviewer 1 interview
    (some 5) (some (-100)) (keeping served) served.kept "interview" 7 interviewer_lucid hs
    (context?_keeping served) hasReadableId_served rfl interview_leavesTarget (by decide)
    (by decide) (by decide) rfl (fun _ _ _ _ _ _ hh => by cases hh)
    (fun _ _ _ _ _ _ hh => by cases hh)
  obtain ⟨d', v', v'', hget', hvariable, h⟩ := hduring _ (.begun (List.mem_of_head? hfirst))
  obtain rfl : d' = d :=
    Option.some.inj (Except.ok.inj (congrArg Prod.fst (hget'.symm.trans hget)))
  obtain ⟨hfield, hcopy, -⟩ := h htopic
  rw [hcopy] at hvariable
  exact ⟨l, d', v, v'', hfirst, hget, htopic, hfield, hvariable⟩

/-- A flow that is run for no one is told of the one that the last flow was run for. -/
theorem last_target_stays : ∃ c l d v v', (keeping served).scene.context? 1 = some c ∧
    c.isIdle = true ∧ c.targetUserId = none ∧
    (interviewer.eventLaps 1 (.topicFlow 8 "interview" none (some (-100)))
      (keeping served)).head? = some l ∧
    on (Contexts.get 1) l.world = (.ok (some d), v) ∧ d.inTopic = true ∧
    d.targetUserId = none ∧
    on (Contexts.variableAt 1 targetPath) l.world = (.ok (.int 42), v') := by
  have hs : (keeping served).scene.Reliable := fun _ _ => rfl
  obtain ⟨l, hlap⟩ : ∃ l, interviewer.lap 1 (interviewer.eventAlone 1
      (.topicFlow 8 "interview" none (some (-100)))) (keeping served) = l := ⟨_, rfl⟩
  obtain ⟨hreliable, d, hd, hembarks⟩ := (lap_begun interviewer_lucid.toLegible hs
    (context?_keeping served) hasReadableId_served rfl (by decide) (by decide) (by decide) rfl
    hlap).1
  obtain ⟨v, hget, -⟩ := Contexts.on_get_of_readsAt hd (hreliable.writesAt _).1
  obtain ⟨v', hvariable, -⟩ := Contexts.on_variableAt (p := targetPath) hd
    (hreliable.writesAt _).1
  rw [hembarks.copy, data_served] at hvariable
  have hflow : served.kept.currentFlow = "" := served.currentFlow_kept_or.elim id id
  refine ⟨served.kept, l, d, v, v', context?_keeping served, ?_, ?_, hlap ▸ head?_laps _, hget,
    hembarks.inTopic, hembarks.field, hvariable⟩
  · rw [isIdle, hflow]
    rfl
  · rw [kept]
    split
    · rw [repair_eq]
      rfl
    · rfl

end Bot

end Dialogue
