import Dialogue.Proofs.Bot.Moves

/-! Contexts of one flow that is run twice, in the actor's own chat and in a topic. They are the
same but for the topic and the times of visits, until the flow is over in both. -/
namespace Dialogue.Context

section
variable (c : Context)

@[simp] theorem untimed_setData (p : Path) (v : Value) :
    (c.setData p v).untimed = c.untimed.setData p v := rfl

theorem isReadable_untimed : c.untimed.isReadable = c.isReadable := by
  rw [isReadable_eq, isReadable_eq, isLegible, isLegible]
  simp only [untimed, List.all_map]
  rfl

@[simp] theorem untimed_kept : c.kept.untimed = c.untimed.kept := by
  rw [kept, kept, isReadable_untimed]
  split
  · exact untimed_repair _
  · rfl

theorem untimed_visit (flow : String) (step : Int) (now : String) :
    (c.visit flow step now).untimed = c.untimed.visit flow step "" := by
  simp only [visit, untimed, List.map_drop, List.map_append, List.length_append, List.length_map,
    List.map_cons, List.map_nil, List.length_singleton]
  rfl

end

/-- The same context in a topic of a chat, on behalf of no one. -/
def movedTo (c : Context) (topic chat : Int) : Context :=
  { c with inTopic := true, topicId := some topic, adminChatId := some chat, targetUserId := none }

/-- Nothing is remembered of a topic. -/
structure AtHome (c : Context) : Prop where
  inTopic : c.inTopic = false
  topicId : c.topicId = none
  adminChatId : c.adminChatId = none
  targetUserId : c.targetUserId = none

/-- One flow is run in the actor's own chat, for `c`, and in a topic of a chat, for `d`. -/
structure Running (topic chat : Int) (c d : Context) : Prop where
  same : d.untimed = (c.movedTo topic chat).untimed
  home : c.AtHome
  flowMode : c.flowMode = true
  flow : c.currentFlow ≠ ""

/-- The flow is run, and everything about it can be written and read again. -/
structure Twins (topic chat : Int) (c d : Context) : Prop extends Running topic chat c d where
  readableId : c.hasReadableId = true
  legible : c.isLegible = true

/-- The flow is over, or it was lost with all else; nothing tells the two contexts apart. -/
structure Over (c d : Context) : Prop where
  same : d.untimed = c.untimed
  home : c.AtHome
  idle : c.currentFlow = ""

/-- Two contexts say the same of a flow: where it stands, how it got there, and all its data. -/
structure Agree (c d : Context) : Prop where
  currentFlow : d.currentFlow = c.currentFlow
  currentStep : d.currentStep = c.currentStep
  data : d.data = c.data
  forwarding : d.forwarding = c.forwarding
  flowMode : d.flowMode = c.flowMode
  history : d.history.map Visit.untimed = c.history.map Visit.untimed

/-- The flow is run in both places, or in neither. -/
inductive Abreast (topic chat : Int) (c d : Context) : Prop
  | twins (h : Twins topic chat c d)
  | idle (h : Over c d)

section
variable {topic chat : Int} {c d : Context}

theorem AtHome.repair (h : c.AtHome) : c.repair.1.AtHome := by
  rw [repair_eq]
  refine ⟨?_, h.topicId, h.adminChatId, h.targetUserId⟩
  change (c.inTopic && c.topicSound) = false
  rw [h.inTopic]
  rfl

theorem AtHome.kept (h : c.AtHome) : c.kept.AtHome := by
  rw [Context.kept]
  split
  · have hsettled : c.settled.AtHome := ⟨h.inTopic, h.topicId, h.adminChatId, h.targetUserId⟩
    exact hsettled.repair
  · exact ⟨rfl, rfl, rfl, rfl⟩

theorem AtHome.setData (h : c.AtHome) (p : Path) (v : Value) : (c.setData p v).AtHome :=
  ⟨h.inTopic, h.topicId, h.adminChatId, h.targetUserId⟩

theorem Over.repair (h : Over c d) : Over c.repair.1 d.repair.1 where
  same := by rw [untimed_repair, untimed_repair, h.same]
  home := h.home.repair
  idle := by
    rw [repair_eq]
    exact h.idle

theorem Over.kept (h : Over c d) : Over c.kept d.kept where
  same := by rw [untimed_kept, untimed_kept, h.same]
  home := h.home.kept
  idle := by
    rw [Context.kept]
    split
    · rw [repair_eq]
      exact h.idle
    · rfl

theorem Over.written (h : Over c d) (p : Path) (v : Value) :
    Over (c.written p v) (d.written p v) := by
  have hset : Over (c.setData p v) (d.setData p v) :=
    ⟨congrArg (·.setData p v) h.same, h.home.setData p v, h.idle⟩
  exact hset.kept

theorem Running.sound (h : Running topic chat c d) : c.Sound ∧ d.Sound := by
  have hmode : d.flowMode = c.flowMode := (congrArg Context.flowMode h.same :)
  have hflow : d.currentFlow = c.currentFlow := (congrArg Context.currentFlow h.same :)
  have htopic : d.topicId = some topic := (congrArg Context.topicId h.same :)
  have hchat : d.adminChatId = some chat := (congrArg Context.adminChatId h.same :)
  refine ⟨⟨?_, ?_⟩, ⟨?_, ?_⟩⟩
  · rw [topicSound, h.home.inTopic]
    rfl
  · simp [stepSound, isIdle, h.flow]
  · simp [topicSound, hmode, h.flowMode, htopic, hchat]
  · simp [stepSound, isIdle, hflow, h.flow]

theorem Running.setData (h : Running topic chat c d) (p : Path) (v : Value) :
    Running topic chat (c.setData p v) (d.setData p v) :=
  ⟨congrArg (·.setData p v) h.same, h.home.setData p v, h.flowMode, h.flow⟩

section
variable (ht : Decimal.isReadable topic = true) (hchat : Decimal.isReadable chat = true)
include ht hchat

theorem isReadable_movedTo (h : c.AtHome) : (c.movedTo topic chat).isReadable = c.isReadable := by
  rw [isReadable_eq, isReadable_eq, isLegible, isLegible]
  simp only [movedTo, Option.all_some, ht, hchat, h.topicId, h.adminChatId, h.targetUserId,
    Option.all_none]
  rfl

theorem Running.isReadable (h : Running topic chat c d) : d.isReadable = c.isReadable := by
  rw [← isReadable_untimed d, h.same, isReadable_untimed, isReadable_movedTo ht hchat h.home]

theorem kept_movedTo (h : Running topic chat c d) (hr : c.isReadable = true) :
    (c.movedTo topic chat).kept = c.kept.movedTo topic chat := by
  have hmoved : (c.movedTo topic chat).isReadable = true := by
    rw [isReadable_movedTo ht hchat h.home, hr]
  have hsound : (c.movedTo topic chat).settled.topicSound = true := by
    simp [topicSound, settled, movedTo, h.flowMode]
  rw [Context.kept, if_pos hmoved, Context.kept, if_pos hr, repair_eq, repair_eq, hsound]
  rfl

/-- What can be read again stays in step. -/
theorem Running.kept_of_readable (h : Running topic chat c d) (hr : c.isReadable = true) :
    Twins topic chat c.kept d.kept := by
  have hid : c.hasReadableId = true ∧ c.isLegible = true := by
    rwa [isReadable_eq, Bool.and_eq_true] at hr
  have hkept := kept_of_legible hid.1 hid.2
  refine ⟨⟨?_, h.home.kept, ?_, ?_⟩, ?_, (kept_tidy _).legible⟩
  · rw [untimed_kept, h.same, ← untimed_kept, kept_movedTo ht hchat h hr]
  · rw [hkept, repair_eq]
    exact h.flowMode
  · rw [hkept, repair_eq]
    exact h.flow
  · rw [hasReadableId_kept, hid.1]

/-- What cannot be read again is lost in both places. -/
theorem Running.kept (h : Running topic chat c d) : Abreast topic chat c.kept d.kept := by
  cases hr : c.isReadable with
  | true => exact .twins (h.kept_of_readable ht hchat hr)
  | false =>
    have hd : d.isReadable = false := (h.isReadable ht hchat).trans hr
    have hexternal : d.externalId = c.externalId := (congrArg Context.externalId h.same :)
    have hhuman : d.humanId = c.humanId := (congrArg Context.humanId h.same :)
    rw [Context.kept, hr, Context.kept, hd, hexternal, hhuman]
    exact .idle ⟨rfl, ⟨rfl, rfl, rfl, rfl⟩, rfl⟩

theorem Running.revised {f : Context → Context} (h : Running topic chat (f c) (f d)) :
    Abreast topic chat (c.revised f) (d.revised f) := by
  rw [Context.revised, Context.revised, repair_of_sound h.sound.1, repair_of_sound h.sound.2]
  exact h.kept ht hchat

theorem Abreast.written (h : Abreast topic chat c d) (p : Path) (v : Value) :
    Abreast topic chat (c.written p v) (d.written p v) := by
  cases h with
  | twins h => exact (h.setData p v).kept ht hchat
  | idle h => exact .idle (h.written p v)

theorem Abreast.relayed (h : Abreast topic chat c d) (on : Bool) :
    Abreast topic chat (c.revised fun c => { c with forwarding := on })
      (d.revised fun c => { c with forwarding := on }) := by
  cases h with
  | twins h =>
    have hrunning : Running topic chat { c with forwarding := on } { d with forwarding := on } :=
      ⟨congrArg (fun c : Context => { c with forwarding := on }) h.same,
        ⟨h.home.inTopic, h.home.topicId, h.home.adminChatId, h.home.targetUserId⟩, h.flowMode,
        h.flow⟩
    exact hrunning.revised ht hchat
  | idle h =>
    have hover : Over { c with forwarding := on } { d with forwarding := on } :=
      ⟨congrArg (fun c : Context => { c with forwarding := on }) h.same,
        ⟨h.home.inTopic, h.home.topicId, h.home.adminChatId, h.home.targetUserId⟩, h.idle⟩
    exact .idle hover.repair.kept

theorem Twins.written (h : Twins topic chat c d) (p : Path) {v : Value}
    (hv : v.isReadable = true) : Twins topic chat (c.written p v) (d.written p v) := by
  have hset := setData_legible h.legible p hv
  refine (h.setData p v).kept_of_readable ht hchat ?_
  rw [isReadable_eq, hset, Bool.and_true]
  exact h.readableId

/-- The same step is entered in both places, each at its own time. -/
theorem Twins.entered (h : Twins topic chat c d) (flow : String) {step : Int}
    (hs : Decimal.isReadable step = true) (now now' : String) :
    Twins topic chat (c.visit flow step now).kept (d.visit flow step now').kept := by
  have hrunning : Running topic chat (c.visit flow step now) (d.visit flow step now') := by
    refine ⟨?_, ⟨h.home.inTopic, h.home.topicId, h.home.adminChatId, h.home.targetUserId⟩,
      h.flowMode, h.flow⟩
    have hmoved : (c.visit flow step now).movedTo topic chat =
        (c.movedTo topic chat).visit flow step now := rfl
    rw [hmoved, untimed_visit, untimed_visit, h.same]
  refine hrunning.kept_of_readable ht hchat ?_
  rw [isReadable_eq, visit_legible h.legible flow hs, Bool.and_true]
  exact h.readableId

/-- A flow begins in both places for contexts that nothing tells apart. -/
theorem twins_began {name : String} (hname : name ≠ "") (hsame : d.untimed = c.untimed)
    (hid : c.hasReadableId = true) (hc : c.isLegible = true) :
    Twins topic chat (c.revised (·.began name))
      (d.revised (·.beganInTopic name (some topic) (some chat) none)) := by
  have hrunning : Running topic chat (c.began name)
      (d.beganInTopic name (some topic) (some chat) none) :=
    ⟨congrArg (·.beganInTopic name (some topic) (some chat) none) hsame, ⟨rfl, rfl, rfl, rfl⟩, rfl,
      hname⟩
  rw [Context.revised, Context.revised, repair_of_sound hrunning.sound.1,
    repair_of_sound hrunning.sound.2]
  refine hrunning.kept_of_readable ht hchat ?_
  rw [isReadable_eq, began_legible hc, Bool.and_true]
  exact hid

end

theorem agree_of_untimed (h : d.untimed = c.untimed) : c.Agree d where
  currentFlow := (congrArg Context.currentFlow h :)
  currentStep := (congrArg Context.currentStep h :)
  data := (congrArg Context.data h :)
  forwarding := (congrArg Context.forwarding h :)
  flowMode := (congrArg Context.flowMode h :)
  history := (congrArg Context.history h :)

theorem Running.agree (h : Running topic chat c d) : c.Agree d := by
  obtain ⟨hflow, hstep, hdata, hforwarding, hmode, hhistory⟩ := agree_of_untimed h.same
  exact ⟨hflow, hstep, hdata, hforwarding, hmode, hhistory⟩

theorem Abreast.agree (h : Abreast topic chat c d) : c.Agree d := by
  cases h with
  | twins h => exact h.agree
  | idle h => exact agree_of_untimed h.same

theorem Agree.isIdle (h : c.Agree d) : d.isIdle = c.isIdle := by
  rw [Context.isIdle, Context.isIdle, h.currentFlow]

theorem Agree.rawMarker (h : c.Agree d) : d.rawMarker = c.rawMarker := by
  rw [Context.rawMarker, Context.rawMarker, h.data]

theorem Agree.waitMarker (h : c.Agree d) : d.waitMarker = c.waitMarker := by
  rw [Context.waitMarker, Context.waitMarker, h.rawMarker]

/-- A flow that goes on is run in both places. -/
theorem Abreast.twins_of_flow (h : Abreast topic chat c d) (hflow : c.currentFlow ≠ "") :
    Twins topic chat c d := by
  cases h with
  | twins h => exact h
  | idle h => exact absurd h.idle hflow

/-- Where the flow ends in one place, it ends in the other. -/
theorem Abreast.ended (h : Abreast topic chat c d) :
    Over (c.revised (·.ended)) (d.revised (·.ended)) := by
  have hended : d.ended.untimed = c.ended.untimed := by
    cases h with
    | twins h => exact congrArg Context.ended h.same
    | idle h => exact congrArg Context.ended h.same
  have hover : Over c.ended d.ended := ⟨hended, ⟨rfl, rfl, rfl, rfl⟩, rfl⟩
  exact hover.repair.kept

end

end Dialogue.Context
