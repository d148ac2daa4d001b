import Dialogue.Proofs.Bot.Laps
import Dialogue.Proofs.Bot.Pairing
import Dialogue.Proofs.Bot.Questions

/-! One flow that is run twice by the same inputs, in the actor's own chat and in a topic. As long
as no flow is started on the way, nothing tells the two runs apart but the place that messages are
sent to. -/
namespace Dialogue

namespace Context

/-- Nothing tells the contexts apart but the times of visits, and they can be written and read
again. -/
structure Alike (c d : Context) : Prop where
  same : d.untimed = c.untimed
  readableId : c.hasReadableId = true
  legible : c.isLegible = true

theorem currentFlow_ne {c : Context} (h : c.isIdle = false) : c.currentFlow ≠ "" := by
  intro hidle
  rw [isIdle, hidle] at h
  cases h

end Context

namespace Stage
open Context

variable {g : Stage} {K : Context → Context → Prop} {w w' : World}

/-- Where work in both worlds led: to the end of the event, or to a step of the flow that is run in
both. -/
def Landed (g : Stage) : Outcome ⊕ Bot.Arrival → World → World → Prop
  | .inl _ => g.Near
  | .inr _ => g.Together

/-- A flow that goes on in one world goes on in the other. -/
theorem Beside.together (h : g.Near w w') {now : String} {c : Context}
    (hc : w.store.context? now g.actor = some c) (hidle : c.isIdle = false) : g.Together w w' := by
  refine ⟨h.working, h.working', fun now₁ now₂ => ?_, h.others, h.sent⟩
  obtain ⟨d, d', hd, hd', hdd⟩ := h.own now₁ now₂
  have hsame := w.store.untimed_context? now now₁ g.actor
  rw [hc, hd, Option.map_some, Option.map_some] at hsame
  have hflow : d.currentFlow = c.currentFlow :=
    (congrArg Context.currentFlow (Option.some.inj hsame) :)
  exact ⟨d, d', hd, hd', hdd.twins_of_flow (hflow ▸ currentFlow_ne hidle)⟩

/-- Two worlds before the next event, when nothing fails in it. -/
def next (actor topic chat : Int) (w w' : World) : Stage :=
  { actor, topic, chat, past := w.sent, past' := w'.sent }

/-- Worlds that stand beside each other go on to do so when an event comes. -/
theorem Beside.next (h : g.Beside K w w') (now now' : String) :
    (Stage.next g.actor g.topic g.chat w w').Beside K { w with now, outages := {} }
      { w' with now := now', outages := {} } where
  working := ⟨fun _ _ => rfl, fun _ _ => rfl⟩
  working' := ⟨fun _ _ => rfl, fun _ _ => rfl⟩
  own := h.own
  others := h.others
  sent := ⟨[], (List.append_nil _).symm, (List.append_nil _).symm⟩

/-- One world stands beside itself, for someone whose context can be written and read again. -/
theorem beside_self {actor : Int} (topic chat : Int) {now₀ : String} {c : Context}
    (hc : w.store.context? now₀ actor = some c) (hid : c.hasReadableId = true) (now now' : String) :
    (Stage.next actor topic chat w w).Beside Alike { w with now, outages := {} }
      { w with now := now', outages := {} } where
  working := ⟨fun _ _ => rfl, fun _ _ => rfl⟩
  working' := ⟨fun _ _ => rfl, fun _ _ => rfl⟩
  own now₁ now₂ := by
    have hread (now₁ : String) :
        ∃ d, w.store.context? now₁ actor = some d ∧ d.untimed = c.untimed := by
      have hsame := w.store.untimed_context? now₀ now₁ actor
      rwa [hc, Option.map_some, Option.map_eq_some_iff] at hsame
    obtain ⟨d, hd, hdc⟩ := hread now₁
    obtain ⟨d', hd', hdc'⟩ := hread now₂
    have hexternal : d.externalId = c.externalId := (congrArg Context.externalId hdc :)
    have hhuman : d.humanId = c.humanId := (congrArg Context.humanId hdc :)
    refine ⟨d, d', hd, hd', hdc'.trans hdc.symm, ?_, Store.context?_legible hd⟩
    rw [hasReadableId, hexternal, hhuman]
    exact hid
  others a _ now₁ now₂ := w.store.untimed_context? now₁ now₂ a
  sent := ⟨[], (List.append_nil _).symm, (List.append_nil _).symm⟩

end Stage

namespace Bot
open Turn Context

/-- The sequel starts a flow that there is. -/
def Sequel.Starts (k : Catalog) : Sequel → Prop
  | .start name | .startInTopic _ name _ _ => k.flow? name ≠ none
  | _ => False

/-- No flow is started by laps. -/
def StartNone (k : Catalog) (ls : List Lap) : Prop :=
  ∀ l ∈ ls, ∀ q, l.sequel = some q → ¬ q.Starts k

variable {b : Bot} {g : Stage}

theorem StartNone.tail {k : Catalog} {ls : List Lap} (h : StartNone k ls) : StartNone k ls.tail :=
  fun l hl => h l (List.mem_of_mem_tail hl)

theorem StartNone.first {k : Catalog} {actor : Int} {alone : Turn Sequel} {w : World} (left : Nat)
    (h : StartNone k (b.laps actor left alone w)) : StartNone k [b.lap actor alone w] := by
  intro l hl
  rw [List.mem_singleton.mp hl]
  exact h _ (List.mem_of_head? (head?_laps left))

section Reach
variable {E : World → World → Prop}

private theorem inStep_failing (n : Notice) (r : Reason) :
    InStep g.Near (Sum.inl <$> fail n r) (Sum.inl <$> fail n r) g.Landed g.Near :=
  .map ((inStep_fail n r).post fun _ _ _ hw => hw)

private theorem inStep_clearMarker {K : Context → Context → Prop}
    (hK : ∀ c c', K c c' →
      K (c.written WaitMarker.path .null) (c'.written WaitMarker.path .null)) (c : Context) :
    InStep (g.Beside K) (clearMarker g.actor c) (clearMarker g.actor c) (fun _ => g.Beside K)
      E := by
  unfold clearMarker
  split
  · exact .pure fun _ _ hw => hw
  · exact .setOwn hK

private theorem clearMarker_congr {actor : Int} {c c' : Context} (h : c'.rawMarker = c.rawMarker) :
    clearMarker actor c' = clearMarker actor c := by
  rw [clearMarker, clearMarker, h]

variable (ht : Decimal.isReadable g.topic = true) (hchat : Decimal.isReadable g.chat = true)
include ht hchat

/-- The same step is entered in both worlds, each at its own time. -/
private theorem inStep_enter {name : String} {i : Nat} (hi : Decimal.isReadable i = true)
    (a : Arrival) :
    InStep g.Together (Contexts.recordStep g.actor name i >>= fun _ => pure (.inr a))
      (Contexts.recordStep g.actor name i >>= fun _ => pure (.inr a)) g.Landed E := by
  have hdone : InStep g.Together (pure (.inr a)) (pure (.inr a)) g.Landed E :=
    .pure fun _ _ hw => hw
  have hmute := Contexts.mute_recordStep g.actor name i
  refine InStep.rewrite_bind (K := Twins g.topic g.chat) (fun w w' hw => ?_) hmute hmute hdone
  obtain ⟨c, c', hc, hc', hcc⟩ := hw.own w.now w'.now
  exact ⟨hw, _, _, hcc.entered ht hchat name hi w.now w'.now,
    Contexts.leads_recordStep hw.reliable.1 hc name i,
    Contexts.leads_recordStep hw.reliable.2 hc' name i⟩

private theorem inStep_reachFirst {name : String} {f : Flow} (hl : b.Legible)
    (hf : b.catalog.flow? name = some f) :
    InStep g.Together (reachFirst g.actor f) (reachFirst g.actor f) g.Landed g.Near := by
  unfold reachFirst
  split
  · have hempty : InStep g.Near
        (note .flowEmpty >>= fun _ => pure (.inl (.ignored .emptyFlow)))
        (note .flowEmpty >>= fun _ => pure (.inl (.ignored .emptyFlow))) g.Landed g.Near :=
      (InStep.still (still_note _)).bind fun _ => .pure fun _ _ hw => hw
    exact hempty.pre fun _ _ hw => hw.mono fun _ _ => .twins
  · rename_i hsteps
    have hzero : Decimal.isReadable (0 : Nat) = true :=
      Decimal.isReadable_of_lt (hl.steps name f hf) (by rw [hsteps]; exact Nat.succ_pos _)
    exact inStep_enter ht hchat hzero _

/-- What an ordinary sequel leads to, when it starts no flow. -/
theorem inStep_reach (hl : b.Legible) {q : Sequel} (hq : q.IsOrdinary)
    (hno : ¬ q.Starts b.catalog) :
    InStep g.Near (b.reach g.actor q) (b.reach g.actor q) g.Landed g.Near := by
  cases q with
  | rest o => exact .pure fun _ _ hw => hw
  | run st => exact hq.elim
  | start name | startInTopic _ name _ _ =>
    have hnone : b.catalog.flow? name = none := Classical.not_not.mp hno
    simp only [reach, hnone]
    exact inStep_failing _ _
  | goTo place =>
    refine InStep.get_bind fun c c' h _ _ => ?_
    simp only [h.agree.isIdle, h.agree.currentFlow]
    split
    · exact (inStep_failing _ _).pre fun _ _ hw => hw.1
    · rename_i hrun
      split
      · exact (inStep_failing _ _).pre fun _ _ hw => hw.1
      · rename_i f hf
        split
        · exact (inStep_failing _ _).pre fun _ _ hw => hw.1
        · rename_i i st hplace
          obtain ⟨j, -, hj⟩ := Option.bind_eq_some_iff.mp hplace
          obtain ⟨v, hv, he⟩ := Option.map_eq_some_iff.mp hj
          obtain ⟨rfl, rfl⟩ := Prod.mk.inj he
          have hindex : Decimal.isReadable j = true :=
            Decimal.isReadable_of_lt (hl.steps _ f hf) (List.getElem?_eq_some_iff.mp hv).1
          exact (inStep_enter ht hchat hindex _).pre fun _ _ hw =>
            hw.1.together hw.2.1 (Bool.eq_false_iff.mpr hrun)
  | complete =>
    refine .map (InStep.get_bind fun c c' h _ _ => ?_)
    simp only [h.agree.isIdle, h.agree.flowMode, h.agree.currentFlow,
      clearMarker_congr h.agree.rawMarker]
    split
    · exact .pure fun _ _ hw => hw.1
    · have hcleared : InStep (g.Beside Over)
          (clearMarker g.actor c >>= fun _ => pure (Outcome.completed c.currentFlow))
          (clearMarker g.actor c >>= fun _ => pure (Outcome.completed c.currentFlow))
          (fun _ => g.Near) g.Near :=
        (inStep_clearMarker (fun _ _ hover => hover.written _ _) c).bind fun _ =>
          .pure fun _ _ hw => hw.mono fun _ _ => .idle
      have hmute := Contexts.mute_revise g.actor (·.ended)
      refine InStep.rewrite_bind (K := Abreast g.topic g.chat) (fun w w' hw => ?_) hmute hmute
        hcleared
      exact ⟨hw.1, _, _, h.ended, Contexts.leads_revise hw.1.reliable.1 hw.2.1 _ rfl rfl,
        Contexts.leads_revise hw.1.reliable.2 hw.2.2 _ rfl rfl⟩

/-- A flow that there is begins in the own chat and in the topic. -/
theorem inStep_reach_start (hb : b.catalog.Built) (hl : b.Legible) {name : String} {f : Flow}
    (hf : b.catalog.flow? name = some f) :
    InStep (g.Beside Alike) (b.reach g.actor (.start name))
      (b.reach g.actor (.startInTopic (.int g.topic) name .null (.int g.chat))) g.Landed
      g.Near := by
  have hname : name ≠ "" := by
    intro hempty
    rw [hempty, hb.flow?_empty] at hf
    cases hf
  simp only [reach, hf]
  refine InStep.get_bind fun c c' h _ _ => ?_
  have hmarker : c'.rawMarker = c.rawMarker := (agree_of_untimed h.same).rawMarker
  have hgiven : firstGiven [.int g.chat, Value.ofOption .int b.adminChat,
      Value.ofOption .int c'.adminChatId] = .int g.chat := rfl
  have hno : Value.null.isNull = true ∧ (Value.int g.chat).isNull = false := ⟨rfl, rfl⟩
  simp only [clearMarker_congr hmarker, hgiven, hno, Bool.not_true, Bool.false_eq_true, if_false]
  have hcleared : InStep g.Together
      (clearMarker g.actor c >>= fun _ => reachFirst g.actor f)
      (clearMarker g.actor c >>= fun _ => reachFirst g.actor f) g.Landed g.Near :=
    (inStep_clearMarker (fun _ _ htwins => htwins.written ht hchat _ rfl) c).bind fun _ =>
      inStep_reachFirst ht hchat hl hf
  have hmute : Mute (beginInTopic g.actor name (.int g.topic) (.int g.chat) .null) :=
    (Contexts.mute_amend _ _).bind fun _ => Mute.pure _
  refine InStep.rewrite_bind (K := Alike) (fun w w' hw => ?_)
    (Contexts.mute_revise g.actor (·.began name)) hmute hcleared
  exact ⟨hw.1, _, _, twins_began ht hchat hname h.same h.readableId h.legible,
    Contexts.leads_revise hw.1.reliable.1 hw.2.1 _ rfl rfl,
    leads_beginInTopic hw.1.reliable.2 hw.2.2 g.topic g.chat none⟩

end Reach

/-- Two laps ended alike. -/
structure Level (g : Stage) (l l' : Lap) : Prop where
  landing : l'.landing = l.landing
  worlds : match l.landing with
    | .ok r => g.Landed r l.world l'.world
    | .error _ => g.Near l.world l'.world

section Laps
variable {R : World → World → Prop} {x y : Turn Sequel} {w w' : World} {l l' : Lap}

theorem Level.arrival? (h : Level g l l') : l'.arrival? = l.arrival? := by
  rw [Lap.arrival?, Lap.arrival?, h.landing]

theorem Level.outcome (h : Level g l l') : l'.outcome = l.outcome := by
  rw [Lap.outcome, Lap.outcome, h.landing]

theorem Level.together (h : Level g l l') {a : Arrival} (ha : l.arrival? = some a) :
    g.Together l.world l'.world := by
  have hworlds := h.worlds
  rw [Lap.landing_of_arrival ha] at hworlds
  exact hworlds

theorem Level.near (h : Level g l l') : g.Near l.world l'.world := by
  obtain ⟨q, landing, u⟩ := l
  match landing with
  | .ok (.inl _) => exact h.worlds
  | .ok (.inr _) => exact h.worlds.mono fun _ _ => .twins
  | .error _ => exact h.worlds

private theorem level_of_sequels {q q' : Sequel} {v v' : World}
    (hreach : InStep R (b.reach g.actor q) (b.reach g.actor q') g.Landed g.Near) (hv : R v v')
    (hon : on x w = (.ok q, v)) (hon' : on y w' = (.ok q', v')) :
    Level g (b.lap g.actor x w) (b.lap g.actor y w') := by
  obtain ⟨r, u, u', hr, hr', hu⟩ := hreach v v' hv
  rw [lap_of_sequel hon, lap_of_sequel hon', hr, hr']
  cases r <;> exact ⟨rfl, hu⟩

/-- The laps that begin the flow end alike. -/
theorem level_start (ht : Decimal.isReadable g.topic = true)
    (hchat : Decimal.isReadable g.chat = true) (hb : b.catalog.Built) (hl : b.Legible)
    {name : String} {f : Flow} (hf : b.catalog.flow? name = some f) (hw : g.Beside Alike w w') :
    Level g (b.lap g.actor (pure (.start name)) w)
      (b.lap g.actor (pure (.startInTopic (.int g.topic) name .null (.int g.chat))) w') :=
  level_of_sequels (inStep_reach_start ht hchat hb hl hf) hw rfl rfl

variable (ht : Decimal.isReadable g.topic = true) (hchat : Decimal.isReadable g.chat = true)
  (hl : b.Legible)
include ht hchat hl

/-- What is in step ends alike after its sequel, when that starts no flow. -/
theorem level_lap (hxy : LeadAlike g R x y) (hw : R w w')
    (hno : StartNone b.catalog [b.lap g.actor x w]) :
    Level g (b.lap g.actor x w) (b.lap g.actor y w') := by
  obtain ⟨r, v, v', hon, hon', hv⟩ := hxy w w' hw
  cases r with
  | error f =>
    rw [lap_of_broken hon, lap_of_broken hon']
    exact ⟨rfl, hv⟩
  | ok q =>
    rw [lap_of_sequel hon] at hno
    have hstays := hno _ (List.mem_singleton_self _) q rfl
    exact level_of_sequels (inStep_reach ht hchat hl hv.2 hstays) hv.1 hon hon'

variable (hh : ∀ name h, Table.value? b.handlers name = some h → h.ByData)
include hh

/-- From a first lap that ended alike, and as long as no flow is started, the last laps end alike.
-/
theorem level_laps (left : Nat) (hfirst : Level g (b.lap g.actor x w) (b.lap g.actor y w'))
    (hno : StartNone b.catalog (b.laps g.actor left x w).tail) :
    ∃ l l', (b.laps g.actor left x w).getLast? = some l ∧
      (b.laps g.actor left y w').getLast? = some l' ∧ Level g l l' := by
  induction left generalizing x y w w' with
  | zero => exact ⟨_, _, rfl, rfl, hfirst⟩
  | succ left ih =>
    cases ha : (b.lap g.actor x w).arrival? with
    | none =>
      rw [laps_of_rest ha, laps_of_rest (hfirst.arrival?.trans ha)]
      exact ⟨_, _, rfl, rfl, hfirst⟩
    | some a =>
      rw [laps_of_arrival ha, List.tail_cons] at hno
      rw [laps_of_arrival ha, laps_of_arrival (hfirst.arrival?.trans ha),
        List.getLast?_cons_of_ne_nil (laps_ne_nil left),
        List.getLast?_cons_of_ne_nil (laps_ne_nil left)]
      have hstep := inStep_stepAlone ht hchat hh a.step
      have hnext := level_lap ht hchat hl hstep (hfirst.together ha) (hno.first left)
      exact ih hnext hno.tail

/-- Events whose first laps end alike are answered alike, when no flow is started after that. -/
theorem answered_alike (e e' : Event)
    (hfirst : Level g (b.lap g.actor (b.eventAlone g.actor e) w)
      (b.lap g.actor (b.eventAlone g.actor e') w'))
    (hno : StartNone b.catalog (b.eventLaps g.actor e w).tail) :
    ∃ r v v', on (b.handle g.actor e) w = (.ok r, v) ∧ on (b.handle g.actor e') w' = (.ok r, v') ∧
      g.Near v v' := by
  obtain ⟨l, l', hlast, hlast', h⟩ := level_laps ht hchat hl hh b.chainLimit.toNat hfirst hno
  obtain ⟨ns, hon⟩ := on_handle hlast
  obtain ⟨ns', hon'⟩ := on_handle hlast'
  rw [h.outcome] at hon'
  exact ⟨_, _, _, hon, hon', h.near.unchanged rfl rfl rfl rfl rfl rfl⟩

end Laps

end Bot

/-- What someone writes or presses, wherever the flow is run. -/
inductive Input where
  | text (s : String)
  | payload (s : String)

namespace Input

def inChat : Input → Event
  | text s => .message s
  | payload s => .press s

def inTopic : Input → Event
  | text s => .topicMessage s
  | payload s => .topicPress s

end Input

namespace Bot
open Turn Context

section
variable {b : Bot} {g : Stage}

/-- What an input does alone where the flow is run. -/
theorem inStep_inputAlone (ht : Decimal.isReadable g.topic = true)
    (hchat : Decimal.isReadable g.chat = true)
    (hh : ∀ name h, Table.value? b.handlers name = some h → h.ByData) (i : Input) :
    LeadAlike g g.Together (b.eventAlone g.actor i.inChat) (b.eventAlone g.actor i.inTopic) := by
  cases i with
  | text s =>
    refine InStep.get_bind fun c c' h hc _ => ?_
    have hin : c'.inTopic = true := (congrArg Context.inTopic h.same :)
    simp only [hin, if_true]
    exact (inStep_takeAnswerAlone ht hchat h hc s).pre fun _ _ hw => hw.1.mono fun _ _ => .twins
  | payload s =>
    refine InStep.get_bind_right fun c c' h _ => ?_
    have hin : c'.inTopic = true := (congrArg Context.inTopic h.same :)
    simp only [hin, if_true]
    exact (inStep_pressAlone ht hchat hh s).pre fun _ _ hw => hw.mono fun _ _ => .twins

end

/-- An event of an actor, and the world that it finds. -/
structure Occasion where
  event : Event
  world : World

def Occasion.handled (o : Occasion) (b : Bot) (actor : Int) : Except Fault Outcome × World :=
  on (b.handle actor o.event) o.world

/-- A flow is run twice from one world by the same inputs: in the actor's own chat, and in a topic
of a chat. Nothing fails, each event comes at a time of its own, and every input finds the flow
still running. No flow is started on the way, not even the same one: that would leave the topic. -/
inductive Paired (b : Bot) (actor topic chat : Int) (flow : String) (w₀ : World) :
    Occasion → Occasion → Prop
  | opening (now now' : String)
    (hnone : StartNone b.catalog
      (b.eventLaps actor (.startFlow flow) { w₀ with now, outages := {} }).tail) :
    b.Paired actor topic chat flow w₀
      ⟨.startFlow flow, { w₀ with now, outages := {} }⟩
      ⟨.startTopicFlow (.int topic) flow .null (.int chat), { w₀ with now := now', outages := {} }⟩
  | input {o o' : Occasion} (h : b.Paired actor topic chat flow w₀ o o') (i : Input)
    (now now' : String) {c : Context}
    (hc : (o.handled b actor).2.store.context? now actor = some c) (hrun : c.isIdle = false)
    (hnone : StartNone b.catalog
      (b.eventLaps actor i.inChat { (o.handled b actor).2 with now, outages := {} })) :
    b.Paired actor topic chat flow w₀
      ⟨i.inChat, { (o.handled b actor).2 with now, outages := {} }⟩
      ⟨i.inTopic, { (o'.handled b actor).2 with now := now', outages := {} }⟩

section
variable {b : Bot} {actor topic chat : Int} {flow : String} {w₀ : World} {o o' : Occasion}

/-- Every event is answered alike, and leaves worlds that stand beside each other. -/
theorem Paired.near (hb : b.catalog.Built) (hl : b.Legible)
    (hh : ∀ name h, Table.value? b.handlers name = some h → h.ByData)
    (ht : Decimal.isReadable topic = true) (hchat : Decimal.isReadable chat = true) {f : Flow}
    (hf : b.catalog.flow? flow = some f) {now₀ : String} {c₀ : Context}
    (hc₀ : w₀.store.context? now₀ actor = some c₀) (hid : c₀.hasReadableId = true)
    (h : b.Paired actor topic chat flow w₀ o o') :
    ∃ r v v', o.handled b actor = (.ok r, v) ∧ o'.handled b actor = (.ok r, v') ∧
      (Stage.next actor topic chat o.world o'.world).Near v v' := by
  induction h with
  | opening now now' hnone =>
    have hbeside := Stage.beside_self topic chat hc₀ hid now now'
    have hfirst := level_start ht hchat hb hl hf hbeside
    exact answered_alike (g := Stage.next actor topic chat w₀ w₀) ht hchat hl hh (.startFlow flow)
      (.startTopicFlow (.int topic) flow .null (.int chat)) hfirst hnone
  | @input o o' h i now now' c hc hrun hnone ih =>
    obtain ⟨r, v, v', hv, hv', hnear⟩ := ih
    simp only [hv, hv'] at hc hnone ⊢
    have htogether := (hnear.together hc hrun).next now now'
    have halone := inStep_inputAlone (g := Stage.next actor topic chat v v') ht hchat hh i
    have hfirst := level_lap ht hchat hl halone htogether (hnone.first _)
    exact answered_alike (g := Stage.next actor topic chat v v') ht hchat hl hh i.inChat i.inTopic
      hfirst hnone.tail

end

section
variable {k : Catalog} {l : Lap}

/-- Where it ends there, no flow is started. -/
theorem startNone_of_rest (h : ∀ q, l.sequel = some q → ∃ o, q = .rest o) : StartNone k [l] := by
  intro l' hl' q hq
  obtain rfl := List.mem_singleton.mp hl'
  obtain ⟨o, rfl⟩ := h q hq
  exact id

end

section
variable {b : Bot} {actor : Int} {s : Scene} {c : Context}

/-- An answer that nothing is asked of, and after which nothing follows. -/
theorem leads_message_rest (hs : s.Reliable) (hc : s.context? actor = some c) {m : WaitMarker}
    (hm : c.waitMarker.1 = some m) (hany : m.validation = none) (hlast : m.next = none)
    (text : String) :
    Leads (· = s) (b.eventAlone actor (.message text)) (fun q _ => ∃ o, q = .rest o)
      fun _ => True := by
  have hwritten (p : Path) (v : Value) :
      Leads (fun _ => True) (Contexts.setVariable actor p v) (fun _ _ => True) fun _ => True := by
    intro w _
    split <;> trivial
  refine (Contexts.leads_get hs).bind fun o => Leads.given fun ho => ?_
  rw [ho, hc]
  refine (Leads.noted _).bind fun o => Leads.given fun ho => ?_
  rw [ho, hm]
  simp only [hany, keepAnswerAlone, hlast]
  exact Leads.pre ((hwritten _ _).bind fun _ => (hwritten _ _).bind fun _ =>
    Leads.pure fun _ _ => ⟨_, rfl⟩) fun _ _ => trivial

/-- Such an answer starts no flow. -/
theorem startNone_message {k : Catalog} {w : World} {now : String} {outages : Outages}
    (hstore : ∀ t n, outages.store t n = none) (hc : w.store.context? now actor = some c)
    {m : WaitMarker} (hm : c.waitMarker.1 = some m) (hany : m.validation = none)
    (hlast : m.next = none) (text : String) :
    StartNone k (b.eventLaps actor (.message text) { w with now, outages }) := by
  have hleads := leads_message_rest (b := b) (s := ({ w with now, outages } : World).scene) hstore
    hc hm hany hlast text
  have harrival : (b.lap actor (b.eventAlone actor (.message text))
      { w with now, outages }).arrival? = none := by
    have hdone := hleads { w with now, outages } rfl
    rcases hon : on (b.eventAlone actor (.message text)) { w with now, outages } with ⟨f | q, v⟩
    · rw [lap_of_broken hon]
      rfl
    · rw [hon] at hdone
      obtain ⟨o, rfl⟩ := hdone
      rw [lap_of_sequel hon]
      rfl
  rw [eventLaps, laps_of_rest harrival]
  refine startNone_of_rest fun q hq => ?_
  obtain ⟨_, hrest⟩ := sequel_of_leads hleads rfl hq
  exact hrest

end

/-- The survey is begun in the own chat, and in a topic. -/
private theorem paired_asked : surveyor.Paired 1 7 (-100) "survey" .reception
    ⟨.startFlow "survey", { World.reception with now := "", outages := {} }⟩
    ⟨.startTopicFlow (.int 7) "survey" .null (.int (-100)),
      { World.reception with now := "", outages := {} }⟩ := by
  refine .opening "" "" ?_
  obtain ⟨l, l', hlaps, -, -, hrest, -⟩ := laps_asked
  rw [hlaps]
  exact startNone_of_rest hrest

private theorem handled_asked : (Occasion.handled
    ⟨.startFlow "survey", { World.reception with now := "", outages := {} }⟩ surveyor 1).2 =
      asked := by
  rw [asked, after, Occasion.handled]

end Bot

end Dialogue
