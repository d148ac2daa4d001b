import Dialogue.Proofs.Context.Twins
import Dialogue.Proofs.Turn.Sending

/-! Work that is done twice, each time on a world of its own: in the one an actor runs a flow in the
own chat, in the other in a topic. Two pieces of work are in step when they answer the same and
leave worlds that stand beside each other again. -/
namespace Dialogue

/-- Nothing is out of order. -/
structure Outages.Absent (o : Outages) : Prop where
  store : ∀ t n, o.store t n = none
  channel : ∀ t n, o.channel t n = none

/-- Where a flow is run in the two worlds, and what was sent in each of them before. -/
structure Stage where
  actor : Int
  topic : Int
  chat : Int
  past : List Delivery := []
  past' : List Delivery := []

namespace Stage

def home (g : Stage) : Destination := .direct g.actor

def away (g : Stage) : Destination := { chatId := g.chat, topicId := some g.topic }

/-- A text and its keyboard, sent to some place. -/
def mail (dest : Destination) (m : String × Keyboard) : Delivery :=
  { destination := dest, text := m.1, keyboard := m.2 }

/-- The contexts of the actor are as `K` asks, those of all others are the same but for the times of
visits, and everything that was sent in both worlds was the same, each time to its own place. -/
structure Beside (g : Stage) (K : Context → Context → Prop) (w w' : World) : Prop where
  working : w.outages.Absent
  working' : w'.outages.Absent
  own : ∀ now now', ∃ c c', w.store.context? now g.actor = some c ∧
    w'.store.context? now' g.actor = some c' ∧ K c c'
  others : ∀ a, a ≠ g.actor → ∀ now now', (w'.store.context? now' a).map Context.untimed =
    (w.store.context? now a).map Context.untimed
  sent : ∃ ms : List (String × Keyboard), w.sent = g.past ++ ms.map (mail g.home) ∧
    w'.sent = g.past' ++ ms.map (mail g.away)

/-- The flow is run in both worlds. -/
abbrev Together (g : Stage) : World → World → Prop := g.Beside (Context.Twins g.topic g.chat)

/-- The flow is run in both worlds, or in neither any more. -/
abbrev Near (g : Stage) : World → World → Prop := g.Beside (Context.Abreast g.topic g.chat)

end Stage

namespace Turn
variable {α β γ : Type}

/-- Both pieces of work answer the same, with an answer or with a fault. -/
def InStep (R : World → World → Prop) (x y : Turn α) (Q : α → World → World → Prop)
    (E : World → World → Prop) : Prop :=
  ∀ w w', R w w' → ∃ r v v', on x w = (r, v) ∧ on y w' = (r, v') ∧
    match r with
    | .ok a => Q a v v'
    | .error _ => E v v'

namespace InStep
variable {R R' E E' : World → World → Prop} {Q : α → World → World → Prop}
  {Q' : β → World → World → Prop}

theorem pure {a : α} (h : ∀ w w', R w w' → Q a w w') : InStep R (pure a) (pure a) Q E :=
  fun w w' hw => ⟨.ok a, w, w', rfl, rfl, h w w' hw⟩

theorem throw {f : Fault} (h : ∀ w w', R w w' → E w w') :
    InStep R (throw f : Turn α) (throw f) Q E :=
  fun w w' hw => ⟨.error f, w, w', rfl, rfl, h w w' hw⟩

theorem bind {x y : Turn α} {f g : α → Turn β} (hx : InStep R x y Q E)
    (hf : ∀ a, InStep (Q a) (f a) (g a) Q' E) : InStep R (x >>= f) (y >>= g) Q' E := by
  intro w w' hw
  obtain ⟨r, v, v', hon, hon', hr⟩ := hx w w' hw
  rw [on_bind, on_bind, hon, hon']
  cases r with
  | ok a => exact hf a v v' hr
  | error f => exact ⟨.error f, v, v', rfl, rfl, hr⟩

theorem map {x y : Turn α} {f : α → β} (h : InStep R x y (fun a => Q' (f a)) E) :
    InStep R (f <$> x) (f <$> y) Q' E := by
  rw [map_eq_pure_bind, map_eq_pure_bind]
  exact h.bind fun _ => pure fun _ _ hw => hw

theorem rescue {x y : Turn α} {handle handle' : Fault → Turn α} (hx : InStep R x y Q E)
    (hhandle : ∀ f, InStep E (handle f) (handle' f) Q E') :
    InStep R (rescue x handle) (rescue y handle') Q E' := by
  intro w w' hw
  obtain ⟨r, v, v', hon, hon', hr⟩ := hx w w' hw
  rw [on_rescue, on_rescue, hon, hon']
  cases r with
  | ok a => exact ⟨.ok a, v, v', rfl, rfl, hr⟩
  | error f => exact hhandle f v v' hr

theorem pre {x y : Turn α} (h : InStep R' x y Q E) (hR : ∀ w w', R w w' → R' w w') :
    InStep R x y Q E :=
  fun w w' hw => h w w' (hR w w' hw)

theorem post {x y : Turn α} {Q₀ : α → World → World → Prop} (h : InStep R x y Q₀ E)
    (hQ : ∀ a w w', Q₀ a w w' → Q a w w') : InStep R x y Q E := by
  intro w w' hw
  obtain ⟨r, v, v', hon, hon', hr⟩ := h w w' hw
  refine ⟨r, v, v', hon, hon', ?_⟩
  cases r with
  | ok a => exact hQ a v v' hr
  | error f => exact hr

end InStep

/-- Work that always ends in the same way, and changes nothing that is compared. -/
def Still (x : Turn α) (r : Except Fault α) : Prop :=
  ∀ w, ∃ v, on x w = (r, v) ∧ v.scene.store = w.scene.store ∧ v.sent = w.sent ∧
    v.outages = w.outages

theorem still_note (n : Notice) : Still (note n) (.ok ()) := fun _ => ⟨_, rfl, rfl, rfl, rfl⟩

theorem still_noted (r : α × List Notice) : Still (noted r) (.ok r.1) :=
  fun _ => ⟨_, rfl, rfl, rfl, rfl⟩

theorem still_ofResult (r : Except Fault α) : Still (ofResult r) r := by
  cases r <;> exact fun _ => ⟨_, rfl, rfl, rfl, rfl⟩

theorem still_pause (milliseconds : Nat) : ∃ r, Still (pause milliseconds) r := by
  unfold Turn.pause
  split
  · exact ⟨.ok (), fun _ => ⟨_, rfl, rfl, rfl, rfl⟩⟩
  · exact ⟨.error .tooLarge, fun _ => ⟨_, rfl, rfl, rfl, rfl⟩⟩

/-- A run of work that leads to somewhere, and not into a fault. -/
theorem run_of_leads {x : Turn α} {T : α → Scene → Prop} {w : World}
    (h : Leads (· = w.scene) x T fun _ => False) (hm : Mute x) :
    ∃ a v, on x w = (.ok a, v) ∧ T a v.scene ∧ v.sent = w.sent ∧ v.outages = w.outages := by
  have hdone := h w rfl
  have hsent := hm.sent w
  have houtages := hm.outages w
  rcases hon : on x w with ⟨f | a, v⟩
  · rw [hon] at hdone
    exact hdone.elim
  · rw [hon] at hdone hsent houtages
    exact ⟨a, v, rfl, hdone, hsent, houtages⟩

end Turn

namespace Stage.Beside
open Turn Context

variable {g : Stage} {K K' : Context → Context → Prop} {w w' v v' : World}

theorem reliable (h : g.Beside K w w') : w.scene.Reliable ∧ w'.scene.Reliable :=
  ⟨h.working.store, h.working'.store⟩

theorem mono (h : g.Beside K w w') (hK : ∀ c c', K c c' → K' c c') : g.Beside K' w w' :=
  ⟨h.working, h.working', fun now now' =>
    let ⟨c, c', hc, hc', hcc⟩ := h.own now now'
    ⟨c, c', hc, hc', hK c c' hcc⟩, h.others, h.sent⟩

/-- Nothing that is compared was changed. -/
theorem unchanged (h : g.Beside K w w') (hs : v.scene.store = w.scene.store)
    (hs' : v'.scene.store = w'.scene.store) (hsent : v.sent = w.sent) (hsent' : v'.sent = w'.sent)
    (ho : v.outages = w.outages) (ho' : v'.outages = w'.outages) : g.Beside K v v' := by
  have hstore : v.store = w.store := hs
  have hstore' : v'.store = w'.store := hs'
  refine ⟨ho ▸ h.working, ho' ▸ h.working', ?_, ?_, ?_⟩
  · rw [hstore, hstore']
    exact h.own
  · rw [hstore, hstore']
    exact h.others
  · rw [hsent, hsent']
    exact h.sent

/-- The contexts of the actor were rewritten in both worlds. -/
theorem rewritten {d d' : Context} (h : g.Beside K w w')
    (hd : w.scene.Rewritten v.scene g.actor d) (hd' : w'.scene.Rewritten v'.scene g.actor d')
    (hK : K' d d') (hsent : v.sent = w.sent) (hsent' : v'.sent = w'.sent)
    (ho : v.outages = w.outages) (ho' : v'.outages = w'.outages) : g.Beside K' v v' := by
  refine ⟨ho ▸ h.working, ho' ▸ h.working', fun now now' => ⟨d, d', hd.own now, hd'.own now', hK⟩,
    fun a ha now now' => ?_, ?_⟩
  · have hother : v.store.context? now a = w.store.context? now a := hd.others now ha
    have hother' : v'.store.context? now' a = w'.store.context? now' a := hd'.others now' ha
    rw [hother, hother']
    exact h.others a ha now now'
  · rw [hsent, hsent']
    exact h.sent

/-- The contexts of someone else were rewritten in both worlds, and in the same way. -/
theorem rewritten_other {a : Int} {d d' : Context} (h : g.Beside K w w') (ha : a ≠ g.actor)
    (hd : w.scene.Rewritten v.scene a d) (hd' : w'.scene.Rewritten v'.scene a d')
    (hsame : d'.untimed = d.untimed) (hsent : v.sent = w.sent) (hsent' : v'.sent = w'.sent)
    (ho : v.outages = w.outages) (ho' : v'.outages = w'.outages) : g.Beside K v v' := by
  have hother {b : Int} (hb : b ≠ a) (now : String) :
      v.store.context? now b = w.store.context? now b := hd.others now hb
  have hother' {b : Int} (hb : b ≠ a) (now : String) :
      v'.store.context? now b = w'.store.context? now b := hd'.others now hb
  refine ⟨ho ▸ h.working, ho' ▸ h.working', fun now now' => ?_, fun b hb now now' => ?_, ?_⟩
  · rw [hother ha.symm, hother' ha.symm]
    exact h.own now now'
  · by_cases hba : b = a
    · have hown : v.store.context? now b = some d := hba ▸ hd.own now
      have hown' : v'.store.context? now' b = some d' := hba ▸ hd'.own now'
      rw [hown, hown', Option.map_some, Option.map_some, hsame]
    · rw [hother hba, hother' hba]
      exact h.others b hb now now'
  · rw [hsent, hsent']
    exact h.sent

end Stage.Beside

namespace Turn.InStep
open Context

variable {α β γ : Type} {g : Stage} {K K' : Context → Context → Prop}
  {R E : World → World → Prop} {Q : α → World → World → Prop}

theorem still {x : Turn α} {r : Except Fault α} (h : Still x r) :
    InStep (g.Beside K) x x (fun _ => g.Beside K) (g.Beside K) := by
  intro w w' hw
  obtain ⟨v, hon, hstore, hsent, ho⟩ := h w
  obtain ⟨v', hon', hstore', hsent', ho'⟩ := h w'
  have hv := hw.unchanged hstore hstore' hsent hsent' ho ho'
  refine ⟨r, v, v', hon, hon', ?_⟩
  cases r <;> exact hv

/-- A message goes out in both worlds, each time to its own place. -/
theorem deliver (text : String) (keyboard : Keyboard) :
    InStep (g.Beside K) (Channel.deliver g.home text keyboard)
      (Channel.deliver g.away text keyboard) (fun _ => g.Beside K) E := by
  intro w w' hw
  obtain ⟨ms, hsent, hsent'⟩ := hw.sent
  have hon {dest : Destination} {u : World} (hu : u.outages.Absent) :
      on (Channel.deliver dest text keyboard) u = (.ok (), { u with
        channelTasks := u.channelTasks + 1
        sent := u.sent ++ [Stage.mail dest (text, keyboard)] }) := by
    simp only [Channel.deliver, channelTask, on_bind, on_get, on_set, hu.channel]
    rfl
  refine ⟨.ok (), _, _, hon hw.working, hon hw.working', hw.working, hw.working', hw.own, hw.others,
    ms ++ [(text, keyboard)], ?_, ?_⟩
  · rw [hsent, List.map_append, List.append_assoc]
    rfl
  · rw [hsent', List.map_append, List.append_assoc]
    rfl

/-- The actor's contexts are read. -/
theorem get_bind {f f' : Option Context → Turn α}
    (hf : ∀ c c', K c c' → c.externalId = g.actor → c'.externalId = g.actor →
      InStep (fun w w' => g.Beside K w w' ∧ w.scene.context? g.actor = some c ∧
        w'.scene.context? g.actor = some c') (f (some c)) (f' (some c')) Q E) :
    InStep (g.Beside K) (Contexts.get g.actor >>= f) (Contexts.get g.actor >>= f') Q E := by
  intro w w' hw
  obtain ⟨c, c', hc, hc', hK⟩ := hw.own w.now w'.now
  obtain ⟨o, v, hon, ⟨hv, ho⟩, hsent, hout⟩ :=
    run_of_leads (Contexts.leads_get hw.reliable.1) (Contexts.mute_get g.actor)
  obtain ⟨o', v', hon', ⟨hv', ho'⟩, hsent', hout'⟩ :=
    run_of_leads (Contexts.leads_get hw.reliable.2) (Contexts.mute_get g.actor)
  obtain rfl : o = some c := ho.trans hc
  obtain rfl : o' = some c' := ho'.trans hc'
  have hread : v.scene.context? g.actor = some c := by rw [hv]; exact hc
  have hread' : v'.scene.context? g.actor = some c' := by rw [hv']; exact hc'
  have hbeside : g.Beside K v v' :=
    hw.unchanged (by rw [hv]) (by rw [hv']) hsent hsent' hout hout'
  rw [on_bind, on_bind, hon, hon']
  exact hf c c' hK (Store.context?_identity hc).1 (Store.context?_identity hc').1 v v'
    ⟨hbeside, hread, hread'⟩

/-- A read on one side only makes no difference. -/
theorem get_bind_right {x : Turn α} {f : Option Context → Turn α}
    (hf : ∀ c c', K c c' → c'.externalId = g.actor → InStep (g.Beside K) x (f (some c')) Q E) :
    InStep (g.Beside K) x (Contexts.get g.actor >>= f) Q E := by
  intro w w' hw
  obtain ⟨c, c', hc, hc', hK⟩ := hw.own w.now w'.now
  obtain ⟨o, v', hon, ⟨hv, ho⟩, hsent, hout⟩ :=
    run_of_leads (Contexts.leads_get hw.reliable.2) (Contexts.mute_get g.actor)
  obtain rfl : o = some c' := ho.trans hc'
  have hbeside : g.Beside K w v' := hw.unchanged rfl (by rw [hv]) rfl hsent rfl hout
  rw [on_bind, hon]
  exact hf c c' hK (Store.context?_identity hc').1 w v' hbeside

/-- Work that rewrites the actor's contexts, whatever it answers. -/
theorem rewrite_bind {x : Turn β} {y : Turn γ} {k k' : Turn α}
    (h : ∀ w w', R w w' → g.Beside K w w' ∧ ∃ d d', K' d d' ∧
      Leads (· = w.scene) x (fun _ t => w.scene.Rewritten t g.actor d) (fun _ => False) ∧
      Leads (· = w'.scene) y (fun _ t => w'.scene.Rewritten t g.actor d') (fun _ => False))
    (hx : Mute x) (hy : Mute y) (hk : InStep (g.Beside K') k k' Q E) :
    InStep R (x >>= fun _ => k) (y >>= fun _ => k') Q E := by
  intro w w' hR
  obtain ⟨hw, d, d', hK, hleads, hleads'⟩ := h w w' hR
  obtain ⟨b, v, hon, hd, hsent, ho⟩ := run_of_leads hleads hx
  obtain ⟨c, v', hon', hd', hsent', ho'⟩ := run_of_leads hleads' hy
  rw [on_bind, on_bind, hon, hon']
  exact hk v v' (hw.rewritten hd hd' hK hsent hsent' ho ho')

/-- A value is put into the data of the actor. -/
theorem setOwn {p : Path} {v : Value} (hK : ∀ c c', K c c' → K' (c.written p v) (c'.written p v)) :
    InStep (g.Beside K) (Contexts.setVariable g.actor p v) (Contexts.setVariable g.actor p v)
      (fun _ => g.Beside K') E := by
  have hdone : InStep (g.Beside K') (Pure.pure ()) (Pure.pure ()) (fun _ => g.Beside K') E :=
    pure fun _ _ hw => hw
  have hmute := Contexts.mute_setVariable g.actor p v
  have hall := rewrite_bind (K := K) (R := g.Beside K) (fun w w' hw => by
    obtain ⟨c, c', hc, hc', hcc⟩ := hw.own w.now w'.now
    exact ⟨hw, _, _, hK c c' hcc, Contexts.leads_setVariable hw.reliable.1 hc p v,
      Contexts.leads_setVariable hw.reliable.2 hc' p v⟩) hmute hmute hdone
  rwa [bind_pure_unit] at hall

/-- A value is put into the data of someone else. -/
theorem setOther {a : Int} (ha : a ≠ g.actor) (p : Path) (v : Value) :
    InStep (g.Beside K) (Contexts.setVariable a p v) (Contexts.setVariable a p v)
      (fun _ => g.Beside K) E := by
  intro w w' hw
  have hothers := hw.others a ha w.now w'.now
  have hmute := Contexts.mute_setVariable a p v
  cases hc : w.store.context? w.now a with
  | none =>
    rw [hc, Option.map_none, Option.map_eq_none_iff] at hothers
    obtain ⟨_, u, hon, hu, hsent, ho⟩ :=
      run_of_leads (Contexts.leads_setVariable_unknown hw.reliable.1 hc p v) hmute
    obtain ⟨_, u', hon', hu', hsent', ho'⟩ :=
      run_of_leads (Contexts.leads_setVariable_unknown hw.reliable.2 hothers p v) hmute
    exact ⟨.ok (), u, u', hon, hon',
      hw.unchanged (by rw [hu]) (by rw [hu']) hsent hsent' ho ho'⟩
  | some c =>
    rw [hc, Option.map_some, Option.map_eq_some_iff] at hothers
    obtain ⟨c', hc', hsame⟩ := hothers
    obtain ⟨_, u, hon, hu, hsent, ho⟩ :=
      run_of_leads (Contexts.leads_setVariable hw.reliable.1 hc p v) hmute
    obtain ⟨_, u', hon', hu', hsent', ho'⟩ :=
      run_of_leads (Contexts.leads_setVariable hw.reliable.2 hc' p v) hmute
    have hkept : (c'.setData p v).kept.untimed = (c.setData p v).kept.untimed := by
      rw [untimed_kept, untimed_kept, untimed_setData, untimed_setData, hsame]
    exact ⟨.ok (), u, u', hon, hon', hw.rewritten_other ha hu hu' hkept hsent hsent' ho ho'⟩

theorem setVariable (ht : Decimal.isReadable g.topic = true)
    (hchat : Decimal.isReadable g.chat = true) (a : Int) (p : Path) (v : Value) :
    InStep g.Near (Contexts.setVariable a p v) (Contexts.setVariable a p v) (fun _ => g.Near)
      E := by
  by_cases ha : a = g.actor
  · rw [ha]
    exact setOwn fun c c' h => h.written ht hchat p v
  · exact setOther ha p v

/-- The data of anyone are read, and nothing but the data. -/
theorem read_bind {next : Option (Table String Value) → Turn α} (a : Int)
    (h : ∀ data, InStep g.Near (next data) (next data) Q E) :
    InStep g.Near (Contexts.get a >>= fun c => next (c.map Context.data))
      (Contexts.get a >>= fun c => next (c.map Context.data)) Q E := by
  intro w w' hw
  have hdata : (w'.store.context? w'.now a).map Context.data =
      (w.store.context? w.now a).map Context.data := by
    by_cases ha : a = g.actor
    · obtain ⟨c, c', hc, hc', hK⟩ := hw.own w.now w'.now
      rw [ha, hc, hc', Option.map_some, Option.map_some, hK.agree.data]
    · have hothers := congrArg (Option.map Context.data) (hw.others a ha w.now w'.now)
      rwa [Option.map_map, Option.map_map] at hothers
  obtain ⟨o, v, hon, ⟨hv, ho⟩, hsent, hout⟩ :=
    run_of_leads (Contexts.leads_get hw.reliable.1) (Contexts.mute_get a)
  obtain ⟨o', v', hon', ⟨hv', ho'⟩, hsent', hout'⟩ :=
    run_of_leads (Contexts.leads_get hw.reliable.2) (Contexts.mute_get a)
  have hsame : o'.map Context.data = o.map Context.data := by
    rw [ho, ho']
    exact hdata
  rw [on_bind, on_bind, hon, hon']
  simp only [hsame]
  exact h _ v v' (hw.unchanged (by rw [hv]) (by rw [hv']) hsent hsent' hout hout')

end Turn.InStep

end Dialogue
