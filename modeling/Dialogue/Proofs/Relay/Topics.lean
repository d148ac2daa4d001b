import Dialogue.Proofs.Bot.Holding
import Dialogue.Proofs.Contexts.Looking
import Dialogue.Relay

/-! Actors and their topics. Who owns a topic is kept in the data of the actor, and relays remember
it on the way; whatever they forget, they find again in the data. -/
namespace Dialogue

theorem Value.same_int (m n : Int) : Value.same (.int m) (.int n) = decide (m = n) := by
  rw [Bool.eq_iff_iff, decide_eq_true_eq]
  simp [Value.same, sameMagnitude, magnitude?, Magnitude.equal, Magnitude.compare]

theorem Value.same_null (n : Int) : Value.same .null (.int n) = false := rfl

namespace Relay
open Turn
variable {w v : World} {actor topic : Int}

/-- The topic that the data of an actor hold; null if they hold none. -/
def topicOf (w : World) (actor : Int) : Value := w.scene.valueAt topicPath actor

/-- The owner of a topic as the relay of a slot remembers it. -/
def ownerIn (w : World) (slot : Nat) (topic : Int) : Option Int :=
  (Table.value? w.owners slot).bind fun known => Table.value? known topic

/-- Neither store nor channel fails, and no topic is opened under the id of another. -/
structure Works (w : World) : Prop where
  store : ∀ t n, w.outages.store t n = none
  channel : ∀ t n, w.outages.channel t n = none
  apart : ∀ i j, w.topicIds i = w.topicIds j → i = j

theorem Works.of_eq (h : Works w) (ho : v.outages = w.outages) (hi : v.topicIds = w.topicIds) :
    Works v where
  store := ho ▸ h.store
  channel := ho ▸ h.channel
  apart := hi ▸ h.apart

/-- Actors own different topics, all of which have been opened, and what is remembered is right. -/
structure Paired (w : World) : Prop where
  opened : ∀ a, topicOf w a = .null ∨ ∃ i < w.topics.length, topicOf w a = .int (w.topicIds i)
  apart : ∀ a b t, topicOf w a = .int t → topicOf w b = .int t → a = b
  remembered : ∀ slot t a, ownerIn w slot t = some a → topicOf w a = .int t

/-- Nothing is lost as long as the data stay and what is remembered is right. -/
theorem Paired.of_eq (h : Paired w) (htopic : ∀ a, topicOf v a = topicOf w a)
    (htopics : v.topics = w.topics) (hids : v.topicIds = w.topicIds)
    (howners : ∀ slot t a, ownerIn v slot t = some a → topicOf w a = .int t) : Paired v where
  opened a := by
    rw [htopic, htopics, hids]
    exact h.opened a
  apart a b t ha hb := h.apart a b t (htopic a ▸ ha) (htopic b ▸ hb)
  remembered slot t a ha := (htopic a).trans (howners slot t a ha)

/-- A topic that is opened for an actor who has none is nobody else's. -/
theorem Paired.opening (hw : Works w) (h : Paired w) {name : Int × String}
    (hnull : topicOf w actor = .null) (htopics : v.topics = w.topics ++ [name])
    (hids : v.topicIds = w.topicIds) (hown : topicOf v actor = .int (w.topicIds w.topics.length))
    (hothers : ∀ a, a ≠ actor → topicOf v a = topicOf w a)
    (howners : ∀ slot t a, ownerIn v slot t = some a →
      t = w.topicIds w.topics.length ∧ a = actor ∨ ownerIn w slot t = some a) : Paired v := by
  have hlength : v.topics.length = w.topics.length + 1 := by
    rw [htopics, List.length_append, List.length_singleton]
  have hnew (a : Int) (ha : a ≠ actor) : topicOf v a ≠ .int (w.topicIds w.topics.length) := by
    intro hsame
    rw [hothers a ha] at hsame
    rcases h.opened a with hnone | ⟨i, hi, htopic⟩
    · rw [hnone] at hsame
      cases hsame
    · have hsame' := hw.apart i _ (Value.int.inj (htopic.symm.trans hsame))
      omega
  refine ⟨fun a => ?_, fun a b t ha hb => ?_, fun slot t a ha => ?_⟩
  · rw [hlength, hids]
    by_cases ha : a = actor
    · exact .inr ⟨_, Nat.lt_succ_self _, ha ▸ hown⟩
    · rw [hothers a ha]
      exact (h.opened a).imp_right fun ⟨i, hi, htopic⟩ => ⟨i, Nat.lt_succ_of_lt hi, htopic⟩
  · by_cases ha' : a = actor <;> by_cases hb' : b = actor
    · rw [ha', hb']
    · subst ha'
      rw [← Value.int.inj (hown.symm.trans ha)] at hb
      exact absurd hb (hnew b hb')
    · subst hb'
      rw [← Value.int.inj (hown.symm.trans hb)] at ha
      exact absurd ha (hnew a ha')
    · exact h.apart a b t (hothers a ha' ▸ ha) (hothers b hb' ▸ hb)
  · rcases howners slot t a ha with ⟨rfl, rfl⟩ | hold
    · exact hown
    · have htopic := h.remembered slot t a hold
      have ha' : a ≠ actor := by
        rintro rfl
        rw [hnull] at htopic
        cases htopic
      rwa [hothers a ha']

/-- What relays do leaves everything in order, and nobody loses a topic. -/
structure Extends (w v : World) : Prop where
  works : Works v
  paired : Paired v
  bound : ∀ a t, topicOf w a = .int t → topicOf v a = .int t

/-- Another copy changes nothing about topics. -/
theorem Extends.copy (h : Extends w v) (m : Copy) :
    Extends w { v with channelTasks := v.channelTasks + 1, copies := v.copies ++ [m] } where
  works := h.works.of_eq rfl rfl
  paired := h.paired.of_eq (fun _ => rfl) rfl rfl h.paired.remembered
  bound := h.bound

theorem ownerIn_put {slot slot' : Nat} {known : Table Int Int} {t a : Int}
    (hready : known = (Table.value? w.owners slot).getD [])
    (h : ownerIn { w with owners := Table.put w.owners slot (Table.put known topic actor) } slot' t =
      some a) : t = topic ∧ a = actor ∨ ownerIn w slot' t = some a := by
  rw [ownerIn] at h ⊢
  by_cases hslot : slot' = slot
  · subst hslot
    rw [Table.value?_put_self, Option.bind_some] at h
    by_cases ht : t = topic
    · subst ht
      rw [Table.value?_put_self] at h
      exact .inl ⟨rfl, (Option.some.inj h).symm⟩
    · rw [Table.value?_put_of_ne _ _ (Ne.symm ht), hready] at h
      cases hold : Table.value? w.owners slot' with
      | none =>
        rw [hold] at h
        cases h
      | some known' =>
        rw [hold] at h
        exact .inr h
  · rw [Table.value?_put_of_ne _ _ (Ne.symm hslot)] at h
    exact .inr h

/-- The scan through all actors finds the owner of a topic, if there is one. -/
private theorem holds_iff (h : Paired w) :
    w.scene.holds topicPath (.int topic) actor = true ↔ topicOf w actor = .int topic := by
  have hopened := h.opened actor
  rw [topicOf, Scene.valueAt] at hopened ⊢
  rw [Scene.holds]
  cases hc : w.scene.context? actor with
  | none => exact iff_of_false Bool.false_ne_true fun htopic => by cases htopic
  | some c =>
    rw [hc] at hopened
    rw [Option.any_some]
    rw [Option.elim_some] at hopened ⊢
    rcases hopened with hnull | ⟨i, -, hint⟩
    · rw [hnull, Value.same_null]
      exact iff_of_false Bool.false_ne_true fun htopic => by cases htopic
    · rw [hint, Value.same_int, decide_eq_true_eq, Value.int.injEq]

private theorem mem_externalIds (h : topicOf w actor = .int topic) :
    actor ∈ w.store.externalIds := by
  cases hc : w.scene.context? actor with
  | none =>
    rw [topicOf, Scene.valueAt, hc] at h
    cases h
  | some c => exact Store.mem_externalIds (Store.context?_identity hc).2

section
variable (r : Relay) (hw : Works w) (hp : Paired w)
include hw hp

private theorem extends_of_looked (hv : w.Looked v) {os : Table Nat (Table Int Int)}
    (hos : ∀ slot t a, ownerIn { w with owners := os } slot t = some a → topicOf w a = .int t) :
    Extends w { v with owners := os } ∧ v.copies = w.copies ∧ v.topics = w.topics := by
  obtain ⟨_, _, _, rfl⟩ := hv
  exact ⟨⟨hw.of_eq rfl rfl, hp.of_eq (fun _ => rfl) rfl rfl hos, fun _ _ => id⟩, rfl, rfl⟩

/-- Asked for the owner of a topic, a relay answers with the actor whose topic it is. -/
theorem exists_ownerOf (topic : Int) :
    ∃ o v, on (r.ownerOf topic) w = (.ok o, v) ∧
      (Extends w v ∧ v.copies = w.copies ∧ v.topics = w.topics) ∧
      match o with
      | some a => topicOf w a = .int topic
      | none => ∀ a, topicOf w a ≠ .int topic := by
  have hremembered : on (r.remembered topic) w = (.ok (ownerIn w r.slot topic), w) := rfl
  rw [ownerOf, on_bind, hremembered]
  cases howner : ownerIn w r.slot topic with
  | some a =>
    exact ⟨_, w, rfl, ⟨⟨hw, hp, fun _ _ => id⟩, rfl, rfl⟩, hp.remembered _ _ _ howner⟩
  | none =>
    obtain ⟨u, hfind, hu⟩ := Contexts.exists_looked_findActor hw.store topicPath (.int topic)
    simp only [on_bind, hfind]
    cases hfound : w.store.externalIds.find? (w.scene.holds topicPath (.int topic)) with
    | none =>
      refine ⟨none, u, rfl, extends_of_looked hw hp hu (hu.owners ▸ hp.remembered), fun a ha => ?_⟩
      exact List.find?_eq_none.mp hfound a (mem_externalIds ha) ((holds_iff hp).mpr ha)
    | some a =>
      have htopic := (holds_iff hp).mp (List.find?_some hfound)
      refine ⟨some a, _, rfl, extends_of_looked hw hp hu fun slot t b hb => ?_, htopic⟩
      rw [hu.owners] at hb
      rcases ownerIn_put rfl hb with ⟨rfl, rfl⟩ | hold
      · exact htopic
      · exact hp.remembered slot t b hold

omit hp in
private theorem on_openTopic (hrelays : r.channel.relays = true) (name : String) :
    on (r.channel.openTopic r.adminChat name) w =
      (.ok (w.topicIds w.topics.length), { w with
        channelTasks := w.channelTasks + 1
        topics := w.topics ++ [(r.adminChat, name)] }) := by
  simp only [Channel.openTopic, hrelays, channelTask, on_bind, on_get, on_set, hw.channel,
    Bool.not_true, Bool.false_eq_true, if_false, on_pure]

omit hp in
theorem on_copy (hrelays : r.channel.relays = true) (m : Copy) :
    on (r.channel.copy m) w =
      (.ok (), { w with channelTasks := w.channelTasks + 1, copies := w.copies ++ [m] }) := by
  simp only [Channel.copy, hrelays, channelTask, on_bind, on_get, on_set, hw.channel, on_modify,
    Bool.not_true, Bool.false_eq_true, if_false, on_pure]

omit hw hp in
/-- Once a topic is written into the data of an actor, it is found there, and what others have is
as it was. -/
private theorem topicOf_saved {c : Context} {t : Int} (hc : w.scene.context? actor = some c)
    (hid : c.hasReadableId = true) (ht : Decimal.isReadable t = true)
    (hsaved : w.store.Saved v.store actor (c.setData topicPath (.int t)).encode)
    (hnow : v.now = w.now) :
    topicOf v actor = .int t ∧ ∀ a, a ≠ actor → topicOf v a = topicOf w a := by
  obtain ⟨rfl, hresolve⟩ := Store.context?_identity hc
  have hv (a : Int) : v.scene.context? a = v.store.context? w.now a := by rw [← hnow]; rfl
  refine ⟨?_, fun a ha => ?_⟩
  · have hown : v.store.context? w.now c.externalId = some (c.setData topicPath (.int t)).kept :=
      hsaved.own (d := c.setData topicPath (.int t)) hresolve w.now
    have hlegible : (c.setData topicPath (.int t)).isLegible = true :=
      Context.setData_legible (Store.context?_legible hc) topicPath ht
    have hwell : (Value.dict (Path.set c.data topicPath (.int t))).WellFormed :=
      Value.nests_wellFormed.set (Store.context?_wellFormed hc) topicPath trivial
    rw [topicOf, Scene.valueAt, hv, hown, Option.elim_some,
      Context.dict_data_kept (c := c.setData topicPath (.int t)) hid hlegible]
    exact (Value.get_kept hwell topicPath).trans
      (congrArg Value.kept (Path.get_set_self c.data (by decide) (.int t)))
  · rw [topicOf, Scene.valueAt, hv, hsaved.others w.now ha]
    rfl

/-- A topic has been given to an actor, and nothing else has changed that relays look at. -/
structure Bound (actor topic : Int) (w v : World) : Prop where
  own : topicOf v actor = .int topic
  others : ∀ a, a ≠ actor → topicOf v a = topicOf w a
  owners : ∀ slot t a, ownerIn v slot t = some a →
    t = topic ∧ a = actor ∨ ownerIn w slot t = some a
  outages : v.outages = w.outages
  copies : v.copies = w.copies
  topics : v.topics = w.topics
  topicIds : v.topicIds = w.topicIds

omit hp in
private theorem exists_bindTopic {c : Context} (hc : w.scene.context? actor = some c)
    (hid : c.hasReadableId = true) (ht : Decimal.isReadable topic = true) :
    ∃ v, on (r.bindTopic actor topic) w = (.ok (), v) ∧ Bound actor topic w v := by
  obtain ⟨s, u, hset, ⟨_, _, _, rfl⟩, hsaved⟩ :=
    Contexts.exists_looked_setVariable hw.store hc topicPath (.int topic)
  obtain ⟨hown, hothers⟩ := topicOf_saved (v := { w with store := s }) hc hid ht hsaved rfl
  rw [bindTopic, on_bind, hset]
  exact ⟨_, rfl, hown, hothers, fun _ _ _ ha => ownerIn_put rfl ha, rfl, rfl, rfl, rfl⟩

/-- A sender who is known gets a topic, a new one only if there was none. -/
theorem exists_topicFor {m : InboundMessage} {c : Context}
    (hrelays : r.channel.relays = true) (hc : w.scene.context? m.senderId = some c)
    (hid : c.hasReadableId = true)
    (hnext : Decimal.isReadable (w.topicIds w.topics.length) = true) :
    ∃ t v, on (r.topicFor m) w = (.ok (.int t), v) ∧ Extends w v ∧
      topicOf v m.senderId = .int t ∧ v.copies = w.copies ∧
      (v.topics = w.topics ∨ topicOf w m.senderId = .null ∧
        v.topics = w.topics ++ [(r.adminChat, topicName m)]) := by
  obtain ⟨u, hask, hu⟩ := Contexts.exists_looked_variableAt hw.store m.senderId topicPath
  have htopic := hp.opened m.senderId
  rw [topicOf] at htopic
  rcases htopic with hnull | ⟨i, -, hint⟩
  · obtain ⟨stores, channels, ns, rfl⟩ := hu
    let opened : World := { w with
      storeTasks := stores
      channelTasks := channels + 1
      notices := ns
      topics := w.topics ++ [(r.adminChat, topicName m)] }
    have hopen := on_openTopic r (w := { w with
      storeTasks := stores, channelTasks := channels, notices := ns }) (hw.of_eq rfl rfl) hrelays
      (topicName m)
    obtain ⟨v, hbind, hv⟩ := exists_bindTopic r (w := opened) (hw.of_eq rfl rfl) hc hid
      hnext
    refine ⟨_, v, ?_, ⟨hw.of_eq hv.outages hv.topicIds, hp.opening hw hnull hv.topics hv.topicIds
      hv.own hv.others hv.owners, fun a t ha => ?_⟩, hv.own, hv.copies, .inr ⟨hnull, hv.topics⟩⟩
    · rw [topicFor, on_bind, hask, hnull]
      simp only [Value.isNull, Bool.not_true, Bool.false_eq_true, if_false, on_bind, hopen]
      rw [hbind]
      rfl
    · have hne : a ≠ m.senderId := by
        rintro rfl
        cases hnull.symm.trans ha
      exact (hv.others a hne).trans ha
  · rw [topicFor, on_bind, hask, hint]
    obtain ⟨hext, hcopies, htopics⟩ := extends_of_looked hw hp hu hp.remembered
    rw [← hu.owners] at hext
    exact ⟨_, u, rfl, hext, hext.bound _ _ hint, hcopies, .inl htopics⟩

end

end Relay

end Dialogue
