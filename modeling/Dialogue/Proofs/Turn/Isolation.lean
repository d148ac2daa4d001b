import Dialogue.Proofs.Turn.Blindness

/-! Work for one actor. It depends on nothing but what is kept for that actor, changes nothing else
that is kept, and the time at which it is done shows in the times of visits only. -/
namespace Dialogue

namespace Store

/-- For an actor, two stores keep the same text, or the texts of contexts that are the same but for
the times of visits. -/
inductive KeepsAlike (s s' : Store) (actor : Int) : Prop
  | same (h : s'.load actor = s.load actor)
  | written {c c' : Context} (h : s.load actor = .ok (some c.encode))
    (h' : s'.load actor = .ok (some c'.encode)) (hexternal : c.externalId = actor)
    (hresolve : s.resolve actor = .ok (some c.humanId)) (hsame : c'.untimed = c.untimed)

namespace KeepsAlike
variable {s s' t t' : Store} {actor : Int}

theorem transfer (h : s.KeepsAlike s' actor) (hload : t.load actor = s.load actor)
    (hload' : t'.load actor = s'.load actor) (hresolve : t.resolve actor = s.resolve actor) :
    t.KeepsAlike t' actor := by
  cases h with
  | same h => exact .same (by rw [hload', h, hload])
  | written h h' hexternal hhuman hsame =>
    exact .written (hload ▸ h) (hload' ▸ h') hexternal (hresolve ▸ hhuman) hsame

theorem symm (h : s.KeepsAlike s' actor) (hresolve : s'.resolve actor = s.resolve actor) :
    s'.KeepsAlike s actor := by
  cases h with
  | same h => exact .same h.symm
  | written h h' hexternal hhuman hsame =>
    have hexternal' := (congrArg Context.externalId hsame :).trans hexternal
    have hhuman' := (congrArg Context.humanId hsame :)
    refine .written h' h hexternal' ?_ hsame.symm
    rw [hresolve, hhuman]
    exact congrArg (fun n => Except.ok (some n)) hhuman'.symm

/-- So the same context is read from both, whenever it is read. -/
theorem context? (h : s.KeepsAlike s' actor) (hresolve : s'.resolve actor = s.resolve actor)
    (now now' : String) :
    (s'.context? now' actor).map Context.untimed = (s.context? now actor).map Context.untimed := by
  cases h with
  | same h =>
    rw [← s.untimed_context? now now', Store.context?, Store.context?, hresolve, h]
  | @written c c' h h' hexternal hhuman hsame =>
    have hread {d : Context} (hd : d.untimed = c.untimed) (time : String) :
        (Context.decode time actor c.humanId (some d.encode)).1.untimed = c.untimed.kept := by
      have hid : d.externalId = actor := (congrArg Context.externalId hd :).trans hexternal
      have hn : d.humanId = c.humanId := (congrArg Context.humanId hd :)
      rw [← hid, ← hn, Context.decode_encode_fst, Context.untimed_kept, hd]
    rw [Store.context?, Store.context?, hresolve, hhuman]
    simp only [h, h', Option.map_some]
    rw [hread hsame, hread rfl]

end KeepsAlike

end Store

namespace World

/-- The store works, and whether the channel does depends on what is asked of it, not on what was
asked before. -/
structure Steady (w : World) : Prop where
  store : ∀ t n, w.outages.store t n = none
  channel : ∀ t m n, w.outages.channel t m = w.outages.channel t n

/-- For one actor nothing but the times of visits tells the worlds apart. What is kept for others
may differ. -/
structure AlikeFor (actor : Int) (w w' : World) : Prop where
  steady : w.Steady
  outages : w'.outages = w.outages
  resolve : w'.store.resolve actor = w.store.resolve actor
  keeps : w.store.KeepsAlike w'.store actor

/-- Messages went out, and what is kept of anyone but one actor is as it was. -/
structure Served (actor : Int) (ms : List Delivery) (w v : World) : Prop where
  sent : v.sent = w.sent ++ ms
  load : ∀ a, a ≠ actor → v.store.load a = w.store.load a
  resolve : ∀ a, v.store.resolve a = w.store.resolve a
  outages : v.outages = w.outages

/-- Two worlds have become of others, by work that sent the same messages for one actor. -/
def Advanced (actor : Int) (w₀ w₀' w w' : World) : Prop :=
  ∃ ms, w₀.Served actor ms w ∧ w₀'.Served actor ms w' ∧ w.AlikeFor actor w'

variable {actor : Int} {ms ns : List Delivery} {w w' u v v' w₀ w₀' : World}

theorem Served.refl (actor : Int) (w : World) : w.Served actor [] w :=
  ⟨(List.append_nil _).symm, fun _ _ => rfl, fun _ => rfl, rfl⟩

theorem Served.trans (h : w.Served actor ms u) (k : u.Served actor ns v) :
    w.Served actor (ms ++ ns) v where
  sent := by rw [k.sent, h.sent, List.append_assoc]
  load a ha := (k.load a ha).trans (h.load a ha)
  resolve a := (k.resolve a).trans (h.resolve a)
  outages := k.outages.trans h.outages

theorem Served.still (h : w.Unmoved v) : w.Served actor [] v where
  sent := by rw [h.sent, List.append_nil]
  load _ _ := by rw [h.store]
  resolve _ := by rw [h.store]
  outages := h.outages

theorem Served.wrote {d : Context} (h : w.Wrote actor d v) : w.Served actor [] v where
  sent := by rw [h.sent, List.append_nil]
  load := h.saved.load_of_ne
  resolve := h.saved.resolve
  outages := h.outages

theorem Served.steady (h : w.Served actor ms v) (hw : w.Steady) : v.Steady :=
  ⟨h.outages ▸ hw.store, h.outages ▸ hw.channel⟩

theorem AlikeFor.reliable (h : w.AlikeFor actor w') : w.scene.Reliable ∧ w'.scene.Reliable :=
  ⟨h.steady.store, (h.outages ▸ h.steady.store : ∀ t n, w'.outages.store t n = none)⟩

theorem Advanced.alike (h : Advanced actor w₀ w₀' w w') : w.AlikeFor actor w' := by
  obtain ⟨_, _, _, halike⟩ := h
  exact halike

theorem Steady.alikeFor (h : w.Steady) (actor : Int) : w.AlikeFor actor w :=
  ⟨h, rfl, rfl, .same rfl⟩

/-- The time is not kept by the store. -/
theorem AlikeFor.atTime (h : w.AlikeFor actor w') (now now' : String) :
    { w with now }.AlikeFor actor { w' with now := now' } :=
  ⟨⟨h.steady.store, h.steady.channel⟩, h.outages, h.resolve, h.keeps⟩

/-- Work for one actor makes no difference to another. -/
theorem Served.alikeFor (h : w.Served actor ms v) (hw : w.Steady) {other : Int}
    (hne : other ≠ actor) : w.AlikeFor other v :=
  ⟨hw, h.outages, h.resolve other, .same (h.load other hne)⟩

/-- A step of both worlds that keeps them alike. -/
theorem Advanced.next (h : Advanced actor w₀ w₀' w w') (hv : w.Served actor ms v)
    (hv' : w'.Served actor ms v') (hkeeps : v.store.KeepsAlike v'.store actor) :
    Advanced actor w₀ w₀' v v' := by
  obtain ⟨ns, hsince, hsince', halike⟩ := h
  refine ⟨ns ++ ms, hsince.trans hv, hsince'.trans hv', hv.steady halike.steady, ?_, ?_, hkeeps⟩
  · rw [hv.outages, hv'.outages, halike.outages]
  · rw [hv.resolve, hv'.resolve, halike.resolve]

theorem Advanced.unchanged (h : Advanced actor w₀ w₀' w w') (hv : w.Served actor ms v)
    (hv' : w'.Served actor ms v') (hstore : v.store = w.store) (hstore' : v'.store = w'.store) :
    Advanced actor w₀ w₀' v v' :=
  h.next hv hv' (h.alike.keeps.transfer (by rw [hstore]) (by rw [hstore']) (by rw [hstore]))

end World

namespace World.Advanced
open Turn
variable {actor : Int} {w₀ w₀' : World}

/-- A channel that is steady fails in both worlds or in neither. -/
private theorem blind_deliver (dest : Destination) (text : String) (keyboard : Keyboard) :
    Blind (Advanced actor w₀ w₀') (Channel.deliver dest text keyboard) := by
  intro w w' hw
  have halike := hw.alike
  have hchannel (t : ChannelTask) :
      w'.outages.channel t w'.channelTasks = w.outages.channel t w.channelTasks := by
    rw [halike.outages, halike.steady.channel]
  simp only [Channel.deliver, channelTask, on_bind, on_get, on_set, hchannel]
  cases w.outages.channel (.send dest.topicId.isSome (!keyboard.isEmpty)) w.channelTasks with
  | some f =>
    have hstill (u : World) : u.Served actor [] { u with channelTasks := u.channelTasks + 1 } :=
      .still ⟨rfl, rfl, rfl⟩
    exact ⟨.error f, _, _, rfl, rfl, hw.unchanged (hstill w) (hstill w') rfl rfl⟩
  | none =>
    have hsent (u : World) : u.Served actor [{ destination := dest, text, keyboard }] { u with
        channelTasks := u.channelTasks + 1
        sent := u.sent ++ [{ destination := dest, text, keyboard }] } :=
      ⟨rfl, fun _ _ => rfl, fun _ => rfl, rfl⟩
    exact ⟨.ok (), _, _, rfl, rfl, hw.unchanged (hsent w) (hsent w') rfl rfl⟩

/-- Where two worlds are alike for an actor, the parts of the work for that actor keep them so. -/
theorem ground (actor : Int) (w₀ w₀' : World) : Ground (Advanced actor w₀ w₀') actor
    (fun c c' => c'.untimed = c.untimed) (fun d d' => d'.untimed = d.untimed) where
  reliable hw := hw.alike.reliable
  reads {w w'} hw := by
    have hread := hw.alike.keeps.context? hw.alike.resolve w.now w'.now
    cases hc : w.store.context? w.now actor with
    | none =>
      rw [hc, Option.map_none, Option.map_eq_none_iff] at hread
      rw [hread]
      exact .none
    | some c =>
      rw [hc, Option.map_some, Option.map_eq_some_iff] at hread
      obtain ⟨c', hc', hcc⟩ := hread
      rw [hc']
      exact .some hcc
  unmoved hw hv hv' := hw.unchanged (.still hv) (.still hv') hv.store hv'.store
  wrote {w w' v v' d d'} hw hv hv' hd := by
    have hkeeps : v.store.KeepsAlike v'.store actor := by
      refine .written hv.saved.load_self hv'.saved.load_self hv.externalId ?_ hd
      rw [hv.saved.resolve, hv.resolve]
    exact hw.next (.wrote hv) (.wrote hv') hkeeps
  deliver := blind_deliver
  unvisited hcc := (congrArg Context.unvisited hcc :)
  setData hcc p v := congrArg (·.setData p v) hcc
  revised hcc f hf := by
    rw [Context.untimed_repair, hf.untimed, hcc, ← hf.untimed, ← Context.untimed_repair]
  visit hcc flow step now now' := by
    rw [Context.untimed_visit, Context.untimed_visit, hcc]

end World.Advanced

namespace Turn
variable {α : Type} {actor : Int} {work : Turn α}

/-- Work for one actor that looks at nothing of anyone else, and leaves it as it is: in worlds that
are alike for the actor it answers the same, sends the same, and leaves them alike. -/
def KeepsTo (actor : Int) (work : Turn α) : Prop :=
  ∀ w w', w.AlikeFor actor w' → ∃ r ms v v', on work w = (r, v) ∧ on work w' = (r, v') ∧
    w.Served actor ms v ∧ w'.Served actor ms v' ∧ v.AlikeFor actor v'

theorem KeepsTo.blind (h : KeepsTo actor work) (w₀ w₀' : World) :
    Blind (World.Advanced actor w₀ w₀') work := by
  rintro w w' ⟨ms, hsince, hsince', halike⟩
  obtain ⟨r, ns, v, v', hon, hon', hserved, hserved', halike'⟩ := h w w' halike
  have hnext : World.Advanced actor w₀ w₀' v v' :=
    ⟨ms ++ ns, hsince.trans hserved, hsince'.trans hserved', halike'⟩
  refine ⟨r, v, v', hon, hon', ?_⟩
  cases r <;> exact hnext

theorem keepsTo_of_blind (h : ∀ w₀ w₀', Blind (World.Advanced actor w₀ w₀') work) :
    KeepsTo actor work := by
  intro w w' halike
  obtain ⟨r, v, v', hon, hon', hr⟩ := h w w' w w' ⟨[], .refl actor w, .refl actor w', halike⟩
  have hnext : World.Advanced actor w w' v v' := by cases r <;> exact hr
  obtain ⟨ms, hserved, hserved', halike'⟩ := hnext
  exact ⟨r, ms, v, v', hon, hon', hserved, hserved', halike'⟩

/-- What was done in one world is done again in any that is alike. -/
theorem KeepsTo.again (h : KeepsTo actor work) {w w' v : World} {r : Except Fault α}
    {ms : List Delivery} (hon : on work w = (r, v)) (hserved : w.Served actor ms v)
    (halike : w.AlikeFor actor w') :
    ∃ v', on work w' = (r, v') ∧ w'.Served actor ms v' ∧ v.AlikeFor actor v' := by
  obtain ⟨r', ns, u, v', hsame, hon', hsent, hserved', halike'⟩ := h w w' halike
  rw [hon] at hsame
  obtain ⟨rfl, rfl⟩ := Prod.mk.inj hsame
  have hms : ms = ns := List.append_cancel_left (hserved.sent.symm.trans hsent.sent)
  subst hms
  exact ⟨v', hon', hserved', halike'⟩

end Turn

end Dialogue
