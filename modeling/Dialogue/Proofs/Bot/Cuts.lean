import Dialogue.Proofs.Bot.Budget
import Dialogue.Proofs.Bot.Refusals

/-! Where an event leaves its actor that is cut off at the limit on its steps. A step is entered
before it is asked whether it may still be run, so that the actor stands at the step that was
refused, and not at the one that was run last. -/
namespace Dialogue.Bot
open Turn

/-- The actor is at the place of a step that was entered. -/
def IsBefore (actor : Int) (a : Arrival) (s : Scene) : Prop :=
  ∃ place d, a.place = some place ∧ s.context? actor = some d ∧ d.position.IsAt place

section
variable {b : Bot} {actor : Int} {alone : Turn Sequel} {w v : World} {l : Lap} {a : Arrival}

/-- When the last lap comes to a further step, every lap came to one. -/
theorem arrivals_of_cut (left : Nat) (hl : (b.laps actor left alone w).getLast? = some l)
    (ha : l.arrival? = some a) : ∃ ran, arrivals (b.laps actor left alone w) = ran ++ [a] ∧
      ran.length = left := by
  obtain ⟨ls, hls⟩ := List.getLast?_eq_some_iff.mp hl
  have hsplit : arrivals (b.laps actor left alone w) = arrivals ls ++ [a] := by
    rw [hls, arrivals, List.filterMap_append, List.filterMap_cons_some ha, List.filterMap_nil,
      arrivals]
  have hmore : left < (arrivals (b.laps actor left alone w)).length :=
    (arrival_last_iff left hl).mp (by rw [ha]; rfl)
  have hfew : (arrivals ls).length ≤ left := by
    have htail := @length_tail_laps_le b actor alone w left
    have hlaps := @length_laps b actor alone w left
    have harrivals : (arrivals ls).length ≤ ls.length := List.length_filterMap_le ..
    rw [hls, List.length_append, List.length_singleton] at hlaps
    rw [hls] at htail
    omega
  refine ⟨arrivals ls, hsplit, ?_⟩
  rw [hsplit, List.length_append, List.length_singleton] at hmore
  omega

/-- An event fails for the limit only if its last lap came to a further step. -/
theorem arrival_of_isCut {e : Event} {o : Outcome} (hon : on (b.handle actor e) w = (.ok o, v))
    (hcut : o.isCut = true) : ∃ l a, (b.eventLaps actor e w).getLast? = some l ∧
      l.arrival? = some a ∧ v.scene = l.world.scene := by
  obtain ⟨l, hl⟩ := @exists_lastLap b actor (b.eventAlone actor e) w b.chainLimit.toNat
  obtain ⟨ns, hend⟩ := on_handle hl
  obtain ⟨ho, rfl⟩ := Prod.mk.inj (hon.symm.trans hend)
  obtain rfl : o = l.outcome := Except.ok.inj ho
  have huncut : l.Uncut := by
    rcases sends_eventLaps hl with ⟨-, huncut⟩ | ⟨-, hrefused⟩
    · exact huncut
    · intro p hp
      rw [hrefused] at hp
      rw [← Sum.inl.inj (Except.ok.inj hp)]
      rfl
  obtain ⟨a, ha⟩ := Option.isSome_iff_exists.mp ((isCut_outcome huncut).mp hcut)
  exact ⟨l, a, hl, ha, rfl⟩

variable (hb : b.catalog.Built) (hl : b.Legible)
  (hsane : ∀ name h, Table.value? b.handlers name = some h → ∀ x payload,
    Leads (Sane actor) (h.run x payload) (fun _ => Sane actor) (Sane actor))
include hb hl hsane

/-- After every lap that comes to a step the actor is at its place. -/
theorem isBefore_of_arrival {e : Event} (he : e.IsOrdinary) (hw : Sane actor w.scene) :
    ∀ l ∈ b.eventLaps actor e w, ∀ a, l.arrival? = some a → IsBefore actor a l.world.scene := by
  have hbears := bears_sane hsane
  have hready : ∀ l ∈ b.eventLaps actor e w, Sane actor l.world.scene ∧
      ∀ a, l.arrival? = some a → b.catalog.HasStep a.step ∧ IsBefore actor a l.world.scene := by
    refine laps_ready actor hl (fun _ hs => hs.reliable) (fun _ _ _ hc => Store.context?_tidy hc)
      (fun a hst => (hbears.leads_stepAlone_sane hst).pre fun _ hs => hs.1) _
      (hbears.leads_eventAlone he) hw fun l _ r s _ hs hlands => ?_
    refine ⟨sane_of_lands hs hlands, fun a hr => ?_⟩
    subst hr
    obtain ⟨name, f, i, d, -, -, hplace, hd, hat⟩ := isAt_of_lands hb hl hs hlands
    exact ⟨_, d, hplace, hd, hat⟩
  exact fun l hmem a ha => ((hready l hmem).2 a ha).2

/-- An event that is cut off leaves its actor at the step that was one too many. That is the place
of the last step that was run only if this step led to itself. -/
theorem handle_cut_at_refused {e : Event} (he : e.IsOrdinary) (hw : Sane actor w.scene)
    (hlimit : 1 ≤ b.chainLimit) {o : Outcome} (hon : on (b.handle actor e) w = (.ok o, v))
    (hcut : o.isCut = true) : ∃ front ran refused here there d,
      arrivals (b.eventLaps actor e w) = front ++ [ran, refused] ∧
      front.length + 1 = b.chainLimit.toNat ∧
      ran.place = some here ∧ refused.place = some there ∧
      v.scene.context? actor = some d ∧ d.position.IsAt there ∧
      (d.position.IsAt here ↔ here = there) := by
  obtain ⟨l, refused, hlast, ha, hscene⟩ := arrival_of_isCut hon hcut
  obtain ⟨all, hall, hlength⟩ := arrivals_of_cut _ hlast ha
  obtain ⟨front, ran, rfl⟩ : ∃ front ran, all = front ++ [ran] := by
    have hne : all ≠ [] := by
      rintro rfl
      rw [List.length_nil] at hlength
      omega
    exact ⟨_, _, (List.dropLast_append_getLast hne).symm⟩
  have hbefore := isBefore_of_arrival hb hl hsane he hw
  obtain ⟨there, d, hthere, hd, hat⟩ := hbefore l (List.mem_of_getLast? hlast) refused ha
  obtain ⟨here, hhere⟩ : ∃ here, ran.place = some here := by
    have hran : ran ∈ arrivals (b.eventLaps actor e w) := by
      rw [eventLaps, hall]
      simp
    obtain ⟨k, hk, hka⟩ := List.mem_filterMap.mp hran
    obtain ⟨here, -, hhere, -⟩ := hbefore k hk ran hka
    exact ⟨here, hhere⟩
  refine ⟨front, ran, refused, here, there, d, ?_, ?_, hhere, hthere, hscene ▸ hd, hat, ?_⟩
  · rw [eventLaps, hall, List.append_assoc]
    rfl
  · rwa [List.length_append, List.length_singleton] at hlength
  · exact ⟨fun h => h.eq hat, fun h => h ▸ hat⟩

end

/-- A lap that starts a flow comes to its first step. -/
private theorem lap_to_first {b : Bot} {actor : Int} {alone : Turn Sequel} {w u : World}
    {name : String} {f : Flow} {st : Step} {c : Context}
    (hon : on alone w = (.ok (.start name), u)) (hs : u.scene.Reliable)
    (hc : u.scene.context? actor = some c) (hf : b.catalog.flow? name = some f)
    (hst : f.steps[0]? = some st) :
    (b.lap actor alone w).arrival? = some ⟨some (f.name, 0), st⟩ ∧
      ∃ d, u.scene.Rewritten (b.lap actor alone w).world.scene actor d := by
  rw [lap_of_sequel hon]
  have hreach := leads_reach_start (R := fun _ => False) hs hc hf hst u rfl
  rcases hland : on (b.reach actor (.start name)) u with ⟨e | r, u'⟩
  · rw [hland] at hreach
    exact hreach.elim
  · rw [hland] at hreach
    obtain ⟨rfl, hu'⟩ := hreach
    exact ⟨rfl, _, hu'⟩

def hall : Step := ⟨some "hall", .flow "garden"⟩

def gate : Step := ⟨some "gate", .message { text := "The gate" }⟩

/-- A bot that may run one step at a time. -/
def usher : Bot where
  catalog := {
    flows := [("tour", { name := "tour", steps := [hall] }),
      ("garden", { name := "garden", steps := [gate] })]
    frozen := true }
  chainLimit := 1

theorem usher_built : usher.catalog.Built :=
  .freeze (k := { usher.catalog with frozen := false })
    (.flow (f := { name := "garden", steps := [gate] })
      (.flow (f := { name := "tour", steps := [hall] }) .empty rfl) rfl)

theorem usher_legible : usher.Legible where
  adminChat := rfl
  steps name f hf := by
    rcases List.mem_cons.mp (Table.mem_of_value? hf) with h | h
    · rw [(Prod.mk.inj h).2]
      decide
    · rw [(Prod.mk.inj (List.mem_singleton.mp h)).2]
      decide

private theorem usher_unhandled (name : String) (h : Handler) :
    Table.value? usher.handlers name ≠ some h := by
  intro hvalue
  contradiction

private theorem sane_reception : Sane 1 World.reception.scene where
  reliable _ _ := rfl
  readable n hn := by
    rw [← Option.some.inj (Except.ok.inj hn)]
    decide

/-- The tour leads on into the garden, which is one step too far. -/
private theorem laps_usher : ∃ l,
    (usher.eventLaps 1 (.startFlow "tour") .reception).getLast? = some l ∧
    l.arrival? = some ⟨some ("garden", 0), gate⟩ ∧
    arrivals (usher.eventLaps 1 (.startFlow "tour") .reception) =
      [⟨some ("tour", 0), hall⟩, ⟨some ("garden", 0), gate⟩] := by
  have hs : World.reception.scene.Reliable := fun _ _ => rfl
  have hbegin : on (usher.eventAlone 1 (.startFlow "tour")) .reception =
      (.ok (.start "tour"), .reception) := rfl
  obtain ⟨hfirst, d, hd⟩ := @lap_to_first usher 1 _ _ _ _ _ _ (.fresh 1 1) hbegin hs rfl rfl rfl
  generalize hk : usher.lap 1 (usher.eventAlone 1 (.startFlow "tour")) .reception = k
    at hfirst hd
  have hreliable := hd.reliable hs
  obtain ⟨v, hget, hscene, -⟩ :=
    Contexts.on_get_of_readsAt hd.context? (hreliable.writesAt _).1
  have hwork : on (usher.stepAlone 1 hall) k.world = (.ok (.start "garden"), v) := by
    rw [stepAlone, on_bind, hget]
    rfl
  obtain ⟨hsecond, -⟩ := lap_to_first (b := usher) hwork (hscene ▸ hreliable)
    (hscene ▸ hd.context?) rfl rfl
  have hlaps : usher.eventLaps 1 (.startFlow "tour") .reception =
      [k, usher.lap 1 (usher.stepAlone 1 hall) k.world] := by
    subst hk
    exact laps_of_arrival hfirst 0
  refine ⟨_, by rw [hlaps]; rfl, hsecond, ?_⟩
  rw [hlaps, arrivals, List.filterMap_cons_some hfirst, List.filterMap_cons_some hsecond,
    List.filterMap_nil]

private theorem on_handle_usher : ∃ v,
    on (usher.handle 1 (.startFlow "tour")) .reception = (.ok (.failed .chainLimit), v) := by
  obtain ⟨l, hlast, ha, -⟩ := laps_usher
  obtain ⟨ns, hon⟩ := on_handle hlast
  rw [Lap.outcome, Lap.landing_of_arrival ha] at hon
  exact ⟨_, hon⟩

theorem handle_cut_at_refused_toured : ∃ v front ran refused here there d,
    on (usher.handle 1 (.startFlow "tour")) .reception = (.ok (.failed .chainLimit), v) ∧
    arrivals (usher.eventLaps 1 (.startFlow "tour") .reception) = front ++ [ran, refused] ∧
    front.length + 1 = usher.chainLimit.toNat ∧
    ran.place = some here ∧ refused.place = some there ∧
    v.scene.context? 1 = some d ∧ d.position.IsAt there ∧
    (d.position.IsAt here ↔ here = there) := by
  have htour : (Event.startFlow "tour").IsOrdinary := trivial
  obtain ⟨v, hon⟩ := on_handle_usher
  obtain ⟨front, ran, refused, here, there, d, hcut⟩ := handle_cut_at_refused usher_built
    usher_legible (fun n h hv => absurd hv (usher_unhandled n h)) htour sane_reception
    (by decide) hon (by decide)
  exact ⟨v, front, ran, refused, here, there, d, hon, hcut⟩

/-- An event that is cut off can move its actor out of the flow whose step was run last. -/
theorem cut_moves_on : ∃ v d,
    on (usher.handle 1 (.startFlow "tour")) .reception = (.ok (.failed .chainLimit), v) ∧
    arrivals (usher.eventLaps 1 (.startFlow "tour") .reception) =
      [⟨some ("tour", 0), hall⟩, ⟨some ("garden", 0), gate⟩] ∧
    usher.chainLimit = 1 ∧ v.scene.context? 1 = some d ∧ d.currentFlow = "garden" ∧
    ¬ d.position.IsAt ("tour", 0) := by
  obtain ⟨l, hlast, ha, harrivals⟩ := laps_usher
  obtain ⟨ns, hon⟩ := on_handle hlast
  rw [Lap.outcome, Lap.landing_of_arrival ha] at hon
  have htour : (Event.startFlow "tour").IsOrdinary := trivial
  obtain ⟨place, d, hplace, hd, hat⟩ := isBefore_of_arrival usher_built usher_legible
    (fun n h hv => absurd hv (usher_unhandled n h)) htour sane_reception l (List.mem_of_getLast? hlast) _ ha
  rw [← Option.some.inj hplace] at hat
  refine ⟨_, d, hon, harrivals, rfl, hd, hat.flow, fun h => ?_⟩
  exact absurd (h.eq hat) (by decide)

end Dialogue.Bot
