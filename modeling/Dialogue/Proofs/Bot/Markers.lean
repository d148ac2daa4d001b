import Dialogue.Proofs.Bot.Moves

/-! What contexts hold under the bot's own key: nothing but the place of the marker. A marker stands
for a question of the flow that the context is in, and no move breaks this. -/
namespace Dialogue

theorem Path.value?_set (fs : Table String Value) {p : Path} {k : String} (h : p.head? ≠ some k)
    (v : Value) : Table.value? (Path.set fs p v) k = Table.value? fs k := by
  fun_cases Path.set fs p v with
  | case1 => rfl
  | case2 j v => exact Table.value?_put_of_ne _ _ fun e => h (congrArg some e)
  | case3 j p v hp => exact Table.value?_put_of_ne _ _ fun e => h (congrArg some e)

theorem Path.nodup_keys_set {fs : Table String Value} (h : (Table.keys fs).Nodup) (p : Path)
    (v : Value) : (Table.keys (Path.set fs p v)).Nodup := by
  fun_cases Path.set fs p v with
  | case1 => exact h
  | case2 => exact Table.nodup_keys_put h _ _
  | case3 => exact Table.nodup_keys_put h _ _

namespace WaitMarker

/-- A marker is read as it was kept. -/
theorem read_stored (w : WaitMarker) : read w.stored = .ok w := by
  obtain ⟨id, saveTo, validation, next⟩ := w
  rcases id with _ | id <;> rcases validation with _ | ⟨kind, pattern, message⟩ <;>
    rcases next with _ | ⟨n⟩ | ⟨s⟩ <;> rfl

theorem kept_stored (w : WaitMarker) : w.stored.kept = w.stored := by
  obtain ⟨id, saveTo, validation, next⟩ := w
  rcases id with _ | id <;> rcases validation with _ | ⟨kind, pattern, message⟩ <;>
    rcases next with _ | ⟨n⟩ | ⟨s⟩ <;> rfl

end WaitMarker

namespace Context
variable {c : Context} {M N : Value → Prop}

/-- Under the bot's own key stands nothing, or only the place of the marker, which is empty or
holds a marker of some kind. -/
def Reserves (c : Context) (M : Value → Prop) : Prop :=
  ∀ v, Table.value? c.data WaitMarker.systemKey = some v →
    ∃ m, v = .dict [("waiting_for_input", m)] ∧ (m = .null ∨ M m)

theorem Reserves.mono (h : c.Reserves M) (hMN : ∀ m, M m → N m) : c.Reserves N := by
  intro v hv
  obtain ⟨m, rfl, hm⟩ := h v hv
  exact ⟨m, rfl, hm.imp_right (hMN m)⟩

theorem rawMarker_of_none (h : Table.value? c.data WaitMarker.systemKey = none) :
    c.rawMarker = .null := by
  rw [rawMarker, WaitMarker.path, Path.get_dict_cons, h]
  rfl

theorem rawMarker_of_some {m : Value}
    (h : Table.value? c.data WaitMarker.systemKey = some (.dict [("waiting_for_input", m)])) :
    c.rawMarker = m := by
  rw [rawMarker, WaitMarker.path, Path.get_dict_cons, h]
  exact Path.get_nil m

theorem Reserves.rawMarker (h : c.Reserves M) : c.rawMarker = .null ∨ M c.rawMarker := by
  cases hv : Table.value? c.data WaitMarker.systemKey with
  | none => exact .inl (rawMarker_of_none hv)
  | some v =>
    obtain ⟨m, rfl, hm⟩ := h v hv
    rwa [rawMarker_of_some hv]

/-- An empty place stays what it is, whatever markers may stand there. -/
theorem Reserves.of_rawMarker (h : c.Reserves M) (hm : c.rawMarker = .null) : c.Reserves N := by
  intro v hv
  obtain ⟨m, rfl, -⟩ := h v hv
  exact ⟨m, rfl, .inl (by rw [← rawMarker_of_some hv, hm])⟩

theorem reserves_fresh (externalId humanId : Int) : (fresh externalId humanId).Reserves M :=
  fun _ hv => nomatch hv

theorem Reserves.setData (h : c.Reserves M) {p : Path} (hp : ¬ p.IsSystem) (v : Value) :
    (c.setData p v).Reserves M := by
  intro w hw
  rw [Context.setData, Path.value?_set c.data hp] at hw
  exact h w hw

theorem Reserves.setMarker (h : c.Reserves M) {m : Value} (hm : m = .null ∨ N m) :
    (c.setData WaitMarker.path m).Reserves N := by
  have hset : (c.setData WaitMarker.path m).data = Table.put c.data WaitMarker.systemKey
      (.dict (Path.set (Path.entries (Table.value? c.data WaitMarker.systemKey))
        ["waiting_for_input"] m)) := rfl
  intro v hv
  rw [hset, Table.value?_put_self] at hv
  refine ⟨m, ?_, hm⟩
  rw [← Option.some.inj hv]
  cases hold : Table.value? c.data WaitMarker.systemKey with
  | none => rfl
  | some w =>
    obtain ⟨n, rfl, -⟩ := h w hold
    rfl

theorem Reserves.kept (h : c.Reserves M) (hn : (Table.keys c.data).Nodup)
    (hM : ∀ m, M m → m.kept = m) : c.kept.Reserves M := by
  rw [Context.kept]
  split
  · have hdata : c.settled.repair.1.data = Value.keptFields c.data := by
      rw [repair_eq]
      exact Table.ofEntries_of_nodup (by rwa [Value.keys_keptFields])
    intro v hv
    rw [hdata, Value.value?_keptFields] at hv
    obtain ⟨w, hw, rfl⟩ := Option.map_eq_some_iff.mp hv
    obtain ⟨m, rfl, hm⟩ := h w hw
    have hsame : m.kept = m := by
      obtain rfl | hm := hm
      · rfl
      · exact hM m hm
    refine ⟨m, ?_, hm⟩
    rw [Value.kept_dict, Value.keptFields, List.map_singleton, hsame]
    rfl
  · exact reserves_fresh _ _

theorem Reserves.revised (h : c.Reserves M) (hn : (Table.keys c.data).Nodup)
    (hM : ∀ m, M m → m.kept = m) {f : Context → Context} (hf : (f c).data = c.data) :
    (c.revised f).Reserves M := by
  have hdata : (f c).repair.1.data = c.data := by
    rw [repair_eq]
    exact hf
  refine Reserves.kept ?_ ?_ hM
  · intro v hv
    rw [hdata] at hv
    exact h v hv
  · rwa [hdata]

theorem Reserves.aimed (h : c.Reserves M) (hn : (Table.keys c.data).Nodup)
    (hM : ∀ m, M m → m.kept = m) (target : Value) : (c.aimed target).Reserves M := by
  rw [Context.aimed]
  split
  · exact h
  · exact (h.setData (by decide) target).kept (Path.nodup_keys_set hn _ _) hM

/-- After a change that leaves markers alone, no marker is left when it is disarmed. -/
theorem Reserves.disarmed {d : Context} (h : c.Reserves M) (hM : ∀ m, M m → m.kept = m)
    (hd : ∀ L : Value → Prop, (∀ m, L m → m.kept = m) → c.Reserves L → d.Reserves L)
    (hn : (Table.keys d.data).Nodup) : (d.disarmed c.rawMarker).Reserves N := by
  have hnone (m : Value) (hm : False) : m.kept = m := hm.elim
  rw [Context.disarmed]
  split
  · rename_i hnull
    have hempty := Value.eq_null_of_isNull hnull
    exact (hd (fun _ => False) hnone (h.of_rawMarker hempty)).mono fun _ hm => hm.elim
  · have hset : (d.setData WaitMarker.path .null).Reserves fun _ => False :=
      (hd M hM h).setMarker (.inl rfl)
    exact (hset.kept (Path.nodup_keys_set hn _ _) hnone).mono fun _ hm => hm.elim

end Context

namespace Catalog
variable {k : Catalog} {c d : Context}

/-- What is kept of a question of a flow while its answer is awaited. -/
def Asks (k : Catalog) (flow : String) (m : Value) : Prop :=
  ∃ f s q, k.flow? flow = some f ∧ s ∈ f.steps ∧ s.work = .question q ∧
    m = (Bot.markerOf s.id q).stored

/-- Only questions of the flow that the context is in are awaited, and nothing else stands under
the bot's own key. -/
def Minds (k : Catalog) (c : Context) : Prop := c.Reserves (k.Asks c.currentFlow)

theorem Asks.kept {flow : String} (m : Value) (h : k.Asks flow m) : m.kept = m := by
  obtain ⟨f, s, q, -, -, -, rfl⟩ := h
  exact WaitMarker.kept_stored _

theorem Minds.kept (h : k.Minds c) (hn : (Table.keys c.data).Nodup) : k.Minds c.kept := by
  have hkept := Context.Reserves.kept h hn Asks.kept
  by_cases hr : c.isReadable = true
  · have hflow : c.kept.currentFlow = c.currentFlow := by
      rw [Context.kept, if_pos hr, Context.repair_eq]
      rfl
    rwa [Minds, hflow]
  · rw [Context.kept, if_neg hr]
    exact Context.reserves_fresh _ _

/-- The marker that is awaited says where to keep the answer as its question does. -/
theorem Minds.waitMarker (h : k.Minds c) {w : WaitMarker} (hw : c.waitMarker.1 = some w) :
    ∃ s q, k.HasStep s ∧ s.work = .question q ∧ w = Bot.markerOf s.id q := by
  obtain hnull | ⟨f, s, q, hf, hs, hq, hm⟩ := Context.Reserves.rawMarker h
  · rw [Context.waitMarker, hnull] at hw
    cases hw
  · refine ⟨s, q, ⟨_, f, hf, hs⟩, hq, ?_⟩
    rw [Context.waitMarker, hm] at hw
    simp only [WaitMarker.read_stored] at hw
    split at hw
    · exact (Option.some.inj hw).symm
    · cases hw

end Catalog

/-- No move forges a marker, or points it at a question of another flow. -/
theorem Move.minds {k : Catalog} {c d : Context} (h : Move k c d) (hc : c.Tidy) (hm : k.Minds c) :
    k.Minds d := by
  have hset (p : Path) (v : Value) := Path.nodup_keys_set hc.nodup p v
  cases h with
  | begin =>
    exact Context.Reserves.disarmed hm Catalog.Asks.kept
      (fun L hL h => h.revised hc.nodup hL rfl) (Context.revised_tidy ..).nodup
  | beginInTopic =>
    refine Context.Reserves.disarmed hm Catalog.Asks.kept (fun L hL h => ?_)
      (Context.aimed_tidy (Context.revised_tidy ..) _).nodup
    exact (h.revised hc.nodup hL rfl).aimed (Context.revised_tidy ..).nodup hL _
  | finish =>
    exact Context.Reserves.disarmed hm Catalog.Asks.kept
      (fun L hL h => h.revised hc.nodup hL rfl) (Context.revised_tidy ..).nodup
  | enter => exact Catalog.Minds.kept (c := c.visit ..) hm hc.nodup
  | arm hf hs hq =>
    have hasks : k.Asks c.currentFlow _ := ⟨_, _, _, hf, hs, hq, rfl⟩
    exact Catalog.Minds.kept (Context.Reserves.setMarker hm (.inr hasks)) (hset ..)
  | disarm => exact Catalog.Minds.kept (Context.Reserves.setMarker hm (.inl rfl)) (hset ..)
  | keep hp v => exact Catalog.Minds.kept (Context.Reserves.setData hm hp v) (hset ..)
  | relay =>
    rw [Context.revised, Context.repair_eq]
    exact Catalog.Minds.kept hm hc.nodup
  | lose => exact Context.reserves_fresh _ _

end Dialogue
