import Dialogue.Proofs.Context.Decoding
import Dialogue.Proofs.Turn.Leading

/-! What work reports and answers, whatever world it is done on. The rules follow the work; what
they say of contexts holds of every kind of notices but those about handlers and keyboards. -/
namespace Dialogue

/-- What fails does not do so for want of a handler. -/
structure Outages.Plain (o : Outages) : Prop where
  store : ∀ t n, o.store t n ≠ some .handlerUnknown
  channel : ∀ t n, o.channel t n ≠ some .handlerUnknown

namespace Turn
variable {α β : Type} {N : Notice → Prop} {Q Q₀ : α → Prop} {Q' : β → Prop} {E E' : Fault → Prop}

/-- Work that was done adds none but notices of a kind, and nothing else begins to fail. -/
structure Adds (N : Notice → Prop) (w v : World) : Prop where
  notices : ∃ ns, v.notices = w.notices ++ ns ∧ ∀ n ∈ ns, N n
  outages : v.outages = w.outages

namespace Adds
variable {u v w : World}

theorem of_eq (h : v.notices = w.notices) (ho : v.outages = w.outages) : Adds N w v :=
  ⟨⟨[], by rw [h, List.append_nil], fun _ hn => absurd hn List.not_mem_nil⟩, ho⟩

theorem trans (h : Adds N w u) (k : Adds N u v) : Adds N w v := by
  obtain ⟨⟨ns, hns, hkind⟩, ho⟩ := h
  obtain ⟨⟨ms, hms, hkind'⟩, ho'⟩ := k
  refine ⟨⟨ns ++ ms, ?_, fun n hn => ?_⟩, ho'.trans ho⟩
  · rw [hms, hns, List.append_assoc]
  · exact (List.mem_append.mp hn).elim (hkind n) (hkind' n)

end Adds

/-- What the work answers meets `Q`. Unless something else fails for want of a handler, it adds none
but notices of a kind, and a fault that it ends in meets `E`. -/
def Reports (N : Notice → Prop) (work : Turn α) (Q : α → Prop) (E : Fault → Prop) : Prop :=
  ∀ w : World, (∀ a, (on work w).1 = .ok a → Q a) ∧
    (w.outages.Plain → Adds N w (on work w).2 ∧ ∀ f, (on work w).1 = .error f → E f)

namespace Reports

/-- Work that reports nothing. -/
theorem silent {work : Turn α} (h : ∀ w, Adds N w (on work w).2) :
    Reports N work (fun _ => True) fun _ => True :=
  fun w => ⟨fun _ _ => trivial, fun _ => ⟨h w, fun _ _ => trivial⟩⟩

/-- Work that never ends in a fault. -/
theorem sure {work : Turn α} (h : ∀ w, ∃ a, (on work w).1 = .ok a ∧ Q a)
    (hadds : ∀ w, Adds N w (on work w).2) : Reports N work Q E := by
  intro w
  obtain ⟨a, ha, hQ⟩ := h w
  refine ⟨fun c hc => ?_, fun _ => ⟨hadds w, fun f hf => ?_⟩⟩
  · rw [ha] at hc
    exact Except.ok.inj hc ▸ hQ
  · rw [ha] at hf
    cases hf

theorem pure {a : α} (h : Q a) : Reports N (pure a) Q E :=
  sure (fun _ => ⟨a, rfl, h⟩) fun _ => .of_eq rfl rfl

theorem throw {f : Fault} (h : E f) : Reports N (throw f : Turn α) Q E := by
  refine fun _ => ⟨fun _ ha => ?_, fun _ => ⟨.of_eq rfl rfl, fun _ hf => ?_⟩⟩
  · cases ha
  · exact Except.error.inj hf ▸ h

theorem bind {work : Turn α} {f : α → Turn β} (hwork : Reports N work Q E)
    (hf : ∀ a, Q a → Reports N (f a) Q' E) : Reports N (work >>= f) Q' E := by
  intro w
  obtain ⟨hanswer, hplain⟩ := hwork w
  rw [on_bind]
  rcases hon : on work w with ⟨e | a, u⟩
  · rw [hon] at hplain
    refine ⟨fun _ ha => ?_, fun hw => ⟨(hplain hw).1, fun g hg => (hplain hw).2 g ?_⟩⟩
    · cases ha
    · exact congrArg Except.error (Except.error.inj hg)
  · rw [hon] at hanswer hplain
    obtain ⟨hthen, hplain'⟩ := hf a (hanswer a rfl) u
    refine ⟨hthen, fun hw => ?_⟩
    obtain ⟨hadds, -⟩ := hplain hw
    obtain ⟨hmore, hfault⟩ := hplain' (hadds.outages ▸ hw)
    exact ⟨hadds.trans hmore, hfault⟩

/-- Faults that are dealt with, each for what it is. -/
theorem rescue {work : Turn α} {handle : Fault → Turn α} (hwork : Reports N work Q E)
    (hanswer : ∀ f w a, (on (handle f) w).1 = .ok a → Q a)
    (hhandle : ∀ f, E f → Reports N (handle f) Q E') : Reports N (rescue work handle) Q E' := by
  intro w
  obtain ⟨hdone, hplain⟩ := hwork w
  rw [on_rescue]
  rcases hon : on work w with ⟨e | a, u⟩
  · rw [hon] at hplain
    refine ⟨hanswer e u, fun hw => ?_⟩
    obtain ⟨hadds, hfault⟩ := hplain hw
    obtain ⟨hmore, hthen⟩ := (hhandle e (hfault e rfl) u).2 (hadds.outages ▸ hw)
    exact ⟨hadds.trans hmore, hthen⟩
  · rw [hon] at hdone hplain
    exact ⟨hdone, fun hw => ⟨(hplain hw).1, fun _ hf => by cases hf⟩⟩

/-- Faults that are dealt with, whatever they are. -/
theorem rescue_any {work : Turn α} {handle : Fault → Turn α} (hwork : Reports N work Q E)
    (hhandle : ∀ f, Reports N (handle f) Q E') : Reports N (Turn.rescue work handle) Q E' :=
  hwork.rescue (fun f w => (hhandle f w).1) fun f _ => hhandle f

theorem mono {work : Turn α} (h : Reports N work Q₀ E') (hQ : ∀ a, Q₀ a → Q a)
    (hE : ∀ f, E' f → E f) : Reports N work Q E :=
  fun w => ⟨fun a ha => hQ a ((h w).1 a ha), fun hw =>
    ⟨((h w).2 hw).1, fun f hf => hE f (((h w).2 hw).2 f hf)⟩⟩

theorem post {work : Turn α} (h : Reports N work Q₀ E) (hQ : ∀ a, Q₀ a → Q a) :
    Reports N work Q E :=
  h.mono hQ fun _ hf => hf

theorem map {work : Turn α} {f : α → β} (h : Reports N work (fun a => Q' (f a)) E) :
    Reports N (f <$> work) Q' E := by
  rw [map_eq_pure_bind]
  exact h.bind fun _ ha => pure ha

theorem get {f : World → Turn α} (h : ∀ w, Reports N (f w) Q E) :
    Reports N (MonadState.get >>= f) Q E := by
  intro w
  rw [on_bind, on_get]
  exact h w w

theorem note {n : Notice} (h : N n) : Reports N (note n) (fun _ => True) E :=
  sure (fun _ => ⟨(), rfl, trivial⟩) fun _ =>
    ⟨⟨[n], rfl, fun _ hm => List.mem_singleton.mp hm ▸ h⟩, rfl⟩

theorem noted {r : α × List Notice} (h : ∀ n ∈ r.2, N n) : Reports N (noted r) (· = r.1) E :=
  sure (fun _ => ⟨r.1, rfl, rfl⟩) fun _ => ⟨⟨r.2, rfl, h⟩, rfl⟩

theorem noteAll {ns : List Notice} (h : ∀ n ∈ ns, N n) :
    Reports N (noteAll ns) (fun _ => True) E :=
  sure (fun _ => ⟨(), rfl, trivial⟩) fun _ => ⟨⟨ns, rfl, h⟩, rfl⟩

theorem ofResult (r : Except Fault α) : Reports N (ofResult r) (r = .ok ·) (r = .error ·) := by
  cases r with
  | ok a => exact pure rfl
  | error f => exact throw rfl

theorem modify {g : World → World} (h : ∀ w, Adds N w (g w)) :
    Reports N (modify g : Turn Unit) (fun _ => True) E :=
  sure (fun _ => ⟨(), rfl, trivial⟩) h

theorem storeTask (t : StoreTask) : Reports N (storeTask t) (fun _ => True) fun _ => True :=
  silent fun w => by
    rw [on_storeTask]
    exact .of_eq rfl rfl

theorem channelTask (t : ChannelTask) :
    Reports N (channelTask t) (fun _ => True) (· ≠ .handlerUnknown) := by
  refine fun w => ⟨fun _ _ => trivial, fun hw => ?_⟩
  simp only [Turn.channelTask, on_bind, on_get, on_set]
  cases hfails : w.outages.channel t w.channelTasks with
  | none => exact ⟨.of_eq rfl rfl, fun _ hf => by cases hf⟩
  | some f =>
    refine ⟨.of_eq rfl rfl, fun e he hunknown => hw.channel t w.channelTasks ?_⟩
    rw [hfails, ← hunknown, ← Except.error.inj he]

theorem pause (milliseconds : Nat) :
    Reports N (pause milliseconds) (fun _ => True) fun _ => True := by
  refine silent fun w => ?_
  unfold Turn.pause
  split <;> exact .of_eq rfl rfl

theorem deliver_plain (dest : Destination) (text : String) (keyboard : Keyboard) :
    Reports N (Channel.deliver dest text keyboard) (fun _ => True) (· ≠ .handlerUnknown) :=
  (channelTask _).bind fun _ _ => modify fun _ => .of_eq rfl rfl

theorem deliver (dest : Destination) (text : String) (keyboard : Keyboard) :
    Reports N (Channel.deliver dest text keyboard) (fun _ => True) fun _ => True :=
  (deliver_plain dest text keyboard).mono (fun _ h => h) fun _ _ => trivial

/-- What is known of the answer beside the scene that the work leads to. -/
theorem and_leads {work : Turn α} {P R : Scene → Prop} {Q' : α → Scene → Prop}
    (h : Reports N work Q E) (hwork : Leads P work Q' R) :
    Leads P work (fun a s => Q' a s ∧ Q a) R := by
  intro w hw
  have hanswer := (h w).1
  have hdone := hwork w hw
  rcases hon : on work w with ⟨e | a, v⟩
  · rw [hon] at hdone
    exact hdone
  · rw [hon] at hanswer hdone
    exact ⟨hdone, hanswer a rfl⟩

end Reports

end Turn

/-- No handler and no keyboard was looked for in vain. -/
def Notice.Finds (n : Notice) : Prop := n ≠ .handlerNotFound ∧ n ≠ .keyboardNotFound

instance (n : Notice) : Decidable n.Finds := inferInstanceAs (Decidable (_ ∧ _))

theorem Notice.finds_nil : ∀ n ∈ ([] : List Notice), n.Finds := by decide

theorem Context.finds_repair (c : Context) : ∀ n ∈ c.repair.2, n.Finds := by
  intro n hn
  rw [eq_of_mem_repair hn]
  decide

theorem Context.finds_decode (now : String) (externalId humanId : Int) (blob : Option String) :
    ∀ n ∈ (decode now externalId humanId blob).2, n.Finds := by
  intro n hn
  rcases eq_of_mem_decode hn with rfl | rfl <;> decide

theorem Context.finds_waitMarker (c : Context) : ∀ n ∈ c.waitMarker.2, n.Finds := by
  rw [waitMarker]
  split
  · split
    · exact Notice.finds_nil
    · decide
  · exact Notice.finds_nil

theorem Store.finds_save {s : Store} {id : Int} {blob : String} {r : Store × List Notice}
    (h : s.save id blob = .ok r) : ∀ n ∈ r.2, n.Finds := by
  have hunknown : ∀ n ∈ [Notice.saveForUnknownHuman], n.Finds := by decide
  cases s with
  | memory | sealed | files =>
    rw [← Except.ok.inj h]
    exact Notice.finds_nil
  | rows t =>
    rw [save, Rows.save] at h
    rcases hf : t.find id with f | _ | row <;> rw [hf] at h
    · cases h
    · rw [← Except.ok.inj h]
      exact hunknown
    · rw [← Except.ok.inj h]
      exact Notice.finds_nil

namespace Contexts
open Turn
variable {α : Type} {Q : α → Prop} {E : Fault → Prop}

theorem reports_guarded {neutral : α} {work : Turn α}
    (h : Reports Notice.Finds work Q fun _ => True) (hneutral : Q neutral) :
    Reports Notice.Finds (guarded neutral work) Q E :=
  h.rescue_any fun _ => (Reports.note (by decide)).bind fun _ _ => Reports.pure hneutral

theorem reports_put (c : Context) :
    Reports Notice.Finds (put c) (fun _ => True) fun _ => True := by
  refine (Reports.storeTask _).bind fun _ _ => Reports.get fun w => ?_
  refine ((Reports.ofResult _).mono (fun _ h => h) fun _ _ => trivial).bind fun r hr => ?_
  obtain ⟨store, notices⟩ := r
  refine Reports.bind (Reports.modify ?_) fun _ _ => Reports.noteAll (Store.finds_save hr)
  exact fun _ => .of_eq rfl rfl

theorem reports_get (actor : Int) :
    Reports Notice.Finds (Contexts.get actor) (fun _ => True) E := by
  refine reports_guarded ?_ trivial
  have hresolve : Reports Notice.Finds (resolve actor) (fun _ => True) fun _ => True :=
    (Reports.storeTask _).bind fun _ _ => Reports.get fun w =>
      (Reports.ofResult _).mono (fun _ _ => trivial) fun _ _ => trivial
  have hload : Reports Notice.Finds (load actor) (fun _ => True) fun _ => True :=
    (Reports.storeTask _).bind fun _ _ => Reports.get fun w =>
      (Reports.ofResult _).mono (fun _ _ => trivial) fun _ _ => trivial
  refine hresolve.bind fun o _ => ?_
  split
  · exact Reports.pure trivial
  · refine hload.bind fun blob _ => Reports.get fun w => ?_
    exact (Reports.noted (Context.finds_decode w.now actor _ blob)).bind fun _ _ =>
      Reports.pure trivial

theorem reports_variableAt (actor : Int) (p : Path) :
    Reports Notice.Finds (variableAt actor p) (fun _ => True) E := by
  refine reports_guarded ((reports_get actor).bind fun o _ => ?_) trivial
  split <;> exact Reports.pure trivial

theorem reports_amend {actor : Int} {change : Context → Schema.Checked (Context × List Notice)}
    (h : ∀ c r, change c = .ok r → ∀ n ∈ r.2, n.Finds) :
    Reports Notice.Finds (amend actor change) (fun _ => True) E := by
  refine reports_guarded ((reports_get actor).bind fun o _ => ?_) trivial
  split
  · exact (Reports.note (by decide)).bind fun _ _ => Reports.pure trivial
  · split
    · rename_i c _ r hr
      exact (Reports.noted (h c r hr)).bind fun _ _ =>
        (reports_put _).bind fun _ _ => Reports.pure trivial
    · exact Reports.throw trivial

theorem reports_revise (actor : Int) (f : Context → Context) :
    Reports Notice.Finds (revise actor f) (fun _ => True) E := by
  refine (reports_amend fun c r hr => ?_).bind fun _ _ => Reports.pure trivial
  rw [← Except.ok.inj hr]
  exact Context.finds_repair _

theorem reports_setVariable (actor : Int) (p : Path) (v : Value) :
    Reports Notice.Finds (setVariable actor p v) (fun _ => True) E := by
  refine reports_guarded ((reports_get actor).bind fun o _ => ?_) trivial
  split
  · exact Reports.note (by decide)
  · exact reports_put _

theorem reports_recordStep (actor : Int) (flow : String) (step : Int) :
    Reports Notice.Finds (recordStep actor flow step) (fun _ => True) E := by
  refine reports_guarded ((reports_get actor).bind fun o _ => ?_) trivial
  split
  · exact (Reports.note (by decide)).bind fun _ _ => Reports.pure trivial
  · exact Reports.get fun w => (reports_put _).bind fun _ _ => Reports.pure trivial

end Contexts

end Dialogue
