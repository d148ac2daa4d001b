import Dialogue.Bot.Events
import Dialogue.Proofs.Turn.Blindness

/-! Events are blind to whatever the parts are that their work is made of: transitions, steps,
answers and presses hand on what they were given and look at nothing else. -/
namespace Dialogue.Bot
open Turn

/-- Three readings that are put together come to something only when each of them does. -/
private theorem read_or_error {α β : Type} (t a u : Schema.Checked α) :
    (∃ x y z, t = .ok x ∧ a = .ok y ∧ u = .ok z) ∨
      ∃ complaints, ∀ f : α → α → α → β, f <$> t <*> a <*> u = .error complaints := by
  cases t <;> cases a <;> cases u
  case ok.ok.ok x y z => exact .inl ⟨x, y, z, rfl, rfl, rfl⟩
  all_goals exact .inr ⟨_, fun _ => rfl⟩

/-- No event ends in a fault. -/
theorem exists_handled (b : Bot) (actor : Int) (e : Event) (w : World) :
    ∃ o v, on (b.handle actor e) w = (.ok o, v) := by
  rw [handle, on_rescue]
  rcases on (b.react actor e) w with ⟨f | o, v⟩
  · exact ⟨_, _, rfl⟩
  · exact ⟨o, v, rfl⟩

section
variable {b : Bot} {R : World → World → Prop} {actor : Int} {run : Runner}
variable (hR : Veil R actor) (hrun : ∀ s, Blind R (run s))
  (hh : ∀ name h payload, Table.value? b.handlers name = some h → Blind R (h.run actor payload))
include hR

theorem blind_fail (n : Notice) (r : Reason) : Blind R (fail n r) :=
  (hR.note n).bind fun _ => .pure _

theorem blind_keyboardOf (key : Option String) : Blind R (b.keyboardOf key) := by
  unfold keyboardOf
  split
  · exact .pure _
  split
  · exact .pure _
  · exact (hR.note _).bind fun _ => .pure _

theorem blind_clearMarker (c : Context) : Blind R (clearMarker actor c) := by
  unfold clearMarker
  split
  · exact .pure _
  · exact hR.write _ _

theorem blind_complete : Blind R (complete actor) := by
  refine hR.read (fun _ => rfl) fun o _ => ?_
  cases o with
  | none => exact .pure _
  | some c =>
    simp only
    split
    · exact .pure _
    · exact (hR.revise Context.ended_ahistorical).bind fun _ =>
        (blind_clearMarker hR c).bind fun _ => .pure _

theorem blind_beginInTopic (name : String) (topic chat target : Value) :
    Blind R (beginInTopic actor name topic chat target) := by
  unfold beginInTopic
  rcases read_or_error (Schema.optional Schema.whole topic) (Schema.optional Schema.whole chat)
    (Schema.optional Schema.whole target) with ⟨t, a, u, ht, ha, hu⟩ | ⟨complaints, herror⟩
  · simp only [ht, ha, hu]
    exact hR.revise (Context.beganInTopic_ahistorical name t a u)
  · exact (hR.amend_error fun c => herror _).bind fun _ => .pure _

include hrun

theorem blind_enterFirst (f : Flow) : Blind R (enterFirst run actor f) := by
  unfold enterFirst
  split
  · exact (hR.note _).bind fun _ => .pure _
  · exact (hR.enter _ _).discarded (hrun _)

theorem blind_start (name : String) : Blind R (b.start run actor name) := by
  unfold start
  split
  · exact blind_fail hR _ _
  · refine hR.read (fun _ => rfl) fun o _ => ?_
    cases o with
    | none => exact blind_fail hR _ _
    | some c =>
      exact (hR.revise (Context.began_ahistorical name)).bind fun _ =>
        (blind_clearMarker hR c).bind fun _ => blind_enterFirst hR hrun _

theorem blind_startInTopic (topic : Value) (name : String) (target chat : Value) :
    Blind R (b.startInTopic run actor topic name target chat) := by
  unfold startInTopic
  split
  · exact blind_fail hR _ _
  · rename_i f _
    refine hR.read (fun _ => rfl) fun o _ => ?_
    cases o with
    | none => exact blind_fail hR _ _
    | some c =>
      have hrest : Blind R (clearMarker actor c >>= fun _ => enterFirst run actor f) :=
        (blind_clearMarker hR c).bind fun _ => blind_enterFirst hR hrun f
      simp only
      split
      · exact blind_fail hR _ _
      · refine (blind_beginInTopic hR name topic _ target).bind fun _ => ?_
        split
        · exact (hR.write _ _).bind fun _ => hrest
        · exact hrest

theorem blind_goTo (place : Flow → Option Nat) : Blind R (b.goTo run actor place) := by
  refine hR.read (fun _ => rfl) fun o _ => ?_
  cases o with
  | none => exact blind_fail hR _ _
  | some c =>
    simp only
    split
    · exact blind_fail hR _ _
    split
    · exact blind_fail hR _ _
    split
    · exact blind_fail hR _ _
    · exact (hR.enter _ _).discarded (hrun _)

theorem blind_advance (t : Option Target) : Blind R (b.advance run actor t) := by
  unfold advance
  split
  · exact blind_goTo hR hrun _
  · exact blind_complete hR

theorem blind_follow (flow : Option String) (t : Option Target) :
    Blind R (b.follow run actor flow t) := by
  unfold follow
  split
  · exact blind_start hR hrun _
  · exact blind_goTo hR hrun _
  · exact .pure _

theorem blind_proceed (t : Option Target) : Blind R (b.proceed run actor t) := by
  cases t with
  | some t => exact blind_goTo hR hrun _
  | none => exact .pure _

include hh

omit hrun in
theorem blind_attempt (name : String) (payload : Option Value) :
    Blind R (b.handlers.attempt name actor payload) :=
  hR.attempt payload fun h taken hvalue => hh name h taken hvalue

omit hrun in
theorem blind_report (dest : Destination) (r : Step.Report) :
    Blind R (rescue (do
      match (← b.handlers.invoke r.handler actor).text? with
      | some s =>
        if Text.allBlank s then note .dynamicTextEmpty
        else Channel.deliver dest s (← b.keyboardOf r.keyboard)
      | none => note .dynamicTextEmpty) fun _ => note .dynamicTextFailed) := by
  refine .rescue ((hR.invoke _ fun h taken hvalue => hh _ h taken hvalue).bind fun reply => ?_)
    fun _ => hR.note _
  split
  · split
    · exact hR.note _
    · exact (blind_keyboardOf hR _).bind fun _ => hR.deliver _ _ _
  · exact hR.note _

omit hrun in
theorem blind_sendMenu (dest : Destination) (id : Option String) (m : Step.Menu) :
    Blind R (b.sendMenu actor dest id m) := by
  refine .rescue ((hR.invoke _ fun h taken hvalue => hh _ h taken hvalue).bind fun reply => ?_)
    fun _ => (hR.note _).bind fun _ => .pure _
  split
  · exact (hR.noted _).bind fun _ => (hR.deliver _ _ _).bind fun _ => .pure _
  · exact (hR.note _).bind fun _ => .pure _

/-- The work of a step looks at nothing of the context but its data and the place of its flow. -/
theorem blind_work (c : Context) (s : Step) : Blind R (b.work run actor c s) := by
  unfold work
  split
  · refine (blind_keyboardOf hR _).bind fun keyboard => (hR.deliver _ _ _).bind fun _ => ?_
    split
    · exact blind_advance hR hrun _
    · exact .pure _
  · exact (hR.write _ _).bind fun _ => (hR.deliver _ _ _).bind fun _ => .pure _
  · exact (hR.noted _).bind fun _ => (hR.deliver _ _ _).bind fun _ => .pure _
  · refine (hR.noted _).bind fun yes => ?_
    split
    · exact blind_start hR hrun _
    split
    · exact blind_goTo hR hrun _
    · exact (hR.note _).bind fun _ => .pure _
  · exact (blind_attempt hR hh _ _).bind fun _ => blind_proceed hR hrun _
  · exact blind_start hR hrun _
  · exact (hR.pause _).bind fun _ => blind_proceed hR hrun _
  · exact (hR.revise (Context.relayed_ahistorical _)).bind fun _ => blind_proceed hR hrun _
  · unfold sendReport
    split
    · exact (blind_report hR hh _ _).bind fun _ => blind_advance hR hrun _
    · exact (hR.note _).bind fun _ => blind_complete hR
  · unfold offerMenu
    split
    · refine (blind_sendMenu hR hh _ _ _).bind fun sent => ?_
      split
      · exact .pure _
      · exact blind_complete hR
    · exact (hR.note _).bind fun _ => blind_complete hR
  · exact blind_fail hR _ _

omit hrun in
/-- A chain of steps is blind, by induction on the steps that are left. -/
theorem blind_execute (left : Nat) (s : Step) : Blind R (b.execute actor left s) := by
  induction left generalizing s with
  | zero => exact blind_fail hR _ _
  | succ left ih =>
    refine hR.read (fun _ => rfl) fun o _ => ?_
    cases o with
    | none => exact .pure _
    | some c => exact blind_work hR ih hh c s

omit hh in
theorem blind_carryOutGiven (a : Action) : Blind R (b.carryOutGiven run actor a) := by
  have hfollow : Blind R (b.follow run actor a.nextFlow a.next) := blind_follow hR hrun _ _
  unfold carryOutGiven
  split
  · exact (hR.note _).bind fun _ => .pure _
  split
  · split
    · split
      · exact (hR.write _ _).bind fun _ => hfollow
      · exact hfollow
    · exact hfollow
  · split
    · exact blind_start hR hrun _
    · exact .pure _
  · split
    · exact blind_goTo hR hrun _
    · exact .pure _
  all_goals
    split
    · exact (hR.write _ _).bind fun _ => hfollow
    · exact hfollow

theorem blind_carryOut (a : Action) (payload : String) :
    Blind R (b.carryOut run actor a payload) := by
  have hfollow : Blind R (some <$> b.follow run actor a.nextFlow a.next) :=
    (blind_follow hR hrun _ _).map some
  unfold carryOut
  split
  · split
    · exact (blind_start hR hrun _).map _
    · exact (blind_fail hR _ _).map _
  · split
    · exact (blind_goTo hR hrun _).map _
    · exact (blind_fail hR _ _).map _
  · split
    · split
      · exact (hR.write _ _).bind fun _ => hfollow
      · exact hfollow
    · exact hfollow
  · split
    · exact (blind_attempt hR hh _ _).bind fun _ => hfollow
    · exact (hR.note _).bind fun _ => hfollow
  · exact (hR.note _).bind fun _ => .pure _

omit hh in
theorem blind_pickFromMenu (payload : String) : Blind R (b.pickFromMenu run actor payload) := by
  refine hR.read (fun _ => rfl) fun o _ => ?_
  cases o with
  | none => exact blind_fail hR _ _
  | some c =>
    simp only
    split
    · exact blind_fail hR _ _
    split
    · exact blind_fail hR _ _
    split
    · exact blind_fail hR _ _
    · refine (hR.write _ _).bind fun _ => ?_
      split
      · exact blind_start hR hrun _
      · exact blind_advance hR hrun _

omit hh in
theorem blind_pressKeyboard (payload : String) : Blind R (b.pressKeyboard run actor payload) := by
  refine hR.read (fun _ => rfl) fun o _ => ?_
  cases o with
  | none => exact .pure _
  | some c =>
    simp only
    split
    · exact .pure _
    split
    · exact .pure _
    · exact (hR.write _ _).bind fun _ => blind_proceed hR hrun _

omit hh in
theorem blind_pressByForm (payload : String) (p : Press) :
    Blind R (b.pressByForm run actor payload p) := by
  cases p with
  | dynamic => exact blind_pickFromMenu hR hrun payload
  | json a => exact blind_carryOutGiven hR hrun a
  | keyboard | registered => exact blind_pressKeyboard hR hrun payload

omit hrun in
theorem blind_press (payload : String) : Blind R (b.press actor payload) := by
  have hrunner (s : Step) : Blind R (b.runner actor s) := blind_execute hR hh _ s
  refine (hR.ofResult _).bind fun r => (hR.noted r).bind fun p => ?_
  split
  · refine (blind_carryOut hR hrunner hh _ payload).bind fun o => ?_
    split
    · exact .pure _
    · exact (hR.noted _).bind fun q => blind_pressByForm hR hrunner payload q
  · exact blind_pressByForm hR hrunner payload _

omit hrun in
theorem blind_takeAnswer {c : Context} (hc : c.externalId = actor) (text : String) :
    Blind R (b.takeAnswer c text) := by
  have hkeep (w : WaitMarker) : Blind R (b.keepAnswer c.externalId w text) := by
    rw [hc]
    exact (hR.write _ _).bind fun _ => (hR.write _ _).bind fun _ =>
      blind_proceed hR (blind_execute hR hh _) _
  refine (hR.noted _).bind fun o => ?_
  split
  · exact .pure _
  split
  · exact hkeep _
  · refine (hR.noted _).bind fun accepted => ?_
    split
    · exact hkeep _
    · exact (hR.deliver _ _ _).bind fun _ => .pure _

omit hrun hh in
private theorem blind_inTopicFlow {act : Context → Turn Outcome}
    (hact : ∀ c : Context, act c = act c.unvisited)
    (h : ∀ c : Context, c.externalId = actor → Blind R (act c)) :
    Blind R (inTopicFlow actor act) := by
  refine hR.read (fun c => ?_) fun o ho => ?_
  · simp only [hact c]
    rfl
  · cases o with
    | none => exact .pure _
    | some c =>
      simp only
      split
      · exact h c (ho c rfl)
      · exact .pure _

omit hrun in
/-- No event can tell apart what its parts cannot. -/
theorem blind_handle (e : Event) : Blind R (b.handle actor e) := by
  have hrunner (s : Step) : Blind R (b.runner actor s) := blind_execute hR hh _ s
  refine .rescue ?_ fun _ => (hR.note _).bind fun _ => .pure _
  cases e with
  | startFlow flow => exact blind_start hR hrunner flow
  | startTopicFlow topic flow target chat =>
    exact blind_startInTopic hR hrunner topic flow target chat
  | goToStep place => exact blind_goTo hR hrunner _
  | completeFlow => exact blind_complete hR
  | executeStep s => exact hrunner s
  | message text =>
    refine hR.read (fun _ => rfl) fun o ho => ?_
    cases o with
    | none => exact .pure _
    | some c => exact blind_takeAnswer hR hh (ho c rfl) text
  | topicMessage text =>
    exact blind_inTopicFlow hR (fun _ => rfl) fun c hc => blind_takeAnswer hR hh hc text
  | press payload => exact blind_press hR hh payload
  | topicPress payload =>
    exact blind_inTopicFlow hR (fun _ => rfl) fun _ _ => blind_press hR hh payload

end

end Dialogue.Bot
