import Dialogue.Handler.Script
import Dialogue.Handler.Standard
import Dialogue.Proofs.Bot.Blindness
import Dialogue.Proofs.Bot.Reserve
import Dialogue.Proofs.Turn.Isolation

/-! Events of different actors have nothing to do with each other, so it does not matter which of
two comes first. -/
namespace Dialogue
open Turn

/-- Whoever a handler is called for, it keeps to that actor. -/
def Handler.KeepsToActor (h : Handler) : Prop :=
  ∀ actor payload, KeepsTo actor (h.run actor payload)

/-- However long the chain of steps is, everything is read and written for the same actor. -/
theorem Bot.keepsTo_handle {b : Bot}
    (hh : ∀ name h, Table.value? b.handlers name = some h → h.KeepsToActor) (actor : Int)
    (e : Event) : KeepsTo actor (b.handle actor e) :=
  keepsTo_of_blind fun w₀ w₀' => blind_handle (World.Advanced.ground actor w₀ w₀').veil
    (fun name h payload hvalue => (hh name h hvalue actor payload).blind w₀ w₀') e

namespace Handler
variable {R : World → World → Prop} {actor : Int}

theorem blind_variableAt (hR : Veil R actor) (p : Path) :
    Blind R (Contexts.variableAt actor p) := by
  refine hR.guarded (hR.read (fun _ => rfl) fun o _ => ?_)
  cases o <;> exact .pure _

theorem blind_reply (hR : Veil R actor) (text : String) : Blind R (reply actor text) := by
  refine hR.read (fun _ => rfl) fun o _ => ?_
  cases o with
  | none => exact .pure _
  | some c => exact hR.deliver _ _ _

theorem keepsToActor_setStatus : setStatus.KeepsToActor := by
  intro actor payload
  refine keepsTo_of_blind fun w₀ w₀' => ?_
  have hR := (World.Advanced.ground actor w₀ w₀').veil
  simp only [setStatus]
  split
  · exact (hR.write _ _).bind fun _ => (blind_reply hR _).bind fun _ => .pure _
  · exact .throw _

theorem keepsToActor_showOffer : showOffer.KeepsToActor := by
  intro actor payload
  refine keepsTo_of_blind fun w₀ w₀' => ?_
  have hR := (World.Advanced.ground actor w₀ w₀').veil
  exact (blind_variableAt hR _).bind fun offer => (hR.ofResult _).bind fun text =>
    (blind_reply hR text).bind fun _ => .pure _

/-- The handlers that come with the bot keep to their actors. -/
theorem keepsToActor_standard {name : String} {h : Handler}
    (hh : Table.value? standard name = some h) : h.KeepsToActor := by
  rw [standard, Table.value?_cons, Table.value?_cons] at hh
  split at hh
  · exact Option.some.inj hh ▸ keepsToActor_setStatus
  split at hh
  · exact Option.some.inj hh ▸ keepsToActor_showOffer
  · cases hh

end Handler

namespace Script
variable {engine : Engine}

/-- A script keeps to its actor when the bot it sends its events to does. -/
theorem keepsToActor_handler (hengine : ∀ actor e, KeepsTo actor (engine actor e)) (s : Script) :
    (s.handler engine).KeepsToActor := by
  intro actor payload
  refine keepsTo_of_blind fun w₀ w₀' => ?_
  have hR := (World.Advanced.ground actor w₀ w₀').veil
  have hact (a : Act) : Blind (World.Advanced actor w₀ w₀') (act engine actor payload a) := by
    cases a with
    | set path v => exact hR.write _ _
    | keepPayload path => exact hR.write _ _
    | send e => exact ((hengine actor e).blind w₀ w₀').bind fun _ => .pure _
  have hacts (as : List Act) :
      Blind (World.Advanced actor w₀ w₀') (as.forM (act engine actor payload)) := by
    induction as with
    | nil => exact .pure _
    | cons a as ih => exact (hact a).bind fun _ => ih
  refine (hacts s.acts).bind fun _ => ?_
  match hending : s.ending with
  | .answer v => exact .pure _
  | .offer v =>
    cases hm : Menu.read v with
    | ok m =>
      simp only [finish, hm]
      exact .pure _
    | error complaints =>
      simp only [finish, hm]
      exact .throw _
  | .recall path => exact (Handler.blind_variableAt hR _).bind fun _ => .pure _
  | .fail f => exact .throw f

private theorem keepsToActor_handlers (hengine : ∀ actor e, KeepsTo actor (engine actor e))
    {base : Handlers} (hbase : ∀ name h, Table.value? base name = some h → h.KeepsToActor)
    (scripts : Table String Script) {name : String} {h : Handler}
    (hh : Table.value? (handlers engine base scripts) name = some h) : h.KeepsToActor := by
  rw [handlers] at hh
  obtain hvalue | hmem := Table.value?_putAll hh
  · exact hbase name h hvalue
  · obtain ⟨⟨key, s⟩, -, heq⟩ := List.mem_map.mp hmem
    obtain ⟨-, rfl⟩ := Prod.mk.inj heq
    exact keepsToActor_handler hengine s

/-- Scripts keep to their actors at every depth, by induction on the depth. -/
theorem keepsToActor_nested {b : Bot}
    (hb : ∀ name h, Table.value? b.handlers name = some h → h.KeepsToActor)
    (scripts : Table String Script) (depth : Nat) {name : String} {h : Handler}
    (hh : Table.value? (nested b scripts depth).handlers name = some h) : h.KeepsToActor := by
  induction depth generalizing name h with
  | zero =>
    have hthrow (actor : Int) (e : Event) : KeepsTo actor (throw .tooDeep : Turn Outcome) :=
      keepsTo_of_blind fun _ _ => .throw _
    exact keepsToActor_handlers hthrow hb scripts hh
  | succ depth ih =>
    exact keepsToActor_handlers
      (fun actor e => Bot.keepsTo_handle (fun _ _ hvalue => ih hvalue) actor e) hb scripts hh

end Script

namespace Bot
variable {b : Bot}

/-- Whenever the event comes, it ends in the outcome and sends the messages, and what is kept of
others stays as it is. -/
def Answers (b : Bot) (actor : Int) (e : Event) (w : World) (o : Outcome) (ms : List Delivery) :
    Prop :=
  ∀ now, ∃ v, on (b.handle actor e) { w with now } = (.ok o, v) ∧ w.Served actor ms v

/-- An event does the same in all worlds that are alike for its actor, whatever they keep for
others. -/
private theorem exists_answers
    (hh : ∀ name h, Table.value? b.handlers name = some h → h.KeepsToActor) (actor : Int)
    (e : Event) {w : World} (hw : w.Steady) :
    ∃ o ms, ∀ w', w.AlikeFor actor w' → b.Answers actor e w' o ms := by
  have hkeeps := keepsTo_handle hh actor e
  obtain ⟨o, v, hon⟩ := b.exists_handled actor e w
  obtain ⟨r, ms, u, _, hsame, -, hserved, -⟩ := hkeeps w w (hw.alikeFor actor)
  obtain rfl : v = u := congrArg Prod.snd (hon.symm.trans hsame)
  refine ⟨o, ms, fun w' halike now => ?_⟩
  obtain ⟨v', hon', hserved', -⟩ := hkeeps.again hon hserved (halike.atTime w.now now)
  exact ⟨v', hon', hserved'.sent, hserved'.load, hserved'.resolve, hserved'.outages⟩

/-- The two events come one after the other, at any times: either order brings the same outcomes,
and the same messages and contexts for each actor, but for the times of visits. -/
def InEitherOrder (b : Bot) (actor other : Int) (e e' : Event) (w : World) (o o' : Outcome)
    (ms ms' : List Delivery) : Prop :=
  ∀ t₁ t₂ t₁' t₂', ∃ u v u' v',
    on (b.handle actor e) { w with now := t₁ } = (.ok o, u) ∧
    on (b.handle other e') { u with now := t₂ } = (.ok o', v) ∧
    on (b.handle other e') { w with now := t₁' } = (.ok o', u') ∧
    on (b.handle actor e) { u' with now := t₂' } = (.ok o, v') ∧
    v.sent = w.sent ++ ms ++ ms' ∧ v'.sent = w.sent ++ ms' ++ ms ∧
    ∀ a, v'.store.resolve a = v.store.resolve a ∧ v.store.KeepsAlike v'.store a

/-- Two events of different actors do not touch what is kept of the other, do not depend on it, and
lead to the same in either order. -/
theorem handle_commute
    (hh : ∀ name h, Table.value? b.handlers name = some h → h.KeepsToActor) {actor other : Int}
    (hne : actor ≠ other) (e e' : Event) {w : World} (hw : w.Steady) :
    ∃ o o' ms ms', (∀ w', w.AlikeFor actor w' → b.Answers actor e w' o ms) ∧
      (∀ w', w.AlikeFor other w' → b.Answers other e' w' o' ms') ∧
      b.InEitherOrder actor other e e' w o o' ms ms' := by
  obtain ⟨o, ms, hanswers⟩ := exists_answers hh actor e hw
  obtain ⟨o', ms', hanswers'⟩ := exists_answers hh other e' hw
  refine ⟨o, o', ms, ms', hanswers, hanswers', fun t₁ t₂ t₁' t₂' => ?_⟩
  obtain ⟨u, hu, hfirst⟩ := hanswers w (hw.alikeFor actor) t₁
  obtain ⟨u', hu', hfirst'⟩ := hanswers' w (hw.alikeFor other) t₁'
  -- The second event meets a world that is still alike for its actor.
  have hfrom := (hfirst'.alikeFor hw hne).atTime t₁ t₂'
  have hfrom' := (hfirst.alikeFor hw hne.symm).atTime t₁' t₂
  obtain ⟨v, hv, hsecond, halike'⟩ := (keepsTo_handle hh other e').again hu'
    ⟨hfirst'.sent, hfirst'.load, hfirst'.resolve, hfirst'.outages⟩ hfrom'
  obtain ⟨v', hv', hsecond', halike⟩ := (keepsTo_handle hh actor e).again hu
    ⟨hfirst.sent, hfirst.load, hfirst.resolve, hfirst.outages⟩ hfrom
  have hresolve (a : Int) : v.store.resolve a = w.store.resolve a :=
    (hsecond.resolve a).trans (hfirst.resolve a)
  have hresolve' (a : Int) : v'.store.resolve a = w.store.resolve a :=
    (hsecond'.resolve a).trans (hfirst'.resolve a)
  refine ⟨u, v, u', v', hu, hv, hu', hv', ?_, ?_, fun a => ⟨?_, ?_⟩⟩
  · exact hsecond.sent.trans (congrArg (· ++ ms') hfirst.sent)
  · exact hsecond'.sent.trans (congrArg (· ++ ms) hfirst'.sent)
  · rw [hresolve, hresolve']
  · by_cases ha : a = actor
    · subst ha
      exact halike.keeps.transfer (hsecond.load a hne) rfl (hsecond.resolve a)
    by_cases ha' : a = other
    · subst ha'
      exact (halike'.keeps.symm halike'.resolve).transfer rfl (hsecond'.load a ha) rfl
    · have hload : v.store.load a = w.store.load a :=
        (hsecond.load a ha').trans (hfirst.load a ha)
      have hload' : v'.store.load a = w.store.load a :=
        (hsecond'.load a ha).trans (hfirst'.load a ha')
      exact .same (hload'.trans hload.symm)

/-- A store that knows two actors. -/
def neighbours : World where
  store := .memory { actors := [(1, 1), (2, 2)] }

theorem handle_commute_neighbours :
    (1 : Int) ≠ 2 ∧ neighbours.Steady ∧ ∃ o o' ms ms',
      (∀ w', neighbours.AlikeFor 1 w' → inquirer.Answers 1 (.startFlow "lead") w' o ms) ∧
      (∀ w', neighbours.AlikeFor 2 w' → inquirer.Answers 2 (.press forgery) w' o' ms') ∧
      inquirer.InEitherOrder 1 2 (.startFlow "lead") (.press forgery) neighbours o o' ms ms' := by
  have hw : neighbours.Steady := ⟨fun _ _ => rfl, fun _ _ _ => rfl⟩
  exact ⟨by decide, hw,
    handle_commute (fun _ _ => Handler.keepsToActor_standard) (by decide) _ _ hw⟩

end Bot

end Dialogue
