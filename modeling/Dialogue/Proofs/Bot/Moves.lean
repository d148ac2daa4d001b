import Dialogue.Bot.Events
import Dialogue.Proofs.Context.Tidiness
import Dialogue.Proofs.Contexts.Reading

/-! All that events can do to a context, as moves from the context that is read before to the one
that is read afterwards. What is to hold of contexts after every event only has to be checked for
the moves. -/
namespace Dialogue

namespace Context

/-- The context after it was changed, repaired, written and read. -/
def revised (c : Context) (f : Context → Context) : Context := (f c).repair.1.kept

/-- The context after a value was put into its data. -/
def written (c : Context) (p : Path) (v : Value) : Context := (c.setData p v).kept

/-- The context after what is left of a question was disarmed. -/
def disarmed (c : Context) (marker : Value) : Context :=
  if marker.isNull then c else c.written WaitMarker.path .null

/-- The context with the target of a topic flow in its data as well, if there is one. -/
def aimed (c : Context) (target : Value) : Context :=
  if target.isNull then c else c.written ["target_user_id"] target

theorem revised_tidy (c : Context) (f : Context → Context) : (c.revised f).Tidy := kept_tidy _

theorem disarmed_of {P : Context → Prop} {c : Context} (marker : Value) (h : P c)
    (hw : P (c.written WaitMarker.path .null)) : P (c.disarmed marker) := by
  rw [disarmed]
  split
  · exact h
  · exact hw

theorem aimed_of {P : Context → Prop} {c : Context} (target : Value) (h : P c)
    (hw : P (c.written ["target_user_id"] target)) : P (c.aimed target) := by
  rw [aimed]
  split
  · exact h
  · exact hw

theorem disarmed_tidy {c : Context} (h : c.Tidy) (marker : Value) : (c.disarmed marker).Tidy :=
  disarmed_of marker h (kept_tidy _)

theorem aimed_tidy {c : Context} (h : c.Tidy) (target : Value) : (c.aimed target).Tidy :=
  aimed_of target h (kept_tidy _)

end Context

/-- A path that leads to what belongs to the bot. -/
def Path.IsSystem (p : Path) : Prop := p.head? = some WaitMarker.systemKey

instance (p : Path) : Decidable p.IsSystem := by unfold Path.IsSystem; infer_instance

namespace Catalog

/-- A step of a registered flow. -/
def HasStep (k : Catalog) (s : Step) : Prop := ∃ name f, k.flow? name = some f ∧ s ∈ f.steps

end Catalog

/-- What events can do to a context, over a catalog. A context whose numbers cannot be read any
more is lost, and a new one takes its place. -/
inductive Move (k : Catalog) (c : Context) : Context → Prop
  | begin {name : String} {f : Flow} (hf : k.flow? name = some f) :
    Move k c ((c.revised (·.began name)).disarmed c.rawMarker)
  | beginInTopic {name : String} {f : Flow} (hf : k.flow? name = some f) (topic chat : Int)
    (target : Option Int) :
    Move k c (((c.revised (·.beganInTopic name (some topic) (some chat) target)).aimed
      (Value.ofOption .int target)).disarmed c.rawMarker)
  | finish : Move k c ((c.revised (·.ended)).disarmed c.rawMarker)
  | enter {f : Flow} {i : Nat} {s : Step} (hf : k.flow? c.currentFlow = some f)
    (hs : f.steps[i]? = some s) (now : String) : Move k c (c.visit f.name i now).kept
  | arm {f : Flow} {s : Step} {q : Step.Question} (hf : k.flow? c.currentFlow = some f)
    (hs : s ∈ f.steps) (hq : s.work = .question q) :
    Move k c (c.written WaitMarker.path (Bot.markerOf s.id q).stored)
  | disarm : Move k c (c.written WaitMarker.path .null)
  | keep {p : Path} (hp : ¬ p.IsSystem) (v : Value) : Move k c (c.written p v)
  | relay {s : Step} {on : Bool} {next : Option Target} (hs : k.HasStep s)
    (hw : s.work = .relaying on next) : Move k c (c.revised fun c => { c with forwarding := on })
  | lose : Move k c (Context.fresh c.externalId c.humanId)

theorem Move.tidy {k : Catalog} {c d : Context} (h : Move k c d) : d.Tidy := by
  cases h with
  | begin => exact Context.disarmed_tidy (Context.revised_tidy ..) _
  | beginInTopic =>
    exact Context.disarmed_tidy (Context.aimed_tidy (Context.revised_tidy ..) _) _
  | finish => exact Context.disarmed_tidy (Context.revised_tidy ..) _
  | lose => exact Context.fresh_tidy ..
  | enter | arm | disarm | keep | relay => exact Context.kept_tidy _

namespace Bot

/-- A handler that the catalog names: in a step of a flow, or in a registered action. -/
inductive Names (b : Bot) (handler : String) : Prop
  | call {s : Step} {next : Option Target} (hs : b.catalog.HasStep s)
    (hw : s.work = .call handler next)
  | report {s : Step} {r : Step.Report} (hs : b.catalog.HasStep s) (hw : s.work = .report r)
    (hr : r.handler = handler)
  | menu {s : Step} {m : Step.Menu} (hs : b.catalog.HasStep s) (hw : s.work = .menu m)
    (hm : m.handler = handler)
  | action {payload : String} {a : Action}
    (ha : b.catalog.registered? payload = some (.action a)) (hh : a.handler = some handler)

/-- The paths that the catalog writes to keep off what belongs to the bot. -/
structure Guarded (b : Bot) : Prop where
  question : ∀ s q, b.catalog.HasStep s → s.work = .question q →
    isSystemPath q.saveTo = false
  menu : ∀ s m, b.catalog.HasStep s → s.work = .menu m → isSystemPath m.saveTo = false
  action : ∀ payload a path, b.catalog.registered? payload = some (.action a) →
    a.target = some path → isSystemPath path = false

/-- Numbers of the configuration have no more digits than can be read again. -/
structure Legible (b : Bot) : Prop where
  adminChat : b.adminChat.all Decimal.isReadable = true
  steps : ∀ name f, b.catalog.flow? name = some f → Decimal.isReadable f.steps.length = true

/-- What holds of scenes and is kept up by moves and by calls of handlers that are named. -/
structure Upholds (b : Bot) (I : Scene → Prop) : Prop where
  reliable : ∀ {s}, I s → s.Reliable
  tidy : ∀ {s actor c}, I s → s.context? actor = some c → c.Tidy
  /-- Answers are never kept among what belongs to the bot. -/
  answer : ∀ {s actor c w}, I s → s.context? actor = some c → c.waitMarker.1 = some w →
    isSystemPath w.saveTo = false
  move : ∀ {s t actor c d}, I s → s.context? actor = some c → Move b.catalog c d →
    s.Rewritten t actor d → I t
  call : ∀ {s handler} (actor payload), I s → b.Names handler →
    I { s with calls := s.calls ++ [⟨handler, actor, payload⟩] }
  handler : ∀ {name h} (actor payload), Table.value? b.handlers name = some h →
    Turn.Leads I (h.run actor payload) (fun _ => I) I

end Bot

end Dialogue
