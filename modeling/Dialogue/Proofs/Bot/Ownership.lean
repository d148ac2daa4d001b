import Dialogue.Proofs.Bot.Capture
import Dialogue.Proofs.Bot.Choices
import Dialogue.Relay

/-! Whose topic is whose. A press leaves the topic in the data of the actor alone, whatever tasks of
the store fail, unless its payload carries an action that writes right there: the bot keeps its own
place in the data from such actions, and no other. -/
namespace Dialogue.Bot
open Turn

theorem wellFormed_of_byForm {payload : String} {a : Action}
    (h : (Press.byForm payload).1 = .json a) : a.value.WellFormed := by
  rcases value_of_byForm h with hnull | ⟨fs, hfs, hv⟩
  · rw [hnull]
    trivial
  · exact Value.wellFormed_of_value? (Json.wellFormed_of_read? hfs).2 hv

/-- A value stands in the data of the actor, whatever tasks of the store fail. -/
def Retains (actor : Int) (p : Path) (v : Value) : Scene → Prop :=
  Holds actor (fun _ => True) fun fs => Path.get (.dict fs) p = v

section
variable {b : Bot} {w : World} {actor : Int} {c : Context} {payload : String} {topic : Int}
variable (hfree : b.catalog.registered? payload = none)
  (hmenus : ∀ st m, b.catalog.HasStep st → st.work = .menu m →
    (Path.ofString m.saveTo).Incomparable Relay.topicPath)
  (hgiven : ∀ a path, (Press.byForm payload).1 = .json a → writtenBy a = some path →
    (Path.ofString path).Incomparable Relay.topicPath)
include hfree hmenus hgiven

/-- Since it is not registered, the payload is told by its form alone. -/
private theorem pressKeeps_topic :
    b.PressKeeps actor (Retains actor Relay.topicPath (.int topic)) payload := by
  have hp : Relay.topicPath.Incomparable WaitMarker.path := by decide
  have hwrite {path : String} {v : Value} {R : Scene → Prop} (hv : v.isReadable = true)
      (hwell : v.WellFormed) (hpath : (Path.ofString path).Incomparable Relay.topicPath) :
      Leads (Retains actor Relay.topicPath (.int topic)) (setAt actor path v)
        (fun _ => Retains actor Relay.topicPath (.int topic)) R :=
    leads_setVariable_holds (Lasting.at_path hp rfl) hv hwell fun _ _ h =>
      (Path.get_set_of_incomparable _ hpath _).trans h
  have hnone {a : Action} (ha : b.catalog.registered? payload = some (.action a)) : False := by
    rw [hfree] at ha
    cases ha
  have hkeyboard : (Path.ofString (pressPath payload)).Incomparable Relay.topicPath :=
    Path.incomparable_of_head (head?_pressPath payload) rfl (by decide)
  exact
    { pick := fun value hs _ hf hst hwork =>
        Leads.at_one hs (hwrite rfl trivial (hmenus _ _ ⟨_, _, hf, hst⟩ hwork))
      keyboard := hwrite rfl trivial hkeyboard
      given := fun ha hpath _ =>
        hwrite (readable_of_byForm ha) (wellFormed_of_byForm ha) (hgiven _ _ ha hpath)
      action := fun ha _ _ => (hnone ha).elim
      call := fun ha _ _ => (hnone ha).elim }

end

/-- An actor who owns a topic. -/
def owning : Context :=
  { Context.fresh 1 1 with data := [("support", .dict [("topic_id", .int 1001)])] }

private theorem hasReadableId_owning : owning.kept.hasReadableId = true :=
  (Context.hasReadableId_kept _).trans (hasReadableId_first rfl rfl)

private theorem wellFormed_owning : (Value.dict owning.data).WellFormed :=
  ⟨(by decide : ["support"].Nodup), ⟨(by decide : ["topic_id"].Nodup), trivial, trivial⟩, trivial⟩

private theorem data_owning : owning.kept.data = owning.data :=
  Context.data_kept_of_isFinite ((Context.hasReadableId_kept _).symm.trans hasReadableId_owning)
    (by decide +kernel) wellFormed_owning rfl

/-- A payload that keeps a text beside the topic. -/
def remark : ChoiceButton := { text := "", value := .text "hi", saveTo := some "support.note" }

/-- A payload that writes where the topic is kept. -/
def takeover : ChoiceButton := { text := "", value := .int 1002, saveTo := some "support.topic_id" }

end Dialogue.Bot
