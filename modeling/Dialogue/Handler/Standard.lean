import Dialogue.Handler
import Dialogue.Price
import Dialogue.Text.Words
import Dialogue.Value.Access

/-! The handlers that come with the bot. -/
namespace Dialogue.Handler
open Turn

/-- Sends a text to where the flow of an actor is run. -/
def reply (actor : Int) (text : String) : Turn Unit := do
  match ← Contexts.get actor with
  | some c => Channel.deliver (Destination.ofContext c) text
  | none => return

/-- How the payloads of the buttons for a status end. -/
def statusTail : String := "_lead_status"

/-- Keeps the status that was picked, and confirms it. -/
def setStatus : Handler where
  intake := .payload
  run actor payload := do
    match payload with
    | some (.text s) =>
      let status := (Text.before? statusTail s).getD s
      Contexts.setVariable actor ["lead", "status"] (.text status)
      reply actor ("Status set: <b>" ++ status ++ "</b>")
      return .value .null
    | _ => throw .noParts

/-- Title, description and price of an offer. -/
def offerSummary (offer : Value) : Except Fault String := do
  let title ← offer.part "title" (.text "")
  let description ← offer.part "description" (.text "")
  let price ← offer.part "price" (.text "")
  return "\n".intercalate ["<b>Your offer</b>", "Title: " ++ title.display,
    "Description: " ++ description.display, "Price: " ++ showPrice price]

/-- Shows an actor the offer that was entered. -/
def showOffer : Handler where
  intake := .nothing
  run actor _ := do
    let offer ← Contexts.variableAt actor ["offer"]
    reply actor (← ofResult (offerSummary (if offer.truthy then offer else .dict [])))
    return .value .null

def standard : Handlers := [("set_status", setStatus), ("show_offer_summary", showOffer)]

end Dialogue.Handler
