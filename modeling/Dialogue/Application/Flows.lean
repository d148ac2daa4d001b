import Dialogue.Catalog

/-! The flows that come with the bot, and what leads into them. -/
namespace Dialogue.Application

def keyboards : Table String Keyboard :=
  [("start_onboarding_button", [[⟨"🚀 Start", "start_onboarding_button"⟩]]),
   ("main_menu", [[⟨"Start a conversation", "start_conversation"⟩], [⟨"Help", "help"⟩]]),
   ("status_menu",
    [[⟨"💡 New", "new_lead_status"⟩],
     [⟨"🔥 Hot", "hot_lead_status"⟩, ⟨"💰 Sell", "sell_lead_status"⟩]])]

private def starting (flow : String) : Registered := .action
  { action := some "start_flow", flowName := some flow, given := ["action", "flow_name"] }

private def settingStatus : Registered := .action
  { action := some "handler", handler := some "set_status", given := ["action", "handler_name"] }

def actions : Table String Registered :=
  [("start_onboarding_button", .action
      { action := some "go_to_step", next := some (.label "onboarding_asking_name")
        given := ["action", "next_step_id"] }),
   ("start_conversation", starting "start_conversation"),
   ("help", starting "help"),
   ("new_lead_status", settingStatus),
   ("hot_lead_status", settingStatus),
   ("sell_lead_status", settingStatus)]

def commands : List Command :=
  [{ name := "/start", flowName := some "onboarding", description := "Start onboarding" },
   { name := "/menu", flowName := some "menu", description := "Open the menu" },
   { name := "/help", flowName := some "help", description := "Show help" },
   { name := "/offer", flowName := some "offer", description := "Describe an offer" }]

private def message (id text : String) (keyboard : Option String := none)
    (next : Option String := none) : Step :=
  { id := some id, work := .message { text, keyboard, next := next.map .label } }

private def question (id text saveTo next : String) (validation : Option Validation := none) :
    Step :=
  { id := some id, work := .question { text, saveTo, validation, next := some (.label next) } }

def onboarding : Flow where
  name := "onboarding"
  description := "Primary profile card filling process"
  steps :=
    [message "send_welcome"
      "🚀 <b>FlowBot</b> collects your contact details and routes your request to the team."
      (some "start_onboarding_button"),
     question "onboarding_asking_name" "Enter a name:" "human.name" "onboarding_asking_email"
      (some { kind := "text", message := "The name cannot be empty" }),
     question "onboarding_asking_email" "Specify the email address:" "human.email"
       "onboarding_thanks"
      (some { kind := "email", message := "That does not look like an email address" }),
     message "onboarding_thanks" "Thanks for registering!" none (some "onboarding_main_menu"),
     { id := some "onboarding_main_menu", work := .flow "menu" }]

def menu : Flow where
  name := "menu"
  description := "Main menu"
  steps := [message "show_main_menu" "What would you like to do?" (some "main_menu")]

def help : Flow where
  name := "help"
  description := "Helpful information"
  steps :=
    [message "show_help" "📜 To open the main menu with all options, send /menu to the chat."]

def status : Flow where
  name := "set_status"
  description := "Set the lead status"
  steps := [message "show_set_status_buttons" "Select the status:" (some "status_menu")]

def conversation : Flow where
  name := "start_conversation"
  description := "Start conversation message"
  steps := [message "show_message" "Write your question."]

def offer : Flow where
  name := "offer"
  description := "Collect offer details from the actor"
  steps :=
    [question "offer_title" "Enter the title:" "offer.title" "offer_description",
     question "offer_description" "Describe the offer in more detail:" "offer.description"
       "offer_price",
     question "offer_price" "Specify the price:" "offer.price" "offer_review"
      (some { kind := "number", message := "The price must be a number" }),
     { id := some "offer_review"
       work := .branch {
         condition := "data.offer.price > 0 && data.offer.title != ''"
         ifTrue := some (.label "offer_summary"), ifFalse := some (.label "offer_title") } },
     { id := some "offer_summary"
       work := .call "show_offer_summary" (some (.label "offer_saved")) },
     message "offer_saved" "Your offer has been saved."]

def flows : List Flow := [onboarding, menu, help, status, conversation, offer]

/-- The catalog of everything that comes with the bot. -/
def shipped : Catalog where
  flows := flows.map fun f => (f.name, f)
  keyboards := keyboards
  actions := actions
  commands := commands.map fun c => (c.name, c)

end Dialogue.Application
