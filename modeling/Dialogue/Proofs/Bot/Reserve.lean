import Dialogue.Proofs.Bot.Runs

/-! What a run can never do, whatever its payloads and texts are: write under the bot's own key, or
call a handler that the catalog does not name. -/
namespace Dialogue.Bot
open Turn

/-- A bot that asks for a name and then shows an offer. -/
def inquirer : Bot where
  catalog := {
    flows := [("lead", {
      name := "lead"
      steps := [
        { work := .question { text := "Your name?", saveTo := "human.name" } },
        { work := .call "show_offer_summary" none }] })] }
  handlers := Handler.standard

/-- A payload that asks for the marker to be cleared. -/
def forgery : String :=
  "\x7b\"action\":\"set_variable\",\"variable\":\"_system.waiting_for_input\",\"value\":null\x7d"

/-- The question is asked, and a press tries to clear it. -/
def besieged : World :=
  inquirer.after 1 (.press forgery) "" {} (inquirer.after 1 (.startFlow "lead") "" {} .reception)

private theorem flow?_inquirer {name : String} {f : Flow}
    (h : inquirer.catalog.flow? name = some f) : f.steps = [
      { work := .question { text := "Your name?", saveTo := "human.name" } },
      { work := .call "show_offer_summary" none }] := by
  rw [(Table.eq_of_value?_singleton h).2]

theorem inquirer_legible : inquirer.Legible where
  adminChat := rfl
  steps name f hf := by
    rw [flow?_inquirer hf]
    decide

theorem inquirer_guarded : inquirer.Guarded where
  question s q hs hq := by
    obtain ⟨name, f, hf, hs⟩ := hs
    rw [flow?_inquirer hf] at hs
    obtain rfl | hs := List.mem_cons.mp hs
    · cases hq
      decide
    · cases List.mem_singleton.mp hs
      cases hq
  menu s m hs hm := by
    obtain ⟨name, f, hf, hs⟩ := hs
    rw [flow?_inquirer hf] at hs
    obtain rfl | hs := List.mem_cons.mp hs
    · cases hm
    · cases List.mem_singleton.mp hs
      cases hm
  action payload a path ha := nomatch ha

end Dialogue.Bot
