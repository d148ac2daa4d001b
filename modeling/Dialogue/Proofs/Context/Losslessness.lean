import Dialogue.Proofs.Context.Faithfulness

/-! A sound context is read from its text as it was written. Only numbers that are not finite are
lost from its data. -/
namespace Dialogue

namespace Value

private theorem keys_finiteFields (fs : List (String × Value)) :
    Table.keys (finiteFields fs) = Table.keys fs := by
  induction fs with
  | nil => rfl
  | cons e fs ih =>
    obtain ⟨k, x⟩ := e
    change k :: Table.keys (finiteFields fs) = k :: Table.keys fs
    rw [ih]

mutual

private theorem wellFormed_finiteOnly : ∀ v : Value, v.WellFormed → v.finiteOnly.WellFormed
  | null, _ | bool _, _ | int _, _ | text _, _ => trivial
  | float x, _ => by
    rw [finiteOnly]
    split <;> trivial
  | list xs, h => wellFormed_finiteItems xs h
  | dict fs, h => ⟨keys_finiteFields fs ▸ h.1, wellFormed_finiteFields fs h.2⟩

private theorem wellFormed_finiteItems : ∀ xs : List Value,
    AllWellFormed xs → AllWellFormed (finiteItems xs)
  | [], _ => trivial
  | x :: xs, h => ⟨wellFormed_finiteOnly x h.1, wellFormed_finiteItems xs h.2⟩

private theorem wellFormed_finiteFields : ∀ fs : List (String × Value),
    FieldsWellFormed fs → FieldsWellFormed (finiteFields fs)
  | [], _ => trivial
  | (_, x) :: fs, h => ⟨wellFormed_finiteOnly x h.1, wellFormed_finiteFields fs h.2⟩

end

mutual

private theorem isFinite_finiteOnly : ∀ v : Value, v.finiteOnly.isFinite = true
  | null | bool _ | int _ | text _ => rfl
  | float x => by
    rw [finiteOnly]
    split
    · assumption
    · rfl
  | list xs => areFinite_finiteItems xs
  | dict fs => haveFinite_finiteFields fs

private theorem areFinite_finiteItems : ∀ xs : List Value, areFinite (finiteItems xs) = true
  | [] => rfl
  | x :: xs => by
    rw [finiteItems, areFinite, isFinite_finiteOnly x, areFinite_finiteItems xs]
    rfl

private theorem haveFinite_finiteFields : ∀ fs : List (String × Value),
    haveFinite (finiteFields fs) = true
  | [] => rfl
  | (_, x) :: fs => by
    rw [finiteFields, haveFinite, isFinite_finiteOnly x, haveFinite_finiteFields fs]
    rfl

end

/-- All that is lost from a value are its numbers that are not finite. -/
theorem kept_of_wellFormed {v : Value} (h : v.WellFormed) : v.kept = v.finiteOnly :=
  reread_of_wellFormed _ (wellFormed_finiteOnly v h)

/-- What was kept once is kept as it is. -/
theorem kept_kept {v : Value} (h : v.WellFormed) : v.kept.kept = v.kept := by
  rw [kept_of_wellFormed h]
  exact kept_of_isFinite (wellFormed_finiteOnly v h) (isFinite_finiteOnly v)

end Value

namespace Context
variable {c : Context}

theorem settled_of_wellFormed (h : (Value.dict c.data).WellFormed) :
    c.settled = { c with data := Value.finiteFields c.data } := by
  have hdata : Table.ofEntries (Value.keptFields c.data) = Value.finiteFields c.data := by
    have hkept := Value.kept_of_wellFormed h
    rw [Value.kept_dict] at hkept
    exact Value.dict.inj hkept
  rw [settled, hdata]

/-- A sound context without a number of too many digits is read from its own text as it was, and
nothing is reported. Numbers of the data that are not finite come back as null. -/
theorem decode_encode_of_sound (now : String) (hsound : c.Sound)
    (hdata : (Value.dict c.data).WellFormed) (hreadable : c.isReadable = true) :
    decode now c.externalId c.humanId (some c.encode) =
        ({ c with data := Value.finiteFields c.data }, []) ∧
      (Value.haveFinite c.data = true →
        decode now c.externalId c.humanId (some c.encode) = (c, [])) := by
  have hread : decode now c.externalId c.humanId (some c.encode) =
      ({ c with data := Value.finiteFields c.data }, []) := by
    rw [decode_encode, if_pos hreadable, settled_of_wellFormed hdata]
    exact repair_eq_self hsound
  refine ⟨hread, ?_⟩
  intro hfinite
  rw [hread, Value.finiteFields_of_haveFinite c.data hfinite]

/-- An admin in a topic, with data of every kind. -/
def surveyed : Context where
  externalId := -1001
  humanId := 7
  currentFlow := "survey"
  currentStep := 2
  data := [("zoë", .dict [("quote", .text "\"\\\n😀"), ("count", .int (10 ^ 40))]),
    ("rate", .float Binary64.quietNaN), ("list", .list [.null, .bool true, .list []])]
  history := [⟨"survey", 0, "2024-01-01T00:00:00"⟩, ⟨"survey", -1, ""⟩]
  flowMode := true
  inTopic := true
  topicId := some 5
  adminChatId := some (-9)

theorem decode_encode_of_sound_surveyed : surveyed.Sound ∧
    (Value.dict surveyed.data).WellFormed ∧ surveyed.isReadable = true ∧
    decode "now" (-1001) 7 (some surveyed.encode) = ({ surveyed with
      data := [("zoë", .dict [("quote", .text "\"\\\n😀"), ("count", .int (10 ^ 40))]),
        ("rate", .null), ("list", .list [.null, .bool true, .list []])] }, []) := by
  have hsound : surveyed.Sound := ⟨rfl, rfl⟩
  have hdata : (Value.dict surveyed.data).WellFormed :=
    ⟨by decide, ⟨by decide, trivial, trivial, trivial⟩, trivial,
      ⟨trivial, trivial, trivial, trivial⟩, trivial⟩
  have hreadable : surveyed.isReadable = true := by decide +kernel
  have hnan : (Binary64.ofFloat Binary64.quietNaN).isFinite = false := by decide +kernel
  refine ⟨hsound, hdata, hreadable, ?_⟩
  have hread := (decode_encode_of_sound "now" hsound hdata hreadable).1
  simpa [surveyed, Value.finiteFields, Value.finiteOnly, Value.finiteItems, hnan] using hread

end Context

end Dialogue
