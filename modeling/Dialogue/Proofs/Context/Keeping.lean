import Dialogue.Context.Codec
import Dialogue.Proofs.Json.Rereading
import Dialogue.Proofs.Tables

/-! What a context that was written back is when it is read again. The text of a context in which
a whole number is too long cannot be read, and stands for a new context. -/
namespace Dialogue

namespace Value

theorem eq_null_of_isNull {v : Value} (h : v.isNull = true) : v = null := by
  cases v with
  | null => rfl
  | _ => cases h

/-- What remains of a value in a context that is written and read. -/
def kept (v : Value) : Value := v.finiteOnly.reread

def keptFields (fs : Table String Value) : Table String Value := fs.map fun e => (e.1, e.2.kept)

@[simp] theorem kept_null : kept null = null := rfl

@[simp] theorem kept_bool (b : Bool) : kept (bool b) = bool b := rfl

@[simp] theorem kept_int (n : Int) : kept (int n) = int n := rfl

@[simp] theorem kept_text (s : String) : kept (text s) = text s := rfl

private theorem reread_finiteItems (xs : List Value) :
    rereadItems (finiteItems xs) = xs.map kept := by
  induction xs with
  | nil => rfl
  | cons x xs ih => simp [finiteItems, rereadItems, ih, kept]

private theorem reread_finiteFields (fs : Table String Value) :
    rereadFields (finiteFields fs) = keptFields fs := by
  induction fs with
  | nil => rfl
  | cons e fs ih => simp [finiteFields, rereadFields, ih, keptFields, kept]

@[simp] theorem kept_list (xs : List Value) : kept (list xs) = list (xs.map kept) := by
  simp [kept, finiteOnly, reread, reread_finiteItems]

@[simp] theorem kept_dict (fs : Table String Value) :
    kept (dict fs) = dict (Table.ofEntries (keptFields fs)) := by
  simp [kept, finiteOnly, reread, reread_finiteFields]

theorem keys_keptFields (fs : Table String Value) : Table.keys (keptFields fs) = Table.keys fs := by
  simp [keptFields, Table.keys, Function.comp_def]

theorem value?_keptFields (fs : Table String Value) (k : String) :
    Table.value? (keptFields fs) k = (Table.value? fs k).map kept := by
  induction fs with
  | nil => rfl
  | cons e fs ih =>
    obtain ⟨j, v⟩ := e
    change Table.value? ((j, kept v) :: keptFields fs) k = _
    rw [Table.value?_cons, Table.value?_cons, ih]
    split <;> rfl

mutual

private theorem isReadable_finiteOnly : ∀ v : Value, v.finiteOnly.isReadable = v.isReadable
  | null | bool _ | int _ | text _ => rfl
  | float x => by
    rw [finiteOnly]
    split <;> rfl
  | list xs => readable_finiteItems xs
  | dict fs => readable_finiteFields fs

private theorem readable_finiteItems : ∀ xs : List Value,
    readableItems (finiteItems xs) = readableItems xs
  | [] => rfl
  | x :: xs => by
    rw [finiteItems, readableItems, readableItems, isReadable_finiteOnly x, readable_finiteItems xs]

private theorem readable_finiteFields : ∀ fs : List (String × Value),
    readableFields (finiteFields fs) = readableFields fs
  | [] => rfl
  | (k, x) :: fs => by
    rw [finiteFields, readableFields, readableFields, isReadable_finiteOnly x,
      readable_finiteFields fs]

end

mutual

/-- What was read once can be read again. -/
theorem isReadable_reread : ∀ v : Value, v.isReadable = true → v.reread.isReadable = true
  | null | bool _ | text _ => fun _ => rfl
  | int n => fun h => h
  | float x => fun _ => by
    obtain ⟨y, hy⟩ := Json.rereadFloat_eq_float x
    rw [reread, hy]
    rfl
  | list xs => readable_rereadItems xs
  | dict fs => fun h => by
    rw [reread, isReadable, readableFields_iff]
    intro e he
    exact (readableFields_iff _).mp (readable_rereadFields fs h) e (Table.mem_of_mem_ofEntries he)

theorem readable_rereadItems : ∀ xs : List Value,
    readableItems xs = true → readableItems (rereadItems xs) = true
  | [], _ => rfl
  | x :: xs, h => by
    rw [readableItems, Bool.and_eq_true] at h
    rw [rereadItems, readableItems, isReadable_reread x h.1, readable_rereadItems xs h.2]
    rfl

theorem readable_rereadFields : ∀ fs : List (String × Value),
    readableFields fs = true → readableFields (rereadFields fs) = true
  | [], _ => rfl
  | (k, x) :: fs, h => by
    rw [readableFields, Bool.and_eq_true] at h
    rw [rereadFields, readableFields, isReadable_reread x h.1, readable_rereadFields fs h.2]
    rfl

end

theorem isReadable_kept {v : Value} (h : v.isReadable = true) : v.kept.isReadable = true :=
  isReadable_reread _ (by rw [isReadable_finiteOnly, h])

end Value

namespace Context
open Schema

/-- Every whole number in the context can be read. -/
def isReadable (c : Context) : Bool := Value.readableFields c.toFields

/-- The context with the data that remain of its own. -/
def settled (c : Context) : Context :=
  { c with data := Table.ofEntries (Value.keptFields c.data) }

/-- What a context that is written is when it is read. -/
def kept (c : Context) : Context :=
  if c.isReadable then c.settled.repair.1 else fresh c.externalId c.humanId

private theorem kept_ofOption (o : Option Int) :
    (Value.ofOption .int o).kept = Value.ofOption .int o := by
  cases o <;> rfl

private theorem kept_visit (v : Visit) : v.toValue.kept = v.toValue := by
  rw [Visit.toValue, Value.kept_dict, Table.ofEntries_of_nodup]
  · rfl
  · exact (by decide : Visit.fieldNames.Nodup)

private theorem keptFields_toFields (c : Context) :
    Table.ofEntries (Value.keptFields c.toFields) = c.settled.toFields := by
  have hvisits : (c.history.map (·.toValue)).map Value.kept = c.history.map (·.toValue) := by
    simp [Function.comp_def, kept_visit]
  rw [Table.ofEntries_of_nodup]
  · simp only [settled, toFields, Value.keptFields, List.map_cons, List.map_nil, Value.kept_int,
      Value.kept_text, Value.kept_dict, Value.kept_list, hvisits, Value.kept_bool, kept_ofOption]
  · rw [Value.keys_keptFields]
    exact (by decide : fieldNames.Nodup)

private theorem read_visit (now : String) (v : Visit) : Visit.read now v.toValue = .ok v := rfl

private theorem each_visit (now : String) (vs : List Visit) (i : Nat) :
    each (Visit.read now) i (vs.map (·.toValue)) = .ok vs := by
  induction vs generalizing i with
  | nil => rfl
  | cons v vs ih =>
    rw [List.map_cons, each, ih, read_visit]
    rfl

private theorem optional_ofOption (o : Option Int) :
    optional whole (Value.ofOption .int o) = .ok o := by
  cases o <;> rfl

/-- The fields of a context are read as they are. -/
theorem readFields_toFields (now : String) (c : Context) :
    readFields now (.dict c.toFields) = .ok c := by
  have hhistory : fieldOr c.toFields "step_history" [] (list (Visit.read now)) = .ok c.history :=
    congrArg (Checked.under _) (each_visit now c.history 0)
  have htopic : optionalField c.toFields "topic_id" whole = .ok c.topicId :=
    congrArg (Checked.under _) (optional_ofOption c.topicId)
  have hchat : optionalField c.toFields "admin_chat_id" whole = .ok c.adminChatId :=
    congrArg (Checked.under _) (optional_ofOption c.adminChatId)
  have htarget : optionalField c.toFields "target_user_id" whole = .ok c.targetUserId :=
    congrArg (Checked.under _) (optional_ofOption c.targetUserId)
  rw [readFields, record, hhistory, htopic, hchat, htarget]
  rfl

/-- The context under another identity. -/
def identified (c : Context) (externalId humanId : Int) : Context := { c with externalId, humanId }

private theorem put_identity (c : Context) (externalId humanId : Int) :
    Table.put (Table.put c.toFields "external_id" (.int externalId)) "human_id" (.int humanId) =
      (c.identified externalId humanId).toFields := rfl

/-- Reading a context that was written, be it under its own identity or another. -/
theorem decode_encode_as (now : String) (externalId humanId : Int) (c : Context) :
    decode now externalId humanId (some c.encode) =
      if c.isReadable then (c.settled.identified externalId humanId).repair
      else (fresh externalId humanId, [.contextBlobInvalid]) := by
  have hread := Json.read?_write (Value.finiteOnly (.dict c.toFields))
  have hsame : (Value.dict c.toFields).isReadable = c.isReadable := rfl
  have hempty : c.encode.isEmpty = false := Json.isEmpty_write _
  rw [Value.isReadable_finiteOnly, hsame] at hread
  rw [decode]
  simp only [hempty, Bool.false_eq_true, if_false]
  rw [encode, hread]
  by_cases hc : c.isReadable = true
  · have hfields : (Value.dict c.toFields).finiteOnly.reread = .dict c.settled.toFields := by
      rw [← keptFields_toFields]
      exact Value.kept_dict c.toFields
    have hread (d : Context) : read now (.dict d.toFields) = .ok d.repair :=
      congrArg (Checked.map repair) (readFields_toFields now d)
    rw [if_pos hc, if_pos hc, hfields]
    simp only [put_identity, hread]
    rfl
  · rw [if_neg hc, if_neg hc]

theorem decode_encode (now : String) (c : Context) :
    decode now c.externalId c.humanId (some c.encode) =
      if c.isReadable then c.settled.repair
      else (fresh c.externalId c.humanId, [.contextBlobInvalid]) :=
  decode_encode_as now c.externalId c.humanId c

theorem decode_encode_fst (now : String) (c : Context) :
    (decode now c.externalId c.humanId (some c.encode)).1 = c.kept := by
  rw [decode_encode, kept]
  split <;> rfl

end Context

end Dialogue
