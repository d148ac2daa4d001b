import Dialogue.Telegram.Client
import Mathlib

/-! What a call to the messenger comes to. It is settled by the first reply that gets through, or by
the third one that does not. Only answers of a form that the messenger does not promise make a call
fail in another way than a send fails. -/
namespace Dialogue

namespace Value

/-- Something that stands on the line of numbers; truth values do. -/
def IsPlaced (v : Value) : Prop := ∃ p, v.magnitude? = some p

theorem relateMagnitude_int {r : Ordering → Bool} {v : Value} {p : Magnitude} {n : Int}
    (h : v.magnitude? = some p) :
    v.relateMagnitude r (.int n) = some ((p.compare (.finite n 0)).any r) := by
  rw [relateMagnitude, h]
  rfl

theorem relateMagnitude_eq_none {r : Ordering → Bool} {v w : Value} (h : ¬ v.IsPlaced) :
    v.relateMagnitude r w = none := by
  rw [relateMagnitude]
  cases hv : v.magnitude? with
  | none => rfl
  | some p => exact absurd ⟨p, hv⟩ h

end Value

namespace Telegram

/-- A code of errors that may go away: 429, or 500 and above. -/
def Transient (code : Value) : Prop :=
  ∃ p, code.magnitude? = some p ∧
    (p.compare (.finite 429 0) = some .eq ∨
      ∃ o, p.compare (.finite 500 0) = some o ∧ o ≠ .lt)

theorem transient_int_iff {n : Int} : Transient (.int n) ↔ n = 429 ∨ 500 ≤ n := by
  have hcompare (m : Int) :
      Magnitude.compare (.finite n 0) (.finite m 0) = some (compare n m) := by
    simp [Magnitude.compare]
  simp only [Transient, Value.magnitude?, Option.some.injEq, exists_eq_left', hcompare,
    Int.compare_eq_eq, ne_eq, Int.compare_eq_lt, Int.not_lt]

theorem isTransient_of_isPlaced {code : Value} (h : code.IsPlaced) :
    ∃ retryable, isTransient code = .ok retryable ∧ (retryable = true ↔ Transient code) := by
  obtain ⟨p, hp⟩ := h
  refine ⟨_, by rw [isTransient, Value.relateMagnitude_int hp, Value.relateMagnitude_int hp], ?_⟩
  simp [Transient, hp, Option.any_eq_true]

theorem isTransient_of_not_isPlaced {code : Value} (h : ¬ code.IsPlaced) :
    isTransient code = .error .wrongKind := by
  rw [isTransient, Value.relateMagnitude_eq_none h]

/-- The messenger took the request: no status of an error, and something true as `ok`. -/
def Accepted (status : Int) (fs : List (String × Value)) : Prop :=
  status < 400 ∧ (Value.orNull (Table.value? fs "ok")).truthy = true

/-- The code of a rejection, by default the status. -/
def codeOf (status : Int) (fs : List (String × Value)) : Value :=
  (Table.value? fs "error_code").getD (.int status)

/-- What is said of a rejection. -/
def rejection (method : String) (status : Int) (text : String) (fs : List (String × Value)) :
    String :=
  let quote := Value.text (String.ofList (text.toList.take quoteLimit))
  "Telegram " ++ method ++ " rejected (" ++ (codeOf status fs).display ++ "): "
    ++ ((Table.value? fs "description").getD quote).display

/-- What a call comes to after the reply that settles it, and what is reported. -/
inductive Concludes (method : String) : Reply → Except Fault Value → List Notice → Prop
  | accepted {status : Int} {text : String} {fs : List (String × Value)}
    (hbody : body text = .dict fs) (haccepted : Accepted status fs) :
    Concludes method (.answered status text) (.ok (Value.orNull (Table.value? fs "result"))) []
  | rejected {status : Int} {text : String} {fs : List (String × Value)} {retryable : Bool}
    (hbody : body text = .dict fs) (hrejected : ¬ Accepted status fs)
    (hcode : (codeOf status fs).IsPlaced)
    (hretryable : retryable = true ↔ Transient (codeOf status fs)) :
    Concludes method (.answered status text)
      (.error (.undelivered (rejection method status text fs) "telegram" retryable))
      [.requestRejected]
  /-- The code of the rejection is no number. -/
  | miscoded {status : Int} {text : String} {fs : List (String × Value)}
    (hbody : body text = .dict fs) (hrejected : ¬ Accepted status fs)
    (hcode : ¬ (codeOf status fs).IsPlaced) :
    Concludes method (.answered status text) (.error .wrongKind) [.requestRejected]
  /-- The answer is JSON, but no dictionary. -/
  | formless {status : Int} {text : String} (hbody : ∀ fs, body text ≠ .dict fs) :
    Concludes method (.answered status text) (.error .noParts) []
  | undelivered {text : String} :
    Concludes method (.undelivered text)
      (.error (.undelivered ("Telegram " ++ method ++ " failed: " ++ text) "telegram" true))
      [.requestUndelivered]
  | failed {kind text : String} :
    Concludes method (.failed kind text) (.error (.request kind text)) []

section
variable {method : String} {status : Int} {text : String} {fs : List (String × Value)}

private theorem judge_of_accepted (hbody : body text = .dict fs) (h : Accepted status fs) :
    judge method status text = (.ok (Value.orNull (Table.value? fs "result")), []) := by
  delta judge
  simp [hbody, h.1, h.2]

private theorem judge_of_rejected (hbody : body text = .dict fs) (h : ¬ Accepted status fs) :
    judge method status text =
      (match isTransient (codeOf status fs) with
        | .ok retryable =>
          .error (.undelivered (rejection method status text fs) channelName retryable)
        | .error f => .error f, [.requestRejected]) := by
  have htest : ¬ (status < 400 && (Value.orNull (Table.value? fs "ok")).truthy) = true :=
    fun htest => h (by simpa [Accepted] using htest)
  delta judge
  simp only [hbody, if_neg htest]
  rfl

private theorem judge_of_formless (hbody : ∀ fs, body text ≠ .dict fs) :
    judge method status text = (.error .noParts, []) := by
  delta judge
  cases h : body text with
  | dict fs => exact absurd h (hbody fs)
  | null | bool | int | float | text | list => rfl

end

theorem concludes_judge (method : String) (status : Int) (text : String) :
    Concludes method (.answered status text) (judge method status text).1
      (judge method status text).2 := by
  by_cases hform : ∃ fs, body text = .dict fs
  · obtain ⟨fs, hbody⟩ := hform
    by_cases haccepted : Accepted status fs
    · rw [judge_of_accepted hbody haccepted]
      exact .accepted hbody haccepted
    · rw [judge_of_rejected hbody haccepted]
      by_cases hcode : (codeOf status fs).IsPlaced
      · obtain ⟨retryable, hjudged, hretryable⟩ := isTransient_of_isPlaced hcode
        rw [hjudged]
        exact .rejected hbody haccepted hcode hretryable
      · rw [isTransient_of_not_isPlaced hcode]
        exact .miscoded hbody haccepted hcode
  · have hbody := not_exists.mp hform
    rw [judge_of_formless hbody]
    exact .formless hbody

/-- A reply after which the request may be made again. -/
def Reply.IsLost (x : Reply) : Prop := ∃ text, x = .undelivered text

namespace Wire

/-- What comes of the request after so many others. -/
def reply (w : Wire) (k : Nat) : Reply := w.replies.getD k .success

/-- The wire after a request was made so many times. -/
def sent (w : Wire) (r : Request) (k : Nat) : Wire :=
  { w with replies := w.replies.drop k, requests := w.requests ++ List.replicate k r }

section
variable (w : Wire) (r : Request)

theorem post_eq : w.post r = (w.reply 0, w.sent r 1) := by
  rw [post, reply, List.headD_eq_getD]
  rfl

theorem reply_sent (k i : Nat) : (w.sent r k).reply i = w.reply (k + i) := by
  simp [reply, sent]

theorem sent_sent (k n : Nat) : (w.sent r k).sent r n = w.sent r (k + n) := by
  simp only [sent, List.drop_drop, List.append_assoc, List.replicate_append_replicate]

/-- A request is made until it is not lost, and no more often than it may be. -/
theorem persist_eq (n : Nat) : ∃ k ≤ n, (∀ i < k, (w.reply i).IsLost) ∧
    (k < n → ¬ (w.reply k).IsLost) ∧ w.persist r n = (w.reply k, w.sent r (k + 1)) := by
  induction n generalizing w with
  | zero => exact ⟨0, Nat.le_refl 0, by simp, by simp, post_eq w r⟩
  | succ n ih =>
    cases hfirst : w.reply 0 with
    | undelivered text =>
      obtain ⟨k, hk, hlost, hlast, heq⟩ := ih (w.sent r 1)
      simp only [reply_sent, sent_sent] at hlost hlast heq
      refine ⟨k + 1, by omega, fun i hi => ?_, fun h => ?_, ?_⟩
      · cases i with
        | zero => exact ⟨text, hfirst⟩
        | succ i => simpa [Nat.add_comm] using hlost i (by omega)
      · simpa [Nat.add_comm] using hlast (by omega)
      · simp only [persist, post_eq, hfirst]
        rw [heq, Nat.add_comm 1 k, Nat.add_comm 1 (k + 1)]
    | answered | failed =>
      refine ⟨0, by omega, by simp, fun _ => ?_, ?_⟩
      · rintro ⟨text, h⟩
        rw [hfirst] at h
        cases h
      · simp only [persist, post_eq, hfirst]

private theorem call_of_persist {x : Reply} {u : Wire}
    (h : w.persist r furtherAttempts = (x, u)) : ∃ ns, Concludes r.method x (w.call r).1 ns ∧
      (w.call r).2 = { u with reported := u.reported ++ ns } := by
  rw [call, h]
  cases x with
  | answered status text => exact ⟨_, concludes_judge r.method status text, rfl⟩
  | undelivered text => exact ⟨_, .undelivered, rfl⟩
  | failed kind text => exact ⟨[], .failed, by rw [List.append_nil]⟩

/-- A call makes at most three requests, and none after the first reply that is not lost. What it
comes to is decided by the last reply alone. -/
theorem call_concludes : ∃ k ns, k < 3 ∧ (∀ i < k, (w.reply i).IsLost) ∧
    (k < 2 → ¬ (w.reply k).IsLost) ∧ Concludes r.method (w.reply k) (w.call r).1 ns ∧
    (w.call r).2 =
      { replies := w.replies.drop (k + 1)
        requests := w.requests ++ List.replicate (k + 1) r
        reported := w.reported ++ ns } := by
  obtain ⟨k, hk, hlost, hlast, hpersist⟩ := persist_eq w r furtherAttempts
  obtain ⟨ns, hconcludes, hwire⟩ := call_of_persist w r hpersist
  exact ⟨k, ns, Nat.lt_succ_of_le hk, hlost, hlast, hconcludes, hwire⟩

end

/-- The messenger answers with a list instead of a dictionary. -/
theorem call_fails : ¬ ∀ (w : Wire) (r : Request),
    (∀ x ∈ w.replies, ∀ kind text, x ≠ .failed kind text) →
      (∃ v, (w.call r).1 = .ok v) ∨
        ∃ message retryable, (w.call r).1 = .error (.undelivered message "telegram" retryable) := by
  intro h
  have hbody : ∀ fs, body "[]" ≠ .dict fs := by
    have hlist : body "[]" = .list [] := by cbv
    simp [hlist]
  have hcall : (call { replies := [.answered 200 "[]"] } ⟨"sendMessage", []⟩).1 =
      .error .noParts := by
    simp [call, persist, furtherAttempts, post, judge_of_formless hbody]
  rcases h { replies := [.answered 200 "[]"] } ⟨"sendMessage", []⟩ (by simp) with
    ⟨v, hv⟩ | ⟨message, retryable, hv⟩
  · rw [hcall] at hv
    cases hv
  · rw [hcall] at hv
    cases hv

end Wire

end Telegram

end Dialogue
