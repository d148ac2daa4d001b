import Dialogue.Json.Reader
import Dialogue.Telegram.Request

/-! Calls to the messenger. A request that does not get through is tried again, at most three
times in all; what the messenger answers is final. -/
namespace Dialogue.Telegram

/-- What comes of a request. -/
inductive Reply where
  | answered (status : Int) (text : String)
  /-- The request did not get through and may be tried again. -/
  | undelivered (text : String)
  /-- The request failed for good. -/
  | failed (kind : String) (text : String)
  deriving Repr, DecidableEq

/-- The replies to come, the requests made, and what was reported. When there are no replies
left, every request succeeds. -/
structure Wire where
  replies : List Reply := []
  requests : List Request := []
  reported : List Notice := []

def Reply.success : Reply := .answered 200 "\x7b\"ok\":true,\"result\":\x7b\"message_id\":1\x7d\x7d"

/-- The failures of the connection, after which a request may be tried again. -/
def connectionFailures : List String :=
  ["ConnectError", "ConnectTimeout", "ReadError", "ReadTimeout", "WriteError", "WriteTimeout",
   "PoolTimeout", "CloseError", "LocalProtocolError", "RemoteProtocolError", "ProxyError",
   "UnsupportedProtocol"]

/-- What comes of a request that failed in a way with a name. -/
def Reply.ofFailure (kind text : String) : Reply :=
  if kind ∈ connectionFailures then .undelivered text else .failed kind text

namespace Wire

/-- Makes one request. -/
def post (w : Wire) (r : Request) : Reply × Wire :=
  (w.replies.headD .success, { w with replies := w.replies.drop 1, requests := w.requests ++ [r] })

/-- Makes a request until it gets through, with so many further attempts. -/
def persist (w : Wire) (r : Request) : Nat → Reply × Wire
  | 0 => w.post r
  | n + 1 => match w.post r with
    | (.undelivered _, w) => persist w r n
    | other => other

end Wire

/-- The name under which the messenger reports its faults. -/
def channelName : String := "telegram"

/-- A text that is no JSON says nothing. -/
def body (text : String) : Value :=
  let cs := text.toList
  let plain := if cs.head? == some '\uFEFF' then cs.drop 1 else cs
  (Json.read? (String.ofList plain)).getD (.dict [])

/-- Too many requests and errors on the other side may go away. -/
def isTransient (code : Value) : Except Fault Bool :=
  match code.relateMagnitude (· == .eq) (.int 429), code.relateMagnitude (· != .lt) (.int 500) with
  | some a, some b => .ok (a || b)
  | _, _ => .error .wrongKind

/-- The most characters of an answer that are quoted. -/
def quoteLimit : Nat := 500

/-- The result that an answer holds, or why the request was rejected. -/
def judge (method : String) (status : Int) (text : String) : Except Fault Value × List Notice :=
  match body text with
  | .dict fs =>
    let field := fun k => Table.value? fs k
    if status < 400 && (Value.orNull (field "ok")).truthy then
      (.ok (Value.orNull (field "result")), [])
    else
      let code := (field "error_code").getD (.int status)
      let quote := Value.text (String.ofList (text.toList.take quoteLimit))
      let description := (field "description").getD quote
      let rejected :=
        "Telegram " ++ method ++ " rejected (" ++ code.display ++ "): " ++ description.display
      (match isTransient code with
        | .ok retryable => .error (.undelivered rejected channelName retryable)
        | .error f => .error f, [.requestRejected])
  | _ => (.error .noParts, [])

/-- How often a request is tried again. -/
def furtherAttempts : Nat := 2

/-- Calls a method of the messenger. -/
def Wire.call (w : Wire) (r : Request) : Except Fault Value × Wire :=
  match w.persist r furtherAttempts with
  | (.answered status text, w) =>
    let (result, ns) := judge r.method status text
    (result, { w with reported := w.reported ++ ns })
  | (.undelivered text, w) =>
    (.error (.undelivered ("Telegram " ++ r.method ++ " failed: " ++ text) channelName true),
      { w with reported := w.reported ++ [.requestUndelivered] })
  | (.failed kind text, w) => (.error (.request kind text), w)

/-- The id in the answer to a request for a topic. -/
def topicId (result : Value) : Except Fault Int := do (← result.need "message_thread_id").toInt

end Dialogue.Telegram
