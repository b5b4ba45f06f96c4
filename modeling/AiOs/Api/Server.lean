import AiOs.Api.Framing
import AiOs.Core.Codec

/-! One connection of the local API: a frame is read, decoded and handled, and one frame is
written. The decoder of a payload is a parameter; an identifier is written as its UUID text. -/
namespace AiOs.LocalApi

open Stream

section client
variable (uuidText : Nat → String)

def encodeMethod : ApiMethod → Json
  | .health => tagged "method" "health" []
  | .submit task => tagged "method" "submit" [("task", task.serialize)]
  | .getTask taskId => tagged "method" "get_task" [("task_id", encodeId uuidText taskId)]
  | .events taskId afterSequence limit => tagged "method" "events"
      [("task_id", encodeId uuidText taskId), ("after_sequence", .number afterSequence),
        ("limit", .number limit)]
  | .start taskId => tagged "method" "start" [("task_id", encodeId uuidText taskId)]
  | .succeed taskId => tagged "method" "succeed" [("task_id", encodeId uuidText taskId)]
  | .fail taskId => tagged "method" "fail" [("task_id", encodeId uuidText taskId)]
  | .cancel taskId => tagged "method" "cancel" [("task_id", encodeId uuidText taskId)]

def encodeRequest (request : ApiRequest) : Json :=
  .object [("protocol_version", .number request.protocolVersion),
    ("request", encodeMethod uuidText request.request)]

/-- What `send_request` writes. -/
def requestFrame (request : ApiRequest) (maxFrameBytes : Nat) : Except LocalApiError (List UInt8) :=
  writeFrame (encodeRequest uuidText request).bytes maxFrameBytes

end client

/-- What `serde_json` makes of a payload: the version alone, and the whole request. -/
structure Decoder where
  probe : List UInt8 → Option Nat
  request : List UInt8 → Option ApiRequest

/-- How a connection ends: with a response on the wire, with an error of the server, or with the
process. -/
inductive Served where
  | written (response : ApiResponse) (frame : List UInt8)
  | failed (error : LocalApiError)
  | stopped (stop : Stop)

section server
variable (uuidText : Nat → String)

/-- `write_response`, with the response that it sends. -/
def sendResponse (response : ApiResponse) (maxFrameBytes : Nat) : Served :=
  match writeResponse uuidText response maxFrameBytes with
  | .ok frame => .written (fitResponse uuidText response maxFrameBytes) frame
  | .error error => .failed error

variable {S : Type}

def conclude (maxFrameBytes : Nat) : Except Stop ApiResponse × Process S → Served × Process S
  | (.ok response, after) => (sendResponse uuidText response maxFrameBytes, after)
  | (.error stop, after) => (.stopped stop, after)

variable [EventStore S] (decoder : Decoder) (env : Env)

/-- `serve_stream` behind `read_frame`. -/
def servePayload (payload : List UInt8) (maxFrameBytes : Nat) (p : Process S) :
    Served × Process S :=
  match decoder.probe payload with
  | none => (sendResponse uuidText invalidRequest maxFrameBytes, p)
  | some version =>
    if isSupportedProtocolVersion version then
      match decoder.request payload with
      | none => (sendResponse uuidText invalidRequest maxFrameBytes, p)
      | some request => conclude uuidText maxFrameBytes (handle env request p)
    else
      (sendResponse uuidText
        (apiError .unsupportedProtocolVersion "protocol version is not supported") maxFrameBytes, p)

def serveStream (chunk : Nat → Nat) (reader : Reader) (maxFrameBytes : Nat) (p : Process S) :
    Served × Process S :=
  match (readFrame chunk maxFrameBytes reader).1 with
  | .ok (some payload) => servePayload uuidText decoder env payload maxFrameBytes p
  | .ok none => (.failed .protocol, p)
  | .error .frameTooLarge =>
    (sendResponse uuidText (apiError .frameTooLarge "request frame is too large") maxFrameBytes, p)
  | .error .protocol => (.failed .protocol, p)

end server

end AiOs.LocalApi
