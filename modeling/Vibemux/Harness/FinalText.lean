import Vibemux.Harness.ProtocolSession

/-!
# The final assistant text

The classifier of Claude's stream records, and the message in which a completed turn ends, found in the
captured records by a scan of its own.
-/

namespace Vibemux

open Json

def classifyClaudeResult (value : Json) : ObservationKind :=
  -- Nested agent results cannot terminate the root request.
  if value.get "parent_tool_use_id" ∉ [none, some null] then .opaqueRecord
  else if value.getStr "terminal_reason" ∈ [some "aborted_streaming", some "aborted_tools"] then
    .cancelled
  else if value.getStr "terminal_reason" = some "max_turns" then .failed
  else if value.get "is_error" = some (.bool true) then .failed
  else if value.getStr "subtype" = some "success" then
    if value.get "is_error" ∈ [none, some null, some (.bool false)] ∧
        value.get "terminal_reason" ∈ [none, some null, some (.str "completed")] then .completed
    else .opaqueRecord
  else if value.getStr "subtype" ∈ [some "error_during_execution", some "error_max_turns"] then .failed
  else .opaqueRecord

def classifyClaudeStream (event : Json) : ObservationKind :=
  match event.getStr "type" with
  | some "content_block_delta" =>
    match event.pointerStr ["delta", "type"] with
    | some "text_delta" => .text
    | some "input_json_delta" => .tool
    | _ => .opaqueRecord
  | some "content_block_start" =>
    if event.pointerStr ["content_block", "type"] = some "tool_use" then .tool else .opaqueRecord
  | some "message_delta" => if (event.get "usage").any isObject then .usage else .opaqueRecord
  -- message_stop and content_block_stop do not end the request.
  | _ => .opaqueRecord

/-- The classifier of Claude's records. -/
def classifyClaude (value : Json) : ObservationKind :=
  match value.getStr "type" with
  | some "system" => if value.getStr "subtype" = some "init" then .started else .opaqueRecord
  | some "result" => classifyClaudeResult value
  | some "control_request" =>
    if value.pointerStr ["request", "subtype"] = some "can_use_tool" then .approval else .opaqueRecord
  | some "assistant" | some "user" =>
    match value.pointer ["message", "content"] with
    | some (.arr content) =>
      if content.any fun block => block.getStr "type" ∈ [some "tool_use", some "tool_result"] then .tool
      else if value.getStr "type" = some "assistant" ∧
          content.any fun block => block.getStr "type" = some "text" then .text
      else .opaqueRecord
    | _ => .opaqueRecord
  | some "stream_event" => classifyClaudeStream ((value.get "event").getD null)
  | _ => .opaqueRecord

/-- The final assistant message, if the protocol reports one. -/
def finalAssistantText (protocol : NativeProtocol) (records : List Json) : Option String :=
  match protocol with
  -- The terminal `result` record carries the final message text.
  | .claudeStreamJson =>
    (records.reverse.filter fun value =>
      value.getStr "type" = some "result" ∧ value.getStr "subtype" = some "success").findSome?
        fun value => value.getStr "result"
  -- The last completed agent message item.
  | .codexExec =>
    (records.reverse.filter fun value => value.getStr "type" = some "item.completed" ∧
      value.pointerStr ["item", "type"] = some "agent_message").findSome?
        fun value => value.pointerStr ["item", "text"]
  | .codexAppServer | .acp | .dshSdkJsonRpc => none

end Vibemux
