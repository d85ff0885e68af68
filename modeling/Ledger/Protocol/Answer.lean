import Ledger.Json.Scan
import Ledger.Protocol.Pure

/-!
The answer to one input line: a JSON object naming an operation by its exact member `op`,
answered by one JSON object. `null` is the empty object; other text that is not a JSON object
is refused as unreadable input.
-/

namespace Ledger

namespace Protocol

/-- The answer to a decoded input object whose operation name reads as text. -/
def answerOp (input : Json) : String → Json
  | "session" => runSession input
  | "parse_amount" => parseAmount input
  | "validate_amount" => validateAmount input
  | "signed_delta" => signedDeltaAnswer input
  | "validate_line" => validateLine input
  | "validate_balance" => validateBalance input
  | "trial_balance_columns" => trialColumnsAnswer input
  | "account_type" => accountTypeAnswer input
  | "encode_token" => encodeToken input
  | "decode_token" => decodeToken input
  | "cursor_after" => cursorAfterAnswer input
  | "clamp_limit" => clampLimitAnswer input
  | "validate_struct" => validateStruct input
  | "classify_error" => classifyAnswer input
  | "app_error" => appFailureAnswer input
  | "storage_error" => storageAnswer input
  | "load_config" => loadConfigAnswer input
  | op => decodeErrorJson ("unknown op " ++ op)

/-- The answer to a decoded input object; an operation name that is not text is refused. -/
def answerJson (input : Json) : Json :=
  match textAt input "op" with
  | .ok op => answerOp input op
  | .error _ => decodeErrorJson "op"

/-- The answer to one input line, as text. -/
def answer (line : String) : String :=
  match Json.parse line with
  | some input@(.object _ _) => (answerJson input).render
  | some .null => (answerJson (.obj [])).render
  | _ => (decodeErrorJson "input").render

end Protocol

end Ledger
