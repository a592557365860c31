import Courier.Json.Codec

/-! The well-known kinds of messages, their producers, and the records that they carry. -/

namespace Courier.Payload

open Json

inductive Kind where
  | dataEntities
  | dataSchema
  | inferRequest
  | inferResponse
  | evalRun
  | evalResult
  | traceSpan
  | traceAlert
  | healthPing
  | healthPong
deriving Repr, DecidableEq

namespace Kind

def all : List Kind :=
  [dataEntities, dataSchema, inferRequest, inferResponse, evalRun, evalResult, traceSpan, traceAlert,
    healthPing, healthPong]

def name : Kind → String
  | dataEntities => "data.entities"
  | dataSchema => "data.schema"
  | inferRequest => "infer.request"
  | inferResponse => "infer.response"
  | evalRun => "eval.run"
  | evalResult => "eval.result"
  | traceSpan => "trace.span"
  | traceAlert => "trace.alert"
  | healthPing => "health.ping"
  | healthPong => "health.pong"

end Kind

/-- The well-known producers: data pipeline, inference router, evaluation runner, trace collector. -/
def producers : List String := ["schemaflux", "infermux", "matchspec", "tokentrace"]

abbrev Table (α : Type) := List (String × α)

def optionalText {rest : List Type} (name : String) (more : Members rest) :
    Members (String :: rest) :=
  .optional name .text "" String.isEmpty more

def optionalList {α : Type} {rest : List Type} (name : String) (codec : Codec (List α))
    (more : Members rest) : Members (List α :: rest) :=
  .optional name codec [] List.isEmpty more

structure ChatMessage where
  role : String
  content : String
deriving Repr, DecidableEq

def ChatMessage.codec : Codec ChatMessage :=
  (Codec.record "ChatMessage" (.required "role" .text <| .required "content" .text .nil)).convert
    (fun (role, content, ()) => ⟨role, content⟩) (fun c => (c.role, c.content, ()))

structure InferRequest where
  model : String
  provider : String
  messages : List ChatMessage
  params : Table Value
  notes : Table String

def InferRequest.codec : Codec InferRequest :=
  (Codec.record "InferRequest" (.required "model" .text <| optionalText "provider" <|
    .required "messages" (.list ChatMessage.codec) <| optionalList "params" (.table .value) <|
    optionalList "meta" (.table .text) .nil)).convert
    (fun (model, provider, messages, params, notes, ()) => ⟨model, provider, messages, params, notes⟩)
    (fun r => (r.model, r.provider, r.messages, r.params, r.notes, ()))

structure InferResponse where
  model : String
  provider : String
  content : String
  tokensIn : Int
  tokensOut : Int
  cost : Binary64
  latency : Int
  finishReason : String

def InferResponse.codec : Codec InferResponse :=
  (Codec.record "InferResponse" (.required "model" .text <| .required "provider" .text <|
    .required "content" .text <| .required "tokens_in" .int64 <| .required "tokens_out" .int64 <|
    .required "cost_usd" .double <| .required "latency_ms" .int64 <|
    .required "finish_reason" .text .nil)).convert
    (fun (model, provider, content, tokensIn, tokensOut, cost, latency, finishReason, ()) =>
      ⟨model, provider, content, tokensIn, tokensOut, cost, latency, finishReason⟩)
    (fun r => (r.model, r.provider, r.content, r.tokensIn, r.tokensOut, r.cost, r.latency,
      r.finishReason, ()))

/-- The start of an evaluation. No tasks stand for all of them. -/
structure EvalRun where
  suite : String
  tasks : List String
  baseline : Bool
  inferUrl : String
  tags : Table String
deriving Repr, DecidableEq

def EvalRun.codec : Codec EvalRun :=
  (Codec.record "EvalRun" (.required "suite" .text <| optionalList "tasks" (.list .text) <|
    .required "baseline" .boolean <| optionalText "infer_url" <|
    optionalList "tags" (.table .text) .nil)).convert
    (fun (suite, tasks, baseline, inferUrl, tags, ()) => ⟨suite, tasks, baseline, inferUrl, tags⟩)
    (fun r => (r.suite, r.tasks, r.baseline, r.inferUrl, r.tags, ()))

structure EvalResult where
  suite : String
  task : String
  passed : Bool
  score : Binary64
  baseline : Binary64
  delta : Binary64
  duration : Int
  error : String

def EvalResult.codec : Codec EvalResult :=
  (Codec.record "EvalResult" (.required "suite" .text <| .required "task" .text <|
    .required "passed" .boolean <| .required "score" .double <|
    .required "baseline_score" .double <| .required "delta" .double <|
    .required "duration_ms" .int64 <| optionalText "error" .nil)).convert
    (fun (suite, task, passed, score, baseline, delta, duration, error, ()) =>
      ⟨suite, task, passed, score, baseline, delta, duration, error⟩)
    (fun r => (r.suite, r.task, r.passed, r.score, r.baseline, r.delta, r.duration, r.error, ()))

/-- One span of a trace. A root has no parent. -/
structure TraceSpan where
  traceId : String
  spanId : String
  parentId : String
  operation : String
  start : Int
  finish : Int
  status : String
  attributes : Table Value
deriving Inhabited

def TraceSpan.codec : Codec TraceSpan :=
  (Codec.record "TraceSpan" (.required "trace_id" .text <| .required "span_id" .text <|
    optionalText "parent_id" <| .required "operation" .text <| .required "start_ns" .int64 <|
    .required "end_ns" .int64 <| .required "status" .text <|
    optionalList "attrs" (.table .value) .nil)).convert
    (fun (traceId, spanId, parentId, operation, start, finish, status, attributes, ()) =>
      ⟨traceId, spanId, parentId, operation, start, finish, status, attributes⟩)
    (fun s => (s.traceId, s.spanId, s.parentId, s.operation, s.start, s.finish, s.status,
      s.attributes, ()))

structure TraceAlert where
  level : String
  metric : String
  value : Binary64
  threshold : Binary64
  message : String

def TraceAlert.codec : Codec TraceAlert :=
  (Codec.record "TraceAlert" (.required "level" .text <| .required "metric" .text <|
    .required "value" .double <| .required "threshold" .double <|
    .required "message" .text .nil)).convert
    (fun (level, metric, value, threshold, message, ()) => ⟨level, metric, value, threshold, message⟩)
    (fun a => (a.level, a.metric, a.value, a.threshold, a.message, ()))

/-- A batch of structured entities in a file. -/
structure DataEntities where
  count : Int
  format : String
  path : String
  schema : String
  checksum : String
deriving Repr, DecidableEq

def DataEntities.codec : Codec DataEntities :=
  (Codec.record "DataEntities" (.required "count" .int64 <| .required "format" .text <|
    .required "path" .text <| optionalText "schema" <| optionalText "checksum" .nil)).convert
    (fun (count, format, path, schema, checksum, ()) => ⟨count, format, path, schema, checksum⟩)
    (fun e => (e.count, e.format, e.path, e.schema, e.checksum, ()))

structure SchemaField where
  name : String
  kind : String
  required : Bool
deriving Repr, DecidableEq

def SchemaField.codec : Codec SchemaField :=
  (Codec.record "SchemaField" (.required "name" .text <| .required "type" .text <|
    .required "required" .boolean .nil)).convert
    (fun (name, kind, required, ()) => ⟨name, kind, required⟩)
    (fun f => (f.name, f.kind, f.required, ()))

structure DataSchema where
  name : String
  fields : List SchemaField
deriving Repr, DecidableEq

def DataSchema.codec : Codec DataSchema :=
  (Codec.record "DataSchema" (.required "name" .text <|
    .required "fields" (.list SchemaField.codec) .nil)).convert
    (fun (name, fields, ()) => ⟨name, fields⟩) (fun s => (s.name, s.fields, ()))

structure HealthPing where
  sender : String
deriving Repr, DecidableEq

def HealthPing.codec : Codec HealthPing :=
  (Codec.record "HealthPing" (.required "from" .text .nil)).convert
    (fun (sender, ()) => ⟨sender⟩) (fun p => (p.sender, ()))

structure HealthPong where
  sender : String
  version : String
  uptime : Int
deriving Repr, DecidableEq

def HealthPong.codec : Codec HealthPong :=
  (Codec.record "HealthPong" (.required "from" .text <| .required "version" .text <|
    .required "uptime_s" .int64 .nil)).convert
    (fun (sender, version, uptime, ()) => ⟨sender, version, uptime⟩)
    (fun p => (p.sender, p.version, p.uptime, ()))

def recoded {α : Type} (codec : Codec α) : Codec Bytes :=
  { read := fun depth bytes => (codec.read depth bytes).map fun (a, rest) => (codec.write a, rest)
    write := fun text => text }

def canonical? : String → Option (Codec Bytes)
  | "Value" => some (recoded .value)
  | "InferRequest" => some (recoded InferRequest.codec)
  | "ChatMessage" => some (recoded ChatMessage.codec)
  | "InferResponse" => some (recoded InferResponse.codec)
  | "EvalRun" => some (recoded EvalRun.codec)
  | "EvalResult" => some (recoded EvalResult.codec)
  | "TraceSpan" => some (recoded TraceSpan.codec)
  | "TraceAlert" => some (recoded TraceAlert.codec)
  | "DataEntities" => some (recoded DataEntities.codec)
  | "SchemaField" => some (recoded SchemaField.codec)
  | "DataSchema" => some (recoded DataSchema.codec)
  | "HealthPing" => some (recoded HealthPing.codec)
  | "HealthPong" => some (recoded HealthPong.codec)
  | _ => none

end Courier.Payload
