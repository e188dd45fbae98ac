import NodeCall.Batch.Scheduler
import NodeCall.Config
import NodeCall.Text.Quoted

/-!
# HTTP configuration

What an HTTP client sends along and whether it gathers calls into batches.  The text of a
configuration names the extra headers but shows none of their values.
-/

namespace NodeCall

def MethodFilter.text (filter : MethodFilter) : String :=
  "MethodFilter \x7b include: " ++ Text.quotedList filter.included ++ ", exclude: " ++
    Text.quotedList filter.excluded ++ " \x7d"

def TransportConfig.text (config : TransportConfig) : String :=
  "TransportConfig \x7b name: " ++ Text.quoted config.name ++ ", key: " ++ Text.quoted config.key ++
    ", kind: " ++ config.kind.label ++ ", methods: " ++ config.methods.text ++
    ", retry_count: " ++ toString config.retryCount ++ ", retry_delay: " ++ config.retryDelay.text ++
    ", timeout: " ++ config.timeout.text ++ ", raw: " ++ toString config.raw ++ " \x7d"

def Batch.Config.text (config : Batch.Config) : String :=
  "BatchConfig \x7b batch_size: " ++ toString config.batchSize ++ ", wait: " ++ config.wait.text ++
    " \x7d"

namespace Http

structure Config where
  transport : TransportConfig
  batch : Option Batch.Config
  headers : List (String × String)
  onRequest : Bool
  onResponse : Bool
  first : Counter

namespace Config

def standard : Config := ⟨.ofKind .http, none, [], false, false, Counter.one⟩

def text (config : Config) : String :=
  let batch := match config.batch with
    | some batch => "Some(" ++ batch.text ++ ")"
    | none => "None"
  "HttpClientConfig \x7b transport: " ++ config.transport.text ++ ", batch: " ++ batch ++
    ", headers: " ++ Text.quotedList (config.headers.map (·.1)) ++
    ", on_request: " ++ toString config.onRequest ++
    ", on_response: " ++ toString config.onResponse ++ " \x7d"

end Config
end Http
end NodeCall
