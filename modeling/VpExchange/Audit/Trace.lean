import VpExchange.Json.Record

set_option autoImplicit false

namespace VpExchange

structure TraceStep where
  id : String
  summary : String
  attributes : Members

namespace TraceStep

def fields := Json.Fields.cons (.required "id" .string) <|
  .cons (.required "summary" .string) <|
  .cons (.required "attributes" .members) .nil

def format : Json.Format TraceStep :=
  (Json.Format.record fields).transport
    (fun (id, summary, attributes, ()) => ⟨id, summary, attributes⟩)
    (fun s => (s.id, s.summary, s.attributes, ()))

def new (id summary : String) : TraceStep := ⟨id, summary, []⟩

def withAttribute (s : TraceStep) (key : String) (value : Json) : TraceStep :=
  { s with attributes := s.attributes.insert key value }

def withAttribute? (s : TraceStep) (key : String) : Option Json → TraceStep
  | none => s
  | some value => s.withAttribute key value

end TraceStep

structure Trace where
  operation : String
  metadata : Members
  steps : List TraceStep

namespace Trace

def fields := Json.Fields.cons (.required "operation" .string) <|
  .cons (.required "metadata" .members) <|
  .cons (.required "steps" (.list TraceStep.format)) .nil

def format : Json.Format Trace :=
  (Json.Format.record fields).transport
    (fun (operation, metadata, steps, ()) => ⟨operation, metadata, steps⟩)
    (fun t => (t.operation, t.metadata, t.steps, ()))

def new (operation : String) : Trace := ⟨operation, [], []⟩

def withMetadata (t : Trace) (key : String) (value : Json) : Trace :=
  { t with metadata := t.metadata.insert key value }

def withStep (t : Trace) (s : TraceStep) : Trace := { t with steps := t.steps ++ [s] }

def step? (t : Trace) (id : String) : Option TraceStep := t.steps.find? (·.id = id)

end Trace

end VpExchange
