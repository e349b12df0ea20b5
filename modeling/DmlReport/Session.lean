import DmlReport.Export
import DmlReport.Gate

/-!
# Sessions at a gate

Whoever holds a gate may do a few things to it, in any order and any number of
times.  Five operations change the gate; the others only look at the collection
of an open one.  Each gives an answer.
-/

namespace DmlReport.Gate

/-- What can be done to a gate. -/
inductive Operation where
  | enable
  | disable
  | log (d : Diagnostic)
  | setContext (context : Context)
  | clear
  | summary
  | findings
  | context
  | render (l : Layout)

/-- What an operation gives.  A question to a shut gate gives `none`. -/
inductive Answer where
  | done
  | handedOver (c : Option Collection)
  | summary (s : Option Summary)
  | findings (fs : Option (List Finding))
  | context (c : Option Context)
  | text (s : Option (Except ExportError String))

/-- Does one thing to a gate. -/
def perform (g : Gate) : Operation → Gate × Answer
  | .enable => (g.enable, .done)
  | .disable => (g.disable.1, .handedOver g.disable.2)
  | .log d => (g.log d, .done)
  | .setContext context => (g.setContext context, .done)
  | .clear => (g.clear, .done)
  | .summary => (g, .summary (g.active.map Summary.ofCollection))
  | .findings => (g, .findings (g.active.map (·.findings)))
  | .context => (g, .context (g.active.map (·.context)))
  | .render l => (g, .text (g.active.map l.serialize))

/-- Does several things to a gate; gives the answers in order. -/
def run (g : Gate) : List Operation → Gate × List Answer
  | [] => (g, [])
  | op :: rest =>
    let (next, answer) := g.perform op
    let (last, answers) := next.run rest
    (last, answer :: answers)

end DmlReport.Gate
