import DmlReport.Command.Outcome

/-!
# Explaining a code

`triage explain` shows how a code is classified when it is raised as a given
kind of message, what is advised about it, and where to read on.
-/

namespace DmlReport.Command

def explanation (code : String) (kind : Kind) (category : Category) (advice : Advice) : String :=
  let fixes :=
    if advice.fixes.isEmpty then "suggestions: none\n"
    else "suggestions:\n" ++ String.join (advice.fixes.map fun fix => s!"  - {fix}\n")
  let link := (advice.link.map fun url => s!"documentation: {url}\n").getD ""
  s!"{code} ({kind.name}, severity {kind.severity.name})\ncategory: {category.name}\n" ++
    fixes ++ link

def explain (settings : Settings) (options : ExplainOptions) : Outcome :=
  let category := Taxonomy.classify (some options.code) options.kind
  let advice := settings.handbook.advise (some options.code) category none
  .printed (explanation options.code options.kind category advice)

end DmlReport.Command
