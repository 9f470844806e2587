import ShellGuard.Decision.Protocol
import ShellGuard.Report.Style

/-!
Decisions and dialogues as texts for a terminal.
-/

namespace ShellGuard

namespace Education

def render (style : Style) (e : Education) : String :=
  "\n" ++ style.paint e.level.boldPaint e.title ++ "\n" ++ e.description ++ "\n" ++
    "\n" ++ style.bold "Potential consequences:" ++ "\n" ++
    String.join (e.consequences.map fun c => "  • " ++ c ++ "\n") ++
    "\n" ++ style.bold "Safer alternatives:" ++ "\n" ++
    String.join (e.alternatives.map fun a =>
      "  • " ++ a.description ++ "\n    " ++ style.command a.sample ++ "\n")

end Education

namespace Exhibit

def renderSummary (style : Style) (command : String) (a : Assessment) : String :=
  "\n" ++ style.bold "Command:" ++ " " ++ style.command command ++ "\n" ++
    style.bold "Risk:" ++ " " ++ style.badge a.overall ++ "\n" ++
    (if a.requiresRoot then "  " ++ style.warning "Requires root privileges" ++ "\n" else "") ++
    (if a.affectsSystem then "  " ++ style.warning "Affects system directories" ++ "\n" else "") ++
    (if a.isIrreversible then "  " ++ style.error "May be irreversible" ++ "\n" else "") ++
    String.join (a.factors.map fun f =>
      "  " ++ style.risk f.level ("[" ++ f.kind.name ++ "]") ++ " " ++ f.description ++ "\n")

def renderReason (style : Style) (f : Factor) : String :=
  "  • " ++ f.description ++ " (" ++ f.level.name ++ ")\n" ++
    if f.mitigation.isEmpty then "" else "    " ++ style.muted f.mitigation ++ "\n"

def renderHelp (style : Style) (a : Assessment) : String :=
  "\n" ++ style.bold "Options:" ++ "\n" ++
    "  y, yes     run the command\n" ++
    "  n, no      cancel the command\n" ++
    "  m, modify  cancel and show safer suggestions\n" ++
    "  s, safe    run the command and mark it as safe\n" ++
    "  ?, help    show this help\n" ++
    if a.factors.isEmpty then ""
    else
      "\n" ++ style.bold "Why this was flagged:" ++ "\n" ++
        String.join (a.factors.map (renderReason style))

def renderSuggestions (style : Style) (a : Assessment) : String :=
  "\n" ++ style.bold "Suggestions:" ++ "\n" ++
    String.join ((a.factors.filter (!·.mitigation.isEmpty)).map fun f =>
      "  • " ++ f.mitigation ++ "\n") ++
    "\n" ++ style.bold "General tips:" ++ "\n" ++
    String.join (Education.tips.map fun tip => "  • " ++ tip ++ "\n")

/-- An exhibit as a text. -/
def render (style : Style) : Exhibit → String
  | education e => e.render style
  | summary command a => renderSummary style command a
  | help a => renderHelp style a
  | suggestions a => renderSuggestions style a
  | notice message => style.warning message ++ "\n"

end Exhibit

namespace Decision

/-- A decision on one line. -/
def renderLine (style : Style) (d : Decision) : String :=
  style.muted d.time.render ++ " " ++ style.risk d.riskLevel ("[" ++ d.riskLevel.name ++ "]") ++ " " ++
    d.ruling.name ++ (if d.learnedSafe then " (marked safe)" else "") ++ " " ++
    style.command d.command ++ "\n"

/-- Decisions as a text. -/
def renderList (style : Style) (ds : List Decision) : String :=
  if ds.isEmpty then style.muted "No recorded decisions" ++ "\n"
  else String.join (ds.map (renderLine style))

end Decision

namespace DecisionStats

def render (s : DecisionStats) : String :=
  "Total: " ++ toString s.total ++ "\nProceed: " ++ toString s.proceed ++ "\nCancel: " ++
    toString s.cancel ++ "\nModify: " ++ toString s.modify ++ "\nAuto-denied: " ++
    toString s.autoDenied ++ "\nMarked safe: " ++ toString s.learnedSafe ++ "\n"

def json (s : DecisionStats) : Json :=
  .object [("total", .integer s.total), ("proceed", .integer s.proceed),
    ("cancel", .integer s.cancel), ("modify", .integer s.modify),
    ("auto_denied", .integer s.autoDenied), ("learned_safe", .integer s.learnedSafe)]

end DecisionStats

end ShellGuard
