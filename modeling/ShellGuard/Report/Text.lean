import ShellGuard.Report.Style
import ShellGuard.Verdict

/-!
Reports as texts for a terminal.
-/

namespace ShellGuard

def Finding.render (style : Style) (f : Finding) : String :=
  "  " ++ style.severity f.severity ("[" ++ f.severity.name ++ "]") ++ " " ++ f.message ++
    (match f.rule with
     | some rule => " " ++ style.muted ("(" ++ rule ++ ")")
     | none => "") ++
    (match f.position with
     | some p => " " ++ style.muted ("at " ++ p.text)
     | none => "") ++
    "\n" ++
    match f.suggestion with
    | some s => "      " ++ style.muted s ++ "\n"
    | none => ""

/-- Lines under a title, nothing when there are none. -/
def Style.titled (style : Style) (title : String) (lines : List String) : String :=
  if lines.isEmpty then "" else "\n" ++ style.bold title ++ "\n" ++ String.join lines

namespace Verdict

def renderObfuscation (style : Style) (v : Verdict) : String :=
  match v.obfuscation with
  | some o =>
    if o.isObfuscated then
      "\n" ++ style.bold "Obfuscation:" ++ " " ++ Text.join ", " o.techniques ++ " (" ++
        toString o.confidence ++ "% confidence)\n" ++
        "  decodes to: " ++ style.command o.deobfuscated ++ "\n"
    else ""
  | none => ""

def renderFactor (style : Style) (f : Factor) : String :=
  "  " ++ style.risk f.level ("[" ++ f.kind.name ++ "]") ++ " " ++ f.description ++ "\n"

def renderSuggestion (style : Style) (s : Suggestion) : String :=
  "  • " ++ s.message ++ "\n    " ++ style.command s.alternative ++ "\n"

/-- A verdict as a text. -/
def render (style : Style) (v : Verdict) : String :=
  let status := if v.valid then style.success "valid" else style.error "invalid"
  style.bold "Command:" ++ " " ++ style.command v.command ++ " (" ++ v.shell.name ++ ", " ++
    status ++ ")\n" ++
    style.bold "Risk:" ++ " " ++ style.badge v.assessment.overall ++ "\n" ++
    style.titled "Errors:" (v.errors.map (·.render style)) ++
    style.titled "Warnings:" (v.warnings.map (·.render style)) ++
    v.renderObfuscation style ++
    style.titled "Risk factors:" (v.assessment.factors.map (renderFactor style)) ++
    style.titled "Suggestions:" (v.suggestions.map (renderSuggestion style)) ++
    String.join (v.notes.map fun note => "\n" ++ style.muted note ++ "\n")

end Verdict

namespace CustomRule

/-- A rule in a list. -/
def renderLine (style : Style) (r : CustomRule) : String :=
  (if r.enabled then style.success "on " else style.muted "off") ++ " " ++ style.bold r.name ++ " " ++
    style.risk r.level ("[" ++ r.level.name ++ "]") ++ " " ++ r.description ++ "\n" ++
    "    " ++ style.muted r.pattern ++ "\n"

/-- A list of rules as a text. -/
def renderList (style : Style) (rules : List CustomRule) : String :=
  if rules.isEmpty then style.muted "No custom rules" ++ "\n"
  else String.join (rules.map (renderLine style))

/-- A line with a title, nothing when there is no text. -/
def renderField (style : Style) (title s : String) : String :=
  if s.isEmpty then "" else style.bold title ++ " " ++ s ++ "\n"

/-- A rule as a text. -/
def render (style : Style) (r : CustomRule) : String :=
  style.bold "Name:" ++ " " ++ r.name ++ "\n" ++
    renderField style "Description:" r.description ++
    style.bold "Pattern:" ++ " " ++ r.pattern ++ "\n" ++
    style.bold "Risk:" ++ " " ++ style.badge r.level ++ "\n" ++
    renderField style "Message:" r.message ++
    renderField style "Suggest:" r.suggest ++
    style.bold "Enabled:" ++ " " ++ (if r.enabled then "true" else "false") ++ "\n" ++
    if r.tags.isEmpty then "" else style.bold "Tags:" ++ " " ++ Text.join ", " r.tags ++ "\n"

end CustomRule

end ShellGuard
