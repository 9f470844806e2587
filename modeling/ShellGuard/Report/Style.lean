import ShellGuard.Risk.Level
import ShellGuard.Text.Search

/-!
Colours in texts for a terminal.  A painted text starts with a control sequence and ends with the one
that switches all paint off; where that one stands inside, the paint is switched on again.
-/

namespace ShellGuard

/-- How a text can be painted. -/
inductive Paint
  | green
  | red
  | yellow
  | blue
  | brightWhite
  | gray
  | bold
  | boldGreen
  | boldYellow
  | boldRed
  | boldBrightRed
deriving Repr, DecidableEq

namespace Paint

/-- The codes of a paint. -/
def codes : Paint → String
  | green => "32"
  | red => "31"
  | yellow => "33"
  | blue => "34"
  | brightWhite => "97"
  | gray => "90"
  | bold => "1"
  | boldGreen => "1;32"
  | boldYellow => "1;33"
  | boldRed => "1;31"
  | boldBrightRed => "1;91"

/-- The control sequence that switches a paint on. -/
def start (p : Paint) : String :=
  "\x1b[" ++ p.codes ++ "m"

/-- The control sequence that switches all paint off. -/
def stop : String := "\x1b[0m"

end Paint

/-- Whether texts are painted. -/
structure Style where
  color : Bool
deriving Repr, DecidableEq

namespace Style

/-- A text in a paint. -/
def paint (style : Style) (p : Paint) (s : String) : String :=
  if style.color then p.start ++ Text.replace s Paint.stop (Paint.stop ++ p.start) ++ Paint.stop
  else s

def bold (style : Style) (s : String) : String := style.paint .bold s

def success (style : Style) (s : String) : String := style.paint .green s

def error (style : Style) (s : String) : String := style.paint .red s

def warning (style : Style) (s : String) : String := style.paint .yellow s

/-- A text of a command. -/
def command (style : Style) (s : String) : String := style.paint .brightWhite s

/-- A text of less weight. -/
def muted (style : Style) (s : String) : String := style.paint .gray s

end Style

/-- The paint of a risk level. -/
def RiskLevel.paint : RiskLevel → Paint
  | .low => .green
  | .medium => .yellow
  | .high => .red
  | .critical => .boldBrightRed

/-- The bold paint of a risk level. -/
def RiskLevel.boldPaint : RiskLevel → Paint
  | .low => .boldGreen
  | .medium => .boldYellow
  | .high => .boldRed
  | .critical => .boldBrightRed

/-- The paint of a severity. -/
def Severity.paint : Severity → Paint
  | .error => .red
  | .warning => .yellow
  | .info => .blue

/-- A level in capitals. -/
def RiskLevel.label : RiskLevel → String
  | .low => "LOW"
  | .medium => "MEDIUM"
  | .high => "HIGH"
  | .critical => "CRITICAL"

/-- A sign for a level. -/
def RiskLevel.sign : RiskLevel → String
  | .low => "🟢"
  | .medium => "🟡"
  | .high => "🟠"
  | .critical => "🔴"

namespace Style

def risk (style : Style) (level : RiskLevel) (s : String) : String := style.paint level.paint s

def severity (style : Style) (level : Severity) (s : String) : String := style.paint level.paint s

/-- A level with its sign. -/
def badge (style : Style) (level : RiskLevel) : String :=
  level.sign ++ " " ++ style.risk level level.label

/-- A line that reports success. -/
def successLine (style : Style) (message : String) : String :=
  style.success "✓" ++ " " ++ message ++ "\n"

/-- A line that reports failure. -/
def errorLine (style : Style) (message : String) : String :=
  style.error "✗" ++ " " ++ message ++ "\n"

/-- A line that warns. -/
def warningLine (style : Style) (message : String) : String :=
  style.warning "⚠" ++ " " ++ message ++ "\n"

end Style

end ShellGuard
