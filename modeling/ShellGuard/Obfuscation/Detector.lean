import ShellGuard.Number.Binary64
import ShellGuard.Obfuscation.Technique

/-!
What all techniques together say about a command.
-/

namespace ShellGuard

/-- What is known about the hiding of a command. -/
structure Obfuscation where
  isObfuscated : Bool
  /-- In hundredths. -/
  confidence : Nat
  techniques : List String
  /-- What the command may decode to, the command itself when nothing was found. -/
  deobfuscated : String
  riskLevel : RiskLevel
  explanation : String
deriving Repr, DecidableEq

namespace Obfuscation

/-- A detection counts only above this confidence. -/
def floor : Nat := 50

/-- What is known before any technique has been tried. -/
def clean (command : String) : Obfuscation :=
  ⟨false, 0, [], command, .low, ""⟩

/-- A technique together with what it detected. -/
structure Hit where
  technique : Technique
  detection : Detection

/-- The level of a hit. -/
def Hit.level (h : Hit) : RiskLevel :=
  h.detection.level.getD h.technique.level

/-- The techniques that recognise themselves in a command, however sure they are. -/
def hits (command : String) : List Hit :=
  ShellGuard.techniques.filterMap fun t => (t.detect command.toList).map (Hit.mk t)

/-- Take one hit into account.  A hit that is no surer than those before leaves their candidate. -/
def add (o : Obfuscation) (h : Hit) : Obfuscation :=
  let surer := o.confidence < h.detection.confidence
  { o with
    isObfuscated := true
    confidence := if surer then h.detection.confidence else o.confidence
    techniques := o.techniques ++ [h.technique.name]
    deobfuscated := if surer then String.ofList h.detection.candidate else o.deobfuscated
    riskLevel := o.riskLevel.join h.level }

/-- Numbered lines. -/
def numbered (i : Nat) : List String → String
  | [] => ""
  | s :: rest => toString i ++ ". " ++ s ++ "\n" ++ numbered (i + 1) rest

/-- What was found, in words. -/
def explain (o : Obfuscation) : String :=
  "This command appears to be obfuscated using " ++ toString o.techniques.length ++
    " technique(s):\n" ++ numbered 1 o.techniques ++
    "\nConfidence: " ++ toString o.confidence ++ "%\n" ++
    "Risk Level: " ++ o.riskLevel.name ++ "\n" ++
    (if o.deobfuscated.isEmpty then ""
     else "\nDeobfuscated command:\n" ++ o.deobfuscated ++ "\n") ++
    "\nObfuscated commands are often used to hide malicious intent."

/-- What some hits together say. -/
def ofHits (command : String) (hs : List Hit) : Obfuscation :=
  let found := (hs.filter (floor < ·.detection.confidence)).foldl add (clean command)
  if found.isObfuscated then { found with explanation := found.explain } else found

/-- What is known about the hiding of a command. -/
def detect (command : String) : Obfuscation :=
  ofHits command (hits command)

/-- Whether the command decodes to something else than itself. -/
def hasCandidate (o : Obfuscation) (command : String) : Bool :=
  o.isObfuscated && Text.trim o.deobfuscated != Text.trim command

/-- Whether the confidence reaches a threshold. -/
def reaches (o : Obfuscation) (threshold : Binary64) : Bool :=
  threshold.le (.ofPercent o.confidence)

/-- Whether a command is obfuscated with at least the confidence of a threshold. -/
def exceeds (threshold : Binary64) (command : String) : Bool :=
  let o := detect command
  o.isObfuscated && o.reaches threshold

end Obfuscation

end ShellGuard
