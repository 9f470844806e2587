import ShellGuard.Codec.Base64
import ShellGuard.Obfuscation.Escape
import ShellGuard.Obfuscation.Plausible
import ShellGuard.Risk.Level
import ShellGuard.Text.Search

/-!
Ways to hide what a command does.  Each technique looks at the text of a command and, when it
recognises itself, gives what the command may decode to and how sure it is.
-/

namespace ShellGuard

/-- A technique that recognised itself. -/
structure Detection where
  candidate : List Char
  /-- How sure it is, in hundredths. -/
  confidence : Nat
  /-- The level of this hit where it is not that of the technique. -/
  level : Option RiskLevel
deriving Repr, DecidableEq

/-- A way to hide a command. -/
structure Technique where
  name : String
  description : String
  level : RiskLevel
  detect : List Char → Option Detection

namespace Technique

/-- A detection without a level of its own. -/
def plain (candidate : List Char) (confidence : Nat) : Detection :=
  ⟨candidate, confidence, none⟩

/-- An optional quote. -/
def quoteMark : Pattern :=
  .opt (.oneOf "\"'")

/-! ## Base64 -/

/-- The digits of base64. -/
def base64Digit : CharSet :=
  .unions [.range 0x41 0x5a, .range 0x61 0x7a, .range 0x30 0x39, .char '+', .char '/']

/-- `base64` asked to decode. -/
def base64Decode : Pattern :=
  .seqs [.text "base64", .some1 .blank, .alt (.text "-d") (.text "--decode")]

/-- A text printed into `base64`; group 1 is the text. -/
def base64Pipe : Pattern :=
  .seqs [.text "echo", .some1 .blank, quoteMark,
    .group 1 (.some1 (.chars (.union base64Digit (.char '=')))), quoteMark, .many .blank, .char '|',
    .many .blank, base64Decode]

/-- What `base64` decodes goes straight to a shell. -/
def base64ToShell : Pattern :=
  .seqs [base64Decode, .many .blank, .char '|', .many .blank,
    .opt (.seq (.text "sudo") (.some1 .blank)), .alts (["bash", "sh", "zsh"].map .text),
    .wordBoundary]

/-- A long run of digits of base64. -/
def base64Run : Pattern :=
  .seq (.repeat (.chars base64Digit) 20 none true) (.repeat (.char '=') 0 (some 2) true)

/-- The text an encoding hides. -/
def decodeBase64 (cs : List Char) : Option (List Char) :=
  (Base64.decode? cs).bind Utf8.decode?

/-- The command printed into `base64`. -/
def pipedBase64 (command : List Char) : Option (List Char) := do
  let m ← base64Pipe.find command
  let decoded ← decodeBase64 (m.group 1)
  if looksLikeCommand decoded then some decoded else none

/-- Whether some run of digits hides a command. -/
def hidesBase64 (command : List Char) : Bool :=
  (base64Run.allMatches command).any fun m => (decodeBase64 m.text).any looksLikeCommand

def detectBase64 (command : List Char) : Option Detection :=
  match pipedBase64 command with
  | some decoded =>
    some ⟨decoded, 90, if (base64ToShell.find command).isSome then some .critical else none⟩
  | none => if hidesBase64 command then some (plain command 70) else none

/-! ## Escapes -/

/-- Bytes spelled in hexadecimal. -/
def hexEscapes : Pattern :=
  .some1 (.seqs [.text "\\x", .times 2
    (.chars (.unions [.range 0x30 0x39, .range 0x61 0x66, .range 0x41 0x46]))])

/-- Bytes printed by `echo -e`; group 1 is their spelling. -/
def echoHex : Pattern :=
  .seqs [.text "echo", .some1 .blank, .text "-e", .some1 .blank, quoteMark, .group 1 hexEscapes,
    quoteMark]

/-- Bytes between `$'` and `'`; group 1 is their spelling. -/
def quotedHex : Pattern :=
  .seqs [.text "$'", .group 1 hexEscapes, .char '\'']

/-- The command printed by `echo -e`. -/
def echoedHex (command : List Char) : Option (List Char) := do
  let m ← echoHex.find command
  let decoded := Escape.decodeHex (m.group 1)
  if looksLikeCommand decoded then some decoded else none

/-- The command with quoted bytes decoded. -/
def unquotedHex (command : List Char) : Option (List Char) :=
  let decoded := quotedHex.replace (fun m => Escape.decodeHex (m.group 1)) command
  if (quotedHex.find command).isSome && looksLikeCommand decoded then some decoded else none

def detectHex (command : List Char) : Option Detection :=
  match echoedHex command with
  | some decoded => some (plain decoded 90)
  | none => (unquotedHex command).map (plain · 80)

def detectUnicode (command : List Char) : Option Detection :=
  if Escape.hasUnicode command then some (plain (Escape.decodeUnicode command) 70) else none

/-! ## Variables -/

/-- A variable given a single character; groups 1 and 2 are its name and its value. -/
def declaration : Pattern :=
  .seqs [.wordBoundary, .group 1 (.some1 .wordChar), .char '=', quoteMark,
    .group 2 .wordChar, quoteMark, .char ';', .many .blank]

/-- The use of a variable; group 1 is its name. -/
def variableUse : Pattern :=
  .seq (.char '$') (.group 1 (.some1 .wordChar))

/-- The variables a command declares with their values, the last declaration first. -/
def declared (command : List Char) : List (List Char × List Char) :=
  ((declaration.allMatches command).map fun m => (m.group 1, m.group 2)).reverse

/-- The command with the uses of declared variables replaced by their values. -/
def substituteUses (values : List (List Char × List Char)) (command : List Char) : List Char :=
  variableUse.replace (fun m => (values.lookup (m.group 1)).getD m.text) command

/-- The command without the declarations of declared variables. -/
def dropDeclarations (values : List (List Char × List Char)) (command : List Char) : List Char :=
  declaration.replace (fun m => if (values.lookup (m.group 1)).isSome then [] else m.text) command

def detectVariables (command : List Char) : Option Detection :=
  let values := declared command
  let used := (variableUse.allMatches command).any fun m => (values.lookup (m.group 1)).isSome
  if used then
    some (plain (Text.trimmed (dropDeclarations values (substituteUses values command))) 80)
  else none

/-! ## Separators, substitutions and evaluation -/

/-- Expansions that stand for a separator or for nothing, and what they stand for. -/
def separatorTricks : List (String × String) :=
  [("$\x7bIFS\x7d", " "), ("$IFS", " "), ("$\x7bPATH##*:\x7d", ""), ("$\x7b##\x7d", "")]

/-- The command with the tricks in a list replaced one after the other, and whether there were
any. -/
def replaceTricks : List (String × String) → List Char → List Char × Bool
  | [], cs => (cs, false)
  | (trick, plainText) :: rest, cs =>
    if Text.occurs trick.toList cs then
      ((replaceTricks rest (Text.replaceFrom trick.toList plainText.toList 0 cs)).1, true)
    else replaceTricks rest cs

def detectSeparators (command : List Char) : Option Detection :=
  let replaced := replaceTricks separatorTricks command
  if replaced.2 then some (plain replaced.1 70) else none

/-- How many substitutions a command opens; a backtick counts whether it opens or closes. -/
def substitutionCount (command : List Char) : Nat :=
  command.count '`' + (Text.occurrences command ['$', '(']).length

def detectSubstitutions (command : List Char) : Option Detection :=
  let n := substitutionCount command
  if n ≤ 2 then none else some (plain command (min (10 * n) 100))

/-- The evaluation of a text. -/
def evalCall : Pattern :=
  .seqs [.wordBoundary, .text "eval", .some1 .blank]

/-- A script taken from the network and run. -/
def remoteSource : Pattern :=
  .alts [
    .seqs [.text "source", .some1 .blank, .text "<(curl", .some1 .blank],
    .seqs [.text "wget", .some1 .blank, .text "-O", .many .blank, .char '-'],
    .seqs [.text "source", .some1 .blank, .many (.chars (.compl (.char '\n'))), .text "http"]]

def detectEval (command : List Char) : Option Detection :=
  if (evalCall.find command).isSome then some (plain command 90)
  else if (remoteSource.find command).isSome then some (plain command 95)
  else none

end Technique

/-- The techniques; where two are equally sure, the earlier one counts. -/
def techniques : List Technique := [
  ⟨"Base64 Encoding", "Detects base64 encoded commands", .high, Technique.detectBase64⟩,
  ⟨"Hex Encoding", "Detects hex encoded commands", .high, Technique.detectHex⟩,
  ⟨"Unicode Escapes", "Detects unicode escape sequences", .medium, Technique.detectUnicode⟩,
  ⟨"Variable Substitution", "Detects commands assembled from single-character variables", .medium,
    Technique.detectVariables⟩,
  ⟨"Character Substitution", "Detects character substitution like $\x7bIFS\x7d", .medium,
    Technique.detectSeparators⟩,
  ⟨"Command Substitution Abuse", "Detects heavily nested command substitution", .high,
    Technique.detectSubstitutions⟩,
  ⟨"Eval Chains", "Detects eval and remote source execution", .critical, Technique.detectEval⟩]

end ShellGuard
