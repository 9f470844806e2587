import ShellGuard.Pattern.Match
import ShellGuard.Text.Blank
import ShellGuard.Text.Utf8

/-!
Whether a decoded text is plausibly a command: it begins like one, holds something that commands
hold, or is at least mostly printable.
-/

namespace ShellGuard

/-- Names that commands often begin with. -/
def commonCommands : List String :=
  ["rm", "ls", "cat", "echo", "curl", "wget", "bash", "sh", "python", "perl", "nc", "chmod",
    "chown"]

/-- An operator or a well-known option with blanks around it. -/
def spacedOperator : Pattern :=
  .seqs [.blank,
    .alts (["-rf", "-la", "-al", "&&", "||", ";", ">", "<", "|"].map .text),
    .blank]

/-- The name of a script. -/
def scriptName : Pattern :=
  .seq (.alts ([".sh", ".py", ".pl", ".rb"].map .text)) (.alt .blank (.look .textEnd))

/-- Control characters. -/
def isControl (c : Char) : Bool :=
  c.toNat < 0x20 || (0x7f ≤ c.toNat && c.toNat < 0xa0)

/-- Whether more than four fifths of a text are printable. -/
def mostlyPrintable (cs : List Char) : Bool :=
  4 * cs.length < 5 * (cs.filter fun c => !isControl c).length

/-- Whether a text is plausibly a command. -/
def looksLikeCommand (cs : List Char) : Bool :=
  let text := Text.trimmed cs
  2 ≤ Utf8.size text &&
    (commonCommands.any (·.toList.isPrefixOf text) || (spacedOperator.find text).isSome ||
      (scriptName.find text).isSome || mostlyPrintable text)

end ShellGuard
