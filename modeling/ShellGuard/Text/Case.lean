import ShellGuard.Unicode.Lowercase

/-!
Case of texts.
-/

namespace ShellGuard.Text

/-- The text in lower case. -/
def lower (s : String) : String :=
  String.ofList (Unicode.lowerFrom [] s.toList)

end ShellGuard.Text
