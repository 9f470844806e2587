/-!
How the completions of the program are installed, shell by shell.
-/

namespace ShellGuard

/-- The shells that completions are made for. -/
inductive CompletionShell
  | bash
  | elvish
  | fish
  | powershell
  | zsh
deriving Repr, DecidableEq, Inhabited

namespace CompletionShell

/-- The shell that a name stands for exactly. -/
def ofName? : String → Option CompletionShell
  | "bash" => some bash
  | "elvish" => some elvish
  | "fish" => some fish
  | "powershell" => some powershell
  | "zsh" => some zsh
  | _ => none

/-- What to do with the completions of a shell. -/
def instructions : CompletionShell → String
  | bash => "# Add to ~/.bashrc:\neval \"$(cmdguard completions bash)\""
  | zsh =>
    "# Save to a directory in $fpath:\ncmdguard completions zsh > ~/.zsh/completions/_cmdguard"
  | fish =>
    "# Save to fish completions directory:\ncmdguard completions fish > ~/.config/fish/completions/cmdguard.fish"
  | powershell =>
    "# Add to your PowerShell profile:\ncmdguard completions powershell | Out-String | Invoke-Expression"
  | elvish => "# Add to ~/.elvish/rc.elv:\neval (cmdguard completions elvish | slurp)"

end CompletionShell

end ShellGuard
