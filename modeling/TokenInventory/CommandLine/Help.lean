/-!
# Help

What is shown to somebody who asks for help or whose command line is not well-formed.
-/

namespace TokenInventory.CommandLine

/-- How the program is called. -/
def helpText : String :=
  "Find tokens by criteria and clean them up in bulk\n\n" ++
  "Usage: token-janitor [OPTIONS] <COMMAND>\n\n" ++
  "Commands:\n" ++
  "  find          Select tokens and apply an action to them\n" ++
  "  updatetokens  Update existing tokens from a YAML export\n" ++
  "  loadtokens    Import tokens from a PSKC key container\n" ++
  "  help          Print this message\n\n" ++
  "Options:\n" ++
  "      --config <CONFIG>        Path to a JSON configuration file\n" ++
  "      --store <STORE>          Path to the token store\n" ++
  "      --log-level <LOG_LEVEL>  Log filter\n" ++
  "  -h, --help                   Print help\n" ++
  "  -V, --version                Print version\n"

end TokenInventory.CommandLine
