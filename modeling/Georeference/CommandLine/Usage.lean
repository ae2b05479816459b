/-
**Help.**

The help lists the argument and the options, each with what it stands for. Options that may come
from the environment show what stands there.

* `usage`: the help.

Asking for help ends a run before anything else is read but the environment, and it is no failure.
-/

import Georeference.Environment

namespace Georeference.CommandLine

/-- How a variable of the environment is shown. -/
def variableHint (environment : Environment) (name : String) : String :=
  "[env: " ++ name ++ "=" ++ (environment.lookup name).getD "" ++ "]"

def usage (environment : Environment) : String :=
  "\n".intercalate
    ["Resolve SRS headers of GCP and coordinates files",
      "",
      "Usage: srs-inspect [OPTIONS] [HEADER]",
      "",
      "Arguments:",
      "  [HEADER]  SRS header to parse (reads one header per stdin line when omitted)",
      "",
      "Options:",
      "      --gcp-file <GCP_FILE>    GCP file whose header and points should be read",
      "      --registry <REGISTRY>    YAML file with extra EPSG definitions " ++
        variableHint environment "SRS_REGISTRY",
      "      --format <FORMAT>        Output format [default: text] [possible values: text, json]",
      "      --log-level <LOG_LEVEL>  Log level " ++ variableHint environment "LOG_LEVEL" ++
        " [default: info]",
      "      --json-logs              Emit logs as JSON",
      "  -h, --help                   Print help",
      ""]

end Georeference.CommandLine
