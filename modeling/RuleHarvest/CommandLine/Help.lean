/-
# The help text

The help text lists all keywords, each with what it does, the variable of the
environment that can stand for it with the value it has now, and the default.

Key definitions: `helpText`, `versionText`.
-/
import RuleHarvest.CommandLine.Keyword
import RuleHarvest.Rule.PageUrl

namespace RuleHarvest
namespace CommandLine

def Setting.summary : Setting → String
  | .input => "File with one URL per line ('#' starts a comment)"
  | .dataPath => "Output directory (created if absent)"
  | .filename => "Output file base name; `.json` is appended"
  | .concurrency => "Maximum concurrent fetches"
  | .timeoutSecs => "Per-request timeout in seconds"
  | .maxRetries => "Retries per page after a transient failure (0 = fail fast)"
  | .retryBackoffMs => "Delay before the first retry, doubled on each further retry"
  | .userAgent => "User-Agent header sent with every request"

/-- The default as the help text shows it. The name under which the program asks
is not shown. -/
def Setting.shownDefault? : (s : Setting) → Option String
  | .input | .userAgent => none
  | .dataPath => some (Setting.default .dataPath)
  | .filename => some (Setting.default .filename)
  | .concurrency => some (toString (Setting.default .concurrency))
  | .timeoutSecs => some (toString (Setting.default .timeoutSecs))
  | .maxRetries => some (toString (Setting.default .maxRetries))
  | .retryBackoffMs => some (toString (Setting.default .retryBackoffMs))

/-- What a keyword does. -/
def Keyword.summary (environment : Environment) : Keyword → String
  | .parameter .ruleId => "GAO rule identifier (repeatable); expands to " ++ baseUrl ++ "/<id>"
  | .parameter (.setting s) =>
    s.summary ++ " [env: " ++ s.variableName ++ "=" ++ (environment s.variableName).getD "" ++ "]" ++
      (match s.shownDefault? with
      | some d => " [default: " ++ d ++ "]"
      | none => "")
  | .flag .verbose => "Log at debug level"
  | .flag .help => "Print help"
  | .flag .version => "Print version"

/-- The column in which summaries start. -/
def summaryIndent : List Char := List.replicate 10 ' '

/-- A text whose further lines start in the column of summaries. -/
def indented (text : String) : String :=
  String.ofList (text.toList.flatMap fun c => if c = '\n' then '\n' :: summaryIndent else [c])

/-- The lines about a keyword. -/
def Keyword.helpLines (environment : Environment) (k : Keyword) : String :=
  let letter := match k.letter? with
    | some c => "-" ++ String.singleton c ++ ", "
    | none => "    "
  "  " ++ letter ++ k.shown ++ indented ("\n" ++ k.summary environment) ++ "\n"

/-- The help text. -/
def helpText (environment : Environment) : String :=
  "Scrape GAO federal rule pages into a JSON file\n\n" ++
  "Usage: fedrules [OPTIONS] [URLS]...\n\n" ++
  "Arguments:\n" ++
  "  [URLS]...  Rule page URLs. Defaults to three sample rules when no URLs, ids or input file are given\n\n" ++
  "Options:\n" ++
  String.join (Keyword.all.map (·.helpLines environment))

/-- The text that tells the version. -/
def versionText : String := "fedrules " ++ version ++ "\n"

end CommandLine
end RuleHarvest
