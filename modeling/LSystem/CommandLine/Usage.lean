import LSystem.Text.Basic

/-! # Usage texts

How the program is used, for a terminal of eighty columns. -/

namespace LSystem.CommandLine

inductive Action where
  | expand
  | trace
  | validate
  deriving DecidableEq, Repr

def programName : String := "param_lsystem.py"

def Action.word : Action → String
  | .expand => "expand"
  | .trace => "trace"
  | .validate => "validate"

/-- The commands, in the order in which they are listed. -/
def Action.all : List Action := [.expand, .trace, .validate]

/-- The name that messages about a command, or about the program as a whole, start with. -/
def speaker : Option Action → String
  | none => programName
  | some action => programName ++ " " ++ action.word

/-- The usage of a command, or of the program as a whole. -/
def usage : Option Action → String
  | none => "usage: param_lsystem.py [-h] \x7bexpand,trace,validate\x7d ...\n"
  | some .expand =>
    "usage: param_lsystem.py expand [-h] [--iterations ITERATIONS]\n" ++
    "                               [--output OUTPUT]\n" ++
    "                               config\n"
  | some .trace => "usage: param_lsystem.py trace [-h] [--iterations ITERATIONS] config\n"
  | some .validate => "usage: param_lsystem.py validate [-h] config\n"

/-- The grammar of commands and configurations, in the help text. -/
def grammarHelp : String :=
  "GRAMMAR\n" ++
  "\n" ++
  "  [                    push (saves consumer state)\n" ++
  "  ]                    pop (restores consumer state)\n" ++
  "  \x7bcontent\x7d(count)     repeat block; content is repeated count times\n" ++
  "  name<a1,a2,...>      atom call; each argument is an expression\n" ++
  "\n" ++
  "  Arguments end at the first '>', so an atom call cannot appear inside the\n" ++
  "  argument list of another call. Characters outside these forms are ignored.\n" ++
  "\n" ++
  "  Expressions use Python syntax (+ - * / % **, comparisons, and/or/not) and\n" ++
  "  may use true, false, pi, e, abs, min, max, round, floor, ceil, sqrt, sin,\n" ++
  "  cos.\n" ++
  "\n" ++
  "INPUT JSON SYNTAX\n" ++
  "\n" ++
  "Top-level keys\n" ++
  "\n" ++
  "  name: string (optional)\n" ++
  "      A human-readable title.\n" ++
  "\n" ++
  "  axiom: string (required)\n" ++
  "      The initial command string.\n" ++
  "\n" ++
  "  iterations: integer >= 0 (default 0)\n" ++
  "      Number of rewrite rounds applied before execution.\n" ++
  "\n" ++
  "  rules: object mapping declaration key -> rule object (optional)\n" ++
  "      Declaration keys look like \"F<x>\" or \"Branch<len,depth>\".\n" ++
  "\n" ++
  "    rule.branches: array of \x7b\"if\": <condition>, \"then\": <template>\x7d\n" ++
  "        Conditions are tried in order with parameters substituted; the first\n" ++
  "        true condition selects its template.\n" ++
  "\n" ++
  "    rule.fallback: string (optional)\n" ++
  "        Template used when no condition holds. Defaults to the declaration\n" ++
  "        key itself, which makes the atom rewrite to itself.\n" ++
  "\n" ++
  "Example\n" ++
  "\n" ++
  "    \x7b\n" ++
  "      \"axiom\": \"Stem<3>\",\n" ++
  "      \"iterations\": 3,\n" ++
  "      \"rules\": \x7b\n" ++
  "        \"F<x>\": \x7b\x7d,\n" ++
  "        \"Stem<n>\": \x7b\n" ++
  "          \"branches\": [\x7b\"if\": \"n <= 0\", \"then\": \"F<1>\"\x7d],\n" ++
  "          \"fallback\": \"\x7bF<1>\x7d(n)[Stem<n-1>]Stem<n-1>\"\n" ++
  "        \x7d\n" ++
  "      \x7d\n" ++
  "    \x7d\n"

def helpBody : Option Action → String
  | none =>
    "Parametric L-system expander and execution tracer.\n" ++
    "\n" ++
    "positional arguments:\n" ++
    "  \x7bexpand,trace,validate\x7d\n" ++
    "    expand              Expand the axiom of a JSON config and print the\n" ++
    "                        result.\n" ++
    "    trace               Expand, then execute and print every consumer event.\n" ++
    "    validate            Validate a JSON config and print a brief summary.\n" ++
    "\n" ++
    "options:\n" ++
    "  -h, --help            show this help message and exit\n" ++
    "\n" ++
    grammarHelp
  | some .expand =>
    "positional arguments:\n" ++
    "  config                Path to the input JSON config.\n" ++
    "\n" ++
    "options:\n" ++
    "  -h, --help            show this help message and exit\n" ++
    "  --iterations ITERATIONS\n" ++
    "                        Override the number of rewrite rounds from the config.\n" ++
    "  --output OUTPUT       Write the expansion here instead of stdout.\n"
  | some .trace =>
    "positional arguments:\n" ++
    "  config                Path to the input JSON config.\n" ++
    "\n" ++
    "options:\n" ++
    "  -h, --help            show this help message and exit\n" ++
    "  --iterations ITERATIONS\n" ++
    "                        Override the number of rewrite rounds from the config.\n"
  | some .validate =>
    "positional arguments:\n" ++
    "  config      Path to the input JSON config.\n" ++
    "\n" ++
    "options:\n" ++
    "  -h, --help  show this help message and exit\n"

/-- The help text of a command, or of the program as a whole. -/
def help (about : Option Action) : String := usage about ++ "\n" ++ helpBody about

end LSystem.CommandLine
