/-!
# Parameters of the commands

What can be given to a command, by name or by position, on the command line or in the environment.
-/
namespace Lapse.CommandLine

inductive Parameter
  | files | config | openers | tags | template | dateLayout | caseInsensitive | strict | noRecursive
  | excludes | noIgnoreFiles | format | output | logLevel | verbose
  | path | force | help
  deriving DecidableEq, Repr

/-- How a parameter is given. -/
inductive Arity
  /-- It stands without a value. -/
  | flag
  /-- It has one value and is given once. -/
  | single
  /-- It has values, with commas between them, and may be given again. -/
  | many
  deriving DecidableEq, Repr

namespace Parameter

def arity : Parameter → Arity
  | files | openers | tags | excludes => .many
  | config | template | dateLayout | format | output | logLevel | path => .single
  | caseInsensitive | strict | noRecursive | noIgnoreFiles | verbose | force | help => .flag

/-- The name after two dashes; none for what is given by position. -/
def longName : Parameter → Option String
  | files | path => none
  | config => some "config"
  | openers => some "comment-prefix"
  | tags => some "tag"
  | template => some "expiry-pattern"
  | dateLayout => some "date-layout"
  | caseInsensitive => some "case-insensitive"
  | strict => some "strict"
  | noRecursive => some "no-recursive"
  | excludes => some "exclude"
  | noIgnoreFiles => some "no-gitignore"
  | format => some "format"
  | output => some "output"
  | logLevel => some "log-level"
  | verbose => some "verbose"
  | force => some "force"
  | help => some "help"

/-- The letter after one dash. -/
def shortName : Parameter → Option Char
  | config => some 'c'
  | tags => some 't'
  | excludes => some 'e'
  | format => some 'f'
  | output => some 'o'
  | verbose => some 'v'
  | help => some 'h'
  | _ => none

/-- The environment variable that stands in for a parameter. -/
def environmentName : Parameter → Option String
  | files => some "OVERDUE_FILES"
  | config => some "OVERDUE_CONFIG"
  | openers => some "OVERDUE_COMMENT_PREFIXES"
  | tags => some "OVERDUE_TAGS"
  | template => some "OVERDUE_EXPIRY_PATTERN"
  | dateLayout => some "OVERDUE_DATE_LAYOUT"
  | caseInsensitive => some "OVERDUE_CASE_INSENSITIVE"
  | strict => some "OVERDUE_STRICT"
  | noRecursive => some "OVERDUE_NO_RECURSIVE"
  | excludes => some "OVERDUE_EXCLUDE_PATTERNS"
  | noIgnoreFiles => some "OVERDUE_NO_GITIGNORE"
  | format => some "OVERDUE_FORMAT"
  | output => some "OVERDUE_OUTPUT"
  | logLevel => some "OVERDUE_LOG_LEVEL"
  | verbose => some "OVERDUE_VERBOSE"
  | path | force | help => none

/-- Whether a value fits: a path is not empty, a format is one of three, a flag is true or
false. -/
def accepts (p : Parameter) (value : String) : Bool :=
  match p with
  | files | config | output | path => value ≠ ""
  | format => ["text", "table", "json"].contains value
  | caseInsensitive | strict | noRecursive | noIgnoreFiles | verbose | force | help =>
    value = "true" ∨ value = "false"
  | openers | tags | template | dateLayout | excludes | logLevel => true

def ofScan : List Parameter :=
  [files, config, openers, tags, template, dateLayout, caseInsensitive, strict, noRecursive,
   excludes, noIgnoreFiles, format, output, logLevel, verbose, help]

def ofInit : List Parameter := [path, force, help]

end Parameter

end Lapse.CommandLine
