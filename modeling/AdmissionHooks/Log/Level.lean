import AdmissionHooks.Failure
import AdmissionHooks.Text.Capital

/-!
# Log levels

A level is a number; six numbers have names. A level is chosen by a text in any case. A text that
is no level's name chooses the information level, but for the names of two other settings of the
log, which stand in the same list and are refused. A value that is no text is refused too.
-/

namespace AdmissionHooks.Log

abbrev Level := Int

namespace Level

def debug : Level := 10

def info : Level := 20

def warning : Level := 30

def error : Level := 40

def critical : Level := 50

def unset : Level := 0

def name (n : Level) : String :=
  if n = 50 then "CRITICAL"
  else if n = 40 then "ERROR"
  else if n = 30 then "WARNING"
  else if n = 20 then "INFO"
  else if n = 10 then "DEBUG"
  else if n = 0 then "NOTSET"
  else "Level " ++ toString n

def named : List (String × Level) :=
  [("CRITICAL", critical), ("FATAL", critical), ("ERROR", error), ("WARNING", warning),
    ("WARN", warning), ("INFO", info), ("DEBUG", debug), ("NOTSET", unset)]

def basicFormat : String := "%(levelname)s:%(name)s:%(message)s"

/-- The table of the styles of format strings, as it is shown. -/
def styles : String :=
  "\x7b'%': (<class 'logging.PercentStyle'>, '%(levelname)s:%(name)s:%(message)s'), " ++
    "'\x7b': (<class 'logging.StrFormatStyle'>, '\x7blevelname\x7d:\x7bname\x7d:\x7bmessage\x7d'), " ++
    "'$': (<class 'logging.StringTemplateStyle'>, " ++
    "'$\x7blevelname\x7d:$\x7bname\x7d:$\x7bmessage\x7d')\x7d"

def ofText (text : String) : Except Failure Level :=
  let word := Text.capitals text
  match named.lookup word with
  | some n => .ok n
  | none =>
      if word = "BASIC_FORMAT" then
        .error (.raised "ValueError" ("Unknown level: " ++ Text.quote basicFormat))
      else if word = "_STYLES" then
        .error (.raised "TypeError" ("Level not an integer or a valid string: " ++ styles))
      else .ok info

def unhashable (typeName : String) : Failure :=
  .raised "TypeError" ("unhashable type: '" ++ typeName ++ "'")

/-- How a value is shown that stands where a level is expected: a number by the name of its level,
a name by its number. -/
def shown : Json → Except Failure Json
  | .int n => .ok (.str (name n))
  | .bool false => .ok (.str (name unset))
  | .str text => .ok ((named.lookup text).elim (.str ("Level " ++ text)) .int)
  | .arr items => .error (unhashable (Json.arr items).typeName)
  | .obj members => .error (unhashable (Json.obj members).typeName)
  | v => .ok (.str ("Level " ++ v.displayText))

/-- The level that a value chooses; only texts are upper-cased. -/
def ofValue : Json → Except Failure Level
  | .str text => ofText text
  | v => .error (.withoutMember v.typeName "upper")

end Level

end AdmissionHooks.Log
